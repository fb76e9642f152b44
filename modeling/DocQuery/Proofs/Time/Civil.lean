import DocQuery.Proofs.Time.Calendar
import DocQuery.Time.Instant

/-!
# Instants on the calendar and the clock

A day of the calendar and a time of the day make one instant, which shows that day and that time.
An instant with a whole number of milliseconds and outside of leap seconds is made of what it shows.
-/

namespace DocQuery

structure TimeOfDay where
  hour : Nat
  minute : Nat
  second : Nat
  millis : Nat

def TimeOfDay.midnight : TimeOfDay := ⟨0, 0, 0, 0⟩

/-- A day and a time of that day, in universal time. -/
structure CivilTime where
  date : Date
  time : TimeOfDay

/-- The day is one of the calendar, the time one of a clock without leap seconds. -/
structure CivilTime.IsValid (c : CivilTime) : Prop where
  date : c.date.IsValid
  hour : c.time.hour < 24
  minute : c.time.minute < 60
  second : c.time.second < 60
  millis : c.time.millis < 1000

namespace Instant

/-- What the calendar and the clock show of an instant. -/
structure Shows (t : Instant) (c : CivilTime) : Prop where
  date : t.date = c.date
  clock : t.clock = (c.time.hour, c.time.minute, c.time.second)
  nanos : t.nanos = c.time.millis * 1000000

theorem secondOfDay_lt (t : Instant) : t.secondOfDay < 86400 := by
  unfold secondOfDay secondsPerDay
  omega

theorem ofDay_date (t : Instant) : ofDay t.date.dayNumber t.secondOfDay t.nanos = t := by
  have day := (Date.ofNumbers?_ofDayNumber (t.seconds / secondsPerDay)).2
  unfold ofDay date
  rw [day]
  obtain ⟨seconds, nanos⟩ := t
  unfold secondOfDay secondsPerDay
  dsimp only
  rw [Instant.mk.injEq]
  exact ⟨by omega, rfl⟩

section OfDay

variable {second : Nat} (inside : second < 86400) (day : Int) (nanos : Nat)

include inside

theorem secondOfDay_ofDay : (ofDay day second nanos).secondOfDay = second := by
  simp only [secondOfDay, ofDay, secondsPerDay]
  omega

theorem date_ofDay {d : Date} (valid : d.IsValid) :
    (ofDay d.dayNumber second nanos).date = d := by
  have day : (d.dayNumber * 86400 + second) / 86400 = d.dayNumber := by omega
  simp only [date, ofDay, secondsPerDay]
  rw [day]
  exact Date.ofDayNumber_dayNumber valid

end OfDay

theorem clock_eq {t : Instant} (noLeap : t.nanos < nanosPerSecond) :
    t.clock = (t.secondOfDay / 3600, t.secondOfDay / 60 % 60, t.secondOfDay % 60) := by
  simp only [clock, if_neg (Nat.not_le_of_lt noLeap), Nat.add_zero]

theorem second_lt_of_clock {hour minute second : Nat} (h : hour < 24) (m : minute < 60)
    (s : second < 60) : hour * 3600 + minute * 60 + second < 86400 := by
  omega

theorem nanos_lt_of_millis {millis : Nat} (h : millis < 1000) :
    millis * 1000000 < nanosPerSecond := by
  unfold nanosPerSecond
  omega

/-- There is an instant that shows a day of the calendar and a time of that day: the one made of
them. -/
theorem shows_ofDay {c : CivilTime} (valid : c.IsValid) :
    (ofDay c.date.dayNumber (c.time.hour * 3600 + c.time.minute * 60 + c.time.second)
      (c.time.millis * 1000000)).Shows c := by
  obtain ⟨day, hours, minutes, seconds, millis⟩ := valid
  have noLeap := nanos_lt_of_millis millis
  have inside := second_lt_of_clock hours minutes seconds
  refine ⟨date_ofDay inside _ day, ?_, rfl⟩
  rw [clock_eq noLeap, secondOfDay_ofDay inside]
  simp only [Prod.mk.injEq]
  omega

theorem Shows.eq_ofDay {t : Instant} {c : CivilTime} (h : t.Shows c) (millis : c.time.millis < 1000) :
    t = ofDay c.date.dayNumber (c.time.hour * 3600 + c.time.minute * 60 + c.time.second)
      (c.time.millis * 1000000) := by
  have noLeap : t.nanos < nanosPerSecond := h.nanos ▸ nanos_lt_of_millis millis
  have clock := h.clock
  rw [clock_eq noLeap] at clock
  simp only [Prod.mk.injEq] at clock
  have inDay := t.secondOfDay_lt
  have moment : c.time.hour * 3600 + c.time.minute * 60 + c.time.second = t.secondOfDay := by omega
  rw [moment, ← h.nanos, ← h.date, ofDay_date]

theorem Shows.unique {t : Instant} {c c' : CivilTime} (h : t.Shows c) (h' : t.Shows c') :
    c = c' := by
  obtain ⟨date, hour, minute, second, millis⟩ := c
  obtain ⟨date', hour', minute', second', millis'⟩ := c'
  have dates : date = date' := h.date.symm.trans h'.date
  have clocks := h.clock.symm.trans h'.clock
  have nanos := h.nanos.symm.trans h'.nanos
  simp only [Prod.mk.injEq] at clocks nanos
  have counts : millis = millis' := by omega
  rw [dates, clocks.1, clocks.2.1, clocks.2.2, counts]

theorem ofNumbers?_eq_some_iff {c : CivilTime} (whole : c.time.millis < 1000) {t : Instant} :
    ofNumbers? c.date.year c.date.month c.date.day c.time.hour c.time.minute c.time.second
      (c.time.millis * 1000000) = some t ↔ c.IsValid ∧ t.Shows c := by
  constructor
  · intro h
    unfold ofNumbers? at h
    split at h
    · next inDay =>
      obtain ⟨d, named, rfl⟩ := Option.map_eq_some_iff.mp h
      obtain ⟨rfl, day⟩ := Date.ofNumbers?_eq_some_iff.mp named
      have valid : c.IsValid := ⟨day, inDay.1, inDay.2.1, inDay.2.2, whole⟩
      exact ⟨valid, shows_ofDay valid⟩
    · cases h
  · rintro ⟨valid, shown⟩
    have named := Date.ofNumbers?_eq_some_iff.mpr ⟨rfl, valid.date⟩
    unfold ofNumbers?
    rw [if_pos ⟨valid.hour, valid.minute, valid.second⟩, named, Option.map_some,
      ← shown.eq_ofDay whole]

theorem ofNumbers?_midnight {d : Date} {t : Instant} :
    ofNumbers? d.year d.month d.day 0 0 0 0 = some t ↔
      CivilTime.IsValid ⟨d, .midnight⟩ ∧ t.Shows ⟨d, .midnight⟩ := by
  have made := ofNumbers?_eq_some_iff (Nat.zero_lt_succ 999 : TimeOfDay.midnight.millis < 1000)
    (c := ⟨d, .midnight⟩) (t := t)
  simpa only [TimeOfDay.midnight, Nat.zero_mul] using made

end Instant

end DocQuery
