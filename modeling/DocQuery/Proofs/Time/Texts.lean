import DocQuery.Proofs.Time.Spelling

/-!
# Instants and their texts

The text of an instant names it again, when the text shows all of it: the instant is a whole number
of milliseconds into a second of a year with four digits. Every instant that a text names is one.
-/

namespace DocQuery

open Text

/-- A whole number of milliseconds into a second, in a year from 0 to 9999. A leap second, which no
text of a query names, is no such instant. -/
structure Instant.IsShown (t : Instant) : Prop where
  millis : ∃ millis < 1000, t.nanos = millis * 1000000
  year : 0 ≤ t.date.year ∧ t.date.year ≤ 9999

namespace Stamp

theorem isNumber_padZeros {width n : Nat} (positive : 0 < width) (fits : n < 10 ^ width) :
    IsNumber width n (padZeros width n) :=
  ⟨length_padZeros positive fits, isDigit_of_mem_padZeros,
    (Text.readDigits?_eq_some_iff.mp (readDigits?_padZeros width n)).2.2⟩

theorem Spells.year_bounds {numbers : Nat → List Char → Prop} {text : List Char} {c : CivilTime}
    (h : Spells numbers text c) : 0 ≤ c.date.year ∧ c.date.year ≤ 9999 := by
  have four {year : Nat} {y : List Char} (years : IsNumber 4 year y) :
      (0 : Int) ≤ year ∧ (year : Int) ≤ 9999 := by
    have := years.lt
    omega
  cases h with
  | yearFirst years => exact four years
  | monthFirst _ _ years => exact four years
  | named _ _ _ years => exact four years

end Stamp

namespace Instant

def civilTime (t : Instant) : CivilTime :=
  ⟨t.date, ⟨t.secondOfDay / 3600, t.secondOfDay / 60 % 60, t.secondOfDay % 60,
    t.nanos / 1000000⟩⟩

namespace IsShown

variable {t : Instant} (h : t.IsShown)

include h

theorem nanos_lt : t.nanos < nanosPerSecond := by
  obtain ⟨millis, small, nanos⟩ := h.millis
  rw [nanos]
  exact nanos_lt_of_millis small

theorem text_eq :
    t.text.toList = padZeros 4 t.date.year.toNat ++ '-' :: (padZeros 2 t.date.month ++
      '-' :: (padZeros 2 t.date.day ++ 'T' :: (padZeros 2 (t.secondOfDay / 3600) ++
      ':' :: (padZeros 2 (t.secondOfDay / 60 % 60) ++ ':' :: (padZeros 2 (t.secondOfDay % 60) ++
      '.' :: (padZeros 3 (t.nanos / 1000000) ++ ['Z'])))))) := by
  unfold Instant.text clockText
  simp only [clock_eq h.nanos_lt, Nat.mod_eq_of_lt h.nanos_lt, yearText, if_pos h.year,
    String.toList_ofList, List.append_assoc, List.cons_append]

theorem shows_civilTime : t.civilTime.IsValid ∧ t.Shows t.civilTime := by
  obtain ⟨millis, small, nanos⟩ := h.millis
  have count : t.nanos / 1000000 = millis := by omega
  have valid := Date.ofNumbers?_eq_some_iff.mp
    (Date.ofNumbers?_ofDayNumber (t.seconds / secondsPerDay)).1
  refine ⟨⟨valid.2, ?_, ?_, ?_, ?_⟩, rfl, clock_eq h.nanos_lt, ?_⟩
  · exact Nat.div_lt_of_lt_mul t.secondOfDay_lt
  · exact Nat.mod_lt _ (by decide)
  · exact Nat.mod_lt _ (by decide)
  · show t.nanos / 1000000 < 1000
    rw [count]
    exact small
  · show t.nanos = t.nanos / 1000000 * 1000000
    rw [count, nanos]

theorem spells_text : Stamp.Spells (Stamp.IsNumber 2) t.text.toList t.civilTime := by
  obtain ⟨⟨-, -, -, -, small⟩, -⟩ := h.shows_civilTime
  have bounds : t.date.month < 100 ∧ t.date.day < 100 :=
    Date.ofDayNumber_bounds (t.seconds / secondsPerDay)
  have inDay := t.secondOfDay_lt
  have year : t.date.year.toNat < 10 ^ 4 := by
    have := h.year.2
    omega
  have fraction := Stamp.SpellsFraction.digits (by decide) (Nat.le_refl 3)
    (Stamp.isNumber_padZeros (by decide) small)
  rw [Nat.sub_self, Nat.pow_zero, Nat.mul_one] at fraction
  have clock := Stamp.SpellsTime.clock
    (Stamp.isNumber_padZeros (by decide) (by omega : t.secondOfDay / 3600 < 10 ^ 2))
    (Stamp.isNumber_padZeros (by decide) (by omega : t.secondOfDay / 60 % 60 < 10 ^ 2))
    (Stamp.isNumber_padZeros (by decide) (by omega : t.secondOfDay % 60 < 10 ^ 2)) fraction
  have spelled := Stamp.Spells.yearFirst (Stamp.isNumber_padZeros (by decide) year)
    (Stamp.isNumber_padZeros (by decide) bounds.1) (Stamp.isNumber_padZeros (by decide) bounds.2)
    clock (.inr rfl)
  rw [Int.toNat_of_nonneg h.year.1] at spelled
  simp only [List.cons_append, List.append_assoc] at spelled
  rw [h.text_eq]
  exact spelled

end IsShown

/-- The text of an instant that it shows in full names the instant. -/
theorem literal?_text {t : Instant} (h : t.IsShown) : Stamp.literal? t.text.toList = some t :=
  Stamp.literal?_eq_some_iff.mpr ⟨t.civilTime, (Stamp.spells_isNumber_iff.mp h.spells_text).1,
    h.shows_civilTime⟩

theorem isShown_of_literal? {text : List Char} {t : Instant}
    (named : Stamp.literal? text = some t) : t.IsShown := by
  obtain ⟨c, spelled, valid, shown⟩ := Stamp.literal?_eq_some_iff.mp named
  refine ⟨⟨c.time.millis, valid.millis, shown.nanos⟩, ?_⟩
  rw [shown.date]
  exact spelled.year_bounds

end Instant

end DocQuery
