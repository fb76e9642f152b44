import DocQuery.Proofs.Time.Civil
import DocQuery.Proofs.Time.Shapes

/-!
# How instants are spelled

A text names an instant exactly when it spells a day of the calendar, in one of three shapes, and a
time of that day, and the instant shows that day and that time. The numbers are written in ASCII
digits, with one exception: an hour, a minute or a second in other decimal digits counts as zero.
-/

namespace DocQuery.Stamp

open Text

/-- So many ASCII digits that write a number. -/
structure IsNumber (count n : Nat) (text : List Char) : Prop where
  length : text.length = count
  digits : ∀ c ∈ text, c.isDigit = true
  value : digitsValue text = n

/-- What two decimal digits of a clock count for: the number that they write in ASCII digits, and
zero when one of them is no ASCII digit. -/
inductive CountsAs (n : Nat) (text : List Char) : Prop where
  | written (number : IsNumber 2 n text)
  | foreign (digits : Digits 2 text) (other : ∃ c ∈ text, c.isDigit = false) (zero : n = 0)

/-- A point and one to three digits, or nothing. One digit counts tenths of a second, two digits
count hundredths. -/
inductive SpellsFraction : List Char → Nat → Prop where
  | none : SpellsFraction [] 0
  | digits {text : List Char} {count n : Nat} (one : 1 ≤ count) (three : count ≤ 3)
      (number : IsNumber count n text) : SpellsFraction ('.' :: text) (n * 10 ^ (3 - count))

/-- `THH:MM:SS` with a fraction or without, or nothing at all. How an hour, a minute and a second
are written is left open. -/
inductive SpellsTime (numbers : Nat → List Char → Prop) : List Char → TimeOfDay → Prop where
  | midnight : SpellsTime numbers [] .midnight
  | clock {h m s f : List Char} {hour minute second millis : Nat} (hours : numbers hour h)
      (minutes : numbers minute m) (seconds : numbers second s)
      (fraction : SpellsFraction f millis) :
      SpellsTime numbers ('T' :: (h ++ ':' :: (m ++ ':' :: (s ++ f))))
        ⟨hour, minute, second, millis⟩

/-- The three shapes: `YYYY-MM-DD` with a time or without, with a `Z` at the end or without;
`MM-DD-YYYY`; and the full name of a month in any case, a day of one or two digits, and a year. -/
inductive Spells (numbers : Nat → List Char → Prop) : List Char → CivilTime → Prop where
  | yearFirst {y m d clock zulu : List Char} {year month day : Nat} {time : TimeOfDay}
      (years : IsNumber 4 year y) (months : IsNumber 2 month m) (days : IsNumber 2 day d)
      (spelled : SpellsTime numbers clock time) (ends : zulu = [] ∨ zulu = ['Z']) :
      Spells numbers (y ++ '-' :: (m ++ '-' :: (d ++ (clock ++ zulu)))) ⟨⟨year, month, day⟩, time⟩
  | monthFirst {y m d : List Char} {year month day : Nat} (months : IsNumber 2 month m)
      (days : IsNumber 2 day d) (years : IsNumber 4 year y) :
      Spells numbers (m ++ '-' :: (d ++ '-' :: y)) ⟨⟨year, month, day⟩, .midnight⟩
  | named {word d y : List Char} {name : String} {month day year : Nat}
      (full : monthNames[month]? = some name) (same : sameLetters word name.toList = true)
      (days : IsNumber 1 day d ∨ IsNumber 2 day d) (years : IsNumber 4 year y) :
      Spells numbers (word ++ ' ' :: (d ++ ',' :: ' ' :: y)) ⟨⟨year, month + 1, day⟩, .midnight⟩

section Numbers

variable {count n : Nat} {text : List Char}

theorem IsNumber.isDigits (h : IsNumber count n text) : Digits count text :=
  ⟨h.length, fun c m => isDecimalDigit_of_isDigit (h.digits c m)⟩

theorem IsNumber.lt (h : IsNumber count n text) : n < 10 ^ count := by
  have bound := digitsValue_lt h.digits
  rwa [h.value, h.length] at bound

theorem Digits.readDigits?_eq_some_iff (h : Digits count text) (positive : 0 < count) :
    readDigits? text = some n ↔ IsNumber count n text := by
  have some : text ≠ [] := by
    rintro rfl
    exact absurd h.length (Nat.ne_of_lt positive)
  constructor
  · intro read
    obtain ⟨-, digits, value⟩ := Text.readDigits?_eq_some_iff.mp read
    exact ⟨h.length, digits, value⟩
  · intro number
    exact Text.readDigits?_eq_some_iff.mpr ⟨some, number.digits, number.value⟩

theorem IsNumber.readDigits? (h : IsNumber count n text) (positive : 0 < count) :
    readDigits? text = some n :=
  (h.isDigits.readDigits?_eq_some_iff positive).mpr h

theorem CountsAs.isDigits (h : CountsAs n text) : Digits 2 text := by
  cases h with
  | written number => exact number.isDigits
  | foreign digits => exact digits

/-- Two decimal digits count for what is read from them, and for zero when nothing is. -/
theorem Digits.countsAs_iff (h : Digits 2 text) :
    CountsAs n text ↔ (readDigits? text).getD 0 = n := by
  constructor
  · rintro (number | ⟨-, ⟨c, m, other⟩, rfl⟩)
    · rw [number.readDigits? (by decide), Option.getD_some]
    · cases read : Text.readDigits? text with
      | none => rfl
      | some n =>
        have digit := (Text.readDigits?_eq_some_iff.mp read).2.1 c m
        rw [other] at digit
        cases digit
  · rintro rfl
    by_cases ascii : ∀ c ∈ text, c.isDigit = true
    · have number : IsNumber 2 (digitsValue text) text := ⟨h.length, ascii, rfl⟩
      rw [number.readDigits? (by decide), Option.getD_some]
      exact .written number
    · have none : Text.readDigits? text = none := by
        rw [Option.eq_none_iff_forall_ne_some]
        intro n read
        exact ascii (Text.readDigits?_eq_some_iff.mp read).2.1
      rw [none, Option.getD_none]
      push Not at ascii
      obtain ⟨c, m, other⟩ := ascii
      exact .foreign h ⟨c, m, by simpa using other⟩ rfl

theorem millis?_eq_some_iff (some : text ≠ []) {millis : Nat} : millis? text = .some millis ↔
    ∃ n, IsNumber text.length n text ∧ n * 10 ^ (3 - text.length) = millis := by
  unfold millis?
  rw [Text.readDigits?_eq_some_iff, digitsValue_append_zeros]
  constructor
  · rintro ⟨-, digits, value⟩
    exact ⟨_, ⟨rfl, fun c m => digits c (List.mem_append_left _ m), rfl⟩, value⟩
  · rintro ⟨n, ⟨-, digits, rfl⟩, value⟩
    refine ⟨by simp [some], ?_, value⟩
    intro c m
    rcases List.mem_append.mp m with digit | zero
    · exact digits c digit
    · rw [List.eq_of_mem_replicate zero]
      decide

end Numbers

/-- The thousandths of the digits after the point; none where there is no point. -/
def fractionMillis? : Option (List Char) → Option Nat
  | none => some 0
  | some digits => millis? digits

/-- The time that the parts of a clock count for; a text without a clock stands for midnight. -/
def timeOf? : Option ClockPart → Option TimeOfDay
  | none => some .midnight
  | some c => (fractionMillis? c.fraction).map fun millis =>
      let number (digits : List Char) : Nat := (readDigits? digits).getD 0
      ⟨number c.hour, number c.minute, number c.second, millis⟩

theorem spellsFraction_of_millis? {c : ClockPart} (h : c.IsWritten) {millis : Nat}
    (read : fractionMillis? c.fraction = some millis) : SpellsFraction c.fractionText millis := by
  unfold ClockPart.fractionText
  cases fraction : c.fraction with
  | none =>
    rw [fraction] at read
    obtain rfl := Option.some.inj read
    exact .none
  | some digits =>
    obtain ⟨⟨one, three⟩, -⟩ := h.fraction digits fraction
    rw [fraction] at read
    obtain ⟨n, number, rfl⟩ := (millis?_eq_some_iff (List.length_pos_iff.mp one)).mp read
    exact .digits one three number

theorem spellsTime_of_timeOf? {clock : Option ClockPart} (h : ∀ c ∈ clock, c.IsWritten)
    {time : TimeOfDay} (read : timeOf? clock = some time) :
    SpellsTime CountsAs (clockText clock) time := by
  cases clock with
  | none =>
    obtain rfl := Option.some.inj read
    exact .midnight
  | some c =>
    have written := h c rfl
    obtain ⟨millis, fraction, rfl⟩ := Option.map_eq_some_iff.mp read
    exact .clock (written.hour.countsAs_iff.mpr rfl) (written.minute.countsAs_iff.mpr rfl)
      (written.second.countsAs_iff.mpr rfl) (spellsFraction_of_millis? written fraction)

theorem SpellsFraction.exists_digits {text : List Char} {millis : Nat}
    (h : SpellsFraction text millis) : ∃ digits : Option (List Char),
      (∀ d ∈ digits, (1 ≤ d.length ∧ d.length ≤ 3) ∧ ∀ c ∈ d, isDecimalDigit c = true) ∧
      text = (digits.map ('.' :: ·)).getD [] ∧ fractionMillis? digits = some millis := by
  cases h with
  | none => exact ⟨.none, fun _ m => (nomatch m), rfl, rfl⟩
  | @digits text count n one three number =>
    obtain rfl := number.length
    refine ⟨some text, fun d m => ?_, rfl, ?_⟩
    · obtain rfl := Option.some.inj m
      exact ⟨⟨one, three⟩, number.isDigits.all⟩
    · exact (millis?_eq_some_iff (List.length_pos_iff.mp one)).mpr ⟨n, number, rfl⟩

theorem SpellsTime.exists_clock {text : List Char} {time : TimeOfDay}
    (h : SpellsTime CountsAs text time) : ∃ clock : Option ClockPart,
      (∀ c ∈ clock, c.IsWritten) ∧ text = clockText clock ∧ timeOf? clock = some time := by
  cases h with
  | midnight => exact ⟨none, fun _ m => (nomatch m), rfl, rfl⟩
  | @clock h m s f hour minute second millis hours minutes seconds fraction =>
    obtain ⟨digits, written, rfl, read⟩ := fraction.exists_digits
    refine ⟨some ⟨h, m, s, digits⟩, fun c e => ?_, rfl, ?_⟩
    · obtain rfl := Option.some.inj e
      exact ⟨hours.isDigits, minutes.isDigits, seconds.isDigits, written⟩
    · simp only [timeOf?, read, Option.map_some, hours.isDigits.countsAs_iff.mp hours,
        minutes.isDigits.countsAs_iff.mp minutes, seconds.isDigits.countsAs_iff.mp seconds]

theorem SpellsFraction.millis_lt {text : List Char} {millis : Nat}
    (h : SpellsFraction text millis) : millis < 1000 := by
  cases h with
  | none => exact Nat.zero_lt_succ 999
  | @digits text count n one three number =>
    have fits := number.lt
    calc n * 10 ^ (3 - count) < 10 ^ count * 10 ^ (3 - count) :=
          Nat.mul_lt_mul_of_pos_right fits (Nat.pow_pos (by decide))
      _ = 1000 := by rw [← Nat.pow_add, Nat.add_sub_of_le three]

theorem SpellsTime.millis_lt {numbers : Nat → List Char → Prop} {text : List Char}
    {time : TimeOfDay} (h : SpellsTime numbers text time) : time.millis < 1000 := by
  cases h with
  | midnight => decide
  | clock _ _ _ fraction => exact fraction.millis_lt

theorem ofDayParts?_eq (year month day : List Char) (clock : Option ClockPart) :
    ofDayParts? year month day clock =
      (readDigits? year).bind fun y => (timeOf? clock).bind fun time =>
        (readDigits? month).bind fun m => (readDigits? day).bind fun d =>
          Instant.ofNumbers? y m d time.hour time.minute time.second (time.millis * 1000000) := by
  rcases clock with _ | ⟨hour, minute, second, _ | digits⟩
  · rfl
  · rfl
  · unfold ofDayParts? timeOf? fractionMillis?
    simp only [Option.bind_some, Option.bind_eq_bind, Option.bind_map, Option.map_some,
      Function.comp_def]

theorem sameLetters_iff {s t : List Char} :
    sameLetters s t = true ↔ s.map Char.toLower = t.map Char.toLower := by
  rw [sameLetters, beq_iff_eq]

/-- A month is found by its name, which is that of no other month. -/
theorem monthNumber?_eq_some_iff {word : List Char} {month : Nat} :
    monthNumber? word = some month ↔ ∃ i name, monthNames[i]? = some name ∧
      sameLetters word name.toList = true ∧ i + 1 = month := by
  have distinct : monthNames.Pairwise fun a b =>
      a.toList.map Char.toLower ≠ b.toList.map Char.toLower := by decide
  unfold monthNumber?
  simp only [Option.map_eq_some_iff, List.findIdx?_eq_some_iff_getElem, sameLetters_iff]
  constructor
  · rintro ⟨i, ⟨inside, same, -⟩, number⟩
    exact ⟨i, _, List.getElem?_eq_getElem inside, same.symm, number⟩
  · rintro ⟨i, name, found, same, number⟩
    obtain ⟨inside, rfl⟩ := List.getElem?_eq_some_iff.mp found
    refine ⟨i, ⟨inside, same.symm, ?_⟩, number⟩
    intro j earlier here
    have other := List.pairwise_iff_getElem.mp distinct j i (by omega) inside earlier
    exact other (here.trans same)

theorem isWord_of_sameLetters {word : List Char} {i : Nat} {name : String}
    (full : monthNames[i]? = some name) (same : sameLetters word name.toList = true) :
    IsWord word := by
  have words : ∀ name ∈ monthNames, name.toList ≠ [] ∧ ∀ c ∈ name.toList, c.isAlpha = true := by
    decide
  obtain ⟨some, letters⟩ := words name (List.mem_of_getElem? full)
  refine ⟨?_, isAlpha_of_sameLetters same letters⟩
  rintro rfl
  rw [sameLetters_iff] at same
  exact some (List.map_eq_nil_iff.mp same.symm)

theorem spells_of_literal? {text : List Char} {t : Instant} (named : literal? text = some t) :
    ∃ c, Spells CountsAs text c ∧ c.IsValid ∧ t.Shows c := by
  unfold literal? at named
  split at named
  · next year month day clock shaped =>
    obtain ⟨⟨years, months, days, written⟩, zulu, ends, rfl⟩ := dayShape?_eq_some_iff.mp shaped
    rw [ofDayParts?_eq] at named
    simp only [Option.bind_eq_some_iff, years.readDigits?_eq_some_iff (by decide),
      months.readDigits?_eq_some_iff (by decide), days.readDigits?_eq_some_iff (by decide)] at named
    obtain ⟨y, year, time, read, m, month, d, day, named⟩ := named
    have spelled := spellsTime_of_timeOf? written read
    exact ⟨⟨⟨y, m, d⟩, time⟩, .yearFirst year month day spelled ends,
      (Instant.ofNumbers?_eq_some_iff spelled.millis_lt).mp named⟩
  · split at named
    · next year month day shaped =>
      obtain ⟨⟨months, days, years⟩, rfl⟩ := monthFirstShape?_eq_some_iff.mp shaped
      rw [ofDayParts?_eq] at named
      simp only [Option.bind_eq_some_iff, years.readDigits?_eq_some_iff (by decide),
        months.readDigits?_eq_some_iff (by decide), days.readDigits?_eq_some_iff (by decide)] at named
      obtain ⟨y, year, time, read, m, month, d, day, named⟩ := named
      obtain rfl := Option.some.inj read
      have midnight : TimeOfDay.midnight.millis < 1000 := by decide
      exact ⟨⟨⟨y, m, d⟩, .midnight⟩, .monthFirst month day year,
        (Instant.ofNumbers?_eq_some_iff midnight).mp named⟩
    · simp only [Option.bind_eq_bind, Option.bind_eq_some_iff, Prod.exists,
        longShape?_eq_some_iff] at named
      obtain ⟨year, name, day, ⟨⟨-, days, years⟩, rfl⟩, m, month, d, dayRead, y, yearRead,
        named⟩ := named
      obtain ⟨i, name, full, same, rfl⟩ := monthNumber?_eq_some_iff.mp month
      have number : IsNumber 1 d day ∨ IsNumber 2 d day := days.imp
        (fun one => (one.readDigits?_eq_some_iff (by decide)).mp dayRead)
        (fun two => (two.readDigits?_eq_some_iff (by decide)).mp dayRead)
      have yearNumber := (years.readDigits?_eq_some_iff (by decide)).mp yearRead
      exact ⟨⟨⟨y, i + 1, d⟩, .midnight⟩, .named full same number yearNumber,
        Instant.ofNumbers?_midnight.mp named⟩

theorem literal?_of_spells {text : List Char} {t : Instant} {c : CivilTime}
    (h : Spells CountsAs text c) (valid : c.IsValid) (shown : t.Shows c) :
    literal? text = some t := by
  have named := (Instant.ofNumbers?_eq_some_iff valid.millis).mpr ⟨valid, shown⟩
  unfold literal?
  cases h with
  | yearFirst years months days spelled ends =>
    obtain ⟨clock, written, rfl, read⟩ := spelled.exists_clock
    rw [dayShape?_eq_some_iff.mpr
      ⟨⟨years.isDigits, months.isDigits, days.isDigits, written⟩, _, ends, rfl⟩]
    dsimp only
    rw [ofDayParts?_eq, years.readDigits? (by decide), months.readDigits? (by decide),
      days.readDigits? (by decide), read]
    exact named
  | monthFirst months days years =>
    rw [dayShape?_of_monthFirst months.isDigits, monthFirstShape?_eq_some_iff.mpr
      ⟨⟨months.isDigits, days.isDigits, years.isDigits⟩, rfl⟩]
    dsimp only
    rw [ofDayParts?_eq, years.readDigits? (by decide), months.readDigits? (by decide),
      days.readDigits? (by decide)]
    exact named
  | @named word d y name month day year full same days years =>
    have read : IsShortDay d ∧ readDigits? d = some day := by
      rcases days with one | two
      · exact ⟨.inl one.isDigits, one.readDigits? (by decide)⟩
      · exact ⟨.inr two.isDigits, two.readDigits? (by decide)⟩
    have word := isWord_of_sameLetters full same
    rw [(shapes_of_word word _).1, (shapes_of_word word _).2]
    dsimp only
    rw [longShape?_eq_some_iff.mpr ⟨⟨word, read.1, years.isDigits⟩, rfl⟩]
    simp only [Option.bind_eq_bind, Option.bind_some, read.2, years.readDigits? (by decide : 0 < 4),
      monthNumber?_eq_some_iff.mpr ⟨month, name, full, same, rfl⟩]
    exact Instant.ofNumbers?_midnight.mpr ⟨valid, shown⟩

theorem literal?_eq_some_iff {text : List Char} {t : Instant} :
    literal? text = some t ↔ ∃ c, Spells CountsAs text c ∧ c.IsValid ∧ t.Shows c := by
  constructor
  · exact spells_of_literal?
  · rintro ⟨c, spelled, valid, shown⟩
    exact literal?_of_spells spelled valid shown

section Numbers

variable {numbers numbers' : Nat → List Char → Prop} {text : List Char}

theorem SpellsTime.imp {time : TimeOfDay} (h : SpellsTime numbers text time)
    (other : ∀ n digits, digits ⊆ text → numbers n digits → numbers' n digits) :
    SpellsTime numbers' text time := by
  cases h with
  | midnight => exact .midnight
  | clock hours minutes seconds fraction =>
    refine .clock (other _ _ ?_ hours) (other _ _ ?_ minutes) (other _ _ ?_ seconds) fraction
    all_goals
      intro c m
      simp [m]

theorem Spells.imp {c : CivilTime} (h : Spells numbers text c)
    (other : ∀ n digits, digits ⊆ text → numbers n digits → numbers' n digits) :
    Spells numbers' text c := by
  cases h with
  | yearFirst years months days spelled ends =>
    refine .yearFirst years months days (spelled.imp fun n digits part => other n digits ?_) ends
    intro c m
    simp [part m]
  | monthFirst months days years => exact .monthFirst months days years
  | named full same days years => exact .named full same days years

end Numbers

def HasAsciiDigits (text : List Char) : Prop :=
  ∀ c ∈ text, isDecimalDigit c = true → c.isDigit = true

theorem hasAsciiDigits_append {s t : List Char} :
    HasAsciiDigits (s ++ t) ↔ HasAsciiDigits s ∧ HasAsciiDigits t :=
  List.forall_mem_append

theorem hasAsciiDigits_cons {c : Char} {text : List Char} (other : isDecimalDigit c = false) :
    HasAsciiDigits (c :: text) ↔ HasAsciiDigits text := by
  simp [HasAsciiDigits, other]

theorem IsNumber.hasAsciiDigits {count n : Nat} {text : List Char} (h : IsNumber count n text) :
    HasAsciiDigits text :=
  fun c m _ => h.digits c m

theorem IsWord.hasAsciiDigits {text : List Char} (h : IsWord text) : HasAsciiDigits text := by
  intro c m digit
  rw [isDecimalDigit_of_isAlpha (h.2 c m)] at digit
  cases digit

theorem SpellsTime.hasAsciiDigits {text : List Char} {time : TimeOfDay}
    (h : SpellsTime (IsNumber 2) text time) : HasAsciiDigits text := by
  cases h with
  | midnight => simp [HasAsciiDigits]
  | @clock _ _ _ f _ _ _ _ hours minutes seconds fraction =>
    have after : HasAsciiDigits f := by
      cases fraction with
      | none => simp [HasAsciiDigits]
      | digits _ _ number => exact (hasAsciiDigits_cons (by decide)).mpr number.hasAsciiDigits
    have mark : isDecimalDigit 'T' = false ∧ isDecimalDigit ':' = false := by decide
    rw [hasAsciiDigits_cons mark.1, hasAsciiDigits_append, hasAsciiDigits_cons mark.2,
      hasAsciiDigits_append, hasAsciiDigits_cons mark.2, hasAsciiDigits_append]
    exact ⟨hours.hasAsciiDigits, minutes.hasAsciiDigits, seconds.hasAsciiDigits, after⟩

theorem Spells.hasAsciiDigits {text : List Char} {c : CivilTime}
    (h : Spells (IsNumber 2) text c) : HasAsciiDigits text := by
  have mark : isDecimalDigit '-' = false ∧ isDecimalDigit ',' = false ∧
      isDecimalDigit ' ' = false := by decide
  cases h with
  | @yearFirst _ _ _ _ zulu _ _ _ _ years months days spelled ends =>
    have zulu : HasAsciiDigits zulu := by
      rcases ends with rfl | rfl <;> simp [HasAsciiDigits, isDecimalDigit]
    rw [hasAsciiDigits_append, hasAsciiDigits_cons mark.1, hasAsciiDigits_append,
      hasAsciiDigits_cons mark.1, hasAsciiDigits_append, hasAsciiDigits_append]
    exact ⟨years.hasAsciiDigits, months.hasAsciiDigits, days.hasAsciiDigits,
      spelled.hasAsciiDigits, zulu⟩
  | monthFirst months days years =>
    rw [hasAsciiDigits_append, hasAsciiDigits_cons mark.1, hasAsciiDigits_append,
      hasAsciiDigits_cons mark.1]
    exact ⟨months.hasAsciiDigits, days.hasAsciiDigits, years.hasAsciiDigits⟩
  | @named _ d _ _ _ _ _ full same days years =>
    have day : HasAsciiDigits d := by
      rcases days with one | two
      · exact one.hasAsciiDigits
      · exact two.hasAsciiDigits
    rw [hasAsciiDigits_append, hasAsciiDigits_cons mark.2.2, hasAsciiDigits_append,
      hasAsciiDigits_cons mark.2.1, hasAsciiDigits_cons mark.2.2]
    exact ⟨(isWord_of_sameLetters full same).hasAsciiDigits, day, years.hasAsciiDigits⟩

theorem spells_isNumber_iff {text : List Char} {c : CivilTime} :
    Spells (IsNumber 2) text c ↔ Spells CountsAs text c ∧ HasAsciiDigits text := by
  constructor
  · intro h
    exact ⟨h.imp fun _ _ _ number => .written number, h.hasAsciiDigits⟩
  · rintro ⟨h, ascii⟩
    refine h.imp fun n digits part counts => ?_
    cases counts with
    | written number => exact number
    | foreign pair other zero =>
      obtain ⟨d, m, none⟩ := other
      rw [ascii d (part m) (pair.all d m)] at none
      cases none

/-- A text names an instant exactly when it spells a day of the calendar and a time of that day,
where clock digits outside the ASCII decade count as zero. -/
theorem instants_are_spelled (text : List Char) (t : Instant) :
    (literal? text = some t ↔ ∃ c, Spells CountsAs text c ∧ c.IsValid ∧ t.Shows c) ∧
    ((∃ c, Spells (IsNumber 2) text c ∧ c.IsValid ∧ t.Shows c) ↔
      literal? text = some t ∧ HasAsciiDigits text) := by
  refine ⟨literal?_eq_some_iff, ?_⟩
  rw [literal?_eq_some_iff]
  constructor
  · rintro ⟨c, spelled, valid, shown⟩
    obtain ⟨counts, ascii⟩ := spells_isNumber_iff.mp spelled
    exact ⟨⟨c, counts, valid, shown⟩, ascii⟩
  · rintro ⟨⟨c, counts, valid, shown⟩, ascii⟩
    exact ⟨c, spells_isNumber_iff.mpr ⟨counts, ascii⟩, valid, shown⟩

/-- Thirteen o'clock in full-width digits names an instant after midnight. -/
theorem foreign_hour_counts_as_midnight :
    let text := "2025-10-10T１３:45:30".toList
    let t : Instant := ⟨1760057130, 0⟩
    literal? text = some t ∧ t.Shows ⟨⟨2025, 10, 10⟩, ⟨0, 45, 30, 0⟩⟩ ∧
    ¬∃ c, Spells (IsNumber 2) text c ∧ c.IsValid ∧ t.Shows c := by
  refine ⟨by decide, ⟨by decide, by decide, by decide⟩, ?_⟩
  rintro ⟨c, spelled, -⟩
  have ascii := spelled.hasAsciiDigits '１' (by decide) (by decide)
  exact absurd ascii (by decide)

end DocQuery.Stamp
