import DocQuery.Proofs.Text.Blanks
import DocQuery.Proofs.Text.Digits
import DocQuery.Proofs.Text.Letters
import DocQuery.Time.Stamp

/-!
# The shapes of instants

The reader of a shape takes a text apart exactly when the text is made of the parts of that shape.
The three shapes have no text in common.
-/

namespace DocQuery.Stamp

open Text

structure Digits (count : Nat) (text : List Char) : Prop where
  length : text.length = count
  all : ∀ c ∈ text, isDecimalDigit c = true

theorem takeDigits?_eq_some_iff {count : Nat} {text front back : List Char} :
    takeDigits? count text = some (front, back) ↔ Digits count front ∧ text = front ++ back := by
  constructor
  · intro h
    unfold takeDigits? at h
    dsimp only at h
    split at h
    · next digits =>
      obtain ⟨rfl, rfl⟩ := Prod.mk.inj (Option.some.inj h)
      exact ⟨⟨digits.1, List.all_eq_true.mp digits.2⟩, (List.take_append_drop count text).symm⟩
    · cases h
  · rintro ⟨digits, rfl⟩
    unfold takeDigits?
    rw [← digits.length, List.take_left, List.drop_left]
    dsimp only
    rw [if_pos ⟨rfl, List.all_eq_true.mpr digits.all⟩]

theorem takeDigits?_append {count : Nat} {digits : List Char} (h : Digits count digits)
    (rest : List Char) : takeDigits? count (digits ++ rest) = some (digits, rest) :=
  takeDigits?_eq_some_iff.mpr ⟨h, rfl⟩

theorem takeDigits?_eq_none {count : Nat} {front : List Char} (shorter : front.length < count)
    {c : Char} (other : isDecimalDigit c = false) (back : List Char) :
    takeDigits? count (front ++ c :: back) = none := by
  rw [Option.eq_none_iff_forall_ne_some]
  rintro ⟨digits, rest⟩ taken
  obtain ⟨all, same⟩ := takeDigits?_eq_some_iff.mp taken
  have here : (digits ++ rest)[front.length]? = some c := by
    rw [← same]
    simp
  rw [List.getElem?_append_left (all.length ▸ shorter)] at here
  have digit := all.all c (List.mem_of_getElem? here)
  rw [other] at digit
  cases digit

theorem takeDigits?_of_head {count : Nat} (positive : 0 < count) {c : Char}
    (other : isDecimalDigit c = false) (rest : List Char) : takeDigits? count (c :: rest) = none := by
  have first : ([] : List Char).length < count := positive
  exact takeDigits?_eq_none first other rest

theorem dropOne?_eq_some_iff {c : Char} {text rest : List Char} :
    dropOne? (· == c) text = some rest ↔ text = c :: rest := by
  cases text with
  | nil => simp [dropOne?]
  | cons d text => simp [dropOne?]

namespace ClockPart

def fractionText (c : ClockPart) : List Char :=
  (c.fraction.map ('.' :: ·)).getD []

def text (c : ClockPart) : List Char :=
  'T' :: (c.hour ++ ':' :: (c.minute ++ ':' :: (c.second ++ c.fractionText)))

/-- The parts of a clock are digits: two of each, and one to three after the point. -/
structure IsWritten (c : ClockPart) : Prop where
  hour : Digits 2 c.hour
  minute : Digits 2 c.minute
  second : Digits 2 c.second
  fraction : ∀ digits ∈ c.fraction, (1 ≤ digits.length ∧ digits.length ≤ 3) ∧
    ∀ d ∈ digits, isDecimalDigit d = true

end ClockPart

def IsZulu (text : List Char) : Prop :=
  text = [] ∨ text = ['Z']

theorem isWritten_of_takeClock? {text rest : List Char} {clock : ClockPart}
    (h : takeClock? text = some (clock, rest)) : clock.IsWritten ∧ text = clock.text ++ rest := by
  unfold takeClock? at h
  simp only [Option.bind_eq_bind, Option.bind_eq_some_iff, dropOne?_eq_some_iff, Prod.exists,
    takeDigits?_eq_some_iff] at h
  obtain ⟨_, rfl, hour, _, ⟨hours, rfl⟩, _, rfl, minute, _, ⟨minutes, rfl⟩, _, rfl, second, after,
    ⟨seconds, rfl⟩, h⟩ := h
  split at h
  · next after =>
    split at h
    · next count =>
      obtain ⟨rfl, rfl⟩ := Prod.mk.inj (Option.some.inj h)
      refine ⟨⟨hours, minutes, seconds, ?_⟩, ?_⟩
      · intro digits m
        obtain rfl := Option.some.inj m
        exact ⟨count, fun d m => List.all_eq_true.mp List.all_takeWhile d m⟩
      · simp [ClockPart.text, ClockPart.fractionText, List.takeWhile_append_dropWhile]
    · cases h
  · obtain ⟨rfl, rfl⟩ := Prod.mk.inj (Option.some.inj h)
    refine ⟨⟨hours, minutes, seconds, fun digits m => by cases m⟩, ?_⟩
    simp [ClockPart.text, ClockPart.fractionText]

theorem takeClock?_text {clock : ClockPart} (h : clock.IsWritten) {rest : List Char}
    (zulu : IsZulu rest) : takeClock? (clock.text ++ rest) = some (clock, rest) := by
  obtain ⟨hour, minute, second, fraction⟩ := clock
  obtain ⟨hours, minutes, seconds, count⟩ := h
  unfold takeClock? ClockPart.text
  simp only [List.cons_append, List.append_assoc, dropOne?, beq_self_eq_true, if_true,
    takeDigits?_append hours, takeDigits?_append minutes, takeDigits?_append seconds,
    Option.bind_eq_bind, Option.bind_some]
  cases fraction with
  | none => rcases zulu with rfl | rfl <;> rfl
  | some digits =>
    obtain ⟨bounds, all⟩ := count digits rfl
    have stop : ∀ c ∈ rest.head?, isDecimalDigit c = false := by
      rcases zulu with rfl | rfl <;> decide
    simp only [ClockPart.fractionText, Option.map_some, Option.getD_some, List.cons_append,
      takeWhile_append_of_stop all stop, dropWhile_append_of_stop all stop, if_pos bounds]

def clockText (clock : Option ClockPart) : List Char :=
  (clock.map ClockPart.text).getD []

theorem dayShape?_eq_some_iff {text year month day : List Char} {clock : Option ClockPart} :
    dayShape? text = some (year, month, day, clock) ↔
      (Digits 4 year ∧ Digits 2 month ∧ Digits 2 day ∧ ∀ c ∈ clock, c.IsWritten) ∧
        ∃ zulu, IsZulu zulu ∧
          text = year ++ '-' :: (month ++ '-' :: (day ++ (clockText clock ++ zulu))) := by
  constructor
  · intro h
    unfold dayShape? at h
    simp only [Option.bind_eq_bind, Option.bind_eq_some_iff, dropOne?_eq_some_iff, Prod.exists,
      takeDigits?_eq_some_iff] at h
    obtain ⟨year', _, ⟨years, rfl⟩, _, rfl, month', _, ⟨months, rfl⟩, _, rfl, day', after,
      ⟨days, rfl⟩, h⟩ := h
    cases taken : takeClock? after with
    | none =>
      simp only [taken, Option.ite_none_right_eq_some, Option.some.injEq, Prod.mk.injEq] at h
      obtain ⟨zulu, rfl, rfl, rfl, rfl⟩ := h
      exact ⟨⟨years, months, days, fun c m => by cases m⟩, after, zulu, rfl⟩
    | some parts =>
      obtain ⟨clock', rest⟩ := parts
      obtain ⟨written, rfl⟩ := isWritten_of_takeClock? taken
      simp only [taken, Option.ite_none_right_eq_some, Option.some.injEq, Prod.mk.injEq] at h
      obtain ⟨zulu, rfl, rfl, rfl, rfl⟩ := h
      refine ⟨⟨years, months, days, fun c m => ?_⟩, rest, zulu, rfl⟩
      obtain rfl := Option.some.inj m
      exact written
  · rintro ⟨⟨years, months, days, written⟩, zulu, ends, rfl⟩
    unfold dayShape?
    simp only [dropOne?, takeDigits?_append years, takeDigits?_append months,
      takeDigits?_append days, beq_self_eq_true, if_true, Option.bind_eq_bind, Option.bind_some]
    cases clock with
    | none =>
      have none : takeClock? zulu = none := by rcases ends with rfl | rfl <;> rfl
      simp only [clockText, Option.map_none, Option.getD_none, List.nil_append, none]
      exact if_pos ends
    | some clock =>
      simp only [clockText, Option.map_some, Option.getD_some,
        takeClock?_text (written clock rfl) ends]
      exact if_pos ends

theorem monthFirstShape?_eq_some_iff {text month day year : List Char} :
    monthFirstShape? text = some (year, month, day) ↔
      (Digits 2 month ∧ Digits 2 day ∧ Digits 4 year) ∧
        text = month ++ '-' :: (day ++ '-' :: year) := by
  constructor
  · intro h
    unfold monthFirstShape? at h
    simp only [Option.bind_eq_bind, Option.bind_eq_some_iff, dropOne?_eq_some_iff, Prod.exists,
      takeDigits?_eq_some_iff, Option.ite_none_right_eq_some, Option.some.injEq,
      Prod.mk.injEq] at h
    obtain ⟨_, _, ⟨months, rfl⟩, _, rfl, _, _, ⟨days, rfl⟩, _, rfl, _, _, ⟨years, rfl⟩, rfl, rfl,
      rfl, rfl⟩ := h
    exact ⟨⟨months, days, years⟩, by simp⟩
  · rintro ⟨⟨months, days, years⟩, rfl⟩
    have whole := takeDigits?_append years []
    rw [List.append_nil] at whole
    unfold monthFirstShape?
    simp only [dropOne?, takeDigits?_append months, takeDigits?_append days, whole,
      beq_self_eq_true, if_true, Option.bind_eq_bind, Option.bind_some]

theorem isDecimalDigit_of_isAlpha {c : Char} (h : c.isAlpha = true) :
    isDecimalDigit c = false := by
  have code := (isAlpha_iff c).mp h
  rw [isDecimalDigit_of_ascii (by omega), ← Bool.not_eq_true]
  intro digit
  rw [not_isAlpha_of_isDigit digit] at h
  cases h

def IsWord (text : List Char) : Prop :=
  text ≠ [] ∧ ∀ c ∈ text, c.isAlpha = true

def IsShortDay (text : List Char) : Prop :=
  Digits 1 text ∨ Digits 2 text

theorem longShape?_eq_some_iff {text month day year : List Char} :
    longShape? text = some (year, month, day) ↔
      (IsWord month ∧ IsShortDay day ∧ Digits 4 year) ∧
        text = month ++ ' ' :: (day ++ ',' :: ' ' :: year) := by
  constructor
  · intro h
    unfold longShape? at h
    simp only [Option.bind_eq_bind, Option.bind_eq_some_iff, dropOne?_eq_some_iff, Prod.exists,
      takeDigits?_eq_some_iff, Option.ite_none_right_eq_some, Option.some.injEq,
      Prod.mk.injEq] at h
    obtain ⟨after, blank, _, comma, year', rfl, _, _, ⟨years, rfl⟩, ⟨some, one, two, rfl⟩, rfl,
      rfl, rfl⟩ := h
    have letters : ∀ c ∈ text.takeWhile Char.isAlpha, c.isAlpha = true :=
      fun c m => List.all_eq_true.mp List.all_takeWhile c m
    have digits : ∀ c ∈ after.takeWhile isDecimalDigit, isDecimalDigit c = true :=
      fun c m => List.all_eq_true.mp List.all_takeWhile c m
    refine ⟨⟨⟨some, letters⟩, ?_, years⟩, ?_⟩
    · rcases Nat.lt_or_ge 1 (after.takeWhile isDecimalDigit).length with more | few
      · exact .inr ⟨by omega, digits⟩
      · exact .inl ⟨by omega, digits⟩
    · rw [List.append_nil] at comma
      rw [← comma, List.takeWhile_append_dropWhile, ← blank, List.takeWhile_append_dropWhile]
  · rintro ⟨⟨⟨some, letters⟩, days, years⟩, rfl⟩
    have whole := takeDigits?_append years []
    rw [List.append_nil] at whole
    have count : (1 ≤ day.length ∧ day.length ≤ 2) ∧ ∀ c ∈ day, isDecimalDigit c = true := by
      rcases days with one | two
      · exact ⟨by simp [one.length], one.all⟩
      · exact ⟨by simp [two.length], two.all⟩
    have comma : ∀ c ∈ (',' :: ' ' :: year).head?, isDecimalDigit c = false := by
      rintro c ⟨⟩
      decide
    have blank : ∀ c ∈ (' ' :: (day ++ ',' :: ' ' :: year)).head?, c.isAlpha = false := by
      rintro c ⟨⟩
      decide
    unfold longShape?
    simp only [takeWhile_append_of_stop letters blank, dropWhile_append_of_stop letters blank,
      dropOne?, takeWhile_append_of_stop count.2 comma, dropWhile_append_of_stop count.2 comma,
      whole, beq_self_eq_true, if_true, Option.bind_eq_bind, Option.bind_some]
    exact if_pos ⟨some, count.1.1, count.1.2, trivial⟩

theorem dayShape?_of_takeDigits? {text : List Char} (h : takeDigits? 4 text = none) :
    dayShape? text = none := by
  unfold dayShape?
  rw [h]
  rfl

theorem monthFirstShape?_of_takeDigits? {text : List Char} (h : takeDigits? 2 text = none) :
    monthFirstShape? text = none := by
  unfold monthFirstShape?
  rw [h]
  rfl

theorem dayShape?_of_monthFirst {month : List Char} (h : Digits 2 month) (rest : List Char) :
    dayShape? (month ++ '-' :: rest) = none := by
  apply dayShape?_of_takeDigits?
  exact takeDigits?_eq_none (by simp [h.length]) (by decide) rest

/-- A text that begins with a word is taken for no shape of digits alone. -/
theorem shapes_of_word {word : List Char} (h : IsWord word) (rest : List Char) :
    dayShape? (word ++ rest) = none ∧ monthFirstShape? (word ++ rest) = none := by
  obtain ⟨some, letters⟩ := h
  obtain ⟨c, word, rfl⟩ := List.exists_cons_of_ne_nil some
  have letter := isDecimalDigit_of_isAlpha (letters c (List.mem_cons_self ..))
  constructor
  · exact dayShape?_of_takeDigits? (takeDigits?_of_head (by decide) letter _)
  · exact monthFirstShape?_of_takeDigits? (takeDigits?_of_head (by decide) letter _)

end DocQuery.Stamp
