import DocQuery.Number.Numeral
import DocQuery.Proofs.Time.Shapes

/-!
# Numerals are no instants

The shapes of instants have a dash after their first digits, or begin with a word. A numeral has
a point or an exponent after its first digits, and begins with no letter.
-/

namespace DocQuery

open Text

namespace Numeral

theorem sign_cases (text : List Char) :
    (∃ c rest, text = c :: rest ∧ (c = '-' ∨ c = '+') ∧ (sign text).2 = rest) ∨
      (sign text).2 = text := by
  unfold sign
  split
  · exact .inl ⟨'-', _, rfl, .inl rfl, rfl⟩
  · exact .inl ⟨'+', _, rfl, .inr rfl, rfl⟩
  · exact .inr rfl

theorem exists_of_unsigned? {text : List Char} {d : Decimal} (h : unsigned? text = some d) :
    ∃ whole rest, text = whole ++ rest ∧ (∀ c ∈ whole, c.isDigit = true) ∧
      (∀ c ∈ rest.head?, c = '.' ∨ c = 'e' ∨ c = 'E') ∧
      (whole = [] → rest.head? = some '.') := by
  refine ⟨text.takeWhile Char.isDigit, text.dropWhile Char.isDigit,
    List.takeWhile_append_dropWhile.symm, fun c m => List.all_eq_true.mp List.all_takeWhile c m, ?_⟩
  unfold unsigned? at h
  dsimp only at h
  split at h
  · next rest point =>
    rw [point]
    exact ⟨fun c m => .inl (Option.some.inj m).symm, fun _ => rfl⟩
  · next none point =>
    split at h
    · cases h
    · next some =>
      refine ⟨fun c m => .inr ?_, fun none => absurd none some⟩
      cases after : text.dropWhile Char.isDigit with
      | nil =>
        rw [after] at m
        cases m
      | cons mark rest =>
        rw [after] at h m
        obtain rfl : mark = c := Option.some.inj m
        unfold exponent? at h
        by_cases exponent : mark = 'e' ∨ mark = 'E'
        · exact exponent
        · dsimp only at h
          rw [if_neg exponent] at h
          cases h

end Numeral

namespace Stamp

theorem dropOne?_of_head {p : Char → Bool} {text : List Char} (h : ∀ c ∈ text.head?, p c = false) :
    dropOne? p text = none := by
  cases text with
  | nil => rfl
  | cons c text =>
    have no : p c = false := h c rfl
    simp [dropOne?, no]

section Taken

variable {whole rest : List Char} {count : Nat} {front back : List Char}
  (taken : takeDigits? count (whole ++ rest) = some (front, back))

include taken

theorem le_length_of_takeDigits? (stop : ∀ c ∈ rest.head?, isDecimalDigit c = false) :
    count ≤ whole.length := by
  apply Nat.le_of_not_lt
  intro beyond
  cases rest with
  | nil =>
    obtain ⟨digits, same⟩ := takeDigits?_eq_some_iff.mp taken
    have length := congrArg List.length same
    rw [List.append_nil, List.length_append, digits.length] at length
    omega
  | cons c rest =>
    rw [takeDigits?_eq_none beyond (stop c rfl)] at taken
    cases taken

/-- No dash stands after digits of a numeral. -/
theorem no_dash_after_digits (digits : ∀ c ∈ whole, c.isDigit = true)
    (stop : ∀ c ∈ rest.head?, isDecimalDigit c = false ∧ c ≠ '-') :
    ∀ c ∈ back.head?, (c == '-') = false := by
  have inside := le_length_of_takeDigits? taken fun c m => (stop c m).1
  obtain ⟨front, same⟩ := takeDigits?_eq_some_iff.mp taken
  have after : back = whole.drop count ++ rest := by
    rw [← List.drop_append_of_le_length inside, same, ← front.length, List.drop_left]
  intro c m
  rw [beq_eq_false_iff_ne]
  rw [after] at m
  cases left : whole.drop count with
  | nil =>
    rw [left] at m
    exact (stop c m).2
  | cons d left' =>
    rw [left] at m
    cases m
    have digit := digits c (List.mem_of_mem_drop (by rw [left]; exact List.mem_cons_self ..))
    rintro rfl
    exact absurd digit (by decide)

end Taken

theorem longShape?_of_head {c : Char} (letter : c.isAlpha = false) (blank : c ≠ ' ')
    (rest : List Char) : longShape? (c :: rest) = none := by
  unfold longShape?
  rw [List.takeWhile_cons_of_neg (by simp [letter]), List.dropWhile_cons_of_neg (by simp [letter])]
  simp [dropOne?, blank]

theorem dayShape?_of_no_dash {text : List Char} (h : ∀ front back,
    takeDigits? 4 text = some (front, back) → ∀ c ∈ back.head?, (c == '-') = false) :
    dayShape? text = none := by
  unfold dayShape?
  cases taken : takeDigits? 4 text with
  | none => rfl
  | some parts => simp [dropOne?_of_head (h _ _ taken)]

theorem monthFirstShape?_of_no_dash {text : List Char} (h : ∀ front back,
    takeDigits? 2 text = some (front, back) → ∀ c ∈ back.head?, (c == '-') = false) :
    monthFirstShape? text = none := by
  unfold monthFirstShape?
  cases taken : takeDigits? 2 text with
  | none => rfl
  | some parts => simp [dropOne?_of_head (h _ _ taken)]

theorem literal?_of_numeral {text : List Char} {d : Decimal}
    (h : Numeral.unsigned? (Numeral.sign text).2 = some d) : literal? text = none := by
  have shapes : (∀ {count : Nat}, 0 < count → ∀ front back,
      takeDigits? count text = some (front, back) → ∀ c ∈ back.head?, (c == '-') = false) ∧
      longShape? text = none := by
    rcases Numeral.sign_cases text with ⟨c, rest, rfl, mark, -⟩ | unsigned
    · have no : isDecimalDigit c = false ∧ c.isAlpha = false ∧ c ≠ ' ' := by
        rcases mark with rfl | rfl <;> decide
      refine ⟨fun positive front back taken => ?_, longShape?_of_head no.2.1 no.2.2 rest⟩
      rw [takeDigits?_of_head positive no.1] at taken
      cases taken
    · rw [unsigned] at h
      obtain ⟨whole, rest, rfl, digits, stop, bare⟩ := Numeral.exists_of_unsigned? h
      constructor
      · intro count _ front back taken
        refine no_dash_after_digits taken digits fun c m => ?_
        rcases stop c m with rfl | rfl | rfl <;> decide
      · cases whole with
        | nil =>
          obtain ⟨c, rest, rfl⟩ := List.exists_cons_of_ne_nil (l := rest) (by
            rintro rfl
            cases bare rfl)
          obtain rfl : c = '.' := Option.some.inj (bare rfl)
          exact longShape?_of_head (by decide) (by decide) rest
        | cons c whole =>
          have digit := digits c (List.mem_cons_self ..)
          refine longShape?_of_head (not_isAlpha_of_isDigit digit) ?_ (whole ++ rest)
          rintro rfl
          exact absurd digit (by decide)
  unfold literal?
  rw [dayShape?_of_no_dash (shapes.1 (by decide)),
    monthFirstShape?_of_no_dash (shapes.1 (by decide)), shapes.2]
  rfl

end Stamp

end DocQuery
