import DocQuery.Proofs.Number.Reading
import DocQuery.Proofs.Text.Blanks

/-!
# Texts of numbers

Every notation of a decimal reads back as the digits and the exponent that it writes, up to zeros
after the digits.
-/

namespace DocQuery

open Text

namespace Decimal

theorem isDigit_of_mem_significant {d : Decimal} : ∀ c ∈ d.significant, c.isDigit = true := by
  intro c m
  unfold significant at m
  split at m
  · rw [List.mem_singleton.mp m]
    decide
  · rw [List.mem_reverse] at m
    exact isDigit_of_mem_toDigits c
      (List.mem_reverse.mp ((List.dropWhile_suffix _).mem m))

theorem toDigits_eq_significant {d : Decimal} (some : d.digits ≠ 0) : ∃ zeros,
    Nat.toDigits 10 d.digits = d.significant ++ List.replicate zeros '0' := by
  have split := List.takeWhile_append_dropWhile (p := (· == '0'))
    (l := (Nat.toDigits 10 d.digits).reverse)
  have zeros : (Nat.toDigits 10 d.digits).reverse.takeWhile (· == '0') =
      List.replicate ((Nat.toDigits 10 d.digits).reverse.takeWhile (· == '0')).length '0' := by
    rw [List.eq_replicate_iff]
    refine ⟨rfl, fun c m => ?_⟩
    have := List.all_eq_true.mp List.all_takeWhile c m
    simpa using this
  refine ⟨((Nat.toDigits 10 d.digits).reverse.takeWhile (· == '0')).length, ?_⟩
  have turned := congrArg List.reverse split
  rw [List.reverse_append, List.reverse_reverse, zeros, List.reverse_replicate] at turned
  unfold significant
  rw [if_neg some]
  exact turned.symm

theorem significant_ne_nil (d : Decimal) : d.significant ≠ [] := by
  intro none
  by_cases h : d.digits = 0
  · simp [significant, h] at none
  · obtain ⟨zeros, digits⟩ := toDigits_eq_significant h
    have value := digitsValue_toDigits d.digits
    rw [digits, none, List.nil_append, digitsValue_zeros] at value
    exact h value.symm

end Decimal

namespace Numeral

def AtNonDigit (text : List Char) : Prop := ∀ c ∈ text.head?, c.isDigit = false

/-- The exponent of a numeral as numbers are written: its sign always stands. -/
def exponentText (n : Int) : List Char :=
  'e' :: (if n < 0 then '-' else '+') :: Nat.toDigits 10 n.natAbs

def signText : Option Bool → List Char
  | none => []
  | some false => ['+']
  | some true => ['-']

theorem sign_signText (s : Option Bool) {rest : List Char}
    (h : ∀ c ∈ rest.head?, c ≠ '-' ∧ c ≠ '+') : sign (signText s ++ rest) = (s.getD false, rest) := by
  cases s with
  | some negative => cases negative <;> rfl
  | none =>
    show sign rest = (false, rest)
    unfold sign
    split
    · exact absurd rfl (h '-' rfl).1
    · exact absurd rfl (h '+' rfl).2
    · rfl

theorem no_sign_of_isDigit {c : Char} (h : c.isDigit = true) : c ≠ '-' ∧ c ≠ '+' := by
  constructor
  all_goals
    rintro rfl
    exact absurd h (by decide)

structure Exponent where
  mark : Char
  sign : Option Bool
  digits : List Char
  isMark : mark = 'e' ∨ mark = 'E'
  some : digits ≠ []
  all : ∀ c ∈ digits, c.isDigit = true

namespace Exponent

def text (e : Exponent) : List Char := e.mark :: (signText e.sign ++ e.digits)

def value (e : Exponent) : Int :=
  if e.sign.getD false then -(digitsValue e.digits : Int) else digitsValue e.digits

theorem exponent?_text (e : Exponent) : exponent? e.text = .some e.value := by
  have unsigned : ∀ c ∈ e.digits.head?, c ≠ '-' ∧ c ≠ '+' := fun c m =>
    no_sign_of_isDigit (e.all c (List.mem_of_mem_head? m))
  unfold exponent? text
  dsimp only
  rw [if_pos e.isMark, sign_signText e.sign unsigned, readDigits?_of_digits e.some e.all]
  rfl

def ofInt (n : Int) : Exponent where
  mark := 'e'
  sign := .some (decide (n < 0))
  digits := Nat.toDigits 10 n.natAbs
  isMark := .inl rfl
  some := Nat.toDigits_ne_nil
  all := isDigit_of_mem_toDigits

theorem text_comp_ofInt : text ∘ ofInt = exponentText := by
  funext n
  by_cases negative : n < 0 <;> simp [text, ofInt, exponentText, signText, negative]

theorem value_comp_ofInt : value ∘ ofInt = id := by
  funext n
  simp only [Function.comp_apply, value, ofInt, digitsValue_toDigits, Option.getD_some,
    decide_eq_true_iff, id]
  split <;> omega

end Exponent

/-- A numeral as it may be spelled: a sign or none, digits with a point among them or not, an
exponent or none. -/
structure Spelling where
  sign : Option Bool
  whole : List Char
  fraction : Option (List Char)
  exponent : Option Exponent
  some : whole ++ fraction.getD [] ≠ []
  digits : ∀ c ∈ whole ++ fraction.getD [], c.isDigit = true

namespace Spelling

def exponentText (s : Spelling) : List Char := (s.exponent.map Exponent.text).getD []

def rest (s : Spelling) : List Char := (s.fraction.map ('.' :: ·)).getD [] ++ s.exponentText

def unsignedText (s : Spelling) : List Char := s.whole ++ s.rest

def text (s : Spelling) : List Char := signText s.sign ++ s.unsignedText

def value (s : Spelling) : Decimal :=
  ⟨digitsValue (s.whole ++ s.fraction.getD []),
    ((s.exponent.map Exponent.value).getD 0) - (s.fraction.getD []).length⟩

theorem exponent?_exponentText (s : Spelling) :
    exponent? s.exponentText = .some ((s.exponent.map Exponent.value).getD 0) := by
  unfold exponentText
  cases s.exponent with
  | none => rfl
  | some e => exact e.exponent?_text

theorem atNonDigit_exponentText (s : Spelling) : AtNonDigit s.exponentText := by
  unfold exponentText
  cases s.exponent with
  | none =>
    intro c m
    cases m
  | some e =>
    intro c m
    obtain rfl : e.mark = c := Option.some.inj m
    rcases e.isMark with mark | mark
    all_goals
      rw [mark]
      decide

theorem unsigned?_unsignedText (s : Spelling) : unsigned? s.unsignedText = .some s.value := by
  have whole : ∀ c ∈ s.whole, c.isDigit = true := fun c m =>
    s.digits c (List.mem_append_left _ m)
  have stop := s.atNonDigit_exponentText
  unfold unsignedText rest value
  cases h : s.fraction with
  | some fraction =>
    have digits : ∀ c ∈ fraction, c.isDigit = true := fun c m =>
      s.digits c (List.mem_append_right _ (by rw [h]; exact m))
    have point : AtNonDigit ('.' :: (fraction ++ s.exponentText)) := by
      intro c m
      cases m
      decide
    have some : ¬(s.whole = [] ∧ fraction = []) := by
      rintro ⟨none, none'⟩
      exact s.some (by rw [h, none, none']; rfl)
    unfold unsigned?
    simp only [Option.map_some, Option.getD_some, List.cons_append,
      takeWhile_append_of_stop whole point, dropWhile_append_of_stop whole point,
      takeWhile_append_of_stop digits stop, dropWhile_append_of_stop digits stop,
      s.exponent?_exponentText]
    rw [if_neg some]
  | none =>
    have point : s.exponentText.head? ≠ .some '.' := by
      unfold exponentText
      cases s.exponent with
      | none => simp
      | some e =>
        rcases e.isMark with mark | mark
        all_goals simp [Exponent.text, mark]
    have some : s.whole ≠ [] := by
      have := s.some
      rwa [h, Option.getD_none, List.append_nil] at this
    unfold unsigned?
    simp only [Option.map_none, Option.getD_none, List.nil_append, List.append_nil,
      takeWhile_append_of_stop whole stop, dropWhile_append_of_stop whole stop, List.length_nil]
    split
    · next e => exact absurd (by rw [e]; rfl) point
    · rw [if_neg some, s.exponent?_exponentText]
      simp

theorem sign_text (s : Spelling) : Numeral.sign s.text = (s.sign.getD false, s.unsignedText) := by
  apply sign_signText
  intro c m
  unfold unsignedText rest at m
  cases h : s.whole with
  | cons d whole =>
    rw [h] at m
    obtain rfl : d = c := Option.some.inj m
    exact no_sign_of_isDigit (s.digits d (by rw [h]; exact List.mem_cons_self ..))
  | nil =>
    cases fraction : s.fraction with
    | none => exact absurd (by rw [h, fraction]; rfl) s.some
    | some digits =>
      rw [h, fraction] at m
      cases m
      decide

theorem read?_text (s : Spelling) : read? s.text = s.value.toBinary64? (s.sign.getD false) := by
  unfold read?
  rw [s.sign_text]
  exact congrArg (Option.bind · _) s.unsigned?_unsignedText

end Spelling

structure Parts where
  whole : List Char
  fraction : Option (List Char)
  exponent : Option Int
  some : whole ≠ []
  digits : ∀ c ∈ whole ++ fraction.getD [], c.isDigit = true

namespace Parts

def rest (p : Parts) : List Char :=
  (p.fraction.map ('.' :: ·)).getD [] ++ (p.exponent.map exponentText).getD []

def text (p : Parts) : List Char := p.whole ++ p.rest

def value (p : Parts) : Decimal :=
  ⟨digitsValue (p.whole ++ p.fraction.getD []),
    p.exponent.getD 0 - (p.fraction.getD []).length⟩

def spelling (p : Parts) : Spelling where
  sign := none
  whole := p.whole
  fraction := p.fraction
  exponent := p.exponent.map Exponent.ofInt
  some none := p.some (List.append_eq_nil_iff.mp none).1
  digits := p.digits

theorem unsigned?_text (p : Parts) : unsigned? p.text = .some p.value := by
  have text : p.spelling.unsignedText = p.text := by
    unfold text rest Spelling.unsignedText Spelling.rest Spelling.exponentText spelling
    rw [Option.map_map, Exponent.text_comp_ofInt]
  have value : p.spelling.value = p.value := by
    unfold value Spelling.value spelling
    rw [Option.map_map, Exponent.value_comp_ofInt, Option.map_id, id]
  rw [← text, ← value]
  exact p.spelling.unsigned?_unsignedText

end Parts

end Numeral

namespace Decimal

theorem parts_scientific {s : List Char} (leading : Int) :
    s ≠ [] → (∀ c ∈ s, c.isDigit = true) → ∃ p : Numeral.Parts,
      p.text = (match s with
        | a :: b :: rest => a :: '.' :: b :: rest
        | _ => s) ++ Numeral.exponentText leading ∧
      p.value = ⟨digitsValue s, leading + 1 - s.length⟩ := by
  intro nonempty all
  cases s with
  | nil => exact absurd rfl nonempty
  | cons a s =>
    cases s with
    | nil =>
      refine ⟨⟨[a], none, some leading, nonempty, all⟩, rfl, ?_⟩
      simp [Numeral.Parts.value]
    | cons b rest =>
      refine ⟨⟨[a], some (b :: rest), some leading, by simp, all⟩, rfl, ?_⟩
      simp only [Numeral.Parts.value, Option.getD_some, List.length_cons, Decimal.mk.injEq]
      exact ⟨rfl, by omega⟩

section Notations

variable {s : List Char} (all : ∀ c ∈ s, c.isDigit = true)

include all

theorem parts_fraction {leading : Int} (negative : leading < 0) : ∃ p : Numeral.Parts,
    p.text = ['0', '.'] ++ List.replicate (leading.natAbs - 1) '0' ++ s ∧
    p.value = ⟨digitsValue s, leading + 1 - s.length⟩ := by
  have digits : ∀ c ∈ ['0'] ++ (List.replicate (leading.natAbs - 1) '0' ++ s),
      c.isDigit = true := by
    intro c m
    rcases List.mem_append.mp m with m | m
    · rw [List.mem_singleton.mp m]
      decide
    · rcases List.mem_append.mp m with m | m
      · rw [List.eq_of_mem_replicate m]
        decide
      · exact all c m
  have value : digitsValue (['0'] ++ (List.replicate (leading.natAbs - 1) '0' ++ s)) =
      digitsValue s := by
    rw [← digitsValue_zeros_append (leading.natAbs - 1 + 1) s, List.replicate_succ]
    rfl
  refine ⟨⟨['0'], some (List.replicate (leading.natAbs - 1) '0' ++ s), none, by simp, digits⟩,
    by simp [Numeral.Parts.text, Numeral.Parts.rest], ?_⟩
  simp only [Numeral.Parts.value, Option.getD_some, Option.getD_none, value, List.length_append,
    List.length_replicate, Decimal.mk.injEq]
  exact ⟨trivial, by omega⟩

variable (nonempty : s ≠ [])

include nonempty

theorem parts_whole (zeros : Nat) : ∃ p : Numeral.Parts,
    p.text = s ++ List.replicate zeros '0' ++ ['.', '0'] ∧
    p.value = ⟨digitsValue s * 10 ^ (zeros + 1), -1⟩ := by
  have digits : ∀ c ∈ s ++ List.replicate zeros '0' ++ ['0'], c.isDigit = true := by
    intro c m
    rw [List.append_assoc, ← List.replicate_succ'] at m
    rcases List.mem_append.mp m with m | m
    · exact all c m
    · rw [List.eq_of_mem_replicate m]
      decide
  refine ⟨⟨s ++ List.replicate zeros '0', some ['0'], none, by simp [nonempty], digits⟩,
    by simp [Numeral.Parts.text, Numeral.Parts.rest], ?_⟩
  simp only [Numeral.Parts.value, Option.getD_some, Option.getD_none, List.length_singleton,
    Decimal.mk.injEq]
  rw [← digitsValue_append_zeros, List.replicate_succ', List.append_assoc]
  exact ⟨rfl, rfl⟩

theorem parts_mixed {place : Nat} (first : 0 < place) (inside : place < s.length) :
    ∃ p : Numeral.Parts, p.text = s.take place ++ '.' :: s.drop place ∧
      p.value = ⟨digitsValue s, (place : Int) - s.length⟩ := by
  have digits : ∀ c ∈ s.take place ++ s.drop place, c.isDigit = true := by
    rw [List.take_append_drop]
    exact all
  have some : s.take place ≠ [] := by
    intro none
    rw [List.take_eq_nil_iff] at none
    rcases none with zero | none
    · omega
    · exact nonempty none
  refine ⟨⟨s.take place, .some (s.drop place), none, some, digits⟩,
    by simp [Numeral.Parts.text, Numeral.Parts.rest], ?_⟩
  simp only [Numeral.Parts.value, Option.getD_some, Option.getD_none, List.take_append_drop,
    List.length_drop, Decimal.mk.injEq]
  exact ⟨trivial, by omega⟩

end Notations

/-- The text of a decimal is a numeral of its significant digits, with zeros after them or not. -/
theorem exists_parts_write {d : Decimal} (some : d.digits ≠ 0) (format : NumeralFormat)
    {zeros : Nat}
    (digits : Nat.toDigits 10 d.digits = d.significant ++ List.replicate zeros '0') :
    ∃ p : Numeral.Parts, d.write format = p.text ∧ ∃ more : Nat,
      p.value = ⟨digitsValue d.significant * 10 ^ more, d.exponent + zeros - more⟩ := by
  have all := isDigit_of_mem_significant (d := d)
  have nonempty := significant_ne_nil d
  have length : (Nat.toDigits 10 d.digits).length = d.significant.length + zeros := by
    rw [digits, List.length_append, List.length_replicate]
  have count : 1 ≤ d.significant.length := List.length_pos_iff.mpr nonempty
  unfold write
  rw [if_neg some, length]
  generalize d.significant = s at all nonempty count
  generalize lead : ((s.length + zeros : Nat) : Int) - 1 + d.exponent = leading
  have exponent : leading + 1 - s.length = d.exponent + zeros := by omega
  rw [← exponent]
  dsimp only
  split
  · obtain ⟨p, text, value⟩ := parts_scientific leading nonempty all
    exact ⟨p, text.symm, 0, by simp [value]⟩
  · split
    · next negative =>
      obtain ⟨p, text, value⟩ := parts_fraction all negative
      exact ⟨p, text.symm, 0, by simp [value]⟩
    · next positive =>
      split
      · next short =>
        obtain ⟨p, text, value⟩ := parts_whole all nonempty (leading.toNat + 1 - s.length)
        refine ⟨p, text.symm, leading.toNat + 1 - s.length + 1, ?_⟩
        rw [value, Decimal.mk.injEq]
        exact ⟨rfl, by omega⟩
      · next long =>
        obtain ⟨p, text, value⟩ := parts_mixed all nonempty (Nat.succ_pos leading.toNat)
          (Nat.lt_of_not_le long)
        refine ⟨p, text.symm, 0, ?_⟩
        rw [value, Nat.pow_zero, Nat.mul_one, Decimal.mk.injEq]
        exact ⟨rfl, by omega⟩

end Decimal

end DocQuery
