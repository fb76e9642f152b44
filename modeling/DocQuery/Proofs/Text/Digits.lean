import DocQuery.Text.Digit
import Mathlib.Tactic.Ring

/-!
# Written digits

The digits of a number read back as the number, with zeros in front or not.
-/

namespace DocQuery.Text

theorem digitsValue_eq (digits : List Char) : digitsValue digits = Nat.ofDigitChars 10 digits 0 :=
  rfl

theorem digitsValue_append (x y : List Char) :
    digitsValue (x ++ y) = digitsValue x * 10 ^ y.length + digitsValue y := by
  rw [digitsValue_eq, Nat.ofDigitChars_append, Nat.ofDigitChars_eq_ofDigitChars_zero,
    Nat.mul_comm]
  rfl

theorem digitsValue_zeros (n : Nat) : digitsValue (List.replicate n '0') = 0 := by
  rw [digitsValue_eq, Nat.ofDigitChars_replicate_zero, Nat.mul_zero]

theorem digitsValue_zeros_append (n : Nat) (digits : List Char) :
    digitsValue (List.replicate n '0' ++ digits) = digitsValue digits := by
  rw [digitsValue_append, digitsValue_zeros, Nat.zero_mul, Nat.zero_add]

theorem digitsValue_append_zeros (digits : List Char) (n : Nat) :
    digitsValue (digits ++ List.replicate n '0') = digitsValue digits * 10 ^ n := by
  rw [digitsValue_append, digitsValue_zeros, List.length_replicate, Nat.add_zero]

theorem digitsValue_toDigits (n : Nat) : digitsValue (Nat.toDigits 10 n) = n :=
  Nat.ofDigitChars_ten_toDigits

theorem isDigit_of_mem_toDigits {n : Nat} : ∀ c ∈ Nat.toDigits 10 n, c.isDigit = true :=
  fun _ m => Nat.isDigit_of_mem_toDigits (by decide) (by decide) m

theorem toDigits_eq_cons (n : Nat) :
    ∃ c rest, Nat.toDigits 10 n = c :: rest ∧ c.isDigit = true := by
  obtain ⟨c, rest, digits⟩ := List.exists_cons_of_ne_nil (Nat.toDigits_ne_nil (n := n) (b := 10))
  have first : c ∈ Nat.toDigits 10 n := by
    rw [digits]
    exact List.mem_cons_self ..
  exact ⟨c, rest, digits, isDigit_of_mem_toDigits c first⟩

theorem readDigits?_of_digits {digits : List Char} (some : digits ≠ [])
    (all : ∀ c ∈ digits, c.isDigit = true) :
    readDigits? digits = .some (digitsValue digits) := by
  have nonempty : digits.isEmpty = false := List.isEmpty_eq_false_iff.mpr some
  have every : digits.all Char.isDigit = true := List.all_eq_true.mpr all
  unfold readDigits?
  rw [nonempty, every]
  rfl

theorem readDigits?_toDigits (n : Nat) : readDigits? (Nat.toDigits 10 n) = some n := by
  rw [readDigits?_of_digits Nat.toDigits_ne_nil isDigit_of_mem_toDigits, digitsValue_toDigits]

theorem isDigit_of_mem_padZeros {width n : Nat} : ∀ c ∈ padZeros width n, c.isDigit = true := by
  intro c m
  rcases List.mem_append.mp m with zero | digit
  · rw [List.eq_of_mem_replicate zero]
    decide
  · exact isDigit_of_mem_toDigits c digit

theorem readDigits?_padZeros (width n : Nat) : readDigits? (padZeros width n) = some n := by
  have value : digitsValue (padZeros width n) = n := by
    unfold padZeros
    rw [digitsValue_zeros_append, digitsValue_toDigits]
  rw [readDigits?_of_digits (by simp [padZeros]) isDigit_of_mem_padZeros, value]

theorem length_padZeros {width n : Nat} (positive : 0 < width) (fits : n < 10 ^ width) :
    (padZeros width n).length = width := by
  have short := (Nat.length_toDigits_le_iff (by decide) positive).mpr fits
  unfold padZeros
  rw [List.length_append, List.length_replicate]
  omega

theorem isDecimalDigit_of_isDigit {c : Char} (h : c.isDigit = true) :
    isDecimalDigit c = true := by
  unfold isDecimalDigit
  rw [h]
  rfl

theorem isDecimalDigit_of_ascii {c : Char} (h : c.toNat < 128) :
    isDecimalDigit c = c.isDigit := by
  simp [isDecimalDigit, Nat.not_le_of_lt h]

theorem readDigits?_eq_some_iff {digits : List Char} {n : Nat} :
    readDigits? digits = some n ↔
      digits ≠ [] ∧ (∀ c ∈ digits, c.isDigit = true) ∧ digitsValue digits = n := by
  constructor
  · intro h
    unfold readDigits? at h
    split at h
    · next read =>
      rw [Bool.and_eq_true, Bool.not_eq_true', List.isEmpty_eq_false_iff] at read
      exact ⟨read.1, List.all_eq_true.mp read.2, Option.some.inj h⟩
    · cases h
  · rintro ⟨some, all, rfl⟩
    exact readDigits?_of_digits some all

/-- So many digits write a number of at most as many. -/
theorem digitsValue_lt {digits : List Char} (all : ∀ c ∈ digits, c.isDigit = true) :
    digitsValue digits < 10 ^ digits.length := by
  induction digits with
  | nil => decide
  | cons c digits ih =>
    have fewer := ih fun d m => all d (List.mem_cons_of_mem _ m)
    have digit := all c (List.mem_cons_self ..)
    have ends : '0'.toNat = 48 ∧ '9'.toNat = 57 := ⟨rfl, rfl⟩
    rw [Char.isDigit_iff_toNat] at digit
    have first : digitsValue [c] ≤ 9 := by
      simp only [digitsValue, List.foldl_cons, List.foldl_nil]
      omega
    have most := Nat.mul_le_mul_right (10 ^ digits.length) first
    rw [← List.singleton_append, digitsValue_append, List.length_append, List.length_singleton,
      Nat.pow_add]
    omega

end DocQuery.Text
