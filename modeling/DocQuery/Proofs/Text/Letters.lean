import DocQuery.Text.Letters
import Mathlib.Logic.Basic

/-!
# Words up to case

Lower case leaves letters letters, so a word of letters is matched by letters alone and stops at
the first other character.
-/

namespace DocQuery.Text

theorem isAlpha_iff (c : Char) : c.isAlpha = true ↔
    (65 ≤ c.toNat ∧ c.toNat ≤ 90) ∨ (97 ≤ c.toNat ∧ c.toNat ≤ 122) := by
  show (decide (c.val ≥ 'A'.val ∧ c.val ≤ 'Z'.val) ||
    (c.val ≥ 'a'.val && c.val ≤ 'z'.val)) = true ↔ _
  simp [UInt32.le_iff_toNat_le]

theorem not_isAlpha_of_isDigit {c : Char} (h : c.isDigit = true) : c.isAlpha = false := by
  rw [← Bool.not_eq_true, isAlpha_iff]
  rw [Char.isDigit_iff_toNat] at h
  have nine : '9'.toNat = 57 := rfl
  omega

theorem toNat_toLower (c : Char) :
    c.toLower.toNat = if 65 ≤ c.toNat ∧ c.toNat ≤ 90 then c.toNat + 32 else c.toNat := by
  unfold Char.toLower
  by_cases h : 65 ≤ c.toNat ∧ c.toNat ≤ 90
  · have upper : c.val ≥ 'A'.val ∧ c.val ≤ 'Z'.val := by
      simpa [UInt32.le_iff_toNat_le] using h
    have shift : ('a'.val - 'A'.val).toNat = 32 := by decide
    rw [dif_pos upper, if_pos h]
    simp only [Char.toNat_mk, UInt32.toNat_add, Char.toNat_val, shift]
    omega
  · have other : ¬(c.val ≥ 'A'.val ∧ c.val ≤ 'Z'.val) := by
      simpa [UInt32.le_iff_toNat_le] using h
    rw [dif_neg other, if_neg h]

theorem toNat_toUpper (c : Char) :
    c.toUpper.toNat = if 97 ≤ c.toNat ∧ c.toNat ≤ 122 then c.toNat - 32 else c.toNat := by
  unfold Char.toUpper
  by_cases h : 97 ≤ c.toNat ∧ c.toNat ≤ 122
  · have lower : c.val ≥ 'a'.val ∧ c.val ≤ 'z'.val := by
      simpa [UInt32.le_iff_toNat_le] using h
    have shift : ('A'.val - 'a'.val).toNat = 2 ^ 32 - 32 := by decide
    rw [dif_pos lower, if_pos h]
    simp only [Char.toNat_mk, UInt32.toNat_add, Char.toNat_val, shift]
    omega
  · have other : ¬(c.val ≥ 'a'.val ∧ c.val ≤ 'z'.val) := by
      simpa [UInt32.le_iff_toNat_le] using h
    rw [dif_neg other, if_neg h]

theorem capital_of_toLower_eq {c d : Char} (upper : 65 ≤ d.toNat ∧ d.toNat ≤ 90)
    (same : c.toLower = d.toLower) : capital c = d := by
  have codes := congrArg Char.toNat same
  rw [toNat_toLower, toNat_toLower, if_pos upper] at codes
  have ascii : c.toNat < 128 := by
    split at codes <;> omega
  have other {e : Char} (wide : 128 ≤ e.toNat) : c ≠ e := by
    rintro rfl
    omega
  rw [capital, if_neg (other (by decide)), if_neg (other (by decide))]
  apply Char.toNat_inj.mp
  rw [toNat_toUpper]
  split at codes <;> split <;> omega

theorem isAlpha_of_toLower_eq {c d : Char} (h : c.toLower = d.toLower) (hd : d.isAlpha = true) :
    c.isAlpha = true := by
  have codes := congrArg Char.toNat h
  rw [toNat_toLower, toNat_toLower] at codes
  rw [isAlpha_iff] at hd ⊢
  split at codes <;> split at codes <;> omega

theorem sameLetters_nil_right {s : List Char} : sameLetters s [] = true ↔ s = [] := by
  simp [sameLetters]

theorem sameLetters_cons {c d : Char} {s t : List Char} :
    sameLetters (c :: s) (d :: t) = true ↔ c.toLower = d.toLower ∧ sameLetters s t = true := by
  simp [sameLetters]

/-- Only letters are the same as letters. -/
theorem isAlpha_of_sameLetters {s t : List Char} (h : sameLetters s t = true)
    (letters : ∀ d ∈ t, d.isAlpha = true) : ∀ c ∈ s, c.isAlpha = true := by
  induction s generalizing t with
  | nil => simp
  | cons c s ih =>
    cases t with
    | nil => simp [sameLetters] at h
    | cons d t =>
      rw [sameLetters_cons] at h
      intro x m
      rcases List.mem_cons.mp m with rfl | m
      · exact isAlpha_of_toLower_eq h.1 (letters d (List.mem_cons_self ..))
      · exact ih h.2 (fun e m => letters e (List.mem_cons_of_mem _ m)) x m

theorem map_capital_of_sameLetters {s t : List Char} (same : sameLetters s t = true)
    (capitals : ∀ d ∈ t, 65 ≤ d.toNat ∧ d.toNat ≤ 90) : s.map capital = t := by
  induction s generalizing t with
  | nil =>
    cases t with
    | nil => rfl
    | cons d t => simp [sameLetters] at same
  | cons c s ih =>
    cases t with
    | nil => simp [sameLetters] at same
    | cons d t =>
      rw [sameLetters_cons] at same
      rw [List.map_cons, capital_of_toLower_eq (capitals d (List.mem_cons_self ..)) same.1,
        ih same.2 fun e m => capitals e (List.mem_cons_of_mem _ m)]

theorem dropWord?_eq_some_iff {word text rest : List Char} :
    dropWord? word text = some rest ↔
      ∃ front, text = front ++ rest ∧ sameLetters front word = true := by
  induction word generalizing text with
  | nil =>
    simp only [dropWord?, Option.some.injEq, sameLetters_nil_right]
    constructor
    · rintro rfl
      exact ⟨[], rfl, rfl⟩
    · rintro ⟨_, e, rfl⟩
      exact e
  | cons w word ih =>
    cases text with
    | nil =>
      simp only [dropWord?, reduceCtorEq, List.nil_eq, List.append_eq_nil_iff, false_iff,
        not_exists, not_and, and_imp]
      rintro _ rfl _
      simp [sameLetters]
    | cons c text =>
      rw [dropWord?]
      constructor
      · intro h
        split at h
        · next same =>
          obtain ⟨front, rfl, hf⟩ := ih.mp h
          exact ⟨c :: front, rfl, sameLetters_cons.mpr ⟨same, hf⟩⟩
        · cases h
      · rintro ⟨front, e, hf⟩
        cases front with
        | nil => simp [sameLetters] at hf
        | cons d front =>
          obtain ⟨rfl, rfl⟩ := List.cons.inj e
          rw [sameLetters_cons] at hf
          rw [if_pos hf.1]
          exact ih.mpr ⟨front, rfl, hf.2⟩

end DocQuery.Text
