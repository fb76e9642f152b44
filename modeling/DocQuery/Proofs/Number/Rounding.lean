import DocQuery.Number.Word
import DocQuery.Proofs.Number.Texts
import Mathlib.Tactic.SplitIfs

/-!
# Rounding integers

The binary64 number of an integer is the nearest integer with fifty-three significant bits, an even
neighbour where two are equally near. Rounding may merge integers, but it never turns their order
around; it leaves alone what is at most 2^53 in magnitude, so whatever lies below is told apart
from everything else.
-/

namespace DocQuery

namespace Binary64

/-- An integer rounded to fifty-three significant bits, a tie to the even neighbour. -/
def rounded (i : Int) : Int :=
  if i < 0 then -(nearestUnits i.natAbs 1 : Int) else nearestUnits i.natAbs 1

theorem nearestUnits_one (n : Nat) :
    nearestUnits n 1 = roundHalfEven n (grain n) * grain n := by
  rw [nearestUnits_eq, Nat.div_one, Nat.one_mul]

theorem nearestUnits_of_dvd {n : Nat} (h : grain n ∣ n) : nearestUnits n 1 = n := by
  have multiple : grain (n / 1) ∣ n := by rwa [Nat.div_one]
  apply Nat.le_antisymm
  · exact nearestUnits_le_of_dvd Nat.one_pos (Nat.mul_one n).ge multiple
  · exact le_nearestUnits_of_dvd Nat.one_pos (Nat.mul_one n).le multiple

theorem log2_le_of_le {m n : Nat} (h : m ≤ n) : m.log2 ≤ n.log2 := by
  by_cases zero : m = 0
  · rw [zero]
    exact Nat.zero_le _
  · have some : n ≠ 0 := by omega
    exact (Nat.le_log2 some).mpr (Nat.le_trans (Nat.log2_self_le zero) h)

theorem nearestUnits_mono {m n : Nat} (h : m ≤ n) : nearestUnits m 1 ≤ nearestUnits n 1 := by
  by_cases same : m.log2 = n.log2
  · have grains : grain m = grain n := by
      unfold grain
      rw [same]
    rw [nearestUnits_one, nearestUnits_one, grains]
    exact Nat.mul_le_mul_right _ (roundHalfEven_mono _ h)
  · -- A power of two lies between the two, and neither passes it.
    have less : m.log2 + 1 ≤ n.log2 := by
      have := log2_le_of_le h
      omega
    have some : n ≠ 0 := by
      rintro rfl
      exact absurd less (by simp)
    have below := nearestUnits_le_two_pow m Nat.one_pos
    rw [Nat.div_one] at below
    have above : 2 ^ n.log2 * 1 ≤ n := (Nat.mul_one _).trans_le (Nat.log2_self_le some)
    calc nearestUnits m 1 ≤ 2 ^ (m.log2 + 1) := below
      _ ≤ 2 ^ n.log2 := Nat.pow_le_pow_right (by decide) less
      _ ≤ nearestUnits n 1 := two_pow_le_nearestUnits Nat.one_pos above

theorem log2_mul_two_pow {n : Nat} (some : n ≠ 0) (bits : Nat) :
    (n * 2 ^ bits).log2 = n.log2 + bits := by
  have some' : n * 2 ^ bits ≠ 0 := Nat.mul_ne_zero some (Nat.ne_of_gt (Nat.two_pow_pos bits))
  refine (Nat.log2_eq_iff some').mpr ⟨?_, ?_⟩
  · rw [Nat.pow_add]
    exact Nat.mul_le_mul_right _ (Nat.log2_self_le some)
  · rw [Nat.add_right_comm, Nat.pow_add]
    exact Nat.mul_lt_mul_of_pos_right Nat.lt_log2_self (Nat.two_pow_pos bits)

theorem nearestUnits_mul_unitsPerOne (n : Nat) :
    nearestUnits (n * unitsPerOne) 1 = nearestUnits n 1 * unitsPerOne := by
  obtain ⟨bits, -, one⟩ := unitsPerOne_eq
  by_cases zero : n = 0
  · rw [zero]
    simp [nearestUnits_of_small]
  have lead : (n * unitsPerOne).log2 = n.log2 + bits := by
    rw [one]
    exact log2_mul_two_pow zero bits
  by_cases small : n.log2 ≤ 52
  · have fine : grain n = 1 := by
      unfold grain
      rw [Nat.sub_eq_zero_of_le small, Nat.pow_zero]
    have coarse : grain (n * unitsPerOne) ∣ n * unitsPerOne := by
      apply Nat.dvd_mul_left_of_dvd
      unfold grain
      rw [lead, one]
      exact Nat.pow_dvd_pow 2 (by omega)
    rw [nearestUnits_of_dvd coarse, nearestUnits_of_dvd (by rw [fine]; exact Nat.one_dvd n)]
  · have scaled : grain (n * unitsPerOne) = grain n * unitsPerOne := by
      have place : n.log2 + bits - 52 = n.log2 - 52 + bits := by omega
      unfold grain
      rw [lead, one, place, Nat.pow_add]
    rw [nearestUnits_one, nearestUnits_one, scaled,
      roundHalfEven_scale _ _ _ unitsPerOne_pos, Nat.mul_assoc]

theorem rounded_mono {i j : Int} (h : i ≤ j) : rounded i ≤ rounded j := by
  unfold rounded
  split_ifs with first second second
  · have := nearestUnits_mono (m := j.natAbs) (n := i.natAbs) (by omega)
    omega
  · omega
  · omega
  · have := nearestUnits_mono (m := i.natAbs) (n := j.natAbs) (by omega)
    omega

theorem rounded_of_le {i : Int} (h : i.natAbs ≤ exactEnd) : rounded i = i := by
  have exact : nearestUnits i.natAbs 1 = i.natAbs := by
    apply nearestUnits_of_dvd
    rcases Nat.lt_or_eq_of_le h with less | same
    · have bits : i.natAbs.log2 ≤ 52 := by
        by_cases zero : i.natAbs = 0
        · rw [zero]
          decide
        · exact Nat.le_of_lt_succ ((Nat.log2_lt zero).mpr less)
      have fine : grain i.natAbs = 1 := by
        unfold grain
        rw [Nat.sub_eq_zero_of_le bits, Nat.pow_zero]
      rw [fine]
      exact Nat.one_dvd _
    · rw [same]
      decide
  unfold rounded
  rw [exact]
  split_ifs <;> omega

/-- An integer below 2^53 in magnitude stays strictly below every larger one, and strictly above
every smaller one. -/
theorem rounded_lt_rounded {i j : Int} (h : i < j) (small : i.natAbs < exactEnd ∨
    j.natAbs < exactEnd) : rounded i < rounded j := by
  rcases small with small | small
  · calc rounded i = i := rounded_of_le (Nat.le_of_lt small)
      _ < i + 1 := Int.lt_succ i
      _ = rounded (i + 1) := (rounded_of_le (by omega)).symm
      _ ≤ rounded j := rounded_mono h
  · calc rounded i ≤ rounded (j - 1) := rounded_mono (by omega)
      _ = j - 1 := rounded_of_le (by omega)
      _ < j := Int.sub_one_lt_of_le (Int.le_refl j)
      _ = rounded j := (rounded_of_le (Nat.le_of_lt small)).symm

theorem eq_of_rounded_eq {i j : Int} (small : i.natAbs < exactEnd ∨ j.natAbs < exactEnd)
    (merged : rounded i = rounded j) : i = j := by
  rcases Int.lt_trichotomy i j with less | same | more
  · have := rounded_lt_rounded less small
    omega
  · exact same
  · have := rounded_lt_rounded more small.symm
    omega

theorem compare_rounded_iff (i j : Int) :
    Ord.compare (rounded i) (rounded j) = Ord.compare i j ↔ (rounded i = rounded j → i = j) := by
  constructor
  · intro kept merged
    rw [compare_eq_iff_eq.mpr merged] at kept
    exact compare_eq_iff_eq.mp kept.symm
  · intro apart
    rcases Int.lt_trichotomy i j with less | same | more
    · have strict : rounded i < rounded j :=
        lt_of_le_of_ne (rounded_mono (Int.le_of_lt less)) fun e => absurd (apart e) (by omega)
      rw [compare_lt_iff_lt.mpr less, compare_lt_iff_lt.mpr strict]
    · rw [same, compare_eq_iff_eq.mpr rfl, compare_eq_iff_eq.mpr rfl]
    · have strict : rounded j < rounded i :=
        lt_of_le_of_ne (rounded_mono (Int.le_of_lt more)) fun e =>
          absurd (apart e.symm) (by omega)
      rw [compare_gt_iff_gt.mpr more, compare_gt_iff_gt.mpr strict]

theorem log2_lt_of_word {i : Int} (h : Word.IsSigned i ∨ Word.IsUnsigned i) :
    i.natAbs.log2 < 64 := by
  by_cases zero : i.natAbs = 0
  · rw [zero]
    decide
  · have signed : Word.signedEnd = 2 ^ 63 := rfl
    have unsigned : Word.unsignedEnd = 2 ^ 64 := rfl
    rw [Nat.log2_lt zero]
    unfold Word.IsSigned Word.IsUnsigned at h
    omega

theorem representable_of_word {n : Nat} (h : n.log2 < 64) :
    Representable (nearestUnits n 1 * unitsPerOne) := by
  obtain ⟨bits, hb, one⟩ := unitsPerOne_eq
  have small : (n * unitsPerOne).log2 + 1 < bits + 1024 := by
    by_cases zero : n = 0
    · rw [zero, Nat.zero_mul, Nat.log2_zero]
      omega
    · rw [one, log2_mul_two_pow zero]
      omega
  have bound := nearestUnits_le_two_pow (n * unitsPerOne) Nat.one_pos
  rw [Nat.div_one] at bound
  have top : bits + 1024 = 2098 := by omega
  rw [← nearestUnits_mul_unitsPerOne, representable_nearestUnits_iff Nat.one_pos top]
  exact Nat.lt_of_le_of_lt bound (Nat.pow_lt_pow_right (by decide) small)

/-- A number with the rounded magnitude and the sign of an integer has the value of the rounded
integer. Zero may have either sign. -/
theorem value_eq_rounded {x : Binary64} {i : Int}
    (units : x.units = nearestUnits i.natAbs 1 * unitsPerOne)
    (sign : i ≠ 0 → (x.negative = true ↔ i < 0)) : x.value = rounded i * unitsPerOne := by
  unfold value rounded
  rw [units, Nat.cast_mul]
  by_cases zero : i = 0
  · have none : nearestUnits (0 : Int).natAbs 1 = 0 := nearestUnits_of_small (by decide)
    rw [zero, none, Nat.cast_zero, Int.zero_mul, Int.neg_zero, ite_self, ite_self, Int.zero_mul]
  · simp only [sign zero]
    split_ifs
    · rw [Int.neg_mul]
    · rfl

theorem exists_ofInt? {i : Int} (h : Word.IsSigned i ∨ Word.IsUnsigned i) :
    ∃ x, ofInt? i = some x ∧ x.value = rounded i * unitsPerOne := by
  have finite := representable_of_word (log2_lt_of_word h)
  refine ⟨⟨decide (i < 0), _, finite⟩, ?_, value_eq_rounded rfl fun _ => decide_eq_true_iff⟩
  unfold ofInt? nearest? ofUnits?
  simp only [nearestUnits_mul_unitsPerOne]
  rw [dif_pos finite]

theorem compare_rounded_mul (i j : Int) :
    Ord.compare (rounded i * unitsPerOne) (rounded j * unitsPerOne) =
      Ord.compare (rounded i) (rounded j) := by
  have positive : (0 : Int) < unitsPerOne := Int.natCast_pos.mpr unitsPerOne_pos
  rcases Int.lt_trichotomy (rounded i) (rounded j) with less | same | more
  · rw [compare_lt_iff_lt.mpr less, compare_lt_iff_lt]
    exact Int.mul_lt_mul_of_pos_right less positive
  · rw [same, compare_eq_iff_eq.mpr rfl, compare_eq_iff_eq.mpr rfl]
  · rw [compare_gt_iff_gt.mpr more, compare_gt_iff_gt]
    exact Int.mul_lt_mul_of_pos_right more positive

theorem rounded_closest (i : Int) (y : Binary64) :
    (rounded i * unitsPerOne - i * unitsPerOne).natAbs ≤ (y.value - i * unitsPerOne).natAbs := by
  -- A number of the other sign is farther from the integer than zero is.
  have closest {units : Nat} (h : Representable units) :
      ((nearestUnits i.natAbs 1 * unitsPerOne : Nat) - (i.natAbs * unitsPerOne : Nat) : Int).natAbs ≤
        ((units : Int) - (i.natAbs * unitsPerOne : Nat)).natAbs := by
    have nearest := nearestUnits_closest (i.natAbs * unitsPerOne) Nat.one_pos h
    rwa [Nat.mul_one, Nat.mul_one, nearestUnits_mul_unitsPerOne] at nearest
  have own := closest y.representable
  have zero := closest (Binary64.zero false).representable
  have none : (Binary64.zero false).units = 0 := rfl
  rw [none] at zero
  unfold rounded value
  by_cases negative : i < 0
  · have magnitude : i * unitsPerOne = -((i.natAbs * unitsPerOne : Nat) : Int) := by
      rw [Nat.cast_mul, ← Int.neg_mul]
      congr 1
      omega
    rw [if_pos negative, magnitude, Int.neg_mul, ← Nat.cast_mul]
    split_ifs <;> omega
  · have magnitude : i * unitsPerOne = ((i.natAbs * unitsPerOne : Nat) : Int) := by
      rw [Nat.cast_mul]
      congr 1
      omega
    rw [if_neg negative, magnitude, ← Nat.cast_mul]
    split_ifs <;> omega

end Binary64

def Decimal.IsWhole (d : Decimal) (n : Nat) : Prop :=
  d.digits * 10 ^ d.exponent.toNat = n * 10 ^ (-d.exponent).toNat

instance (d : Decimal) (n : Nat) : Decidable (d.IsWhole n) :=
  inferInstanceAs (Decidable (_ = _))

theorem Decimal.toBinary64?_of_isWhole {d : Decimal} {n : Nat} (whole : d.IsWhole n)
    (small : n.log2 < 64) (negative : Bool) : ∃ x, d.toBinary64? negative = some x ∧
      x.negative = negative ∧ x.units = Binary64.nearestUnits n 1 * Binary64.unitsPerOne := by
  have finite := Binary64.representable_of_word small
  have reads : d.ReadsAs (Binary64.nearestUnits n 1 * Binary64.unitsPerOne) := by
    rw [ReadsAs, inUnits_eq, ← Binary64.nearestUnits_mul_unitsPerOne]
    apply Binary64.nearestUnits_congr (stepUnder_pos d.exponent) Nat.one_pos
    calc d.digits * stepOver d.exponent * 1
        = d.digits * 10 ^ d.exponent.toNat * Binary64.unitsPerOne := by
          rw [stepOver, Nat.mul_one, Nat.mul_assoc]
      _ = n * 10 ^ (-d.exponent).toNat * Binary64.unitsPerOne := by rw [whole]
      _ = n * Binary64.unitsPerOne * stepUnder d.exponent := by
          rw [stepUnder, Nat.mul_right_comm]
  exact ⟨_, toBinary64?_of_readsAs reads finite negative, rfl, rfl⟩

namespace Numeral

def Writes (text : List Char) (i : Int) : Prop :=
  ∃ s : Spelling, s.text = text ∧ s.value.IsWhole i.natAbs ∧ (i ≠ 0 → (s.sign = some true ↔ i < 0))

theorem Writes.unsigned? {text : List Char} {i : Int} (h : Writes text i) :
    ∃ d, Numeral.unsigned? (sign text).2 = some d := by
  obtain ⟨s, rfl, -⟩ := h
  rw [s.sign_text]
  exact ⟨s.value, s.unsigned?_unsignedText⟩

theorem Writes.read? {text : List Char} {i : Int} (h : Writes text i)
    (word : Word.IsSigned i ∨ Word.IsUnsigned i) : ∃ x, Numeral.read? text = some x ∧
      x.value = Binary64.rounded i * Binary64.unitsPerOne := by
  obtain ⟨s, rfl, whole, minus⟩ := h
  obtain ⟨x, read, negative, units⟩ := Decimal.toBinary64?_of_isWhole whole
    (Binary64.log2_lt_of_word word) (s.sign.getD false)
  have sign : s.sign.getD false = true ↔ s.sign = some true := by
    cases s.sign <;> simp
  refine ⟨x, ?_, Binary64.value_eq_rounded units (by rw [negative, sign]; exact minus)⟩
  rw [s.read?_text, read]

end Numeral

end DocQuery
