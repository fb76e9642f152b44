import DocQuery.Proofs.Number.Reading
import Mathlib.Algebra.Order.Field.Basic
import Mathlib.Data.Rat.Cast.Order
import Mathlib.Tactic.FieldSimp
import Mathlib.Tactic.Linarith

/-!
# Decimals and numbers by value

As rational numbers, decimals and binary64 numbers can be compared. A decimal is read as a number
if it lies below the middle between the largest number and the next power of two, and no number of
either sign is nearer to it than the one that is read.
-/

namespace DocQuery

def signed (negative : Bool) (q : ℚ) : ℚ := if negative then -q else q

theorem abs_signed_sub (negative : Bool) (p q : ℚ) :
    |signed negative p - signed negative q| = |p - q| := by
  unfold signed
  cases negative with
  | false => rfl
  | true =>
    calc |-p - -q| = |-(p - q)| := congrArg abs (by ring)
      _ = |p - q| := abs_neg _

theorem signed_le {negative : Bool} {q : ℚ} (h : 0 ≤ q) : signed negative q ≤ q := by
  unfold signed
  split
  · linarith
  · exact le_refl q

theorem abs_le_abs_signed_sub {negative other : Bool} (h : other ≠ negative) {p q : ℚ}
    (positive : 0 ≤ p) : q ≤ |signed other p - signed negative q| := by
  cases other with
  | false =>
    cases negative with
    | false => exact absurd rfl h
    | true =>
      show q ≤ |p - -q|
      exact le_abs.mpr (.inl (by linarith))
  | true =>
    cases negative with
    | false =>
      show q ≤ |-p - q|
      exact le_abs.mpr (.inr (by linarith))
    | true => exact absurd rfl h

namespace Binary64

/-- The rational number that a number stands for. -/
def toRat (x : Binary64) : ℚ := signed x.negative (x.units / unitsPerOne)

/-- The least magnitude that is rounded to no finite number. -/
def overflow : ℚ := 2 ^ 1024 - 2 ^ 970

section Greatest

variable {k : Nat} (h : k = 2045)

include h

theorem representable_greatest : Representable ((2 ^ 53 - 1) * 2 ^ k) := by
  have low : 2 ^ (k + 52) = 2 ^ 52 * 2 ^ k := by ring
  have high : 2 ^ (k + 53) = 2 ^ 53 * 2 ^ k := by ring
  have positive := Nat.two_pow_pos k
  have lead : ((2 ^ 53 - 1) * 2 ^ k).log2 = k + 52 :=
    (Nat.log2_eq_iff (by omega)).mpr ⟨by omega, by omega⟩
  refine ⟨by omega, ?_⟩
  rw [lead, Nat.add_sub_cancel]
  exact Nat.mul_mod_left _ _

theorem units_le_greatest {units : Nat} (finite : Representable units) :
    units ≤ (2 ^ 53 - 1) * 2 ^ k := by
  have low : 2 ^ (k + 52) = 2 ^ 52 * 2 ^ k := by ring
  have high : 2 ^ (k + 53) = 2 ^ 53 * 2 ^ k := by ring
  have below := Nat.lt_log2_self (n := units)
  have bits := finite.1
  by_cases top : units.log2 = k + 52
  · obtain ⟨m, rfl⟩ : 2 ^ k ∣ units := by
      have multiple := finite.grain_dvd
      unfold grain at multiple
      rwa [top, Nat.add_sub_cancel] at multiple
    rw [top, high, Nat.mul_comm, Nat.mul_lt_mul_right (Nat.two_pow_pos k)] at below
    rw [Nat.mul_comm]
    exact Nat.mul_le_mul_right _ (by omega)
  · have lower : 2 ^ (units.log2 + 1) ≤ 2 ^ (k + 52) :=
      Nat.pow_le_pow_right (by decide) (by omega)
    omega

end Greatest

theorem exists_greatest : ∃ top : Binary64, (∀ x : Binary64, x.toRat ≤ top.toRat) ∧
    2 * overflow = top.toRat + 2 ^ 1024 := by
  obtain ⟨bits, hb, one⟩ := unitsPerOne_eq
  obtain ⟨low, hl⟩ : ∃ low, low = 970 := ⟨_, rfl⟩
  have places : bits + 1 + low = 2045 := by omega
  refine ⟨⟨false, _, representable_greatest places⟩, ?_, ?_⟩
  · intro x
    have magnitude : (0 : ℚ) ≤ x.units / unitsPerOne :=
      div_nonneg (Nat.cast_nonneg _) (Nat.cast_nonneg _)
    calc x.toRat ≤ x.units / unitsPerOne := signed_le magnitude
      _ ≤ _ := div_le_div_of_nonneg_right
        (Nat.cast_le.mpr (units_le_greatest places x.representable)) (Nat.cast_nonneg _)
  · have high : low + 54 = 1024 := by omega
    have some : (2 : ℚ) ^ bits ≠ 0 := pow_ne_zero bits two_ne_zero
    rw [overflow, ← hl, ← high, toRat, one]
    show 2 * ((2 : ℚ) ^ (low + 54) - 2 ^ low) =
      (((2 ^ 53 - 1) * 2 ^ (bits + 1 + low) : Nat) : ℚ) / ((2 ^ bits : Nat) : ℚ) + 2 ^ (low + 54)
    rw [Nat.cast_mul, Nat.cast_pow, Nat.cast_pow, Nat.cast_ofNat, pow_add _ _ low, pow_add _ bits]
    field_simp
    norm_num
    ring

end Binary64

namespace Decimal

/-- The value of a decimal. -/
def toRat (d : Decimal) : ℚ := d.digits * 10 ^ d.exponent

theorem toRat_nonneg (d : Decimal) : 0 ≤ d.toRat :=
  mul_nonneg (Nat.cast_nonneg _) (zpow_nonneg (by norm_num) _)

theorem zpow_mul_stepUnder (e : Int) :
    (10 : ℚ) ^ e * Binary64.unitsPerOne * stepUnder e = stepOver e := by
  unfold stepOver stepUnder
  generalize Binary64.unitsPerOne = unit
  obtain ⟨n, rfl | rfl⟩ := e.eq_nat_or_neg
  · simp
  · have some : (10 : ℚ) ^ n ≠ 0 := pow_ne_zero n (by norm_num)
    have above : (-(n : Int)).toNat = 0 := by omega
    have below : (-(-(n : Int))).toNat = n := by omega
    rw [above, below, zpow_neg, zpow_natCast]
    push_cast
    field_simp

theorem inUnits_fst (d : Decimal) :
    (d.inUnits.1 : ℚ) = d.toRat * Binary64.unitsPerOne * d.inUnits.2 := by
  rw [inUnits_eq, Nat.cast_mul, ← zpow_mul_stepUnder]
  unfold toRat
  ring

end Decimal

namespace Binary64

section Quotient

variable {num den : Nat} {q : ℚ} (positive : 0 < den)
variable (value : (num : ℚ) = q * unitsPerOne * den)

include positive value

theorem nearestUnits_lt_iff {bits k : Nat} (one : unitsPerOne = 2 ^ bits) :
    nearestUnits num den < 2 ^ (bits + 1 + k + 53) ↔ q < 2 ^ (k + 54) - 2 ^ k := by
  have unit : (0 : ℚ) < 2 * unitsPerOne * den :=
    mul_pos (mul_pos two_pos (Nat.cast_pos.mpr unitsPerOne_pos)) (Nat.cast_pos.mpr positive)
  have left : ((2 * num + 2 ^ (bits + 1 + k) * den : Nat) : ℚ) =
      (q + 2 ^ k) * (2 * unitsPerOne * den) := by
    push_cast
    rw [value, one]
    push_cast
    ring
  have right : ((2 ^ (bits + 1 + k + 54) * den : Nat) : ℚ) =
      2 ^ (k + 54) * (2 * unitsPerOne * den) := by
    rw [one]
    push_cast
    ring
  rw [nearestUnits_lt_two_pow_iff positive, ← Nat.cast_lt (α := ℚ), left, right,
    mul_lt_mul_iff_left₀ unit, lt_sub_iff_add_lt]

/-- A magnitude is rounded to a finite number exactly if it lies below the middle between the
largest one and the next power of two. -/
theorem representable_nearestUnits_iff_lt :
    Representable (nearestUnits num den) ↔ q < overflow := by
  obtain ⟨bits, hb, one⟩ := unitsPerOne_eq
  obtain ⟨k, low⟩ : ∃ k, k = 970 := ⟨_, rfl⟩
  have places : bits + 1 + k + 53 = 2098 := by omega
  have high : k + 54 = 1024 := by omega
  rw [representable_nearestUnits_iff positive places, nearestUnits_lt_iff positive value one,
    overflow, ← low, ← high]

/-- No finite number is nearer to a magnitude than the one it is rounded to. -/
theorem nearestUnits_nearest {units : Nat} (h : Representable units) :
    |(nearestUnits num den / unitsPerOne : ℚ) - q| ≤ |(units / unitsPerOne : ℚ) - q| := by
  have one : (unitsPerOne : ℚ) ≠ 0 := Nat.cast_ne_zero.mpr (Nat.ne_of_gt unitsPerOne_pos)
  have some : (den : ℚ) ≠ 0 := Nat.cast_ne_zero.mpr (Nat.ne_of_gt positive)
  have unit : (0 : ℚ) < unitsPerOne * den :=
    mul_pos (Nat.cast_pos.mpr unitsPerOne_pos) (Nat.cast_pos.mpr positive)
  have distance (n : Nat) : |(n / unitsPerOne : ℚ) - q| =
      (((n * den : Nat) : Int) - num).natAbs / (unitsPerOne * den) := by
    have scaled : (n / unitsPerOne : ℚ) - q =
        (((n * den : Nat) : Int) - num : Int) / (unitsPerOne * den) := by
      push_cast
      rw [value]
      generalize (unitsPerOne : ℚ) = step at one
      field_simp
    rw [scaled, abs_div, abs_of_pos unit, Nat.cast_natAbs, Int.cast_abs]
  rw [distance, distance, div_le_div_iff_of_pos_right unit, Nat.cast_le]
  exact nearestUnits_closest num positive h

end Quotient

end Binary64

namespace Decimal

variable {d : Decimal} {negative : Bool}

theorem inUnits_snd_pos (d : Decimal) : 0 < d.inUnits.2 := by
  rw [inUnits_eq]
  exact stepUnder_pos d.exponent

theorem toBinary64?_isSome_iff : (d.toBinary64? negative).isSome = true ↔
    d.toRat < Binary64.overflow := by
  rw [← Binary64.representable_nearestUnits_iff_lt d.inUnits_snd_pos d.inUnits_fst,
    toBinary64?_eq_nearest?]
  unfold Binary64.nearest? Binary64.ofUnits?
  by_cases finite : Representable (Binary64.nearestUnits d.inUnits.1 d.inUnits.2)
  · simp [finite]
  · simp [finite]

theorem toBinary64?_nearest {x : Binary64} (h : d.toBinary64? negative = some x) :
    x.negative = negative ∧ ∀ y : Binary64,
      |x.toRat - signed negative d.toRat| ≤ |y.toRat - signed negative d.toRat| := by
  obtain ⟨finite, rfl⟩ : ∃ finite,
      ⟨negative, Binary64.nearestUnits d.inUnits.1 d.inUnits.2, finite⟩ = x := by
    rw [toBinary64?_eq_nearest?] at h
    obtain ⟨finite, same⟩ := Option.dite_none_right_eq_some.mp h
    exact ⟨finite, Option.some.inj same⟩
  refine ⟨rfl, fun y => ?_⟩
  unfold Binary64.toRat
  rw [abs_signed_sub]
  by_cases same : y.negative = negative
  · rw [same, abs_signed_sub]
    exact Binary64.nearestUnits_nearest d.inUnits_snd_pos d.inUnits_fst y.representable
  · -- On the other side of zero lies nothing nearer than zero, which is itself a number.
    have origin := Binary64.nearestUnits_nearest d.inUnits_snd_pos d.inUnits_fst
      (Binary64.zero negative).representable
    rw [Binary64.zero, Nat.cast_zero, zero_div, zero_sub, abs_neg, abs_of_nonneg d.toRat_nonneg]
      at origin
    have magnitude : (0 : ℚ) ≤ y.units / Binary64.unitsPerOne :=
      div_nonneg (Nat.cast_nonneg _) (Nat.cast_nonneg _)
    exact origin.trans (abs_le_abs_signed_sub same magnitude)

end Decimal

end DocQuery
