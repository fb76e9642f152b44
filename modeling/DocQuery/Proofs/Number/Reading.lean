import DocQuery.Number.Numeral
import DocQuery.Proofs.Number.Quotients
import DocQuery.Proofs.Text.Digits

/-!
# Reading written numbers

The early answers for decimals far too large or far too small agree with the rounding they save.
So a written number, in any of its notations, is read back as the number it was written for.
-/

namespace DocQuery

namespace Binary64

theorem nearestUnits_of_small {num den : Nat} (h : 2 * num < den) : nearestUnits num den = 0 := by
  have none : num / den = 0 := Nat.div_eq_of_lt (by omega)
  have rounded : roundHalfEven num den = 0 := roundHalfEven_of_near (by omega) (by omega)
  have finest : grain 0 = 1 := rfl
  rw [nearestUnits_eq, none, finest, Nat.mul_one, Nat.mul_one, rounded]

end Binary64

namespace Decimal

theorem two_pow_le_ten_pow (n : Nat) : 2 ^ (3 * n) ≤ 10 ^ n := by
  rw [Nat.pow_mul]
  exact Nat.pow_le_pow_left (by decide) n

theorem not_huge {d : Decimal} {units : Nat} (h : d.ReadsAs units) (finite : Representable units)
    (some : d.digits ≠ 0) :
    ¬(0 ≤ d.exponent ∧ 1025 ≤ d.digits.log2 + 3 * d.exponent.toNat) := by
  rintro ⟨positive, huge⟩
  obtain ⟨bits, hb, one⟩ := Binary64.unitsPerOne_eq
  have bound : 2 ^ (d.digits.log2 + 3 * d.exponent.toNat + bits) ≤
      d.digits * stepOver d.exponent := by
    rw [Nat.pow_add, Nat.pow_add, Nat.mul_assoc, stepOver, one]
    apply Nat.mul_le_mul (Nat.log2_self_le some)
    exact Nat.mul_le_mul_right _ (two_pow_le_ten_pow _)
  have whole : stepUnder d.exponent = 1 := by
    have none : (-d.exponent).toNat = 0 := by omega
    rw [stepUnder, none, Nat.pow_zero]
  have large := Binary64.two_pow_le_nearestUnits Nat.one_pos ((Nat.mul_one _).trans_le bound)
  rw [ReadsAs, inUnits_eq, whole] at h
  rw [h] at large
  have nonzero : units ≠ 0 := Nat.ne_of_gt (Nat.lt_of_lt_of_le (Nat.two_pow_pos _) large)
  have bits := (Nat.le_log2 nonzero).mpr large
  have := finite.1
  omega

theorem not_tiny {d : Decimal} {units : Nat} (h : d.ReadsAs units) (some : units ≠ 0) :
    ¬(d.exponent < 0 ∧ d.digits.log2 + 1077 ≤ 3 * (-d.exponent).toNat) := by
  rintro ⟨negative, tiny⟩
  obtain ⟨bits, hb, one⟩ := Binary64.unitsPerOne_eq
  have bound : d.digits * stepOver d.exponent < 2 ^ (d.digits.log2 + 1 + bits) := by
    have none : d.exponent.toNat = 0 := by omega
    rw [stepOver, none, Nat.pow_zero, Nat.one_mul, one, Nat.pow_add]
    exact Nat.mul_lt_mul_of_pos_right Nat.lt_log2_self (Nat.two_pow_pos bits)
  have under : 2 ^ (d.digits.log2 + 1 + bits) * 2 ^ 2 ≤ stepUnder d.exponent := by
    rw [← Nat.pow_add]
    calc 2 ^ (d.digits.log2 + 1 + bits + 2) ≤ 2 ^ (3 * (-d.exponent).toNat) :=
          Nat.pow_le_pow_right (by decide) (by omega)
      _ ≤ stepUnder d.exponent := two_pow_le_ten_pow _
  have small : 2 * (d.digits * stepOver d.exponent) < stepUnder d.exponent := by omega
  rw [ReadsAs, inUnits_eq, Binary64.nearestUnits_of_small small] at h
  exact some h.symm

theorem ReadsAs.digits_ne_zero {d : Decimal} {units : Nat} (h : d.ReadsAs units)
    (some : units ≠ 0) : d.digits ≠ 0 := by
  intro zero
  rw [ReadsAs, inUnits_eq, zero, Nat.zero_mul,
    Binary64.nearestUnits_of_small (stepUnder_pos d.exponent)] at h
  exact some h.symm

theorem toBinary64?_eq_nearest? (negative : Bool) (d : Decimal) :
    d.toBinary64? negative = Binary64.nearest? negative d.inUnits.1 d.inUnits.2 := by
  obtain ⟨units, reads⟩ : ∃ units, d.ReadsAs units := ⟨_, rfl⟩
  have rounded : Binary64.nearest? negative d.inUnits.1 d.inUnits.2 =
      Binary64.ofUnits? negative units := congrArg (Binary64.ofUnits? negative) reads
  have zero : Binary64.ofUnits? negative 0 = some (.zero negative) := rfl
  unfold toBinary64?
  rw [rounded]
  by_cases none : d.digits = 0
  · have nothing : units = 0 := by
      by_contra some
      exact reads.digits_ne_zero some none
    rw [if_pos none, nothing, zero]
  · rw [if_neg none]
    by_cases finite : Representable units
    · rw [if_neg (not_huge reads finite none)]
      by_cases nothing : units = 0
      · rw [nothing, zero, ite_self]
      · rw [if_neg (not_tiny reads nothing)]
    · have some : units ≠ 0 := by
        rintro rfl
        exact finite (Binary64.zero negative).representable
      have beyond : Binary64.ofUnits? negative units = Option.none := dif_neg finite
      rw [if_neg (not_tiny reads some), beyond, ite_self]

theorem toBinary64?_of_readsAs {d : Decimal} {units : Nat} (h : d.ReadsAs units)
    (finite : Representable units) (negative : Bool) :
    d.toBinary64? negative = some ⟨negative, units, finite⟩ := by
  have read : Binary64.nearest? negative d.inUnits.1 d.inUnits.2 =
      Binary64.ofUnits? negative units := congrArg (Binary64.ofUnits? negative) h
  rw [toBinary64?_eq_nearest?, read]
  exact dif_pos finite

end Decimal

end DocQuery
