import DocQuery.Proofs.Number.Shortest
import Mathlib.Tactic.SplitIfs

/-!
# Rounding a quotient

A quotient is rounded to a multiple of the grain that its leading bit gives. Rounding does not pass
a multiple of the grain on either side, and takes the nearest of all magnitudes. What it gives has
at most fifty-three significant bits, so it is representable unless it leaves the finite numbers:
that happens from the middle between the largest finite number and the next power of two on.
-/

namespace DocQuery

namespace Binary64

theorem roundHalfEven_cases (num den : Nat) :
    roundHalfEven num den = num / den ∨ roundHalfEven num den = num / den + 1 := by
  unfold roundHalfEven
  dsimp only
  split_ifs <;> omega

theorem roundHalfEven_mono {a b : Nat} (den : Nat) (h : a ≤ b) :
    roundHalfEven a den ≤ roundHalfEven b den := by
  by_cases same : a / den = b / den
  · -- Of two quotients with one whole part the larger has the larger rest.
    have first := Nat.div_add_mod a den
    have second := Nat.div_add_mod b den
    rw [same] at first
    unfold roundHalfEven
    dsimp only
    rw [same]
    split_ifs <;> omega
  · have less : a / den ≤ b / den := Nat.div_le_div_right h
    have first := roundHalfEven_cases a den
    have second := roundHalfEven_cases b den
    omega

theorem roundHalfEven_mul (k : Nat) {den : Nat} (positive : 0 < den) :
    roundHalfEven (k * den) den = k :=
  roundHalfEven_of_near (by nlinarith) (by nlinarith)

theorem roundHalfEven_half (k : Nat) {den : Nat} (positive : 0 < den) :
    roundHalfEven ((2 * k + 1) * den) (2 * den) = k + k % 2 := by
  have whole : (2 * k + 1) * den = den + 2 * den * k := by ring
  have small : den < 2 * den := by omega
  have quotient : (2 * k + 1) * den / (2 * den) = k := by
    rw [whole, Nat.add_mul_div_left _ _ (by omega), Nat.div_eq_of_lt small, Nat.zero_add]
  have rest : (2 * k + 1) * den % (2 * den) = den := by
    rw [whole, Nat.add_mul_mod_self_left, Nat.mod_eq_of_lt small]
  unfold roundHalfEven
  rw [quotient, rest]
  simp only [Nat.lt_irrefl, if_false]

theorem roundHalfEven_within (num : Nat) {den : Nat} (positive : 0 < den) :
    2 * (roundHalfEven num den * den) ≤ 2 * num + den ∧
      2 * num ≤ 2 * (roundHalfEven num den * den) + den := by
  have split := Nat.div_add_mod' num den
  have small := Nat.mod_lt num positive
  have next : (num / den + 1) * den = num / den * den + den := Nat.succ_mul _ _
  unfold roundHalfEven
  dsimp only
  split_ifs with down up
  · omega
  · rw [next]
    omega
  · rcases Nat.mod_two_eq_zero_or_one (num / den) with even | odd
    · rw [even, Nat.add_zero]
      omega
    · rw [odd, next]
      omega

theorem grain_dvd_two_pow {n k : Nat} (h : n.log2 ≤ k + 52) : grain n ∣ 2 ^ k :=
  Nat.pow_dvd_pow 2 (by omega)

theorem grain_dvd_nearestUnits (num den : Nat) : grain (num / den) ∣ nearestUnits num den := by
  rw [nearestUnits_eq]
  exact Nat.dvd_mul_left _ _

section Quotient

variable {num den : Nat} (positive : 0 < den)

include positive

theorem nearestUnits_le_of_dvd {bound : Nat} (h : num ≤ bound * den)
    (multiple : grain (num / den) ∣ bound) : nearestUnits num den ≤ bound := by
  obtain ⟨k, hk⟩ := multiple
  have step : 0 < den * grain (num / den) := Nat.mul_pos positive (grain_pos _)
  have below : num ≤ k * (den * grain (num / den)) := by
    calc num ≤ bound * den := h
      _ = k * (den * grain (num / den)) := by
        rw [hk]
        ring
  rw [nearestUnits_eq, hk, Nat.mul_comm _ k]
  apply Nat.mul_le_mul_right
  calc roundHalfEven num (den * grain (num / den))
      ≤ roundHalfEven (k * (den * grain (num / den))) (den * grain (num / den)) :=
        roundHalfEven_mono _ below
    _ = k := roundHalfEven_mul k step

theorem le_nearestUnits_of_dvd {bound : Nat} (h : bound * den ≤ num)
    (multiple : grain (num / den) ∣ bound) : bound ≤ nearestUnits num den := by
  obtain ⟨k, hk⟩ := multiple
  have step : 0 < den * grain (num / den) := Nat.mul_pos positive (grain_pos _)
  have above : k * (den * grain (num / den)) ≤ num := by
    calc k * (den * grain (num / den)) = bound * den := by
          rw [hk]
          ring
      _ ≤ num := h
  rw [nearestUnits_eq, hk, Nat.mul_comm _ k]
  apply Nat.mul_le_mul_right
  calc k = roundHalfEven (k * (den * grain (num / den))) (den * grain (num / den)) :=
        (roundHalfEven_mul k step).symm
    _ ≤ roundHalfEven num (den * grain (num / den)) := roundHalfEven_mono _ above

theorem two_pow_log2_mul_le (some : num / den ≠ 0) : 2 ^ (num / den).log2 * den ≤ num := by
  rw [← Nat.le_div_iff_mul_le positive]
  exact Nat.log2_self_le some

variable (num) in
theorem lt_two_pow_log2_mul : num < 2 ^ ((num / den).log2 + 1) * den := by
  rw [← Nat.div_lt_iff_lt_mul positive]
  exact Nat.lt_log2_self

theorem two_pow_le_nearestUnits {k : Nat} (h : 2 ^ k * den ≤ num) :
    2 ^ k ≤ nearestUnits num den := by
  have whole : 2 ^ k ≤ num / den := (Nat.le_div_iff_mul_le positive).mpr h
  have some : num / den ≠ 0 := Nat.ne_of_gt (Nat.lt_of_lt_of_le (Nat.two_pow_pos k) whole)
  have bits : k ≤ (num / den).log2 := (Nat.le_log2 some).mpr whole
  calc 2 ^ k ≤ 2 ^ (num / den).log2 := Nat.pow_le_pow_right (by decide) bits
    _ ≤ nearestUnits num den :=
        le_nearestUnits_of_dvd positive (two_pow_log2_mul_le positive some)
          (grain_dvd_two_pow (Nat.le_add_right _ _))

variable (num) in
theorem nearestUnits_le_two_pow : nearestUnits num den ≤ 2 ^ ((num / den).log2 + 1) :=
  nearestUnits_le_of_dvd positive (Nat.le_of_lt (lt_two_pow_log2_mul num positive))
    (grain_dvd_two_pow (by omega))

variable (num) in
theorem grain_nearestUnits_dvd : grain (nearestUnits num den) ∣ nearestUnits num den := by
  by_cases zero : num / den = 0
  · -- What is less than one is rounded to two units at most, and the grain of those is one.
    have small : nearestUnits num den ≤ 2 ^ ((num / den).log2 + 1) :=
      nearestUnits_le_two_pow num positive
    rw [zero, Nat.log2_zero] at small
    by_cases none : nearestUnits num den = 0
    · rw [none]
      exact Nat.dvd_zero _
    · have bits : (nearestUnits num den).log2 < 2 := (Nat.log2_lt none).mpr (by omega)
      have one : grain (nearestUnits num den) = 2 ^ 0 := congrArg (2 ^ ·) (by omega)
      rw [one]
      exact Nat.one_dvd _
  · have lower := two_pow_le_nearestUnits positive (two_pow_log2_mul_le positive zero)
    by_cases carry : nearestUnits num den = 2 ^ ((num / den).log2 + 1)
    · rw [carry]
      exact grain_dvd_two_pow (by rw [Nat.log2_two_pow]; omega)
    · have upper := Nat.lt_of_le_of_ne (nearestUnits_le_two_pow num positive) carry
      have some : nearestUnits num den ≠ 0 :=
        Nat.ne_of_gt (Nat.lt_of_lt_of_le (Nat.two_pow_pos _) lower)
      have lead : (nearestUnits num den).log2 = (num / den).log2 :=
        (Nat.log2_eq_iff some).mpr ⟨lower, upper⟩
      have same : grain (nearestUnits num den) = grain (num / den) := by
        unfold grain
        rw [lead]
      rw [same]
      exact grain_dvd_nearestUnits num den

theorem representable_nearestUnits_iff {bits : Nat} (h : bits = 2098) :
    Representable (nearestUnits num den) ↔ nearestUnits num den < 2 ^ bits := by
  have significant := Nat.mod_eq_zero_of_dvd (grain_nearestUnits_dvd num positive)
  by_cases zero : nearestUnits num den = 0
  · rw [zero]
    exact iff_of_true (Binary64.zero false).representable (Nat.two_pow_pos bits)
  · rw [← Nat.log2_lt zero, h]
    exact and_iff_left significant

/-- The numbers that are rounded below a power of two: those below the middle between it and the
last multiple of the grain before it. -/
theorem nearestUnits_lt_two_pow_iff {k : Nat} : nearestUnits num den < 2 ^ (k + 53) ↔
    2 * num + 2 ^ k * den < 2 ^ (k + 54) * den := by
  have power : 2 ^ (k + 53) = 2 ^ 53 * 2 ^ k := by ring
  have twice : 2 ^ (k + 54) * den = 2 * (2 ^ (k + 53) * den) := by ring
  by_cases beyond : 2 ^ (k + 53) * den ≤ num
  · have reached := two_pow_le_nearestUnits positive beyond
    have grain := Nat.mul_pos (Nat.two_pow_pos k) positive
    omega
  · have lead : (num / den).log2 + 1 ≤ k + 53 := by
      by_cases zero : num / den = 0
      · rw [zero, Nat.log2_zero]
        omega
      · have whole : num / den < 2 ^ (k + 53) :=
          (Nat.div_lt_iff_lt_mul positive).mpr (Nat.not_le.mp beyond)
        exact (Nat.log2_lt zero).mpr whole
    by_cases lower : (num / den).log2 + 1 < k + 53
    · -- No leading bit is carried beyond the next place.
      have below : nearestUnits num den ≤ 2 ^ (k + 52) :=
        Nat.le_trans (nearestUnits_le_two_pow num positive)
          (Nat.pow_le_pow_right (by decide) (by omega))
      have small : num < 2 ^ (k + 52) * den :=
        Nat.lt_of_lt_of_le (lt_two_pow_log2_mul num positive)
          (Nat.mul_le_mul_right _ (Nat.pow_le_pow_right (by decide) (by omega)))
      have half : 2 ^ (k + 53) = 2 * 2 ^ (k + 52) := by ring
      have fine : 2 ^ k * den ≤ 2 ^ (k + 52) * den :=
        Nat.mul_le_mul_right _ (Nat.pow_le_pow_right (by decide) (by omega))
      have twice : 2 ^ (k + 54) * den = 4 * (2 ^ (k + 52) * den) := by ring
      have positive := Nat.two_pow_pos (k + 52)
      omega
    · have top : grain (num / den) = 2 ^ k := congrArg (2 ^ ·) (by omega)
      have step : 0 < den * 2 ^ k := Nat.mul_pos positive (Nat.two_pow_pos k)
      rw [nearestUnits_eq, top, power, Nat.mul_lt_mul_right (Nat.two_pow_pos k)]
      -- The middle lies half a grain above an odd multiple, so it is rounded up.
      have middle : roundHalfEven ((2 * (2 ^ 53 - 1) + 1) * (den * 2 ^ k)) (2 * (den * 2 ^ k)) =
          2 ^ 53 := roundHalfEven_half _ step
      have doubled : roundHalfEven (2 * num) (2 * (den * 2 ^ k)) =
          roundHalfEven num (den * 2 ^ k) := by
        rw [Nat.mul_comm 2 num, Nat.mul_comm 2 (den * 2 ^ k),
          roundHalfEven_scale _ _ _ (by decide)]
      have product : 2 ^ (k + 54) * den = 2 ^ 54 * (den * 2 ^ k) := by ring
      have grains : 2 ^ k * den = den * 2 ^ k := Nat.mul_comm _ _
      constructor
      · intro below
        by_contra large
        have reached := roundHalfEven_mono (2 * (den * 2 ^ k))
          (show (2 * (2 ^ 53 - 1) + 1) * (den * 2 ^ k) ≤ 2 * num by omega)
        omega
      · intro small
        have within := (roundHalfEven_within num step).1
        by_contra large
        have reached : 2 ^ 53 * (den * 2 ^ k) ≤
            roundHalfEven num (den * 2 ^ k) * (den * 2 ^ k) :=
          Nat.mul_le_mul_right _ (Nat.not_lt.mp large)
        omega

variable (num) in
/-- No representable magnitude is nearer to the quotient than the rounded one. -/
theorem nearestUnits_closest {units : Nat} (h : Representable units) :
    (((nearestUnits num den * den : Nat) : Int) - num).natAbs ≤
      (((units * den : Nat) : Int) - num).natAbs := by
  have within := roundHalfEven_within num (Nat.mul_pos positive (grain_pos (num / den)))
  have rounded : roundHalfEven num (den * grain (num / den)) * (den * grain (num / den)) =
      nearestUnits num den * den := by
    rw [nearestUnits_eq]
    ring
  rw [rounded] at within
  have multiples {bound : Nat} (multiple : grain (num / den) ∣ bound) :
      (((nearestUnits num den * den : Nat) : Int) - num).natAbs ≤
        (((bound * den : Nat) : Int) - num).natAbs := by
    rcases Nat.lt_trichotomy bound (nearestUnits num den) with less | same | more
    · have apart := Nat.mul_le_mul_right den
        (Decimal.add_grain_le_of_dvd multiple (grain_dvd_nearestUnits num den) less)
      rw [Nat.add_mul, Nat.mul_comm (grain _)] at apart
      omega
    · rw [same]
    · have apart := Nat.mul_le_mul_right den
        (Decimal.add_grain_le_of_dvd (grain_dvd_nearestUnits num den) multiple more)
      rw [Nat.add_mul, Nat.mul_comm (grain _)] at apart
      omega
  by_cases lower : units.log2 < (num / den).log2
  · -- The leading power of two of the rounded number is nearer than what lies below it.
    have some : num / den ≠ 0 := by
      intro zero
      rw [zero, Nat.log2_zero] at lower
      omega
    have below : units * den ≤ 2 ^ (num / den).log2 * den :=
      Nat.mul_le_mul_right den (Nat.le_trans (Nat.le_of_lt Nat.lt_log2_self)
        (Nat.pow_le_pow_right (by decide) lower))
    have lead := multiples (grain_dvd_two_pow (Nat.le_add_right (num / den).log2 52))
    have under := two_pow_log2_mul_le positive some
    omega
  · have finer : grain (num / den) ∣ grain units := Nat.pow_dvd_pow 2 (by omega)
    exact multiples (Nat.dvd_trans finer h.grain_dvd)

end Quotient

end Binary64

end DocQuery
