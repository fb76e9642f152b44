import DocQuery.Number.Binary64
import Mathlib.Tactic.Linarith
import Mathlib.Tactic.Ring

/-!
# Rounding to binary64

Rounding looks at the value of a quotient and not at its terms, keeps every representable
magnitude, and takes what is nearer than half a grain to one back to it.
-/

namespace DocQuery

namespace Binary64

/-- One is a power of two of units. The exponent is kept under a name, so that no step of a proof
computes the power. -/
theorem unitsPerOne_eq : ∃ bits, bits = 1074 ∧ unitsPerOne = 2 ^ bits := by
  have power {bits : Nat} (h : bits = 1074) : unitsPerOne = 2 ^ bits := by
    unfold unitsPerOne
    rw [← h]
    rfl
  exact ⟨_, rfl, power rfl⟩

theorem unitsPerOne_pos : 0 < unitsPerOne := by
  obtain ⟨bits, -, h⟩ := unitsPerOne_eq
  rw [h]
  exact Nat.two_pow_pos bits

theorem roundHalfEven_scale (num den k : Nat) (hk : 0 < k) :
    roundHalfEven (num * k) (den * k) = roundHalfEven num den := by
  have less : (2 * (num % den * k) < den * k) ↔ (2 * (num % den) < den) := by
    rw [← Nat.mul_assoc]
    exact Nat.mul_lt_mul_right hk
  have more : (den * k < 2 * (num % den * k)) ↔ (den < 2 * (num % den)) := by
    rw [← Nat.mul_assoc]
    exact Nat.mul_lt_mul_right hk
  unfold roundHalfEven
  rw [Nat.mul_div_mul_right _ _ hk, Nat.mul_mod_mul_right]
  simp only [less, more]

theorem nearestUnits_scale (num den k : Nat) (hk : 0 < k) :
    nearestUnits (num * k) (den * k) = nearestUnits num den := by
  unfold nearestUnits
  rw [Nat.mul_div_mul_right _ _ hk]
  dsimp only
  rw [Nat.mul_right_comm, roundHalfEven_scale _ _ _ hk]

theorem nearestUnits_congr {a b c d : Nat} (hb : 0 < b) (hd : 0 < d) (same : a * d = c * b) :
    nearestUnits a b = nearestUnits c d := by
  calc nearestUnits a b = nearestUnits (a * d) (b * d) := (nearestUnits_scale a b d hd).symm
    _ = nearestUnits (c * b) (d * b) := by rw [same, Nat.mul_comm b d]
    _ = nearestUnits c d := nearestUnits_scale c d b hb

theorem roundHalfEven_of_near {num den k : Nat} (above : 2 * num < (2 * k + 1) * den)
    (below : 2 * k * den < 2 * num + den) : roundHalfEven num den = k := by
  have positive : 0 < den := by
    rcases Nat.eq_zero_or_pos den with rfl | h
    · simp at above
    · exact h
  have split := Nat.div_add_mod num den
  have small := Nat.mod_lt num positive
  have whole : num / den = k ∨ num / den + 1 = k := by
    have upper : num / den < k + 1 := by
      rw [Nat.div_lt_iff_lt_mul positive]
      nlinarith
    have lower : k < num / den + 1 + 1 := by
      by_contra far
      have : (num / den + 1 + 1) * den ≤ k * den := Nat.mul_le_mul_right den (Nat.not_lt.mp far)
      nlinarith
    omega
  unfold roundHalfEven
  rcases whole with h | h
  · have : 2 * (num % den) < den := by
      rw [h] at split
      nlinarith
    rw [if_pos this]
    exact h
  · have : den < 2 * (num % den) := by
      rw [← h] at below
      nlinarith
    dsimp only
    rw [if_neg (Nat.lt_asymm this), if_pos this]
    exact h

/-- The distance between the neighbours of a magnitude. -/
def grain (units : Nat) : Nat := 2 ^ (units.log2 - 52)

theorem grain_pos (units : Nat) : 0 < grain units := Nat.two_pow_pos _

theorem nearestUnits_eq (num den : Nat) : nearestUnits num den =
    roundHalfEven num (den * grain (num / den)) * grain (num / den) := rfl

theorem nearestUnits_of_near {num den units : Nat} (multiple : grain units ∣ units)
    (same : grain (num / den) = grain units)
    (above : 2 * num < (2 * units + grain units) * den)
    (below : 2 * units * den < 2 * num + grain units * den) : nearestUnits num den = units := by
  obtain ⟨k, hk⟩ := multiple
  have near : roundHalfEven num (den * grain units) = k := by
    apply roundHalfEven_of_near
    · calc 2 * num < (2 * units + grain units) * den := above
        _ = (2 * (grain units * k) + grain units) * den := by rw [← hk]
        _ = (2 * k + 1) * (den * grain units) := by ring
    · calc 2 * k * (den * grain units) = 2 * (grain units * k) * den := by ring
        _ = 2 * units * den := by rw [← hk]
        _ < 2 * num + grain units * den := below
        _ = 2 * num + den * grain units := by rw [Nat.mul_comm den]
  rw [nearestUnits_eq, same, near, Nat.mul_comm]
  exact hk.symm

end Binary64

theorem Representable.grain_dvd {units : Nat} (h : Representable units) :
    Binary64.grain units ∣ units := Nat.dvd_of_mod_eq_zero h.2

theorem Representable.nearestUnits {units : Nat} (h : Representable units) :
    Binary64.nearestUnits units 1 = units := by
  have positive := Binary64.grain_pos units
  apply Binary64.nearestUnits_of_near h.grain_dvd
  · rw [Nat.div_one]
  · omega
  · omega

end DocQuery
