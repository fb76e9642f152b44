import DocQuery.Number.Decimal
import DocQuery.Proofs.Number.Nearest

/-!
# The shortest decimal

Whatever the number of digits, a decimal that is picked reads back as the magnitude it was picked
for. With seventeen digits the grid of decimals is finer than the grain of the magnitude, so one of
the two around it reads back and a decimal is always picked.
-/

namespace DocQuery

namespace Decimal

/-- The step of the grid `10 ^ e`, as a quotient in units of 2^-1074. -/
def stepOver (e : Int) : Nat := 10 ^ e.toNat * Binary64.unitsPerOne

def stepUnder (e : Int) : Nat := 10 ^ (-e).toNat

theorem stepOver_pos (e : Int) : 0 < stepOver e :=
  Nat.mul_pos (Nat.pow_pos (by decide)) Binary64.unitsPerOne_pos

theorem stepUnder_pos (e : Int) : 0 < stepUnder e := Nat.pow_pos (by decide)

theorem inUnits_eq (d : Decimal) :
    d.inUnits = (d.digits * stepOver d.exponent, stepUnder d.exponent) := by
  unfold inUnits stepOver stepUnder
  by_cases h : 0 ≤ d.exponent
  · have none : (-d.exponent).toNat = 0 := by omega
    rw [if_pos h, none, Nat.mul_assoc]
    rfl
  · have none : d.exponent.toNat = 0 := by omega
    rw [if_neg h, none, Nat.pow_zero, Nat.one_mul]
    rfl

theorem gridBelow_eq (units : Nat) (e : Int) : gridBelow units e =
    (units * stepUnder e / stepOver e, units * stepUnder e % stepOver e, stepOver e) := by
  unfold gridBelow stepOver stepUnder
  by_cases h : 0 ≤ e
  · have none : (-e).toNat = 0 := by omega
    rw [if_pos h, none, Nat.pow_zero, Nat.mul_one]
    rfl
  · have none : e.toNat = 0 := by omega
    rw [if_neg h, none, Nat.pow_zero, Nat.one_mul]
    rfl

def ReadsAs (d : Decimal) (units : Nat) : Prop :=
  Binary64.nearestUnits d.inUnits.1 d.inUnits.2 = units

def Reached (units : Nat) (e : Int) : Prop := stepOver e ≤ units * stepUnder e

instance (units : Nat) (e : Int) : Decidable (Reached units e) :=
  inferInstanceAs (Decidable (_ ≤ _))

theorem Reached.mono {m n : Nat} {e : Int} (h : Reached m e) (le : m ≤ n) : Reached n e :=
  Nat.le_trans h (Nat.mul_le_mul_right _ le)

/-- The guess at the exponent of the leading digit, from the leading bit. -/
def exponentGuess (bit : Nat) : Int :=
  (((bit : Int) - 1074) * 30103).fdiv 100000

theorem leadingExponent_eq (units : Nat) : leadingExponent units =
    if Reached units (exponentGuess units.log2) then
      if Reached units (exponentGuess units.log2 + 1) then exponentGuess units.log2 + 1
      else exponentGuess units.log2
    else exponentGuess units.log2 - 1 := by
  have same (e : Int) : (if 0 ≤ e then decide (Nat.pow 10 e.toNat * Binary64.unitsPerOne ≤ units)
      else decide (Binary64.unitsPerOne ≤ units * Nat.pow 10 (-e).toNat)) =
        decide (Reached units e) := by
    by_cases h : 0 ≤ e
    · have none : stepUnder e = 1 := by
        have : (-e).toNat = 0 := by omega
        rw [stepUnder, this, Nat.pow_zero]
      rw [if_pos h, decide_eq_decide, Reached, none, Nat.mul_one]
      exact Iff.rfl
    · have none : stepOver e = Binary64.unitsPerOne := by
        have : e.toNat = 0 := by omega
        rw [stepOver, this, Nat.pow_zero, Nat.one_mul]
      rw [if_neg h, decide_eq_decide, Reached, none]
      exact Iff.rfl
  unfold leadingExponent
  simp only [same, Bool.not_eq_true', decide_eq_false_iff_not, decide_eq_true_eq, ite_not]
  rfl

/-- The guess is too large by one at most, for any leading bit of a finite number. -/
theorem reached_guess {bit : Nat} (h : bit < 2098) : Reached (2 ^ bit) (exponentGuess bit - 1) := by
  have all : ((List.range 2098).all fun bit =>
      Nat.ble (stepOver (exponentGuess bit - 1)) (2 ^ bit * stepUnder (exponentGuess bit - 1))) =
        true := by
    decide +kernel
  exact Nat.le_of_ble_eq_true (List.all_eq_true.mp all bit (List.mem_range.mpr h))

theorem reached_leadingExponent {units : Nat} (h : Representable units) (some : units ≠ 0) :
    Reached units (leadingExponent units) := by
  have guess := (reached_guess h.1).mono (Nat.log2_self_le some)
  rw [leadingExponent_eq]
  split
  · next reached =>
    split
    · next more => exact more
    · exact reached
  · exact guess

theorem stepOver_sub (e : Int) (k : Nat) :
    stepOver (e - k) * 10 ^ k * stepUnder e = stepOver e * stepUnder (e - k) := by
  have shift : 10 ^ (e - k).toNat * 10 ^ k * 10 ^ (-e).toNat =
      10 ^ e.toNat * 10 ^ (-(e - k)).toNat := by
    rw [← Nat.pow_add, ← Nat.pow_add, ← Nat.pow_add]
    congr 1
    omega
  calc stepOver (e - k) * 10 ^ k * stepUnder e
      = 10 ^ (e - k).toNat * 10 ^ k * 10 ^ (-e).toNat * Binary64.unitsPerOne := by
        unfold stepOver stepUnder
        ring
    _ = stepOver e * stepUnder (e - k) := by
        rw [shift]
        unfold stepOver stepUnder
        ring

theorem step_sixteen {units : Nat} {e : Int} (h : Reached units e) :
    stepOver (e - 16) * 10 ^ 16 ≤ units * stepUnder (e - 16) := by
  apply Nat.le_of_mul_le_mul_right _ (stepUnder_pos e)
  calc stepOver (e - 16) * 10 ^ 16 * stepUnder e = stepOver e * stepUnder (e - 16) :=
        stepOver_sub e 16
    _ ≤ units * stepUnder e * stepUnder (e - 16) := Nat.mul_le_mul_right _ h
    _ = units * stepUnder (e - 16) * stepUnder e := by ring

theorem readsAs_shift {n k units : Nat} {e : Int} :
    ReadsAs ⟨n * 10 ^ k, e - k⟩ units ↔ ReadsAs ⟨n, e⟩ units := by
  have same : n * 10 ^ k * stepOver (e - k) * stepUnder e = n * stepOver e * stepUnder (e - k) := by
    have shift := stepOver_sub e k
    calc n * 10 ^ k * stepOver (e - k) * stepUnder e
        = n * (stepOver (e - k) * 10 ^ k * stepUnder e) := by ring
      _ = n * stepOver e * stepUnder (e - k) := by rw [shift, Nat.mul_assoc]
  unfold ReadsAs
  rw [inUnits_eq, inUnits_eq,
    Binary64.nearestUnits_congr (stepUnder_pos (e - k)) (stepUnder_pos e) same]

section Grid

variable {units num den step below rest : Nat}

theorem add_grain_le_of_dvd {grain m n : Nat} (hm : grain ∣ m) (hn : grain ∣ n) (h : m < n) :
    m + grain ≤ n := by
  obtain ⟨j, rfl⟩ := hm
  obtain ⟨k, rfl⟩ := hn
  have next : j + 1 ≤ k := Nat.lt_of_mul_lt_mul_left h
  calc grain * j + grain = grain * (j + 1) := (Nat.mul_succ grain j).symm
    _ ≤ grain * k := Nat.mul_le_mul_left _ next

theorem add_grain_le (representable : Representable units) :
    units + Binary64.grain units ≤ 2 ^ (units.log2 + 1) :=
  add_grain_le_of_dvd representable.grain_dvd (Nat.pow_dvd_pow 2 (by omega)) Nat.lt_log2_self

/-- The grain of a quotient that has the leading bit of a magnitude. Below that bit the grain is
the same only where it is the finest. -/
theorem grain_div (representable : Representable units)
    (lead : 2 ^ units.log2 * den ≤ num ∨ units.log2 ≤ 52)
    (under : num < (units + Binary64.grain units) * den) :
    Binary64.grain (num / den) = Binary64.grain units := by
  have positive : 0 < den := by
    rcases Nat.eq_zero_or_pos den with rfl | h
    · simp at under
    · exact h
  have small : num / den < 2 ^ (units.log2 + 1) := by
    rw [Nat.div_lt_iff_lt_mul positive]
    exact Nat.lt_of_lt_of_le under (Nat.mul_le_mul_right den (add_grain_le representable))
  unfold Binary64.grain
  rcases lead with lead | fine
  · have large : 2 ^ units.log2 ≤ num / den := (Nat.le_div_iff_mul_le positive).mpr lead
    have nonzero : num / den ≠ 0 := Nat.ne_of_gt (Nat.lt_of_lt_of_le (Nat.two_pow_pos _) large)
    rw [(Nat.log2_eq_iff nonzero).mpr ⟨large, small⟩]
  · have finest : (num / den).log2 ≤ 52 := by
      by_cases zero : num / den = 0
      · rw [zero]
        decide
      · have := (Nat.log2_lt zero).mpr small
        omega
    rw [Nat.sub_eq_zero_of_le finest, Nat.sub_eq_zero_of_le fine]

theorem nearestUnits_of_lead (representable : Representable units)
    (lead : 2 ^ units.log2 * den ≤ num ∨ units.log2 ≤ 52)
    (above : 2 * num < 2 * (units * den) + Binary64.grain units * den)
    (below : 2 * (units * den) < 2 * num + Binary64.grain units * den) :
    Binary64.nearestUnits num den = units := by
  apply Binary64.nearestUnits_of_near representable.grain_dvd
  · apply grain_div representable lead
    rw [Nat.add_mul]
    omega
  · rw [Nat.add_mul, Nat.mul_assoc]
    exact above
  · rw [Nat.mul_assoc]
    exact below

theorem lt_grain (units : Nat) : units < 2 ^ 53 * Binary64.grain units := by
  have bits : units < 2 ^ (units.log2 + 1) := Nat.lt_log2_self
  unfold Binary64.grain
  rw [← Nat.pow_add]
  exact Nat.lt_of_lt_of_le bits (Nat.pow_le_pow_right (by decide) (by omega))

theorem power_add_grain_le (representable : Representable units) (some : units ≠ 0)
    (large : 52 < units.log2) (apart : units ≠ 2 ^ units.log2) :
    2 ^ units.log2 + Binary64.grain units ≤ units := by
  have power : Binary64.grain units ∣ 2 ^ units.log2 := Nat.pow_dvd_pow 2 (by omega)
  have less : 2 ^ units.log2 < units :=
    Nat.lt_of_le_of_ne (Nat.log2_self_le some) (Ne.symm apart)
  exact add_grain_le_of_dvd power representable.grain_dvd less

/-- Of the two multiples of a fine step around a magnitude one is rounded to it. At a power of two
the grain below is half the grain above, so there it is the upper one. -/
theorem reads_below_or_above (representable : Representable units) (some : units ≠ 0)
    (split : units * den = below * step + rest) (small : rest < step)
    (fine : step * 10 ^ 16 ≤ units * den) :
    Binary64.nearestUnits (below * step) den = units ∨
      Binary64.nearestUnits ((below + 1) * step) den = units := by
  have lead : 2 ^ units.log2 * den ≤ units * den :=
    Nat.mul_le_mul_right den (Nat.log2_self_le some)
  have next : (below + 1) * step = below * step + step := Nat.succ_mul below step
  by_cases power : units = 2 ^ units.log2 ∧ 52 < units.log2
  · -- The step is below half of the grain above, so the upper multiple is near enough.
    right
    have shape : units = 2 ^ 52 * Binary64.grain units := by
      unfold Binary64.grain
      rw [← Nat.pow_add, Nat.add_sub_cancel' (Nat.le_of_lt power.2)]
      exact power.1
    have finer : step * 10 ^ 16 ≤ 2 ^ 52 * (Binary64.grain units * den) := by
      rw [← Nat.mul_assoc, ← shape]
      exact fine
    apply nearestUnits_of_lead representable
    · exact .inl (by omega)
    · omega
    · omega
  · have coarse : step < Binary64.grain units * den := by
      have bound : units * den ≤ 2 ^ 53 * (Binary64.grain units * den) := by
        rw [← Nat.mul_assoc]
        exact Nat.mul_le_mul_right den (Nat.le_of_lt (lt_grain units))
      omega
    by_cases close : 2 * rest < Binary64.grain units * den
    · left
      apply nearestUnits_of_lead representable
      · by_cases finest : units.log2 ≤ 52
        · exact .inr finest
        · left
          have large := Nat.lt_of_not_le finest
          have apart := power_add_grain_le representable some large fun e => power ⟨e, large⟩
          have far := Nat.mul_le_mul_right den apart
          rw [Nat.add_mul] at far
          omega
      · omega
      · omega
    · right
      apply nearestUnits_of_lead representable
      · exact .inl (by omega)
      · omega
      · omega

end Grid

theorem readsAs_of_atPrecision? {units count : Nat} {d : Decimal}
    (h : atPrecision? units count = some d) : d.ReadsAs units := by
  simp only [atPrecision?, gridBelow_eq, inUnits_eq] at h
  split at h
  · next lower =>
    simp only [Bool.and_eq_true, beq_iff_eq] at lower
    rw [← Option.some.inj h, ReadsAs, inUnits_eq]
    exact lower.1
  · split at h
    · next upper =>
      rw [beq_iff_eq] at upper
      rw [← Option.some.inj h, ReadsAs, inUnits_eq]
      exact upper
    · cases h

theorem atPrecision?_seventeen {units : Nat} (h : Representable units) (some : units ≠ 0) :
    atPrecision? units 17 ≠ none := by
  have fine := step_sixteen (reached_leadingExponent h some)
  have positive := stepOver_pos (leadingExponent units - 16)
  have reads := reads_below_or_above h some
    (Nat.div_add_mod' (units * stepUnder (leadingExponent units - 16))
      (stepOver (leadingExponent units - 16))).symm
    (Nat.mod_lt _ positive) fine
  have sixteen : ((17 : Nat) : Int) - 1 = 16 := rfl
  simp only [atPrecision?, gridBelow_eq, inUnits_eq, sixteen]
  rcases reads with lower | upper
  · split
    · simp
    · next other =>
      split
      · simp
      · next notUpper =>
        rw [Bool.not_eq_true] at notUpper
        simp [lower, notUpper] at other
  · split
    · simp
    · rw [if_pos (by rw [beq_iff_eq]; exact upper)]
      simp

theorem readsAs_shortest {units : Nat} (h : Representable units) (some : units ≠ 0) :
    (shortest units).ReadsAs units := by
  unfold shortest
  cases found : (List.range 17).findSome? fun n => atPrecision? units (n + 1) with
  | some d =>
    obtain ⟨n, -, hn⟩ := List.exists_of_findSome?_eq_some found
    exact readsAs_of_atPrecision? hn
  | none =>
    have last := List.findSome?_eq_none_iff.mp found 16 (by simp)
    exact absurd last (atPrecision?_seventeen h some)

end Decimal

end DocQuery
