import DocQuery.Store.Comparison
import Mathlib.Data.Prod.Lex
import Mathlib.Data.String.Basic

/-!
# The order of stored values

Stored values are compared by a key: the kind, then what a kind is ordered by. A dictionary order
of keys is linear, so the comparison is consistent on every mix of kinds, however values that name
an instant are written.
-/

namespace DocQuery

open Prod.Lex

theorem Instant.compare_eq_eq_iff (s t : Instant) : s.compare t = .eq ↔ s = t := by
  rw [Instant.compare, Ordering.then_eq_eq, compare_eq_iff_eq, compare_eq_iff_eq]
  cases s
  cases t
  simp

/-- Kind, then a number, then nanoseconds, then a text. -/
abbrev OrderKey := Nat ×ₗ Int ×ₗ Nat ×ₗ String

namespace Json

def keyWithin (v : Json) : Int ×ₗ Nat ×ₗ String :=
  match v.instant? with
  | some t => toLex (t.seconds, toLex (t.nanos, ""))
  | none =>
    match v with
    | .boolean b => toLex (b.toNat, toLex (0, ""))
    | .number n => toLex ((n.toBinary64?.getD (.zero false)).value, toLex (0, ""))
    | .string s => toLex (0, toLex (0, s))
    | .array items => toLex (items.length, toLex (0, ""))
    | _ => toLex (0, toLex (0, ""))

def orderKey (v : Json) : OrderKey :=
  toLex (v.kindRank, v.keyWithin)

theorem compareString_eq (s t : String) : compareString s t = compare s t := by
  unfold compareString
  by_cases less : s < t
  · rw [if_pos less, compare_lt_iff_lt.mpr less]
  by_cases same : s = t
  · rw [if_neg less, if_pos same, compare_eq_iff_eq.mpr same]
  · have greater : t < s := lt_of_le_of_ne (not_lt.mp less) (Ne.symm same)
    rw [if_neg less, if_neg same, compare_gt_iff_gt.mpr greater]

theorem compareString_eq_eq_iff (s t : String) : compareString s t = .eq ↔ s = t := by
  rw [compareString_eq, compare_eq_iff_eq]

theorem compare_natCast (m n : Nat) : compare (m : Int) (n : Int) = compare m n := by
  rcases lt_trichotomy m n with h | h | h
  · rw [compare_lt_iff_lt.mpr h, compare_lt_iff_lt.mpr (Int.ofNat_lt.mpr h)]
  · rw [h, compare_eq_iff_eq.mpr rfl, compare_eq_iff_eq.mpr rfl]
  · rw [compare_gt_iff_gt.mpr h, compare_gt_iff_gt.mpr (Int.ofNat_lt.mpr h)]

theorem kindRank_of_instant {v : Json} {t : Instant} (h : v.instant? = some t) :
    v.kindRank = 3 := by
  simp [kindRank, h]

theorem kindRank_ne_of_no_instant {v : Json} (h : v.instant? = none) : v.kindRank ≠ 3 := by
  cases v <;> simp [kindRank, h]

/-- Among values of one kind that name no instant the keys are compared as the values are. -/
theorem compareAlike_eq {a b : Json} (ha : a.instant? = none) (hb : b.instant? = none)
    (same : a.kindRank = b.kindRank) :
    compareAlike a b = compare a.keyWithin b.keyWithin := by
  simp only [kindRank, ha, hb, Option.isSome_none, Bool.false_eq_true, if_false] at same
  cases a <;> cases b <;> simp only [reduceCtorEq, Nat.reduceEqDiff] at same <;>
    simp [compareAlike, keyWithin, ha, hb, compare_def, compareLex, compareOn, compareBool,
      compareString_eq, compare_natCast, Binary64.compare]

theorem compareStored_eq_compare (a b : Json) :
    compareStored a b = compare a.orderKey b.orderKey := by
  have split : compare a.orderKey b.orderKey =
      (compare a.kindRank b.kindRank).then (compare a.keyWithin b.keyWithin) := by
    simp [orderKey, compare_def, compareLex, compareOn]
  rw [split]
  unfold compareStored
  cases ha : a.instant? with
  | some s =>
    have ra := kindRank_of_instant ha
    cases hb : b.instant? with
    | some t =>
      simp [ra, kindRank_of_instant hb, keyWithin, ha, hb, compare_def, compareLex, compareOn,
        Instant.compare]
    | none =>
      have rb := kindRank_ne_of_no_instant hb
      have apart : compare a.kindRank b.kindRank ≠ .eq := by
        rw [ne_eq, compare_eq_iff_eq, ra]
        exact fun e => rb e.symm
      cases h : compare a.kindRank b.kindRank <;> simp_all
  | none =>
    by_cases same : a.kindRank = b.kindRank
    · have hb : b.instant? = none := by
        cases hb : b.instant? with
        | none => rfl
        | some t =>
          exact absurd (same.trans (kindRank_of_instant hb)) (kindRank_ne_of_no_instant ha)
      simp [compareAlike_eq ha hb same]
    · have apart : compare a.kindRank b.kindRank ≠ .eq := by
        rw [ne_eq, compare_eq_iff_eq]
        exact same
      cases h : compare a.kindRank b.kindRank <;> simp_all

theorem compareStored_isLE_iff (a b : Json) :
    (compareStored a b).isLE = true ↔ a.orderKey ≤ b.orderKey := by
  rw [compareStored_eq_compare, Ordering.isLE_iff_ne_gt, compare_gt_iff_gt,
    not_lt]

theorem compareStored_isGE_iff (a b : Json) :
    (compareStored a b).isGE = true ↔ b.orderKey ≤ a.orderKey := by
  rw [compareStored_eq_compare, Ordering.isGE_iff_ne_lt, compare_lt_iff_lt, not_lt]

theorem compareStored_eq_eq_iff (a b : Json) :
    compareStored a b = .eq ↔ a.orderKey = b.orderKey := by
  rw [compareStored_eq_compare, compare_eq_iff_eq]

end Json

end DocQuery
