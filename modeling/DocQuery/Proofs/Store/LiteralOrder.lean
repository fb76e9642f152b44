import DocQuery.Proofs.Store.Order

/-!
# Literals in the order of stored values

A literal has a place in the order of stored values, and a stored value of its kind compares with
it as the two places do. A text that names an instant is the exception: it is compared with a
literal text by its letters, but ordered among the instants.
-/

namespace DocQuery

open Prod.Lex

namespace Literal

/-- The place of a literal in the order of stored values; a text stands among the texts that name
no instant. -/
def orderKey : Literal → OrderKey
  | .null => toLex (0, toLex (0, toLex (0, "")))
  | .boolean b => toLex (1, toLex (b.toNat, toLex (0, "")))
  | .number x => toLex (2, toLex (x.value, toLex (0, "")))
  | .instant t => toLex (3, toLex (t.seconds, toLex (t.nanos, "")))
  | .string s => toLex (4, toLex (0, toLex (0, s)))
  | .list items => toLex (5, toLex (items.length, toLex (0, "")))

def isText : Literal → Bool
  | .string _ => true
  | _ => false

/-- The first value is below the literal and the second is not, or the second is above it and the
first is not. -/
def Separates (v : Literal) (a b : Json) : Prop :=
  (a.compareLiteral? v = some .lt ∧
    (b.compareLiteral? v = some .eq ∨ b.compareLiteral? v = some .gt)) ∨
  (a.compareLiteral? v = some .eq ∧ b.compareLiteral? v = some .gt)

/-- The order of stored values leaves the second value behind the first when a literal separates
them: always, save that a text which names an instant stays behind earlier instants only. -/
def KeepsOrder (v : Literal) (a b : Json) : Prop :=
  v.isText = false ∨ b.instant? = none ∨
    ∃ s t, a.instant? = some s ∧ b.instant? = some t ∧ s.compare t = .lt

end Literal

namespace Json

variable {a b : Json} {v : Literal}

theorem exists_string_of_compareLiteral? {s : String} {o : Ordering}
    (h : a.compareLiteral? (.string s) = some o) : ∃ t, a = .string t := by
  cases a with
  | string t => exact ⟨t, rfl⟩
  | _ => cases h

theorem orderKey_of_instant {t : Instant} (h : a.instant? = some t) :
    a.orderKey = (Literal.instant t).orderKey := by
  simp [orderKey, kindRank_of_instant h, keyWithin, h, Literal.orderKey]

/-- A value that is compared with a literal stands to it as their places do, unless both are texts
and the value names an instant. -/
theorem compareLiteral?_eq_some {o : Ordering} (h : a.compareLiteral? v = some o)
    (plain : v.isText = false ∨ a.instant? = none) : o = compare a.orderKey v.orderKey := by
  cases v with
  | instant t =>
    obtain ⟨s, named, rfl⟩ : ∃ s, a.instant? = some s ∧ s.compare t = o := by
      cases a <;> simpa [compareLiteral?] using h
    rw [orderKey_of_instant named]
    simp [Literal.orderKey, Instant.compare, compare_def, compareLex, compareOn]
  | string s =>
    obtain ⟨t, rfl⟩ := exists_string_of_compareLiteral? h
    have unnamed : (Json.string t).instant? = none := plain.resolve_left (by simp [Literal.isText])
    have texts : compareString t s = o := Option.some.inj h
    rw [← texts, compareString_eq]
    simp [orderKey, kindRank, keyWithin, unnamed, Literal.orderKey, compare_def, compareLex,
      compareOn]
  | number x =>
    cases a <;> simp only [compareLiteral?, reduceCtorEq, Option.map_eq_some_iff] at h
    obtain ⟨y, read, rfl⟩ := h
    simp [orderKey, kindRank, keyWithin, instant?, read, Literal.orderKey, compare_def, compareLex,
      compareOn, Binary64.compare]
  | boolean c =>
    cases a <;> simp only [compareLiteral?, reduceCtorEq, Option.some.injEq] at h
    subst h
    simp [orderKey, kindRank, keyWithin, instant?, Literal.orderKey, compare_def, compareLex,
      compareOn, compareBool, compare_natCast]
  | null =>
    cases a <;> simp only [compareLiteral?, reduceCtorEq, Option.some.injEq] at h
    subst h
    exact (compare_eq_iff_eq.mpr rfl).symm
  | list items => cases a <;> cases h

theorem orderKey_lt_of_separates (h : v.Separates a b)
    (plain : v.isText = false ∨ a.instant? = none ∧ b.instant? = none) :
    a.orderKey < b.orderKey := by
  have first : v.isText = false ∨ a.instant? = none := plain.imp_right And.left
  have second : v.isText = false ∨ b.instant? = none := plain.imp_right And.right
  rcases h with ⟨below, same | above⟩ | ⟨same, above⟩
  · have less := compare_lt_iff_lt.mp (compareLiteral?_eq_some below first).symm
    exact less.trans_eq (compare_eq_iff_eq.mp (compareLiteral?_eq_some same second).symm).symm
  · have less := compare_lt_iff_lt.mp (compareLiteral?_eq_some below first).symm
    exact less.trans (compare_gt_iff_gt.mp (compareLiteral?_eq_some above second).symm)
  · have more := compare_gt_iff_gt.mp (compareLiteral?_eq_some above second).symm
    exact (compare_eq_iff_eq.mp (compareLiteral?_eq_some same first).symm).trans_lt more

theorem exists_strings_of_separates {s : String} (h : (Literal.string s).Separates a b) :
    (∃ t, a = .string t) ∧ ∃ t, b = .string t := by
  rcases h with ⟨first, second | second⟩ | ⟨first, second⟩
  all_goals
    exact ⟨exists_string_of_compareLiteral? first, exists_string_of_compareLiteral? second⟩

theorem compareStored_eq_lt_of_orderKey_lt (h : a.orderKey < b.orderKey) :
    compareStored a b = .lt := by
  rw [compareStored_eq_compare, compare_lt_iff_lt]
  exact h

theorem compareStored_of_instant_left {s t : String} {i : Instant}
    (named : (Json.string s).instant? = some i) (unnamed : (Json.string t).instant? = none) :
    compareStored (.string s) (.string t) = .lt := by
  apply compareStored_eq_lt_of_orderKey_lt
  rw [orderKey_of_instant named, lt_iff]
  exact .inl (by simp [orderKey, kindRank, unnamed, Literal.orderKey])

/-- The exact extent to which filters and orders agree. -/
theorem compareStored_eq_lt_iff_of_separates (h : v.Separates a b) :
    compareStored a b = .lt ↔ v.KeepsOrder a b := by
  by_cases text : v.isText = false
  · have less := orderKey_lt_of_separates h (.inl text)
    exact ⟨fun _ => .inl text, fun _ => compareStored_eq_lt_of_orderKey_lt less⟩
  · obtain ⟨s, rfl⟩ : ∃ s, v = .string s := by
      cases v with
      | string s => exact ⟨s, rfl⟩
      | _ => exact absurd rfl text
    obtain ⟨⟨t, rfl⟩, u, rfl⟩ := exists_strings_of_separates h
    cases first : (Json.string t).instant? with
    | none =>
      cases second : (Json.string u).instant? with
      | none =>
        have less := orderKey_lt_of_separates h (.inr ⟨first, second⟩)
        exact ⟨fun _ => .inr (.inl second), fun _ => compareStored_eq_lt_of_orderKey_lt less⟩
      | some j =>
        have behind : compareStored (.string t) (.string u) = .gt := by
          rw [compareStored_eq_compare, compare_gt_iff_gt, ← compare_lt_iff_lt,
            ← compareStored_eq_compare]
          exact compareStored_of_instant_left second first
        simp [behind, Literal.KeepsOrder, first, second, text]
    | some i =>
      cases second : (Json.string u).instant? with
      | none => simp [compareStored_of_instant_left first second, Literal.KeepsOrder, second]
      | some j => simp [compareStored, Literal.KeepsOrder, first, second, text]

end Json

end DocQuery
