import DocQuery.Query.Condition
import Mathlib.Logic.Basic

/-!
# Tokens of a chain

Where a list of tokens is cut, and what the reading of a cut list is made of.
-/

namespace DocQuery

/-- The cut of tokens is at a connective with tokens on either side, and no earlier one is. -/
structure CutAt (tokens left right : List String) (connective : Connective) : Prop where
  someLeft : left ≠ []
  someRight : right ≠ []
  quiet : ∀ u ∈ left.tail, Connective.ofToken? u = none
  found : ∃ t, tokens = left ++ t :: right ∧ Connective.ofToken? t = some connective

theorem splitConnective?_of_cutAt {tokens left right : List String} {connective : Connective}
    (h : CutAt tokens left right connective) :
    splitConnective? tokens = some (left, connective, right) := by
  obtain ⟨someLeft, someRight, quiet, t, rfl, found⟩ := h
  obtain ⟨r, right, rfl⟩ := List.exists_cons_of_ne_nil someRight
  induction left with
  | nil => exact absurd rfl someLeft
  | cons first left ih =>
    cases left with
    | nil =>
      show splitConnective? (first :: t :: r :: right) = _
      rw [splitConnective?, found]
    | cons second left =>
      have none := quiet second (List.mem_cons_self ..)
      obtain ⟨third, rest, more⟩ : ∃ third rest, left ++ t :: r :: right = third :: rest := by
        cases left <;> exact ⟨_, _, rfl⟩
      have next := ih (by simp) fun u m => quiet u (List.mem_cons_of_mem _ m)
      rw [List.cons_append, more] at next
      rw [List.cons_append, List.cons_append, more, splitConnective?, none, next]
      rfl

theorem cutAt_of_splitConnective? {tokens left right : List String} {connective : Connective}
    (h : splitConnective? tokens = some (left, connective, right)) :
    CutAt tokens left right connective := by
  induction tokens generalizing left with
  | nil => cases h
  | cons first tail ih =>
    rcases tail with _ | ⟨second, _ | ⟨third, rest⟩⟩
    · cases h
    · cases h
    · rw [splitConnective?] at h
      cases found : Connective.ofToken? second with
      | some c =>
        rw [found] at h
        cases h
        exact ⟨by simp, by simp, by simp, second, rfl, found⟩
      | none =>
        rw [found] at h
        obtain ⟨⟨l, c, r⟩, later, e⟩ := Option.map_eq_some_iff.mp h
        cases e
        obtain ⟨some, someRight, quiet, t, split, ht⟩ := ih later
        refine ⟨by simp, someRight, ?_, t, by rw [List.cons_append, split], ht⟩
        intro u m
        obtain ⟨b, l, rfl⟩ := List.exists_cons_of_ne_nil some
        rcases List.mem_cons.mp m with rfl | m
        · rw [← (List.cons.inj split).1]
          exact found
        · exact quiet u m

/-- A cut is at the first connective with a token on either side. -/
theorem splitConnective?_eq_some_iff {tokens left right : List String} {connective : Connective} :
    splitConnective? tokens = some (left, connective, right) ↔
      CutAt tokens left right connective :=
  ⟨cutAt_of_splitConnective?, splitConnective?_of_cutAt⟩

namespace Predicate

theorem ofTokens_three (field operator value : String) :
    ofTokens [field, operator, value] =
      (Condition.ofTokens field operator value).map .condition := by
  rw [ofTokens]

theorem ofTokens_of_split {tokens left right : List String} {connective : Connective}
    (h : tokens.length ≠ 3)
    (cut : splitConnective? tokens = some (left, connective, right)) :
    ofTokens tokens = (ofTokens left).bind fun l =>
      (ofTokens right).map fun r => .joined connective l r := by
  rw [ofTokens]
  · split
    · next l c r found =>
      rw [cut] at found
      cases found
      rfl
    · next found =>
      rw [cut] at found
      cases found
  · rintro _ _ _ rfl
    exact h rfl

theorem ofTokens_of_no_split {tokens : List String} (h : tokens.length ≠ 3)
    (cut : splitConnective? tokens = none) : ofTokens tokens = .error (.noCondition tokens) := by
  rw [ofTokens]
  · split
    · next found =>
      rw [cut] at found
      cases found
    · rfl
  · rintro _ _ _ rfl
    exact h rfl

end Predicate

end DocQuery
