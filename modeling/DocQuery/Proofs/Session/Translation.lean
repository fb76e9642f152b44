import DocQuery.Session.Request
import DocQuery.Store.Comparison
import Mathlib.Logic.Basic

/-!
# Filters of store queries

A store query asks for a conjunction. A filter is refused exactly when it is none, or when the
store lacks an operator of it. Otherwise its conditions become the filters, in order, and a
document matches all of them when the tree holds for it.
-/

namespace DocQuery

namespace Predicate

/-- An alternative stands somewhere in the tree, at the root or below it. -/
inductive HasAlternative : Predicate → Prop where
  | here (left right : Predicate) : HasAlternative (.joined .either left right)
  | inLeft {connective left} (right : Predicate) : HasAlternative left →
      HasAlternative (.joined connective left right)
  | inRight {connective right} (left : Predicate) : HasAlternative right →
      HasAlternative (.joined connective left right)

/-- The truth of the tree for a document, from the truth of its conditions. -/
def holdsFor (d : Document) : Predicate → Bool
  | .condition c => c.accepts d
  | .joined .both left right => left.holdsFor d && right.holdsFor d
  | .joined .either left right => left.holdsFor d || right.holdsFor d

theorem hasAlternative_both {left right : Predicate} :
    (Predicate.joined .both left right).HasAlternative ↔
      left.HasAlternative ∨ right.HasAlternative := by
  constructor
  · intro h
    cases h with
    | inLeft _ h => exact .inl h
    | inRight _ h => exact .inr h
  · rintro (h | h)
    · exact .inLeft right h
    · exact .inRight left h

theorem storeFilters_both_eq_ok_iff {capabilities : Capabilities} {left right : Predicate}
    {filters : List Condition} :
    (Predicate.joined .both left right).storeFilters capabilities = .ok filters ↔
      ∃ ls rs, left.storeFilters capabilities = .ok ls ∧
        right.storeFilters capabilities = .ok rs ∧ filters = ls ++ rs := by
  constructor
  · intro h
    cases hl : left.storeFilters capabilities with
    | error e => simp [storeFilters, hl, bind, Except.bind] at h
    | ok ls =>
      cases hr : right.storeFilters capabilities with
      | error e => simp [storeFilters, hl, hr, bind, Except.bind] at h
      | ok rs =>
        simp only [storeFilters, hl, hr, bind, Except.bind, pure, Except.pure,
          Except.ok.injEq] at h
        exact ⟨ls, rs, rfl, rfl, h.symm⟩
  · rintro ⟨ls, rs, hl, hr, rfl⟩
    simp [storeFilters, hl, hr, bind, Except.bind, pure, Except.pure]

/-- A store expresses a tree without alternatives by its conditions, and nothing else. -/
theorem storeFilters_eq_ok_iff (capabilities : Capabilities) (p : Predicate)
    (filters : List Condition) :
    p.storeFilters capabilities = .ok filters ↔
      ¬p.HasAlternative ∧ (∀ c ∈ p.conditions, capabilities.supports c.operator = true) ∧
        filters = p.conditions := by
  induction p generalizing filters with
  | condition c =>
    have plain : ¬(Predicate.condition c).HasAlternative := fun h => by cases h
    by_cases run : capabilities.supports c.operator = true
    · simp [storeFilters, conditions, run, plain, @eq_comm _ filters]
    · simp [storeFilters, conditions, run]
  | joined connective left right ihLeft ihRight =>
    cases connective with
    | either =>
      have root : (Predicate.joined .either left right).HasAlternative := .here left right
      simp [storeFilters, root]
    | both =>
      rw [hasAlternative_both, storeFilters_both_eq_ok_iff]
      simp only [conditions, List.mem_append]
      constructor
      · rintro ⟨ls, rs, hl, hr, rfl⟩
        obtain ⟨noLeft, allLeft, rfl⟩ := (ihLeft ls).mp hl
        obtain ⟨noRight, allRight, rfl⟩ := (ihRight rs).mp hr
        refine ⟨not_or.mpr ⟨noLeft, noRight⟩, ?_, rfl⟩
        rintro c (m | m)
        · exact allLeft c m
        · exact allRight c m
      · rintro ⟨no, all, rfl⟩
        have hl := (ihLeft left.conditions).mpr
          ⟨fun h => no (.inl h), fun c m => all c (.inl m), rfl⟩
        have hr := (ihRight right.conditions).mpr
          ⟨fun h => no (.inr h), fun c m => all c (.inr m), rfl⟩
        exact ⟨left.conditions, right.conditions, hl, hr, rfl⟩

theorem holdsFor_eq_all {p : Predicate} (h : ¬p.HasAlternative) (d : Document) :
    p.holdsFor d = p.conditions.all fun c => c.accepts d := by
  induction p with
  | condition c => simp [holdsFor, conditions]
  | joined connective left right ihLeft ihRight =>
    cases connective with
    | either => exact absurd (.here left right) h
    | both =>
      rw [hasAlternative_both, not_or] at h
      rw [holdsFor, ihLeft h.1, ihRight h.2, conditions, List.all_append]

end Predicate

namespace Plan

def conditions (plan : Plan) : List Condition :=
  (plan.filter.map Predicate.conditions).getD []

def Expressible (plan : Plan) (capabilities : Capabilities) : Prop :=
  ∀ p, plan.filter = some p → ¬p.HasAlternative ∧
    ∀ c ∈ p.conditions, capabilities.supports c.operator = true

def request (plan : Plan) (settings : Settings) (filters : List Condition) : StoreQuery where
  scope := plan.source.scope settings.basePath
  filters := filters
  order := if plan.isCount then none else plan.order
  limit := if plan.isCount then none else plan.limit

def storeFilters (plan : Plan) (capabilities : Capabilities) :
    Except UnsupportedError (List Condition) :=
  match plan.filter with
  | some p => p.storeFilters capabilities
  | none => .ok []

theorem storeQuery_eq_map (plan : Plan) (settings : Settings) (capabilities : Capabilities) :
    plan.storeQuery settings capabilities =
      (plan.storeFilters capabilities).map (plan.request settings) := by
  unfold storeQuery storeFilters request
  cases plan.filter with
  | none => by_cases count : plan.isCount = true <;> simp [count] <;> rfl
  | some p =>
    cases h : p.storeFilters capabilities with
    | error e => simp [h]; rfl
    | ok filters => by_cases count : plan.isCount = true <;> simp [h, count] <;> rfl

theorem storeQuery_eq_ok_iff (plan : Plan) (settings : Settings) (capabilities : Capabilities)
    (q : StoreQuery) :
    plan.storeQuery settings capabilities = .ok q ↔
      plan.Expressible capabilities ∧ q = plan.request settings plan.conditions := by
  rw [storeQuery_eq_map]
  unfold storeFilters Expressible conditions
  cases plan.filter with
  | none => simp [Except.map, @eq_comm _ q]
  | some p =>
    simp only [Option.map_some, Option.getD_some, Option.some.injEq, forall_eq']
    constructor
    · intro h
      cases hp : p.storeFilters capabilities with
      | error e => rw [hp] at h; cases h
      | ok filters =>
        obtain ⟨no, all, rfl⟩ := (p.storeFilters_eq_ok_iff capabilities filters).mp hp
        rw [hp] at h
        cases h
        exact ⟨⟨no, all⟩, rfl⟩
    · rintro ⟨⟨no, all⟩, rfl⟩
      rw [(p.storeFilters_eq_ok_iff capabilities p.conditions).mpr ⟨no, all, rfl⟩]
      rfl

theorem Expressible.mono {plan : Plan} {fewer more : Capabilities}
    (h : plan.Expressible fewer) (wider : fewer.operators ⊆ more.operators) :
    plan.Expressible more := by
  intro p e
  refine ⟨(h p e).1, fun c m => ?_⟩
  have run := (h p e).2 c m
  simp only [Capabilities.supports, List.contains_iff_mem] at run ⊢
  exact wider run

/-- Translation refuses exactly the filters with an alternative or an operator that the store does
not run; otherwise the filters accept the documents that the tree holds for. -/
theorem storeQuery_preserves_filter (plan : Plan) (settings : Settings)
    (capabilities : Capabilities) :
    ((∃ e, plan.storeQuery settings capabilities = .error e) ↔
      ∃ p, plan.filter = some p ∧ (p.HasAlternative ∨
        ∃ c ∈ p.conditions, capabilities.supports c.operator = false)) ∧
    ∀ q, plan.storeQuery settings capabilities = .ok q →
      q.filters = plan.conditions ∧
      (∀ d : Document, (q.filters.all fun c => c.accepts d) =
        plan.filter.all fun p => p.holdsFor d) ∧
      ∀ more : Capabilities, capabilities.operators ⊆ more.operators →
        plan.storeQuery settings more = .ok q := by
  constructor
  · have refused : (∃ e, plan.storeQuery settings capabilities = .error e) ↔
        ¬plan.Expressible capabilities := by
      constructor
      · rintro ⟨e, h⟩ ok
        have := (plan.storeQuery_eq_ok_iff settings capabilities _).mpr ⟨ok, rfl⟩
        rw [h] at this
        cases this
      · intro no
        cases h : plan.storeQuery settings capabilities with
        | error e => exact ⟨e, rfl⟩
        | ok q => exact absurd ((plan.storeQuery_eq_ok_iff settings capabilities q).mp h).1 no
    rw [refused]
    simp only [Expressible, not_forall, not_and_or, not_not, exists_prop, Bool.not_eq_true]
  · intro q h
    obtain ⟨ok, rfl⟩ := (plan.storeQuery_eq_ok_iff settings capabilities q).mp h
    refine ⟨rfl, fun d => ?_, fun more wider => ?_⟩
    · cases found : plan.filter with
      | none => simp [request, conditions, found]
      | some p => simp [request, conditions, found, Predicate.holdsFor_eq_all (ok p found).1]
    · exact (plan.storeQuery_eq_ok_iff settings more _).mpr ⟨ok.mono wider, rfl⟩

end Plan

end DocQuery
