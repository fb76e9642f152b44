import DocQuery.Proofs.Query.Chain
import DocQuery.Query.Plan
import Mathlib.Data.List.Forall2

/-!
# One value in place of another

Two lists of tokens that differ in one value token are cut at the same connectives: both are no
predicate, or their trees have one shape and differ in that value alone.
-/

namespace DocQuery

/-- Both fail, or both succeed with related results. -/
inductive SameOutcome {ε α β : Type} (related : α → β → Prop) : Except ε α → Except ε β → Prop where
  | ok {a : α} {b : β} : related a b → SameOutcome related (.ok a) (.ok b)
  | error (e e' : ε) : SameOutcome related (.error e) (.error e')

/-- One literal in place of another, as the whole value or as one item of a list. -/
inductive Literal.Replaced (old new : Literal) : Literal → Literal → Prop where
  | whole : Replaced old new old new
  | item (front back : List Literal) :
      Replaced old new (.list (front ++ old :: back)) (.list (front ++ new :: back))

/-- Trees of one shape, with the same connectives, fields and operators. The values are the same
but in one condition, where one literal is in place of another. -/
inductive Predicate.Replaced (old new : Literal) : Predicate → Predicate → Prop where
  | value {v w : Literal} (field : String) (operator : Operator) : Literal.Replaced old new v w →
      Replaced old new (.condition ⟨field, operator, v⟩) (.condition ⟨field, operator, w⟩)
  | inLeft {left left'} (connective : Connective) (right : Predicate) :
      Replaced old new left left' →
      Replaced old new (.joined connective left right) (.joined connective left' right)
  | inRight {right right'} (connective : Connective) (left : Predicate) :
      Replaced old new right right' →
      Replaced old new (.joined connective left right) (.joined connective left right')

/-- Plans that differ in one value of their filters. -/
structure Plan.Replaced (old new : Literal) (p₁ p₂ : Plan) : Prop where
  select : p₁.select = p₂.select
  source : p₁.source = p₂.source
  order : p₁.order = p₂.order
  limit : p₁.limit = p₂.limit
  filter : ∃ f₁ f₂, p₁.filter = some f₁ ∧ p₂.filter = some f₂ ∧ f₁.Replaced old new f₂

namespace SameOutcome

variable {ε α β α' β' : Type} {related : α → β → Prop} {related' : α' → β' → Prop}

theorem bind {x : Except ε α} {y : Except ε β} {f : α → Except ε α'} {g : β → Except ε β'}
    (h : SameOutcome related x y)
    (step : ∀ a b, related a b → SameOutcome related' (f a) (g b)) :
    SameOutcome related' (x.bind f) (y.bind g) := by
  cases h with
  | ok r => exact step _ _ r
  | error e e' => exact .error e e'

theorem same (x : Except ε α) {f : α → Except ε α'} {g : α → Except ε β'}
    (step : ∀ a, SameOutcome related' (f a) (g a)) :
    SameOutcome related' (x.bind f) (x.bind g) := by
  cases x with
  | error e => exact .error e e
  | ok a => exact step a

theorem refl (x : Except ε α) : SameOutcome Eq x x := by
  cases x with
  | error e => exact .error e e
  | ok a => exact .ok rfl

theorem mapError {ε' : Type} {x : Except ε α} {y : Except ε β} (f : ε → ε')
    (h : SameOutcome related x y) : SameOutcome related (x.mapError f) (y.mapError f) := by
  cases h with
  | ok r => exact .ok r
  | error e e' => exact .error (f e) (f e')

theorem mapM {γ : Type} {f : α → Except ε γ} {g : β → Except ε γ} {xs : List α} {ys : List β}
    (h : List.Forall₂ related xs ys) (step : ∀ x y, related x y → SameOutcome Eq (f x) (g y)) :
    SameOutcome Eq (xs.mapM f) (ys.mapM g) := by
  induction h with
  | nil => exact .ok rfl
  | @cons x y xs ys first _ ih =>
    rw [List.mapM_cons, List.mapM_cons]
    refine bind (step x y first) fun a _ same => bind ih fun as _ same' => ?_
    rw [same, same']
    exact .refl _

end SameOutcome

/-- A token that is neither an operator nor a connective. -/
structure Inert (token : String) : Prop where
  operator : Operator.ofToken? token = none
  connective : Connective.ofToken? token = none

theorem append_cons_eq_append_cons {α : Type} {l r left right : List α} {x t : α}
    (h : l ++ x :: r = left ++ t :: right) (ne : x ≠ t) :
    (∃ mid, l = left ++ t :: mid ∧ right = mid ++ x :: r) ∨
      ∃ mid, left = l ++ x :: mid ∧ r = mid ++ t :: right := by
  rcases List.append_eq_append_iff.mp h with ⟨a, rfl, e⟩ | ⟨a, rfl, e⟩
  · cases a with
    | nil => exact absurd (List.cons.inj e).1 ne
    | cons b a =>
      obtain ⟨rfl, rfl⟩ := List.cons.inj e
      exact .inr ⟨a, rfl, rfl⟩
  · cases a with
    | nil => exact absurd (List.cons.inj e).1.symm ne
    | cons b a =>
      obtain ⟨rfl, rfl⟩ := List.cons.inj e
      exact .inl ⟨a, rfl, rfl⟩

/-- Where a list of tokens is cut does not depend on a token that is no connective. -/
theorem splitConnective?_replace {l r left right : List String} {x y : String}
    {connective : Connective} (hx : Inert x) (hy : Inert y)
    (h : splitConnective? (l ++ x :: r) = some (left, connective, right)) :
    (∃ t mid, l = left ++ t :: mid ∧ Connective.ofToken? t = some connective ∧
        right = mid ++ x :: r ∧
        splitConnective? (l ++ y :: r) = some (left, connective, mid ++ y :: r)) ∨
      ∃ mid, left = l ++ x :: mid ∧
        splitConnective? (l ++ y :: r) = some (l ++ y :: mid, connective, right) := by
  obtain ⟨someLeft, someRight, quiet, t, e, ht⟩ := splitConnective?_eq_some_iff.mp h
  have ne : x ≠ t := by
    rintro rfl
    rw [hx.connective] at ht
    cases ht
  rcases append_cons_eq_append_cons e ne with ⟨mid, rfl, rfl⟩ | ⟨mid, rfl, rfl⟩
  · refine .inl ⟨t, mid, rfl, ht, rfl, splitConnective?_eq_some_iff.mpr ?_⟩
    exact ⟨someLeft, by simp, quiet, t, by simp, ht⟩
  · refine .inr ⟨mid, rfl, splitConnective?_eq_some_iff.mpr ?_⟩
    refine ⟨by simp, someRight, ?_, t, by simp, ht⟩
    intro u m
    cases l with
    | nil => exact quiet u m
    | cons a l =>
      simp only [List.cons_append, List.tail_cons, List.mem_append, List.mem_cons] at m quiet
      rcases m with m | rfl | m
      · exact quiet u (.inl m)
      · exact hy.connective
      · exact quiet u (.inr (.inr m))

theorem splitConnective?_replace_none {l r : List String} {x y : String} (hx : Inert x)
    (hy : Inert y) (h : splitConnective? (l ++ x :: r) = none) :
    splitConnective? (l ++ y :: r) = none := by
  cases found : splitConnective? (l ++ y :: r) with
  | none => rfl
  | some p =>
    obtain ⟨left, connective, right⟩ := p
    rcases splitConnective?_replace hy hx found with ⟨_, _, _, _, _, e⟩ | ⟨_, _, e⟩ <;>
      (rw [h] at e; cases e)

/-- A condition begins after these tokens: there are none, or the last of them is a connective. -/
def ConditionNext (tokens : List String) : Prop :=
  ∀ t ∈ tokens.getLast?, Connective.ofToken? t ≠ none

/-- What follows a connective is where a condition begins only if all the tokens are. -/
theorem not_conditionNext_rest {left mid : List String} {t : String} {connective : Connective}
    (ht : Connective.ofToken? t = some connective) (place : ¬ConditionNext (left ++ t :: mid)) :
    ¬ConditionNext mid := by
  intro next
  apply place
  intro u m
  cases mid with
  | nil =>
    simp only [List.getLast?_append, List.getLast?_singleton, Option.some_or, Option.mem_def,
      Option.some.injEq] at m
    rw [← m, ht]
    simp
  | cons a mid =>
    apply next
    simpa using m

section Replacement

variable {old new : Literal} {x y : String} (hx : Inert x) (hy : Inert y)
  (value : ∀ field operator, SameOutcome
    (fun c d : Condition => (Predicate.condition c).Replaced old new (.condition d))
    (Condition.ofTokens field operator x) (Condition.ofTokens field operator y))

include hx hy value

theorem ofTokens_replaced_three {l r : List String} (place : ¬ConditionNext l)
    (three : (l ++ x :: r).length = 3) :
    SameOutcome (Predicate.Replaced old new) (Predicate.ofTokens (l ++ x :: r))
      (Predicate.ofTokens (l ++ y :: r)) := by
  match l, r, three with
  | [], _, _ => exact absurd (fun t m => by cases m) place
  | [field], [z], _ =>
    simp only [List.singleton_append, Predicate.ofTokens_three, Condition.ofTokens,
      hx.operator, hy.operator]
    exact .error _ _
  | [field, operator], [], _ =>
    simp only [List.cons_append, List.nil_append, Predicate.ofTokens_three]
    refine SameOutcome.bind (value field operator) fun c d h => .ok h
  | [_], [], h => simp at h
  | [_], _ :: _ :: _, h => simp at h
  | [_, _], _ :: _, h => simp at h
  | _ :: _ :: _ :: _, _, h => simp at h

/-- A tree of tokens with one value token in place of another. The induction is on the cuts, which
never leave the value token in front. -/
theorem ofTokens_replaced (l r : List String) (place : ¬ConditionNext l) :
    SameOutcome (Predicate.Replaced old new) (Predicate.ofTokens (l ++ x :: r))
      (Predicate.ofTokens (l ++ y :: r)) := by
  induction size : l.length + r.length using Nat.strongRecOn generalizing l r with
  | _ n ih =>
    by_cases three : (l ++ x :: r).length = 3
    · exact ofTokens_replaced_three hx hy value place three
    · have three' : (l ++ y :: r).length ≠ 3 := by simpa using three
      cases cut : splitConnective? (l ++ x :: r) with
      | none =>
        rw [Predicate.ofTokens_of_no_split three cut,
          Predicate.ofTokens_of_no_split three' (splitConnective?_replace_none hx hy cut)]
        exact .error _ _
      | some p =>
        obtain ⟨left, connective, right⟩ := p
        rcases splitConnective?_replace hx hy cut with
          ⟨t, mid, rfl, ht, rfl, cut'⟩ | ⟨mid, rfl, cut'⟩
        · have smaller := ih (mid.length + r.length)
            (by simp only [List.length_append, List.length_cons] at size; omega) mid r
            (not_conditionNext_rest ht place) rfl
          rw [Predicate.ofTokens_of_split three cut, Predicate.ofTokens_of_split three' cut']
          refine SameOutcome.same _ fun a => SameOutcome.bind smaller fun b c h => ?_
          exact .ok (.inRight connective a h)
        · have length := length_of_splitConnective? cut
          have smaller := ih (l.length + mid.length)
            (by simp only [List.length_append, List.length_cons] at size length; omega) l mid
            place rfl
          rw [Predicate.ofTokens_of_split three cut, Predicate.ofTokens_of_split three' cut']
          refine SameOutcome.bind smaller fun b c h => SameOutcome.same _ fun a => ?_
          exact .ok (.inLeft connective a h)

end Replacement

end DocQuery
