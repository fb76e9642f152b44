import DocQuery.Proofs.Store.Paging

/-!
# Complementary conditions

Some conditions on one field divide the documents among them: a test and its negation divide those
with a value, the three orders divide those whose value is comparable. Documents are divided as
tests divide the elements of any list.
-/

namespace DocQuery

/-- The parts have nothing in common, and together are the whole in another order. -/
structure IsPartition {α : Type} (parts : List (List α)) (whole : List α) : Prop where
  apart : parts.Pairwise List.Disjoint
  covers : parts.flatten.Perm whole

theorem filter_append_filter_perm {α : Type} {p q whole : α → Bool}
    (apart : ∀ a, ¬(p a = true ∧ q a = true)) (either : ∀ a, whole a = (p a || q a)) (l : List α) :
    (l.filter p ++ l.filter q).Perm (l.filter whole) := by
  have divided := List.filter_append_perm p (l.filter whole)
  have first : (l.filter whole).filter p = l.filter p := by
    rw [List.filter_filter]
    congr 1
    funext a
    rw [either a]
    cases p a <;> rfl
  have second : (l.filter whole).filter (fun a => !p a) = l.filter q := by
    rw [List.filter_filter]
    congr 1
    funext a
    rw [either a]
    cases hp : p a with
    | false => cases q a <;> rfl
    | true =>
      have hq : q a = false := Bool.not_eq_true _ ▸ fun hq => apart a ⟨hp, hq⟩
      rw [hq]
      rfl
  rwa [first, second] at divided

/-- Tests that exclude each other divide what passes one of them. The induction is on the tests. -/
theorem isPartition_filter {α : Type} (tests : List (α → Bool)) {whole : α → Bool}
    (apart : tests.Pairwise fun p q => ∀ a, ¬(p a = true ∧ q a = true))
    (covers : ∀ a, whole a = tests.any fun p => p a) (l : List α) :
    IsPartition (tests.map fun p => l.filter p) (l.filter whole) := by
  induction tests generalizing whole with
  | nil =>
    refine ⟨List.Pairwise.nil, ?_⟩
    have none : l.filter whole = [] := by
      rw [List.filter_eq_nil_iff]
      intro a _
      rw [covers a]
      exact Bool.false_ne_true
    rw [none]
    exact List.Perm.nil
  | cons p tests ih =>
    obtain ⟨first, later⟩ := List.pairwise_cons.mp apart
    have rest : IsPartition (tests.map fun q => l.filter q)
        (l.filter fun a => tests.any fun q => q a) := ih later fun _ => rfl
    refine ⟨List.pairwise_cons.mpr ⟨?_, rest.apart⟩, ?_⟩
    · intro part m a here there
      obtain ⟨q, mq, rfl⟩ := List.mem_map.mp m
      exact first q mq a ⟨(List.mem_filter.mp here).2, (List.mem_filter.mp there).2⟩
    · refine (rest.covers.append_left (l.filter p)).trans ?_
      apply filter_append_filter_perm
      · rintro a ⟨hp, any⟩
        obtain ⟨q, mq, hq⟩ := List.any_eq_true.mp any
        exact first q mq a ⟨hp, hq⟩
      · exact covers

theorem isPartition_pair {α : Type} {p q whole : α → Bool}
    (apart : ∀ a, ¬(p a = true ∧ q a = true)) (either : ∀ a, whole a = (p a || q a)) (l : List α) :
    IsPartition [l.filter p, l.filter q] (l.filter whole) := by
  refine isPartition_filter [p, q] (List.pairwise_pair.mpr apart) ?_ l
  intro a
  rw [either a, List.any_cons, List.any_cons, List.any_nil, Bool.or_false]

namespace Literal

def isNull : Literal → Bool
  | .null => true
  | _ => false

end Literal

namespace Document

/-- The document has the field with a value other than null, or with null where that counts. -/
def hasValue (field : String) (orNull : Bool) (d : Document) : Bool :=
  (d.get? field).any fun x => orNull || !x.isNull

theorem not_standing_both {o o' : Ordering} (differ : o ≠ o') (field : String) (v : Literal)
    (d : Document) :
    ¬((d.standing field v == some o) = true ∧ (d.standing field v == some o') = true) := by
  rintro ⟨first, second⟩
  rw [beq_iff_eq] at first second
  exact differ (Option.some.inj (first.symm.trans second))

theorem hasValue_of_test {field : String} {test : Json → Bool} {d : Document}
    (h : (d.get? field).any (fun x => !x.isNull && test x) = true) :
    d.hasValue field false = true := by
  obtain ⟨x, there, holds⟩ := (Option.any_eq_true ..).mp h
  rw [hasValue, there, Option.any_some, Bool.false_or]
  exact (Bool.and_eq_true_iff.mp holds).1

end Document

namespace Condition

theorem equals_null (v : Literal) : equals .null v = v.isNull := by
  cases v <;> rfl

section Divided

variable (field : String) (docs : List Document)

/-- A test of the field's value and its negation, which holds for no null, divide the documents
that have a value; a null counts where the test holds for it. -/
theorem isPartition_test (test : Json → Bool) :
    IsPartition [docs.filter fun d => (d.get? field).any test,
        docs.filter fun d => (d.get? field).any fun x => !x.isNull && !test x]
      (docs.filter (Document.hasValue field (test .null))) := by
  apply isPartition_pair
  · intro d
    rw [Option.any_eq_true, Option.any_eq_true]
    rintro ⟨⟨x, hx, holds⟩, y, hy, fails⟩
    obtain rfl : x = y := Option.some.inj (hx.symm.trans hy)
    rw [holds, Bool.not_true, Bool.and_false] at fails
    cases fails
  · intro d
    unfold Document.hasValue
    cases d.get? field with
    | none => rfl
    | some x =>
      simp only [Option.any_some]
      by_cases null : x = .null
      · rw [null]
        cases test .null <;> rfl
      · have value : x.isNull = false := by
          cases x with
          | null => exact absurd rfl null
          | _ => rfl
        rw [value]
        cases test x <;> simp

theorem isPartition_isIn (items : List Literal) :
    IsPartition [docs.filter (Condition.mk field .isIn (.list items)).accepts,
        docs.filter (Condition.mk field .notIn (.list items)).accepts]
      (docs.filter (Document.hasValue field (items.any Literal.isNull))) := by
  have divided := isPartition_test field docs fun x => items.any (equals x)
  have null : items.any (equals .null) = items.any Literal.isNull :=
    congrArg items.any (funext equals_null)
  rwa [null] at divided

theorem isPartition_equal (v : Literal) :
    IsPartition [docs.filter (Condition.mk field .equal v).accepts,
        docs.filter (Condition.mk field .notEqual v).accepts]
      (docs.filter (Document.hasValue field v.isNull)) := by
  have divided := isPartition_test field docs fun x => equals x v
  rwa [equals_null] at divided

/-- The three orders divide the documents whose value is comparable. -/
theorem isPartition_orders (v : Literal) :
    IsPartition [docs.filter (Condition.mk field .less v).accepts,
        docs.filter (Condition.mk field .equal v).accepts,
        docs.filter (Condition.mk field .greater v).accepts]
      (docs.filter (Document.isComparable field v)) := by
  have less : (Condition.mk field .less v).accepts = fun d => d.standing field v == some .lt :=
    funext fun _ => accepts_less
  have equal : (Condition.mk field .equal v).accepts = fun d => d.standing field v == some .eq :=
    funext fun _ => accepts_equal
  have greater : (Condition.mk field .greater v).accepts =
      fun d => d.standing field v == some .gt := funext fun _ => accepts_greater
  have orders : [Ordering.lt, .eq, .gt].Pairwise (· ≠ ·) := by decide
  rw [less, equal, greater]
  have apart := orders.imp fun differ => Document.not_standing_both differ field v
  refine isPartition_filter ([Ordering.lt, .eq, .gt].map fun o (d : Document) =>
    d.standing field v == some o) (List.pairwise_map.mpr apart) ?_ docs
  intro d
  simp only [Document.isComparable, List.any_map, List.any_cons, List.any_nil, Function.comp_apply]
  rcases d.standing field v with _ | _ | _ | _ <;> rfl

theorem isPartition_orEqual {strict weak : Operator} {o : Ordering} (side : o ≠ .eq) (v : Literal)
    (strictly : ∀ d, (Condition.mk field strict v).accepts d = (d.standing field v == some o))
    (weakly : ∀ d, (Condition.mk field weak v).accepts d =
      (d.standing field v == some o || d.standing field v == some .eq)) :
    IsPartition [docs.filter (Condition.mk field strict v).accepts,
        docs.filter (Condition.mk field .equal v).accepts]
      (docs.filter (Condition.mk field weak v).accepts) := by
  apply isPartition_pair
  · intro d
    rw [strictly, accepts_equal]
    exact Document.not_standing_both side field v d
  · intro d
    rw [strictly, accepts_equal, weakly]

end Divided

theorem accepts_arrayContainsAny (field : String) (items : List Literal) (d : Document) :
    (Condition.mk field .arrayContainsAny (.list items)).accepts d =
      items.any fun v => (Condition.mk field .arrayContains v).accepts d := by
  rw [Bool.eq_iff_iff]
  simp only [accepts, Option.any_eq_true, List.any_eq_true]
  constructor
  · rintro ⟨x, there, holds⟩
    obtain ⟨item, inside, some⟩ := List.any_eq_true.mp holds
    obtain ⟨v, m, same⟩ := List.any_eq_true.mp some
    exact ⟨v, m, x, there, List.any_eq_true.mpr ⟨item, inside, same⟩⟩
  · rintro ⟨v, m, x, there, holds⟩
    obtain ⟨item, inside, same⟩ := List.any_eq_true.mp holds
    refine ⟨x, there, List.any_eq_true.mpr ⟨item, inside, ?_⟩⟩
    exact List.any_eq_true.mpr ⟨v, m, same⟩

end Condition

end DocQuery
