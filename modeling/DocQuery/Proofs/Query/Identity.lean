import DocQuery.Proofs.Query.WellFormed

/-!
# The identity of documents in plans

Users call the identity of documents `id`, stores keep it under a reserved name. A plan goes from
the one to the other at every place where it names a field, and nowhere else. What may change is
said by relations between two plans that are alike but for the names at those places; a change of
names is the only way to come from the one plan to the other.
-/

namespace DocQuery

section Alike

variable (names : String → String → Prop)

/-- One kind of item, with the same function for calls; the fields are related. -/
inductive SelectItem.AlikeBut : SelectItem → SelectItem → Prop
  | field {name other : String} (h : names name other) : AlikeBut (.field name) (.field other)
  | call (function : SelectFunction) {argument other : String} (h : names argument other) :
      AlikeBut (.call function argument) (.call function other)
  | countAll : AlikeBut .countAll .countAll
  | wildcard : AlikeBut .wildcard .wildcard

/-- One tree, with the same connectives, operators and values; the fields are related. -/
inductive Predicate.AlikeBut : Predicate → Predicate → Prop
  | condition {field other : String} (operator : Operator) (value : Literal)
      (h : names field other) :
      AlikeBut (.condition ⟨field, operator, value⟩) (.condition ⟨other, operator, value⟩)
  | joined (connective : Connective) {left left' right right' : Predicate}
      (hl : AlikeBut left left') (hr : AlikeBut right right') :
      AlikeBut (.joined connective left right) (.joined connective left' right')

/-- One direction; the fields are related. -/
inductive OrderBy.AlikeBut : OrderBy → OrderBy → Prop
  | order {field other : String} (direction : Direction) (h : names field other) :
      AlikeBut ⟨field, direction⟩ ⟨other, direction⟩

/-- The same source and limit; items, filter and order are alike but for their fields. -/
structure Plan.AlikeBut (plan other : Plan) : Prop where
  select : List.Forall₂ (SelectItem.AlikeBut names) plan.select other.select
  source : other.source = plan.source
  filter : Option.Rel (Predicate.AlikeBut names) plan.filter other.filter
  order : Option.Rel (OrderBy.AlikeBut names) plan.order other.order
  limit : other.limit = plan.limit

end Alike

section Graphs

variable {α β : Type} {related : α → β → Prop} {f : α → β}
  (graph : ∀ a b, related a b ↔ f a = b)

include graph

theorem forall₂_iff_map_eq (l : List α) (l' : List β) :
    List.Forall₂ related l l' ↔ l.map f = l' := by
  constructor
  · intro h
    induction h with
    | nil => rfl
    | cons h _ ih => rw [List.map_cons, (graph _ _).mp h, ih]
  · rintro rfl
    induction l with
    | nil => exact .nil
    | cons a l ih => exact .cons ((graph _ _).mpr rfl) ih

theorem rel_iff_map_eq (x : Option α) (y : Option β) : Option.Rel related x y ↔ x.map f = y := by
  constructor
  · intro h
    cases h with
    | none => rfl
    | some h => exact congrArg some ((graph _ _).mp h)
  · rintro rfl
    cases x with
    | none => exact .none
    | some a => exact .some ((graph _ _).mpr rfl)

end Graphs

section Graph

variable {names : String → String → Prop} {f : String → String}
  (graph : ∀ name other, names name other ↔ f name = other)

include graph

theorem SelectItem.alikeBut_iff (item other : SelectItem) :
    item.AlikeBut names other ↔ item.mapField f = other := by
  constructor
  · intro h
    cases h with
    | field h => exact congrArg SelectItem.field ((graph _ _).mp h)
    | call function h => exact congrArg (SelectItem.call function) ((graph _ _).mp h)
    | countAll => rfl
    | wildcard => rfl
  · rintro rfl
    cases item with
    | field name => exact .field ((graph _ _).mpr rfl)
    | call function argument => exact .call function ((graph _ _).mpr rfl)
    | countAll => exact .countAll
    | wildcard => exact .wildcard

theorem Predicate.alikeBut_iff (p other : Predicate) :
    p.AlikeBut names other ↔ p.mapFields f = other := by
  constructor
  · intro h
    induction h with
    | condition operator value h => rw [mapFields, (graph _ _).mp h]
    | joined connective _ _ ihl ihr => rw [mapFields, ihl, ihr]
  · rintro rfl
    induction p with
    | condition c => exact .condition c.operator c.value ((graph _ _).mpr rfl)
    | joined connective left right ihl ihr => exact .joined connective ihl ihr

theorem OrderBy.alikeBut_iff (o other : OrderBy) :
    o.AlikeBut names other ↔ { o with field := f o.field } = other := by
  constructor
  · intro h
    cases h with
    | order direction h => exact congrArg (OrderBy.mk · direction) ((graph _ _).mp h)
  · rintro rfl
    exact .order o.direction ((graph _ _).mpr rfl)

/-- If names are related to the names that a function gives, the one plan alike to a plan is the
plan with its fields changed by the function. -/
theorem Plan.alikeBut_iff (plan other : Plan) :
    plan.AlikeBut names other ↔ plan.mapFields f = other := by
  have items := forall₂_iff_map_eq (SelectItem.alikeBut_iff graph) plan.select other.select
  have filters := rel_iff_map_eq (Predicate.alikeBut_iff graph) plan.filter other.filter
  have orders := rel_iff_map_eq (OrderBy.alikeBut_iff graph) plan.order other.order
  constructor
  · rintro ⟨select, source, filter, order, limit⟩
    rw [mapFields, items.mp select, filters.mp filter, orders.mp order, ← source, ← limit]
  · rintro rfl
    exact ⟨items.mpr rfl, rfl, filters.mpr rfl, orders.mpr rfl, rfl⟩

end Graph

theorem SelectItem.mapField_mapField (f g : String → String) (item : SelectItem) :
    (item.mapField f).mapField g = item.mapField (g ∘ f) := by
  cases item <;> rfl

theorem Predicate.mapFields_mapFields (f g : String → String) (p : Predicate) :
    (p.mapFields f).mapFields g = p.mapFields (g ∘ f) := by
  induction p with
  | condition c => rfl
  | joined connective left right ihl ihr => simp only [mapFields, ihl, ihr]

theorem Plan.mapFields_mapFields (f g : String → String) (plan : Plan) :
    (plan.mapFields f).mapFields g = plan.mapFields (g ∘ f) := by
  simp [mapFields, Function.comp_def, SelectItem.mapField_mapField,
    Predicate.mapFields_mapFields]

theorem SelectItem.mapField_of_fixed {f : String → String} {item : SelectItem}
    (fixed : ∀ name ∈ item.fieldNames, f name = name) : item.mapField f = item := by
  cases item with
  | field name => exact congrArg SelectItem.field (fixed name (List.mem_singleton_self name))
  | call function argument =>
    exact congrArg (SelectItem.call function) (fixed argument (List.mem_singleton_self argument))
  | countAll => rfl
  | wildcard => rfl

theorem Predicate.mapFields_of_fixed {f : String → String} {p : Predicate}
    (fixed : ∀ c ∈ p.conditions, f c.field = c.field) : p.mapFields f = p := by
  induction p with
  | condition c => rw [mapFields, fixed c (List.mem_singleton_self c)]
  | joined connective left right ihl ihr =>
    obtain ⟨atLeft, atRight⟩ := List.forall_mem_append.mp fixed
    rw [mapFields, ihl atLeft, ihr atRight]

theorem Plan.mapFields_eq_self_iff (f : String → String) (plan : Plan) :
    plan.mapFields f = plan ↔ ∀ name ∈ plan.fieldNames, f name = name := by
  constructor
  · intro same
    have names : plan.fieldNames.map f = plan.fieldNames := by
      rw [← fieldNames_mapFields, same]
    exact List.map_inj_left.mp (names.trans (List.map_id _).symm)
  · intro fixed
    simp only [fieldNames, List.mem_append, or_imp, forall_and] at fixed
    obtain ⟨⟨select, filter⟩, order⟩ := fixed
    have items : plan.select.map (·.mapField f) = plan.select := by
      refine (List.map_congr_left fun item m => ?_).trans (List.map_id _)
      apply SelectItem.mapField_of_fixed
      intro name named
      exact select name (List.mem_flatMap.mpr ⟨item, m, named⟩)
    have filters : plan.filter.map (·.mapFields f) = plan.filter := by
      cases h : plan.filter with
      | none => rfl
      | some p =>
        have fixed : ∀ c ∈ p.conditions, f c.field = c.field := by
          intro c m
          apply filter
          simp only [h, Option.toList_some, List.flatMap_cons, List.flatMap_nil, List.append_nil]
          exact List.mem_map_of_mem m
        exact congrArg some (Predicate.mapFields_of_fixed fixed)
    have orders : (plan.order.map fun o => { o with field := f o.field }) = plan.order := by
      cases h : plan.order with
      | none => rfl
      | some o =>
        have fixed : f o.field = o.field := order o.field (by simp [h])
        rw [Option.map_some, fixed]
    rw [mapFields, items, filters, orders]

namespace FieldName

/-- Only the name that users have for the identity is stored under another name. -/
def IsStoredAs (name stored : String) : Prop :=
  name = userIdentity ∧ stored = identity ∨ name ≠ userIdentity ∧ stored = name

theorem isStoredAs_iff (name stored : String) : IsStoredAs name stored ↔ resolve name = stored := by
  by_cases user : name = userIdentity
  · simp [IsStoredAs, resolve, user, eq_comm]
  · simp [IsStoredAs, resolve, user, eq_comm]

theorem resolve_resolve (name : String) : resolve (resolve name) = resolve name :=
  if_neg (resolve_ne name)

theorem display_resolve (name : String) : display (resolve name) = display name := by
  by_cases user : name = userIdentity
  · subst user
    decide
  · rw [resolve, if_neg user]

theorem display_resolve_eq_iff (name : String) :
    display (resolve name) = name ↔ name ≠ identity := by
  rw [display_resolve]
  constructor
  · rintro same rfl
    exact absurd same (by decide)
  · intro other
    exact if_neg other

end FieldName

theorem SelectItem.label_resolve (item : SelectItem) :
    (item.mapField FieldName.resolve).label = item.label := by
  cases item with
  | field name => exact FieldName.display_resolve name
  | call function argument => simp only [mapField, label, FieldName.display_resolve]
  | countAll => rfl
  | wildcard => rfl

namespace Plan

/-- Giving the identity its stored name changes the fields that name it and nothing else; showing
the names undoes it unless the plan had the stored name in it before. -/
theorem identity_is_resolved_in_fields_alone (plan : Plan) :
    (∀ other, plan.resolveIdentity = other ↔ plan.AlikeBut FieldName.IsStoredAs other) ∧
    plan.resolveIdentity.resolveIdentity = plan.resolveIdentity ∧
    (plan.resolveIdentity.mapFields FieldName.display = plan ↔
      FieldName.identity ∉ plan.fieldNames) ∧
    plan.resolveIdentity.select.map SelectItem.label = plan.select.map SelectItem.label := by
  refine ⟨?_, ?_, ?_, ?_⟩
  · intro other
    exact (plan.alikeBut_iff FieldName.isStoredAs_iff other).symm
  · apply (mapFields_eq_self_iff _ _).mpr
    intro name m
    rw [resolveIdentity, fieldNames_mapFields] at m
    obtain ⟨field, -, rfl⟩ := List.mem_map.mp m
    exact FieldName.resolve_resolve field
  · rw [resolveIdentity, mapFields_mapFields, mapFields_eq_self_iff]
    simp only [Function.comp_apply, FieldName.display_resolve_eq_iff]
    constructor
    · intro apart stored
      exact apart _ stored rfl
    · rintro absent name m rfl
      exact absent m
  · rw [resolveIdentity, mapFields, List.map_map]
    apply List.map_congr_left
    intro item _
    exact item.label_resolve

/-- A value that reads `id` is no name of a field. -/
example : (Predicate.condition ⟨"id", .isIn, .list [.string "id"]⟩).mapFields FieldName.resolve =
    .condition ⟨"__name__", .isIn, .list [.string "id"]⟩ := rfl

end Plan

end DocQuery
