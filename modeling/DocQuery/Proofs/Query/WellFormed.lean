import DocQuery.Proofs.Query.Grammar
import DocQuery.Proofs.Query.Reading

/-!
# Well-formed plans

What every plan that is read off a query has in common, whatever the query says: which items stand
alone, how a filter is nested, which values its operators have, and what its fields and its source
can be called. Each part is what one reader makes of one clause; the names are resolved last.
-/

namespace DocQuery

open Text

namespace SelectItem

def fieldNames : SelectItem → List String
  | .field name => [name]
  | .call _ argument => [argument]
  | .countAll => []
  | .wildcard => []

theorem fieldNames_mapField (f : String → String) (item : SelectItem) :
    (item.mapField f).fieldNames = item.fieldNames.map f := by
  cases item <;> rfl

/-- Items of which the count of all documents and the star stand alone. -/
structure AreWellFormed (items : List SelectItem) : Prop where
  some : items ≠ []
  count : .countAll ∈ items → items = [.countAll]
  wildcard : .wildcard ∈ items → items = [.wildcard]

theorem eq_singleton_of_mem {items : List SelectItem} {item : SelectItem}
    (short : ¬1 < items.length) (m : item ∈ items) : items = [item] := by
  match items, short, m with
  | [_], _, m => rw [List.mem_singleton.mp m]
  | _ :: _ :: _, short, _ => exact absurd (by simp) short

theorem mapM_ne_nil {ε α β : Type} {f : α → Except ε β} {xs : List α} {ys : List β}
    (some : xs ≠ []) (read : xs.mapM f = .ok ys) : ys ≠ [] := by
  obtain ⟨x, xs, rfl⟩ := List.exists_cons_of_ne_nil some
  rw [List.mapM_cons] at read
  obtain ⟨y, -, read⟩ := exists_of_bind_eq_ok read
  obtain ⟨rest, -, read⟩ := exists_of_bind_eq_ok read
  obtain rfl := Except.ok.inj read
  exact List.cons_ne_nil y rest

theorem areWellFormed_of_listOfText {text : List Char} {items : List SelectItem}
    (read : listOfText text = .ok items) : AreWellFormed items := by
  unfold listOfText at read
  split at read
  · cases read
  · obtain ⟨list, mapped, read⟩ := exists_of_bind_eq_ok read
    split at read
    · cases read
    · next count =>
      split at read
      · cases read
      · next wildcard =>
        obtain rfl := Except.ok.inj read
        refine ⟨mapM_ne_nil (splitOutside_ne_nil _ _ _ _) mapped, ?_, ?_⟩
        · intro m
          exact eq_singleton_of_mem (fun long => count ⟨long, m⟩) m
        · intro m
          exact eq_singleton_of_mem (fun long => wildcard ⟨long, m⟩) m

theorem AreWellFormed.mapField {items : List SelectItem} (h : AreWellFormed items)
    (f : String → String) : AreWellFormed (items.map (·.mapField f)) where
  some := by simpa using h.some
  count := by
    intro m
    obtain ⟨item, m, same⟩ := List.mem_map.mp m
    cases item with
    | countAll =>
      rw [h.count m]
      rfl
    | _ => cases same
  wildcard := by
    intro m
    obtain ⟨item, m, same⟩ := List.mem_map.mp m
    cases item with
    | wildcard =>
      rw [h.wildcard m]
      rfl
    | _ => cases same

end SelectItem

def Source.name : Source → String
  | .collection path => path
  | .group name => name

/-- One word, which for a group is no path. -/
structure Source.IsWellFormed (source : Source) : Prop where
  some : source.name ≠ ""
  plain : ∀ c ∈ source.name.toList, isBlank c = false
  group : ∀ name, source = .group name → '/' ∉ name.toList

theorem Source.isWellFormed_of_ofText {text : List Char} {source : Source}
    (read : ofText text = .ok source) : source.IsWellFormed := by
  have word {w : List Char} (m : w ∈ words text) :
      String.ofList w ≠ "" ∧ ∀ c ∈ (String.ofList w).toList, isBlank c = false := by
    obtain ⟨some, plain⟩ := of_mem_words m
    rw [String.toList_ofList]
    exact ⟨by simpa using some, plain⟩
  unfold ofText at read
  split at read
  · cases read
  · next path found =>
    obtain rfl := Except.ok.inj read
    obtain ⟨some, plain⟩ := word (found ▸ List.mem_singleton_self path)
    exact ⟨some, plain, nofun⟩
  · next keyword name found =>
    split at read
    · split at read
      · cases read
      · next slash =>
        obtain rfl := Except.ok.inj read
        obtain ⟨some, plain⟩ := word (found ▸ List.mem_pair.mpr (.inr rfl))
        refine ⟨some, plain, ?_⟩
        intro name same
        cases same
        rwa [String.toList_ofList]
    · cases read
  · cases read

theorem Literal.isList_ofText (text : List Char) : (ofText text).isList = false := by
  unfold ofText ofBareText
  split
  · rfl
  · split
    · rfl
    · split_ifs <;> rfl

/-- The operators on lists have a list, all others a scalar, and no list holds another. -/
structure Condition.IsWellFormed (c : Condition) : Prop where
  kind : c.value.isList = c.operator.takesList
  flat : ∀ items, c.value = .list items → ∀ v ∈ items, v.isList = false

theorem Literal.exists_texts_of_listOfText? {text : List Char} {v : Literal}
    (read : listOfText? text = some v) :
    ∃ texts : List (List Char), v = .list (texts.map .ofText) := by
  unfold listOfText? at read
  dsimp only at read
  split_ifs at read
  · exact ⟨[], (Option.some.inj read).symm⟩
  · refine ⟨(splitOutside .none (· == ',') .outside text.tail.dropLast).map trim, ?_⟩
    rw [List.map_map]
    exact (Option.some.inj read).symm

theorem Literal.flat_of_listOfText? {text : List Char} {v : Literal}
    (read : listOfText? text = some v) :
    v.isList = true ∧ ∀ items, v = .list items → ∀ w ∈ items, w.isList = false := by
  obtain ⟨texts, rfl⟩ := exists_texts_of_listOfText? read
  refine ⟨rfl, ?_⟩
  rintro items same w m
  cases same
  obtain ⟨item, -, rfl⟩ := List.mem_map.mp m
  exact isList_ofText item

theorem Condition.isWellFormed_of_ofTokens {field operator value : String} {c : Condition}
    (read : ofTokens field operator value = .ok c) : c.IsWellFormed := by
  unfold ofTokens at read
  split at read
  · cases read
  · next op _ =>
    dsimp only at read
    split at read
    · next takes =>
      split at read
      · next list found =>
        obtain rfl := Except.ok.inj read
        obtain ⟨isList, flat⟩ := Literal.flat_of_listOfText? found
        exact ⟨isList.trans takes.symm, flat⟩
      · cases read
    · next takes =>
      split at read
      · cases read
      · obtain rfl := Except.ok.inj read
        have scalar := Literal.isList_ofText value.toList
        refine ⟨scalar.trans (eq_false_of_ne_true takes).symm, ?_⟩
        intro items same
        dsimp only at same
        rw [same] at scalar
        cases scalar

namespace Predicate

/-- Nested to the right, with well-formed conditions. -/
structure IsWellFormed (p : Predicate) : Prop where
  nested : p.IsRightNested
  conditions : ∀ c ∈ p.conditions, c.IsWellFormed

theorem isWellFormed_of_ofTokens {tokens : List String} {p : Predicate}
    (read : ofTokens tokens = .ok p) : p.IsWellFormed := by
  obtain ⟨links, -, tree⟩ := isTreeOf_of_ofTokens read
  refine ⟨tree.nested, ?_⟩
  intro c m
  obtain ⟨i, found⟩ := List.getElem?_of_mem m
  obtain ⟨field, operator, value, -, -, -, condition⟩ := tree.conditions i c found
  exact Condition.isWellFormed_of_ofTokens condition

theorem conditions_mapFields (f : String → String) (p : Predicate) :
    (p.mapFields f).conditions = p.conditions.map fun c => { c with field := f c.field } := by
  induction p with
  | condition c => rfl
  | joined k left right ihl ihr => simp [mapFields, conditions, ihl, ihr]

theorem IsRightNested.mapFields {p : Predicate} (h : p.IsRightNested) (f : String → String) :
    (p.mapFields f).IsRightNested := by
  induction p with
  | condition c => trivial
  | joined k left right _ ih =>
    obtain ⟨⟨c, rfl⟩, nested⟩ := h
    exact ⟨⟨_, rfl⟩, ih nested⟩

theorem IsWellFormed.mapFields {p : Predicate} (h : p.IsWellFormed) (f : String → String) :
    (p.mapFields f).IsWellFormed where
  nested := h.nested.mapFields f
  conditions := by
    intro c m
    rw [conditions_mapFields] at m
    obtain ⟨d, inside, rfl⟩ := List.mem_map.mp m
    have formed := h.conditions d inside
    exact ⟨formed.kind, formed.flat⟩

end Predicate

theorem FieldName.resolve_ne (name : String) : resolve name ≠ userIdentity := by
  unfold resolve
  split
  · decide
  · assumption

namespace Plan

def fieldNames (plan : Plan) : List String :=
  plan.select.flatMap (·.fieldNames) ++
    plan.filter.toList.flatMap (fun p => p.conditions.map (·.field)) ++
    plan.order.toList.map (·.field)

theorem fieldNames_mapFields (f : String → String) (plan : Plan) :
    (plan.mapFields f).fieldNames = plan.fieldNames.map f := by
  have select : (plan.select.map (·.mapField f)).flatMap (·.fieldNames) =
      (plan.select.flatMap (·.fieldNames)).map f := by
    simp only [List.flatMap_map, List.map_flatMap, SelectItem.fieldNames_mapField]
  have filter : (plan.filter.map (·.mapFields f)).toList.flatMap
        (fun p => p.conditions.map (·.field)) =
      (plan.filter.toList.flatMap fun p => p.conditions.map (·.field)).map f := by
    cases plan.filter with
    | none => rfl
    | some p => simp [Predicate.conditions_mapFields]
  have order : ((plan.order.map fun o => { o with field := f o.field }).toList.map (·.field)) =
      (plan.order.toList.map (·.field)).map f := by
    cases plan.order <;> rfl
  unfold fieldNames mapFields
  rw [List.map_append, List.map_append, ← select, ← filter, ← order]

/-- What holds of every plan that is read off a query. -/
structure IsWellFormed (plan : Plan) : Prop where
  select : SelectItem.AreWellFormed plan.select
  count : plan.isCount = true → plan.order = none
  source : plan.source.IsWellFormed
  filter : ∀ filter ∈ plan.filter, filter.IsWellFormed
  resolved : ∀ name ∈ plan.fieldNames, name ≠ FieldName.userIdentity

theorem isCount_iff {plan : Plan} : plan.isCount = true ↔ plan.select = [.countAll] := beq_iff_eq

theorem isCount_of_isCount_mapFields {f : String → String} {plan : Plan}
    (count : (plan.mapFields f).isCount = true) : plan.isCount = true := by
  obtain ⟨item, alone, same⟩ := List.map_eq_singleton_iff.mp (isCount_iff.mp count)
  rw [isCount_iff, alone]
  cases item with
  | countAll => rfl
  | _ => cases same

theorem isWellFormed_of_parse {query : String} {plan : Plan} (parsed : parse query = .ok plan) :
    plan.IsWellFormed := by
  obtain ⟨-, texts, shown, -, read, apart, rfl⟩ := (parse_eq_ok_iff rfl).mp parsed
  refine ⟨(SelectItem.areWellFormed_of_listOfText read.select).mapField _, ?_,
    Source.isWellFormed_of_ofText read.source, ?_, ?_⟩
  · intro count
    rw [isCount_of_isCount_mapFields count, Bool.true_and, Option.isSome_eq_false_iff] at apart
    exact Option.map_eq_none_iff.mpr (Option.isNone_iff_eq_none.mp apart)
  · intro filter m
    obtain ⟨named, found, rfl⟩ := Option.map_eq_some_iff.mp m
    obtain ⟨tokens, tree⟩ := read.exists_tokens found
    exact (Predicate.isWellFormed_of_ofTokens tree).mapFields _
  · intro name m
    rw [resolveIdentity, fieldNames_mapFields] at m
    obtain ⟨field, -, rfl⟩ := List.mem_map.mp m
    exact FieldName.resolve_ne field

end Plan

end DocQuery
