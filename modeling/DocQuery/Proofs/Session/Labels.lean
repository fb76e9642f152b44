import DocQuery.Proofs.Query.Atoms
import DocQuery.Proofs.Query.WellFormed
import DocQuery.Proofs.Session.Columns
import Mathlib.Data.List.Nodup

/-!
# Labels of columns

Two items of a select list that differ have labels that differ, save for one pair: a field between
backquotes can have the very name that a call is shown under. Where no field of the list has such
a name, each item has a column of its own.
-/

namespace DocQuery

namespace FieldName

theorem display_inj {name other : String} (resolved : name ≠ userIdentity)
    (otherResolved : other ≠ userIdentity) : display name = display other ↔ name = other := by
  refine ⟨fun same => ?_, congrArg display⟩
  by_cases named : name = identity
  · by_cases otherNamed : other = identity
    · exact named.trans otherNamed.symm
    · simp only [display, named, otherNamed, if_true, if_false] at same
      exact absurd same.symm otherResolved
  · by_cases otherNamed : other = identity
    · simp only [display, named, otherNamed, if_true, if_false] at same
      exact absurd same resolved
    · simpa only [display, named, otherNamed, if_false] using same

end FieldName

namespace SelectItem

/-- The item is a field, and its name is the label of the other item, which is a call. -/
def IsNamedAs (item : SelectItem) : SelectItem → Prop
  | .call function argument => item = .field (SelectItem.call function argument).label
  | .field _ | .countAll | .wildcard => False

instance : DecidableRel IsNamedAs
  | item, .call function argument =>
    inferInstanceAs (Decidable (item = .field (SelectItem.call function argument).label))
  | _, .field _ | _, .countAll | _, .wildcard => inferInstanceAs (Decidable False)

theorem IsNamedAs.exists_call {item other : SelectItem} (h : item.IsNamedAs other) :
    ∃ function argument, other = .call function argument ∧ item = .field other.label := by
  cases other with
  | call function argument => exact ⟨function, argument, rfl, h⟩
  | field name => exact h.elim
  | countAll => exact h.elim
  | wildcard => exact h.elim

theorem toList_label_call (function : SelectFunction) (argument : String) :
    (SelectItem.call function argument).label.toList =
      function.name.toList ++ '(' :: ((FieldName.display argument).toList ++ [')']) := by
  simp [label]

theorem label_field (name : String) : (SelectItem.field name).label = FieldName.display name := rfl

theorem label_call_inj {function other : SelectFunction} {argument name : String} :
    (SelectItem.call function argument).label = (SelectItem.call other name).label ↔
      function = other ∧ FieldName.display argument = FieldName.display name := by
  constructor
  · intro same
    have texts := congrArg String.toList same
    simp only [toList_label_call] at texts
    have functions : function = other := by
      cases function <;> cases other
      case toDate.toDate | prettyJson.prettyJson => rfl
      all_goals exact absurd (congrArg List.head? texts) (by simp [SelectFunction.name])
    subst functions
    have behind := List.tail_eq_of_cons_eq (List.append_cancel_left texts)
    exact ⟨rfl, String.toList_inj.mp (List.append_cancel_right behind)⟩
  · rintro ⟨rfl, same⟩
    simp only [label, same]

theorem display_eq_label_call_iff {name : String} (function : SelectFunction) (argument : String) :
    FieldName.display name = (SelectItem.call function argument).label ↔
      name = (SelectItem.call function argument).label := by
  have last (text : String) (same : text = (SelectItem.call function argument).label) :
      text.toList.getLast? = some ')' := by
    rw [same, toList_label_call, ← List.cons_append, ← List.append_assoc, List.getLast?_concat]
  by_cases named : name = FieldName.identity
  · subst named
    constructor
    · intro same
      exact absurd (last _ same) (by decide)
    · intro same
      exact absurd (last _ same) (by decide)
  · simp only [FieldName.display, named, if_false]

/-- The only items that share a label are a call and a field that is named like it. -/
theorem label_eq_iff {item other : SelectItem} (column : item.IsColumn)
    (otherColumn : other.IsColumn)
    (resolved : ∀ name ∈ item.fieldNames, name ≠ FieldName.userIdentity)
    (otherResolved : ∀ name ∈ other.fieldNames, name ≠ FieldName.userIdentity) :
    item.label = other.label ↔ item = other ∨ item.IsNamedAs other ∨ other.IsNamedAs item := by
  cases item with
  | countAll => exact column.elim
  | wildcard => exact column.elim
  | field name =>
    have own := resolved name (List.mem_singleton_self name)
    cases other with
    | countAll => exact otherColumn.elim
    | wildcard => exact otherColumn.elim
    | field otherName =>
      have otherOwn := otherResolved otherName (List.mem_singleton_self otherName)
      simp [label_field, FieldName.display_inj own otherOwn, IsNamedAs]
    | call function argument =>
      simp [label_field, display_eq_label_call_iff, IsNamedAs]
  | call function argument =>
    have own := resolved argument (List.mem_singleton_self argument)
    cases other with
    | countAll => exact otherColumn.elim
    | wildcard => exact otherColumn.elim
    | field name =>
      simp [label_field, eq_comm, display_eq_label_call_iff, IsNamedAs]
    | call otherFunction otherArgument =>
      have otherOwn := otherResolved otherArgument (List.mem_singleton_self otherArgument)
      simp [label_call_inj, FieldName.display_inj own otherOwn, IsNamedAs]

theorem IsNamedAs.not_isIdentifier {item other : SelectItem} (h : item.IsNamedAs other) :
    ∃ name, item = .field name ∧ FieldName.isIdentifier name.toList = false := by
  obtain ⟨function, argument, rfl, rfl⟩ := h.exists_call
  refine ⟨_, rfl, Bool.eq_false_iff.mpr fun identifier => ?_⟩
  have opening : '(' ∈ (SelectItem.call function argument).label.toList := by
    simp [toList_label_call]
  exact absurd (isNameChar_of_isIdentifier identifier _ opening) (by decide)

theorem IsNamedAs.ne {item other : SelectItem} (h : item.IsNamedAs other) : item ≠ other := by
  obtain ⟨function, argument, rfl, rfl⟩ := h.exists_call
  exact nofun

theorem AreWellFormed.isColumn {items : List SelectItem} (h : AreWellFormed items)
    {item other : SelectItem} (m : item ∈ items) (m' : other ∈ items) (differ : item ≠ other) :
    item.IsColumn := by
  cases item with
  | field name => trivial
  | call function argument => trivial
  | countAll =>
    simp only [h.count m, List.mem_singleton] at m'
    exact absurd m'.symm differ
  | wildcard =>
    simp only [h.wildcard m, List.mem_singleton] at m'
    exact absurd m'.symm differ

end SelectItem

theorem eraseDups_map {α β : Type} [BEq α] [LawfulBEq α] [BEq β] [LawfulBEq β] {f : α → β}
    {l : List α} (apart : ∀ a ∈ l, ∀ b ∈ l, f a = f b → a = b) :
    (l.map f).eraseDups = l.eraseDups.map f := by
  induction l using List.reverseRecOn with
  | nil => rfl
  | append_singleton l a ih =>
    have before := ih fun b m c m' =>
      apart b (List.mem_append_left _ m) c (List.mem_append_left _ m')
    simp only [List.map_append, List.eraseDups_append, before]
    by_cases m : a ∈ l
    · have m' : f a ∈ l.map f := List.mem_map_of_mem m
      simp [List.removeAll, m, m']
    · have m' : f a ∉ l.map f := by
        intro m'
        obtain ⟨b, inside, same⟩ := List.mem_map.mp m'
        have again := apart b (List.mem_append_left _ inside) a (by simp) same
        exact m (again ▸ inside)
      simp [List.removeAll, List.eraseDups_cons, m, m']

namespace Document

section Full

variable (d : Document) (settings : Settings) {select : List SelectItem}
  (columns : ∀ item ∈ select, item.IsColumn) (full : ∀ item ∈ select, d.lacks item = false)

include columns full

/-- In the row of a document that has all the fields, each item has a key of its own exactly if
the labels tell the items apart. -/
theorem keys_row_eq_iff :
    (d.row settings select).keys = select.eraseDups.map SelectItem.label ↔
      ∀ item ∈ select, ∀ other ∈ select, item.label = other.label → item = other := by
  have all : (select.filter fun item => !d.lacks item) = select := by
    refine List.filter_eq_self.mpr fun item m => ?_
    simp only [full item m, Bool.not_false]
  have keys := d.keys_row settings columns
  simp only [all] at keys
  constructor
  · intro own item m other m' same
    have distinct : (select.eraseDups.map SelectItem.label).Nodup :=
      own ▸ (d.row settings select).nodup
    exact List.inj_on_of_nodup_map distinct (List.mem_eraseDups.mpr m) (List.mem_eraseDups.mpr m')
      same
  · intro apart
    exact keys.trans (eraseDups_map apart)

theorem get?_row_of_own {item : SelectItem} (m : item ∈ select)
    (own : ∀ other ∈ select, other.label = item.label → other = item) :
    ∃ v, (d.row settings [item]).get? item.label = some v ∧
      (d.row settings select).get? item.label = some v := by
  obtain ⟨after, before, cut, last⟩ := List.eq_append_cons_of_mem (List.mem_reverse.mpr m)
  have place : select = before.reverse ++ item :: after.reverse := by
    simpa using congrArg List.reverse cut
  subst place
  refine d.get?_row_of_last settings columns (full item m) fun later behind same => ?_
  have again := own later (by simp [List.mem_reverse.mp behind]) same
  exact absurd (List.mem_reverse.mp behind) (again ▸ last)

end Full

/-- Two items of a select list that differ have different labels, unless one is a field that is
named like the other, a call. -/
theorem labels_differ {query : String} {plan : Plan} (parsed : Plan.parse query = .ok plan) :
    (∀ item ∈ plan.select, ∀ other ∈ plan.select, item ≠ other →
      (item.label = other.label ↔ item.IsNamedAs other ∨ other.IsNamedAs item)) ∧
    (∀ item other : SelectItem, item.IsNamedAs other →
      ∃ name, item = .field name ∧ FieldName.isIdentifier name.toList = false) ∧
    ((∃ item, plan.select = [item]) ∨ ∀ item ∈ plan.select, item.IsColumn) ∧
    ∀ (d : Document) (settings : Settings), (∀ item ∈ plan.select, item.IsColumn) →
      (∀ item ∈ plan.select, d.lacks item = false) →
      ((d.row settings plan.select).keys = plan.select.eraseDups.map SelectItem.label ↔
        ∀ item ∈ plan.select, ∀ other ∈ plan.select, ¬item.IsNamedAs other) ∧
      ∀ item ∈ plan.select,
        (∀ other ∈ plan.select, ¬item.IsNamedAs other ∧ ¬other.IsNamedAs item) →
        ∃ v, (d.row settings [item]).get? item.label = some v ∧
          (d.row settings plan.select).get? item.label = some v := by
  have formed := Plan.isWellFormed_of_parse parsed
  have resolved : ∀ item ∈ plan.select, ∀ name ∈ item.fieldNames,
      name ≠ FieldName.userIdentity := by
    intro item m name named
    refine formed.resolved name (List.mem_append_left _ (List.mem_append_left _ ?_))
    exact List.mem_flatMap.mpr ⟨item, m, named⟩
  have labels : ∀ item ∈ plan.select, ∀ other ∈ plan.select, item ≠ other →
      (item.label = other.label ↔ item.IsNamedAs other ∨ other.IsNamedAs item) := by
    intro item m other m' differ
    have same := SelectItem.label_eq_iff (formed.select.isColumn m m' differ)
      (formed.select.isColumn m' m differ.symm) (resolved item m) (resolved other m')
    simpa [differ] using same
  refine ⟨labels, fun _ _ h => h.not_isIdentifier, ?_, ?_⟩
  · by_cases alone : ∃ item, plan.select = [item]
    · exact .inl alone
    · refine .inr fun item m => ?_
      by_contra single
      cases item with
      | field name => exact single trivial
      | call function argument => exact single trivial
      | countAll => exact alone ⟨_, formed.select.count m⟩
      | wildcard => exact alone ⟨_, formed.select.wildcard m⟩
  · intro d settings columns full
    refine ⟨(d.keys_row_eq_iff settings columns full).trans ⟨?_, ?_⟩, ?_⟩
    · intro apart item m other m' named
      have differ := named.ne
      exact differ (apart item m other m' ((labels item m other m' differ).mpr (.inl named)))
    · intro unnamed item m other m' same
      by_contra differ
      rcases (labels item m other m' differ).mp same with named | named
      · exact unnamed item m other m' named
      · exact unnamed other m' item m named
    · intro item m unnamed
      refine d.get?_row_of_own settings columns full m fun other m' same => ?_
      by_contra differ
      rcases (labels other m' item m differ).mp same with named | named
      · exact (unnamed other m').2 named
      · exact (unnamed other m').1 named

def namePlan : Plan where
  select := [.field "name", .call .toDate "name", .field FieldName.identity]
  source := .collection "users"
  filter := none
  order := none
  limit := none

theorem labels_differ_of_name :
    Plan.parse "SELECT name, toDate(name), id FROM users" = .ok namePlan ∧
    (SelectItem.field "name").label ≠ (SelectItem.call .toDate "name").label ∧
    (ada.row {} namePlan.select).keys = ["name", "toDate(name)", "id"] ∧
    ∃ v, (ada.row {} [.field "name"]).get? "name" = some v ∧
      (ada.row {} namePlan.select).get? "name" = some v := by
  have parsed : Plan.parse "SELECT name, toDate(name), id FROM users" = .ok namePlan := by rfl
  have columns : ∀ item ∈ namePlan.select, item.IsColumn := by simp [namePlan, SelectItem.IsColumn]
  have full : ∀ item ∈ namePlan.select, ada.lacks item = false := by decide
  have unnamed : ∀ item ∈ namePlan.select, ∀ other ∈ namePlan.select,
      ¬item.IsNamedAs other := by decide
  obtain ⟨labels, -, -, rows⟩ := labels_differ parsed
  obtain ⟨keys, values⟩ := rows ada {} columns full
  have first : SelectItem.field "name" ∈ namePlan.select := by decide
  refine ⟨parsed, ?_, keys.mpr unnamed, values _ first fun other m => ?_⟩
  · intro same
    rcases (labels _ first _ (by decide) (by decide)).mp same with named | named
    · exact unnamed _ first _ (by decide) named
    · exact unnamed _ (by decide) _ first named
  · exact ⟨unnamed _ first other m, unnamed other m _ first⟩

/-- Such a field and its call fill one column, which shows the call. -/
theorem field_shares_label_of_call :
    let d : Document := ⟨"d", .ofPairs [("x", .number (.integer 1)),
      ("toDate(x)", .number (.integer 2))]⟩
    let select : List SelectItem := [.field "toDate(x)", .call .toDate "x"]
    (Plan.parse "SELECT `toDate(x)`, toDate(x) FROM t").map Plan.select = .ok select ∧
    (∀ item ∈ select, d.lacks item = false) ∧
    select.map SelectItem.label = ["toDate(x)", "toDate(x)"] ∧
    (d.row {} select).pairs = [("toDate(x)", .number (.integer 1))] ∧
    ¬∀ (query : String) (plan : Plan), Plan.parse query = .ok plan →
      ∀ item ∈ plan.select, ∀ other ∈ plan.select, item ≠ other → item.label ≠ other.label := by
  intro d select
  refine ⟨by rfl, by decide, by rfl, by rfl, ?_⟩
  intro apart
  exact apart "SELECT `toDate(x)`, toDate(x) FROM t" _ (by rfl) (.field "toDate(x)") (by decide)
    (.call .toDate "x") (by decide) (by decide) (by rfl)

end Document

end DocQuery
