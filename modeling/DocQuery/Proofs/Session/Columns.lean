import DocQuery.Proofs.Json.Fields
import DocQuery.Query.Plan
import DocQuery.Session.Row

/-!
# Columns of rows

A row follows its select list: every item fills the column of its label, save for a field that the
document lacks. A column stands where the first item that fills it stands, and shows what the last
one fills it with.
-/

namespace DocQuery

/-- The item is a field or a call of a function, which fills one column at most. -/
def SelectItem.IsColumn : SelectItem → Prop
  | .field _ | .call _ _ => True
  | .countAll | .wildcard => False

theorem filter_eraseDups {α : Type} [BEq α] [LawfulBEq α] (keep : α → Bool) (l : List α) :
    (l.filter keep).eraseDups = l.eraseDups.filter keep := by
  induction l using List.reverseRecOn with
  | nil => rfl
  | append_singleton l a ih =>
    rw [List.filter_append, List.eraseDups_append, List.eraseDups_append, List.filter_append, ih]
    by_cases kept : keep a = true
    · by_cases m : a ∈ l <;> simp [List.removeAll, List.eraseDups_cons, kept, m]
    · by_cases m : a ∈ l <;> simp [List.removeAll, List.eraseDups_cons, kept, m]

namespace Document

def lacks (d : Document) : SelectItem → Bool
  | .field name => (d.get? name).isNone
  | _ => false

variable (d : Document) (settings : Settings)

theorem not_lacks_identity : d.lacks (.field FieldName.identity) = false := by
  simp [lacks, get?]

/-- An item fills no column, or the one under its label. -/
theorem columns_cases {item : SelectItem} (column : item.IsColumn) :
    d.lacks item = true ∧ d.columns settings item = [] ∨
      d.lacks item = false ∧ ∃ v, d.columns settings item = [(item.label, v)] := by
  cases item with
  | field name =>
    cases found : d.get? name with
    | none => exact .inl ⟨by simp [lacks, found], by simp [Document.columns, found]⟩
    | some v => exact .inr ⟨by simp [lacks, found], v, by simp [Document.columns, found]⟩
  | call function argument =>
    cases function with
    | toDate => exact .inr ⟨rfl, _, rfl⟩
    | prettyJson => exact .inr ⟨rfl, _, rfl⟩
  | countAll => exact column.elim
  | wildcard => exact column.elim

section Columns

variable {select : List SelectItem} (columns : ∀ item ∈ select, item.IsColumn)

include columns

theorem keys_columns : (select.flatMap (d.columns settings)).map Prod.fst =
    (select.filter fun item => !d.lacks item).map SelectItem.label := by
  induction select with
  | nil => rfl
  | cons item rest ih =>
    obtain ⟨column, others⟩ := List.forall_mem_cons.mp columns
    rw [List.flatMap_cons, List.map_append, ih others, List.filter_cons]
    rcases d.columns_cases settings column with ⟨lacked, none⟩ | ⟨shown, v, one⟩
    · rw [lacked, none]
      rfl
    · rw [shown, one]
      rfl

theorem keys_row : (d.row settings select).keys =
    ((select.filter fun item => !d.lacks item).map SelectItem.label).eraseDups := by
  rw [row, Fields.keys_ofPairs, d.keys_columns settings columns]

theorem mem_keys_row_iff {label : String} : label ∈ (d.row settings select).keys ↔
    label ∈ select.map SelectItem.label ∧
      ¬∀ item ∈ select, item.label = label → d.lacks item = true := by
  rw [d.keys_row settings columns, List.mem_eraseDups]
  constructor
  · intro m
    obtain ⟨item, kept, rfl⟩ := List.mem_map.mp m
    obtain ⟨m, shown⟩ := List.mem_filter.mp kept
    refine ⟨List.mem_map_of_mem m, fun lacked => ?_⟩
    rw [lacked item m rfl] at shown
    cases shown
  · rintro ⟨-, shown⟩
    push Not at shown
    obtain ⟨item, m, rfl, kept⟩ := shown
    exact List.mem_map_of_mem (List.mem_filter.mpr ⟨m, by simpa using kept⟩)

/-- When no label is that of a field that is lacking and of an item that is not, the columns stand
in the order in which the labels come first. -/
theorem keys_row_of_alike (alike : ∀ item ∈ select, ∀ other ∈ select, item.label = other.label →
    d.lacks item = d.lacks other) : (d.row settings select).keys =
      (select.map SelectItem.label).eraseDups.filter (· ∈ (d.row settings select).keys) := by
  have kept : ∀ item ∈ select,
      (!d.lacks item) = decide (item.label ∈ (d.row settings select).keys) := by
    intro item m
    have there : item.label ∈ (d.row settings select).keys ↔ d.lacks item = false := by
      rw [d.mem_keys_row_iff settings columns, and_iff_right (List.mem_map_of_mem m)]
      constructor
      · intro shown
        by_contra lacked
        refine shown fun other m' same => ?_
        rw [alike other m' item m same]
        exact eq_true_of_ne_false lacked
      · intro shown lacked
        rw [lacked item m rfl] at shown
        cases shown
    cases lacked : d.lacks item <;> simp [there, lacked]
  have items := congrArg (fun items => (items.map SelectItem.label).eraseDups)
    (List.filter_congr kept)
  rw [← filter_eraseDups, List.filter_map]
  exact (d.keys_row settings columns).trans items

end Columns

theorem get?_row_of_last {before after : List SelectItem} {item : SelectItem}
    (columns : ∀ other ∈ before ++ item :: after, other.IsColumn) (shown : d.lacks item = false)
    (last : ∀ later ∈ after, later.label = item.label → d.lacks later = true) :
    ∃ v, (d.row settings [item]).get? item.label = some v ∧
      (d.row settings (before ++ item :: after)).get? item.label = some v := by
  obtain ⟨-, rest⟩ := List.forall_mem_append.mp columns
  obtain ⟨column, others⟩ := List.forall_mem_cons.mp rest
  have behind : (after.flatMap (d.columns settings)).reverse.lookup item.label = none := by
    apply lookup_eq_none_of_not_mem
    rw [List.map_reverse, List.mem_reverse, d.keys_columns settings others]
    intro m
    obtain ⟨later, kept, same⟩ := List.mem_map.mp m
    obtain ⟨m, filled⟩ := List.mem_filter.mp kept
    rw [last later m same] at filled
    cases filled
  rcases d.columns_cases settings column with ⟨lacked, -⟩ | ⟨-, v, one⟩
  · rw [shown] at lacked
    cases lacked
  · refine ⟨v, ?_, ?_⟩
    · rw [row, Fields.get?_ofPairs, List.flatMap_singleton, one]
      simp
    · rw [row, Fields.get?_ofPairs, List.flatMap_append, List.flatMap_cons, one]
      simp [List.lookup_append, behind]

theorem pairs_row_of_columns {item : SelectItem} {v : Json}
    (one : d.columns settings item = [(item.label, v)]) :
    (d.row settings [item]).pairs = [(item.label, v)] := by
  rw [row, List.flatMap_singleton, one]
  rfl

theorem pairs_row_of_toDate_of_absent {name : String} (absent : d.get? name = none) :
    (d.row settings [.call .toDate name]).pairs =
      [((SelectItem.call .toDate name).label, .null)] := by
  refine d.pairs_row_of_columns settings ?_
  simp [Document.columns, dateOf, absent]

theorem pairs_row_of_prettyJson_of_absent {name : String} (absent : d.get? name = none)
    (field : name ≠ "*") : (d.row settings [.call .prettyJson name]).pairs =
      [((SelectItem.call .prettyJson name).label, .null)] := by
  have other : name ≠ FieldName.identity := by
    rintro rfl
    simp [get?] at absent
  refine d.pairs_row_of_columns settings ?_
  simp [Document.columns, printOf, field, other, absent]

theorem pairs_row_of_toDate_of_other {name : String} {v : Json} (there : d.get? name = some v)
    (other : v.instant? = none) : (d.row settings [.call .toDate name]).pairs =
      [((SelectItem.call .toDate name).label, v)] := by
  refine d.pairs_row_of_columns settings ?_
  simp [Document.columns, dateOf, dateColumn, there, other]

theorem pairs_row_of_all (hidden : settings.includeId = false) :
    (d.row settings [.wildcard]).pairs = d.fields.pairs := by
  have columns : d.columns settings .wildcard = d.fields.pairs := by
    simp [Document.columns, hidden]
  rw [row, List.flatMap_singleton, columns, Fields.pairs_ofPairs]

/-- The keys of a row are the labels of its items, in the order of the items that fill a column;
each has the value that the last item filling it gives alone. -/
theorem row_follows_select {select : List SelectItem} (columns : ∀ item ∈ select, item.IsColumn) :
    (d.row settings select).keys =
      ((select.filter fun item => !d.lacks item).map SelectItem.label).eraseDups ∧
    (∀ label, label ∈ (d.row settings select).keys ↔ label ∈ select.map SelectItem.label ∧
      ¬∀ item ∈ select, item.label = label → d.lacks item = true) ∧
    ((∀ item ∈ select, ∀ other ∈ select, item.label = other.label →
        d.lacks item = d.lacks other) → (d.row settings select).keys =
      (select.map SelectItem.label).eraseDups.filter (· ∈ (d.row settings select).keys)) ∧
    (∀ before item after, select = before ++ item :: after → d.lacks item = false →
      (∀ later ∈ after, later.label = item.label → d.lacks later = true) →
      ∃ v, (d.row settings [item]).get? item.label = some v ∧
        (d.row settings select).get? item.label = some v) ∧
    d.lacks (.field FieldName.identity) = false ∧
    (∀ name, d.get? name = none →
      (d.row settings [.call .toDate name]).pairs =
        [((SelectItem.call .toDate name).label, .null)] ∧
      (name ≠ "*" → (d.row settings [.call .prettyJson name]).pairs =
        [((SelectItem.call .prettyJson name).label, .null)])) ∧
    (∀ name v, d.get? name = some v → v.instant? = none →
      (d.row settings [.call .toDate name]).pairs =
        [((SelectItem.call .toDate name).label, v)]) ∧
    (settings.includeId = false → (d.row settings [.wildcard]).pairs = d.fields.pairs) := by
  refine ⟨d.keys_row settings columns, fun label => d.mem_keys_row_iff settings columns,
    d.keys_row_of_alike settings columns, ?_, d.not_lacks_identity, ?_, ?_,
    d.pairs_row_of_all settings⟩
  · rintro before item after rfl shown last
    exact d.get?_row_of_last settings columns shown last
  · intro name absent
    exact ⟨d.pairs_row_of_toDate_of_absent settings absent,
      d.pairs_row_of_prettyJson_of_absent settings absent⟩
  · intro name v there other
    exact d.pairs_row_of_toDate_of_other settings there other

def ada : Document := ⟨"u1", .ofPairs [("name", .string "Ada")]⟩

def adaSelect : List SelectItem :=
  [.field "nick", .field "name", .call .toDate "name", .field FieldName.identity, .field "name"]

theorem row_follows_select_of_ada :
    (∀ item ∈ adaSelect, item.IsColumn) ∧
    (ada.row {} adaSelect).keys = ["name", "toDate(name)", "id"] ∧
    "nick" ∉ (ada.row {} adaSelect).keys ∧
    (ada.row {} adaSelect).keys =
      ["nick", "name", "toDate(name)", "id"].filter (· ∈ (ada.row {} adaSelect).keys) ∧
    (∃ v, (ada.row {} [.field "name"]).get? "name" = some v ∧
      (ada.row {} adaSelect).get? "name" = some v) ∧
    (ada.row {} [.call .toDate "nick"]).pairs = [("toDate(nick)", .null)] ∧
    (ada.row {} [.call .prettyJson "nick"]).pairs = [("prettyJson(nick)", .null)] ∧
    (ada.row {} [.call .toDate "name"]).pairs = [("toDate(name)", .string "Ada")] ∧
    (ada.row {} [.wildcard]).pairs = [("name", .string "Ada")] := by
  have columns : ∀ item ∈ adaSelect, item.IsColumn := by simp [adaSelect, SelectItem.IsColumn]
  have absent : ada.get? "nick" = none := by rfl
  have other : (Json.string "Ada").instant? = none := by rfl
  have alike : ∀ item ∈ adaSelect, ∀ other ∈ adaSelect, item.label = other.label →
      ada.lacks item = ada.lacks other := by decide
  have last : ∀ later ∈ ([] : List SelectItem), later.label = "name" → ada.lacks later = true :=
    nofun
  obtain ⟨keys, there, order, values, -, calls, dates, all⟩ := ada.row_follows_select {} columns
  have missing : "nick" ∉ (ada.row {} adaSelect).keys := by
    refine fun m => ((there "nick").mp m).2 ?_
    decide
  exact ⟨columns, keys, missing, order alike,
    values (adaSelect.take 4) (.field "name") [] rfl (by rfl) last, (calls "nick" absent).1,
    (calls "nick" absent).2 (by decide), dates "name" _ (by rfl) other, all rfl⟩

theorem column_stands_at_item_that_fills_it :
    let d : Document := ⟨"d", .ofPairs [("a", .string "x")]⟩
    let select : List SelectItem := [.field "toDate(x)", .field "a", .call .toDate "x"]
    (Plan.parse "SELECT `toDate(x)`, a, toDate(x) FROM t").map Plan.select = .ok select ∧
    select.map SelectItem.label = ["toDate(x)", "a", "toDate(x)"] ∧
    (d.row {} select).keys = ["a", "toDate(x)"] ∧
    ¬∀ (d : Document) (settings : Settings) (select : List SelectItem),
      (∀ item ∈ select, item.IsColumn) → (d.row settings select).keys =
        (select.map SelectItem.label).eraseDups.filter (· ∈ (d.row settings select).keys) := by
  intro d select
  have columns : ∀ item ∈ select, item.IsColumn := by simp [select, SelectItem.IsColumn]
  have keys : (d.row {} select).keys = ["a", "toDate(x)"] := by rfl
  refine ⟨by rfl, by rfl, keys, ?_⟩
  intro ordered
  have first := ordered d {} select columns
  rw [keys] at first
  exact absurd first (by decide)

end Document

end DocQuery
