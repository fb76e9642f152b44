import DocQuery.Proofs.Session.Conditions
import DocQuery.Proofs.Store.Complements

/-!
# Answers to complementary conditions

The answers to conditions on one field, and to one value or list of values, fit together: what one
of them leaves out the other shows, and no document is shown by both.
-/

namespace DocQuery

namespace Collections

def documentsAt (store : Collections) (settings : Settings) (path : String) : List Document :=
  listed (store.documents (Path.trim (Path.resolve path settings.basePath)))

/-- The query for a condition answers with the rows of these documents, whatever columns it asks
for. -/
def Answers (store : Collections) (settings : Settings) (path field : String) (op : Operator)
    (value : String) (docs : List Document) : Prop :=
  ∀ select, SelectItem.AreWritable select → select ≠ [.countAll] →
    execute (store.toStore .all) settings (conditionQuery select path field op value) =
      .ok (.rows (docs.map (Document.row settings select)))

/-- The documents that match a condition as it is written; none for what is no condition. -/
def matched (store : Collections) (settings : Settings) (path field : String) (op : Operator)
    (value : String) : List Document :=
  match Condition.ofTokens field op.symbol value with
  | .ok c => (store.documentsAt settings path).filter
      (Condition.mk (FieldName.resolve field) op c.value).accepts
  | .error _ => []

section Written

variable (store : Collections) (settings : Settings) (path : String) {field : String}
  (name : IsNameText field.toList) (op : Operator)

include name

omit name in
theorem matched_sublist (value : String) :
    (store.matched settings path field op value).Sublist (store.documentsAt settings path) := by
  unfold matched
  cases Condition.ofTokens field op.symbol value with
  | ok c => exact List.filter_sublist
  | error e => exact List.nil_sublist _

theorem matched_scalar (single : op.takesList = false) {text : String}
    (h : IsLiteralText text.toList) : store.matched settings path field op text =
      (store.documentsAt settings path).filter
        (Condition.mk (FieldName.resolve field) op (.ofText text.toList)).accepts := by
  unfold matched
  rw [Condition.ofTokens_scalar name single h.isScalarText]

theorem matched_list (several : op.takesList = true) {texts : List String}
    (h : ∀ text ∈ texts, IsLiteralText text.toList) :
    store.matched settings path field op (listTextOf texts) =
      (store.documentsAt settings path).filter (Condition.mk (FieldName.resolve field) op
        (.list (texts.map fun text => .ofText text.toList))).accepts := by
  unfold matched
  rw [Condition.ofTokens_listTextOf h name several]

theorem mem_matched_arrayContainsAny {texts : List String}
    (h : ∀ text ∈ texts, IsLiteralText text.toList) (d : Document) :
    d ∈ store.matched settings path field .arrayContainsAny (listTextOf texts) ↔
      ∃ text ∈ texts, d ∈ store.matched settings path field .arrayContains text := by
  have each (text : String) (m : text ∈ texts) :=
    store.matched_scalar settings path name .arrayContains rfl (h text m)
  rw [store.matched_list settings path name .arrayContainsAny rfl h, List.mem_filter,
    Condition.accepts_arrayContainsAny, List.any_map, List.any_eq_true]
  constructor
  · rintro ⟨inside, text, m, holds⟩
    refine ⟨text, m, ?_⟩
    rw [each text m]
    exact List.mem_filter.mpr ⟨inside, holds⟩
  · rintro ⟨text, m, there⟩
    rw [each text m, List.mem_filter] at there
    exact ⟨there.1, text, m, there.2⟩

variable {path} (usable : IsPathWord path.toList)
  (named : (Scope.collection (Path.resolve path settings.basePath)).IsValid)

include usable named

theorem answers_scalar (single : op.takesList = false) {text : String}
    (h : IsLiteralText text.toList) :
    store.Answers settings path field op text (store.matched settings path field op text) := by
  intro select writable columns
  have parsed := Plan.parse_scalar writable usable name single h
  rw [store.execute_matching settings columns parsed named,
    store.matched_scalar settings path name op single h]
  rfl

theorem answers_list (several : op.takesList = true) {texts : List String}
    (h : ∀ text ∈ texts, IsLiteralText text.toList) :
    store.Answers settings path field op (listTextOf texts)
      (store.matched settings path field op (listTextOf texts)) := by
  intro select writable columns
  have parsed := Plan.parse_list writable usable name several h
  rw [store.execute_matching settings columns parsed named,
    store.matched_list settings path name op several h]
  rfl

end Written

/-- `IN` and `NOT IN`, `=` and `!=` divide the documents that have the field with a value; the
orders divide those whose field is comparable with the literal. -/
theorem complementary_conditions_partition (store : Collections) (settings : Settings)
    {path field : String} (usable : IsPathWord path.toList)
    (named : (Scope.collection (Path.resolve path settings.basePath)).IsValid)
    (name : IsNameText field.toList) :
    let docs := store.documentsAt settings path
    let stored := FieldName.resolve field
    ∃ matched : Operator → String → List Document,
      (∀ op value, (matched op value).Sublist docs) ∧
      (∀ texts : List String, (∀ text ∈ texts, IsLiteralText text.toList) →
        let list := listTextOf texts
        (∀ op : Operator, op.takesList = true →
          store.Answers settings path field op list (matched op list)) ∧
        IsPartition [matched .isIn list, matched .notIn list] (docs.filter
          (Document.hasValue stored (texts.any fun text => (Literal.ofText text.toList).isNull))) ∧
        (∀ d ∈ matched .notIn list, d.hasValue stored false = true) ∧
        ∀ d, d ∈ matched .arrayContainsAny list ↔ ∃ text ∈ texts, d ∈ matched .arrayContains text) ∧
      ∀ text : String, IsLiteralText text.toList →
        let v := Literal.ofText text.toList
        (∀ op : Operator, op.takesList = false →
          store.Answers settings path field op text (matched op text)) ∧
        IsPartition [matched .equal text, matched .notEqual text]
          (docs.filter (Document.hasValue stored v.isNull)) ∧
        (∀ d ∈ matched .notEqual text, d.hasValue stored false = true) ∧
        IsPartition [matched .less text, matched .equal text, matched .greater text]
          (docs.filter (Document.isComparable stored v)) ∧
        IsPartition [matched .less text, matched .equal text] (matched .lessOrEqual text) ∧
        IsPartition [matched .greater text, matched .equal text]
          (matched .greaterOrEqual text) := by
  intro docs stored
  refine ⟨store.matched settings path field, store.matched_sublist settings path, ?_, ?_⟩
  · intro texts literals
    have shows (op : Operator) (several : op.takesList = true) :=
      store.matched_list settings path name op several literals
    refine ⟨fun op several => store.answers_list settings name op usable named several literals,
      ?_, ?_, store.mem_matched_arrayContainsAny settings path name literals⟩
    · have divided := Condition.isPartition_isIn stored docs
        (texts.map fun text => .ofText text.toList)
      rw [List.any_map] at divided
      rw [shows .isIn rfl, shows .notIn rfl]
      exact divided
    · intro d m
      rw [shows .notIn rfl] at m
      exact Document.hasValue_of_test (List.mem_filter.mp m).2
  · intro text literal
    have shows (op : Operator) (single : op.takesList = false) :=
      store.matched_scalar settings path name op single literal
    refine ⟨fun op single => store.answers_scalar settings name op usable named single literal, ?_⟩
    rw [shows .equal rfl, shows .notEqual rfl, shows .less rfl,
      shows .greater rfl, shows .lessOrEqual rfl,
      shows .greaterOrEqual rfl]
    have below : Ordering.lt ≠ .eq := by decide
    have above : Ordering.gt ≠ .eq := by decide
    refine ⟨Condition.isPartition_equal stored docs _, ?_,
      Condition.isPartition_orders stored docs _, ?_, ?_⟩
    · intro d m
      exact Document.hasValue_of_test (List.mem_filter.mp m).2
    · exact Condition.isPartition_orEqual stored docs below _
        (fun _ => Condition.accepts_less) fun _ => Condition.accepts_lessOrEqual
    · exact Condition.isPartition_orEqual stored docs above _
        (fun _ => Condition.accepts_greater) fun _ => Condition.accepts_greaterOrEqual

def pets : Collections :=
  ((((empty.insert "pets" "a" (.object [("age", .number (.integer 30))])).insert
    "pets" "b" (.object [("age", .null)])).insert
    "pets" "c" (.object [("age", .string "old, or) NOT IN")])).insert
    "pets" "d" (.object [])).insert
    "pets" "e" (.object [("age", .array [.null, .number (.integer 30)])])

def petAges : List String := ["30", "null", "'old, or) NOT IN'"]

theorem isLiteralText_petAges : ∀ text ∈ petAges, IsLiteralText text.toList := by
  have number : IsLiteralText "30".toList := .word (by decide) (by decide) (by decide)
  have null : IsLiteralText "null".toList := .word (by decide) (by decide) (by decide)
  have quoted : "'old, or) NOT IN'".toList = Text.quotation '\'' "old, or) NOT IN".toList := by
    decide
  have text : IsLiteralText "'old, or) NOT IN'".toList := by
    rw [quoted]
    exact .quotation (by decide) (by decide)
  exact List.forall_mem_cons.mpr ⟨number, List.forall_mem_cons.mpr ⟨null,
    List.forall_mem_singleton.mpr text⟩⟩

theorem complementary_conditions_partition_of_pets :
    IsPathWord "pets".toList ∧ (Scope.collection (Path.resolve "pets" none)).IsValid ∧
    IsNameText "age".toList ∧ (∀ text ∈ petAges, IsLiteralText text.toList) ∧
    (∃ among others, pets.Answers {} "pets" "age" .isIn "(30, null, 'old, or) NOT IN')" among ∧
      pets.Answers {} "pets" "age" .notIn "(30, null, 'old, or) NOT IN')" others ∧
      ((among ++ others).map Document.id).Perm ["a", "b", "c", "e"]) ∧
    ∃ less equal greater, pets.Answers {} "pets" "age" .less "30" less ∧
      pets.Answers {} "pets" "age" .equal "30" equal ∧
      pets.Answers {} "pets" "age" .greater "30" greater ∧
      ((less ++ equal ++ greater).map Document.id).Perm ["a"] := by
  have usable : IsPathWord "pets".toList := ⟨by decide, by decide, by decide, by decide⟩
  have named : (Scope.collection (Path.resolve "pets" none)).IsValid := by
    show Path.namesCollection (Path.trim (Path.resolve "pets" none)) = true
    decide
  have name : IsNameText "age".toList := ⟨by decide, by decide⟩
  have literals := isLiteralText_petAges
  have list : listTextOf petAges = "(30, null, 'old, or) NOT IN')" := by decide
  obtain ⟨matched, -, lists, scalars⟩ :=
    complementary_conditions_partition pets {} usable named name
  obtain ⟨answers, divided, -, -⟩ := lists petAges literals
  obtain ⟨single, -, -, orders, -, -⟩ := scalars "30" (literals "30" (List.mem_cons_self ..))
  rw [list] at answers divided
  refine ⟨usable, named, name, literals, ⟨_, _, answers .isIn rfl, answers .notIn rfl, ?_⟩,
    _, _, _, single .less rfl, single .equal rfl, single .greater rfl, ?_⟩
  · have aged : ((pets.documentsAt {} "pets").filter (Document.hasValue "age"
        (petAges.any fun text => (Literal.ofText text.toList).isNull))).map Document.id =
          ["a", "b", "c", "e"] := by decide +kernel
    have ids := divided.covers.map Document.id
    rw [List.flatten_cons, List.flatten_cons, List.flatten_nil, List.append_nil] at ids
    exact aged ▸ ids
  · have comparable : ((pets.documentsAt {} "pets").filter (Document.isComparable "age"
        (.ofText "30".toList))).map Document.id = ["a"] := by decide +kernel
    have ids := orders.covers.map Document.id
    rw [List.flatten_cons, List.flatten_cons, List.flatten_cons, List.flatten_nil,
      List.append_nil, ← List.append_assoc] at ids
    exact comparable ▸ ids

end Collections

end DocQuery
