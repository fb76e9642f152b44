import DocQuery.Proofs.Query.Lookup
import DocQuery.Proofs.Session.Conditions

/-!
# Documents by their identities

An identity is a text, and a query compares it with what the text in the query stands for. A text
that stands for itself finds the document of that identity. One that stands for an instant finds
the documents whose identities name the instant, and one that stands for a number, a truth value or
null finds none.
-/

namespace DocQuery

/-- The literal stands for the identity, or for the instant that the identity names. -/
def Literal.names (v : Literal) (id : String) : Bool :=
  match v with
  | .string s => id == s
  | .instant t => (Json.string id).instant? == some t
  | _ => false

theorem Literal.ofBareText_eq_string {text : List Char} {s : String}
    (h : ofBareText text = .string s) : s = String.ofList text := by
  unfold ofBareText at h
  split at h
  · cases h
  · split at h
    · cases h
    · split at h
      · cases h
      · split at h
        · cases h
        · split at h
          · cases h
          · exact (Literal.string.inj h).symm

namespace Condition

theorem equals_string (id : String) (v : Literal) : equals (.string id) v = v.names id := by
  rw [Bool.eq_iff_iff, equals]
  cases v with
  | string s => simp [Json.compareLiteral?, Literal.names, Json.compareString_eq_eq_iff]
  | instant t =>
    cases named : (Json.string id).instant? with
    | none => simp [Json.compareLiteral?, Literal.names, named]
    | some s => simp [Json.compareLiteral?, Literal.names, named, Instant.compare_eq_eq_iff]
  | _ => simp [Json.compareLiteral?, Literal.names]

variable (d : Document)

theorem accepts_equal_identity (v : Literal) :
    (Condition.mk FieldName.identity .equal v).accepts d = v.names d.id :=
  equals_string d.id v

theorem accepts_isIn_identity (items : List Literal) :
    (Condition.mk FieldName.identity .isIn (.list items)).accepts d =
      items.any fun v => v.names d.id := by
  have each : equals (.string d.id) = fun v => v.names d.id := funext (equals_string d.id)
  show items.any (equals (.string d.id)) = _
  rw [each]

end Condition

def identityRow (id : String) : Row := .ofPairs [(FieldName.userIdentity, .string id)]

def identityOutput (ids : List String) : Except QueryError Output :=
  .ok (.rows (ids.map identityRow))

namespace Collections

def identities (store : Collections) (path : String) : List String :=
  (store.documents (Path.trim path)).keys

theorem identities_nodup (store : Collections) (path : String) :
    (store.identities path).Nodup := by
  have apart {a b : String × Fields} (less : a.1 < b.1) : a.1 ≠ b.1 := less.ne
  rw [identities, SortedMap.keys, List.nodup_iff_pairwise_ne, List.pairwise_map]
  exact (store.documents (Path.trim path)).sorted.imp apart

theorem rows_identities (settings : Settings) (docs : List Document) :
    docs.map (Document.row settings [.field FieldName.identity]) =
      (docs.map Document.id).map identityRow := by
  rw [List.map_map]
  rfl

theorem rows_listed (settings : Settings) (docs : SortedMap Fields) {c : Condition}
    {p : String → Bool} (matching : ∀ d : Document, c.accepts d = p d.id) :
    ((listed docs).filter c.accepts).map (Document.row settings [.field FieldName.identity]) =
      (docs.keys.filter p).map identityRow := by
  have kept : docs.pairs.filter (c.accepts ∘ fun entry => ⟨entry.1, entry.2⟩) =
      docs.pairs.filter (p ∘ Prod.fst) :=
    List.filter_congr fun entry _ => matching ⟨entry.1, entry.2⟩
  rw [rows_identities, listed, SortedMap.keys, List.filter_map, List.filter_map, List.map_map, kept,
    List.map_map, List.map_map]
  rfl

theorem execute_identitiesWhere (store : Collections) (settings : Settings) {query path : String}
    {c : Condition} (parsed : Plan.parse query = .ok (identitiesWhere path c))
    (named : (Scope.collection (Path.resolve path settings.basePath)).IsValid) {p : String → Bool}
    (matching : ∀ d : Document, c.accepts d = p d.id) :
    execute (store.toStore .all) settings query =
      identityOutput ((store.identities (Path.resolve path settings.basePath)).filter p) := by
  have columns : [SelectItem.field FieldName.identity] ≠ [.countAll] := by decide
  have shown : Plan.parse query = .ok (.matching [.field FieldName.identity] path c) := parsed
  rw [store.execute_matching settings columns shown named]
  exact congrArg (fun rows => Except.ok (Output.rows rows)) (rows_listed settings _ matching)

/-- The identities of a collection that a text finds: its own, when the text stands for itself, and
those that name the same instant, when it stands for an instant. -/
def found (store : Collections) (path id : String) : List String :=
  match Literal.ofBareText id.toList with
  | .string _ => if id ∈ store.identities path then [id] else []
  | .instant t => (store.identities path).filter fun other => (Json.string other).instant? == some t
  | _ => []

/-- A text finds what its literal names. -/
theorem filter_names (store : Collections) (path id : String) :
    (store.identities path).filter (Literal.ofBareText id.toList).names = store.found path id := by
  rw [found]
  cases reads : Literal.ofBareText id.toList with
  | string s =>
    obtain rfl : s = id := (Literal.ofBareText_eq_string reads).trans String.ofList_toList
    have itself : (Literal.string s).names = (· == s) := rfl
    rw [itself, List.filter_beq, (store.identities_nodup path).count]
    split <;> rfl
  | instant t => rfl
  | _ => simp [Literal.names]

theorem mem_found {store : Collections} {path id other : String}
    (m : other ∈ store.identities path) :
    other ∈ store.found path id ↔ (Literal.ofBareText id.toList).names other = true := by
  rw [← filter_names, List.mem_filter]
  exact and_iff_right m

section Queries

variable (store : Collections) (settings : Settings) {path : String}
  (usable : IsPathWord path.toList)
  (named : (Scope.collection (Path.resolve path settings.basePath)).IsValid)

include usable named

theorem execute_lookup {id : String} (free : '\'' ∉ id.toList) :
    execute (store.toStore .all) settings (lookup path id) =
      identityOutput (store.found (Path.resolve path settings.basePath) id) := by
  rw [← filter_names]
  exact execute_identitiesWhere store settings (parse_lookup usable free) named
    fun d => Condition.accepts_equal_identity d _

theorem execute_lookupAmong {ids : List String} (free : ∀ id ∈ ids, '\'' ∉ id.toList) :
    execute (store.toStore .all) settings (lookupAmong path ids) =
      identityOutput ((store.identities (Path.resolve path settings.basePath)).filter fun other =>
        ids.any fun id => (Literal.ofBareText id.toList).names other) := by
  have matching (d : Document) : (Condition.mk FieldName.identity .isIn
      (.list (ids.map fun id => .ofBareText id.toList))).accepts d =
        ids.any fun id => (Literal.ofBareText id.toList).names d.id := by
    rw [Condition.accepts_isIn_identity, List.any_map]
    rfl
  exact execute_identitiesWhere store settings (parse_lookupAmong usable free) named matching

/-- A query for a quoted identity shows the identities that the text finds: the text itself, or
those that name the instant it stands for. -/
theorem lookup_by_identity :
    (∀ id, '\'' ∉ id.toList → execute (store.toStore .all) settings (lookup path id) =
      identityOutput (store.found (Path.resolve path settings.basePath) id)) ∧
    (∀ ids, (∀ id ∈ ids, '\'' ∉ id.toList) →
      execute (store.toStore .all) settings (lookupAmong path ids) =
        identityOutput ((store.identities (Path.resolve path settings.basePath)).filter fun other =>
          ids.any fun id => other ∈ store.found (Path.resolve path settings.basePath) id)) ∧
    ∀ ids, (∀ id ∈ ids, '\'' ∉ id.toList ∧ Literal.ofBareText id.toList = .string id) →
      execute (store.toStore .all) settings (lookupAmong path ids) =
        identityOutput
          ((store.identities (Path.resolve path settings.basePath)).filter (· ∈ ids)) := by
  refine ⟨?_, ?_, ?_⟩
  · intro id free
    exact execute_lookup store settings usable named free
  · intro ids free
    have same : ∀ other ∈ store.identities (Path.resolve path settings.basePath),
        (ids.any fun id => (Literal.ofBareText id.toList).names other) =
          ids.any fun id => other ∈ store.found (Path.resolve path settings.basePath) id := by
      intro other m
      refine congrArg ids.any (funext fun id => ?_)
      rw [Bool.eq_iff_iff, decide_eq_true_iff, mem_found m]
    rw [execute_lookupAmong store settings usable named free, List.filter_congr same]
  · intro ids plain
    have same : ∀ other ∈ store.identities (Path.resolve path settings.basePath),
        (ids.any fun id => (Literal.ofBareText id.toList).names other) = decide (other ∈ ids) := by
      intro other _
      rw [Bool.eq_iff_iff, decide_eq_true_iff, List.any_eq_true]
      constructor
      · rintro ⟨id, m, names⟩
        rw [(plain id m).2] at names
        exact eq_of_beq names ▸ m
      · intro m
        have itself : (Literal.ofBareText other.toList).names other = true := by
          rw [(plain other m).2]
          exact beq_self_eq_true other
        exact ⟨other, m, itself⟩
    rw [execute_lookupAmong store settings usable named fun id m => (plain id m).1,
      List.filter_congr same]

end Queries

def members : Collections :=
  (((empty.write "users" "u1" .empty).write "users" "true" .empty).write
    "users" "2024-01-01" .empty).write "users" "January 1, 2024" .empty

theorem isPathWord_users : IsPathWord "users".toList :=
  ⟨by decide, by decide, by decide, by decide⟩

theorem isValid_users : (Scope.collection (Path.resolve "users" none)).IsValid := by
  show Path.namesCollection (Path.trim (Path.resolve "users" none)) = true
  decide

theorem lookup_by_identity_of_members :
    IsPathWord "users".toList ∧ (Scope.collection (Path.resolve "users" none)).IsValid ∧
    execute (members.toStore .all) {} "SELECT id FROM users WHERE id = 'u1'" =
      identityOutput ["u1"] ∧
    execute (members.toStore .all) {} "SELECT id FROM users WHERE id = '2024-01-01'" =
      identityOutput ["2024-01-01", "January 1, 2024"] ∧
    execute (members.toStore .all) {} "SELECT id FROM users WHERE id IN ('u2', 'u1')" =
      identityOutput ["u1"] := by
  obtain ⟨single, -, among⟩ := lookup_by_identity members {} isPathWord_users isValid_users
  have user : members.found (Path.resolve "users" none) "u1" = ["u1"] := by rfl
  have day : members.found (Path.resolve "users" none) "2024-01-01" =
      ["2024-01-01", "January 1, 2024"] := by rfl
  have plain : ∀ id ∈ ["u2", "u1"], '\'' ∉ id.toList ∧
      Literal.ofBareText id.toList = .string id := by
    have missing : Literal.ofBareText "u2".toList = .string "u2" := by rfl
    have present : Literal.ofBareText "u1".toList = .string "u1" := by rfl
    exact List.forall_mem_cons.mpr
      ⟨⟨by decide, missing⟩, List.forall_mem_singleton.mpr ⟨by decide, present⟩⟩
  have listed : (members.identities (Path.resolve "users" none)).filter (· ∈ ["u2", "u1"]) =
      ["u1"] := by decide
  have first := single "u1" (by decide)
  have second := single "2024-01-01" (by decide)
  have third := among ["u2", "u1"] plain
  rw [user] at first
  rw [day] at second
  rw [listed] at third
  exact ⟨isPathWord_users, isValid_users, first, second, third⟩

/-- A document whose identity reads as a truth value is not found by it. -/
theorem identity_true_is_not_found :
    "true" ∈ members.identities "users" ∧
    execute (members.toStore .all) {} "SELECT id FROM users WHERE id = 'true'" =
      identityOutput [] := by
  have nothing : members.found (Path.resolve "users" none) "true" = [] := by rfl
  have free : '\'' ∉ "true".toList := by decide
  have answer := execute_lookup members {} isPathWord_users isValid_users free
  rw [nothing] at answer
  exact ⟨by decide, answer⟩

end Collections

end DocQuery
