import DocQuery.Proofs.Session.Listing
import DocQuery.Proofs.Session.Rows

/-!
# Two forms of a collection

The documents of a collection are written as an object from identities to fields, or as an array
of objects that begin with their identity. Both forms give every document the same fields, but a
document of the array has its last field in front of the others, which a query for all fields
shows.
-/

namespace DocQuery

namespace Document

variable (settings : Settings) (id : String) {f g : Fields}

/-- A row of all fields has them in their order, behind the identity where that is included. -/
theorem pairs_row_of_wildcard_of_absent (absent : FieldName.userIdentity ∉ f.keys) :
    (row settings [.wildcard] ⟨id, f⟩).pairs =
      (if settings.includeId then [(FieldName.userIdentity, .string id)] else []) ++ f.pairs := by
  have columns : [SelectItem.wildcard].flatMap (Document.columns settings ⟨id, f⟩) =
      (if settings.includeId then [(FieldName.userIdentity, .string id)] else []) ++ f.pairs :=
    List.append_nil _
  rw [row, columns]
  cases settings.includeId with
  | false => exact f.pairs_ofPairs
  | true => exact f.pairs_ofPairs_cons_of_absent absent (.string id)

theorem row_of_wildcard_inj (first : FieldName.userIdentity ∉ f.keys)
    (second : FieldName.userIdentity ∉ g.keys)
    (same : row settings [.wildcard] ⟨id, f⟩ = row settings [.wildcard] ⟨id, g⟩) : f = g := by
  have pairs := congrArg Fields.pairs same
  rw [pairs_row_of_wildcard_of_absent settings id first,
    pairs_row_of_wildcard_of_absent settings id second] at pairs
  exact Fields.ext (List.append_cancel_left pairs)

end Document

namespace Collections

variable (store : Collections)

theorem listed_documents_mapFields (f : Fields → Fields) (path : String) :
    listed ((store.mapFields f).documents path) =
      (listed (store.documents path)).map fun d => ⟨d.id, f d.fields⟩ := by
  rw [documents_mapFields, listed, listed, SortedMap.map, List.map_map, List.map_map]
  rfl

theorem execute_mapFields_lastFirst_iff (capabilities : Capabilities)
    {settings : Settings} {path query : String} (shows : Shows settings [.wildcard] path query)
    (checked : Dataset.checkPath path = .ok ())
    (absent : ∀ id fields, store.fieldsAt? (Path.trim path) id = some fields →
      FieldName.userIdentity ∉ fields.keys) :
    execute ((store.mapFields Fields.lastFirst).toStore capabilities) settings query =
        execute (store.toStore capabilities) settings query ↔
      ∀ id fields, store.fieldsAt? (Path.trim path) id = some fields →
        fields.pairs.length ≤ 1 := by
  have rows : execute ((store.mapFields Fields.lastFirst).toStore capabilities) settings query =
        execute (store.toStore capabilities) settings query ↔
      ∀ d ∈ listed (store.documents (Path.trim path)),
        Document.row settings [.wildcard] ⟨d.id, d.fields.lastFirst⟩ =
          Document.row settings [.wildcard] d := by
    rw [execute_of_shows _ capabilities shows (by decide) checked,
      execute_of_shows _ capabilities shows (by decide) checked, listed_documents_mapFields,
      List.map_map, ← List.map_inj_left]
    exact ⟨fun same => Output.rows.inj (Except.ok.inj same), fun same => by rw [← same]; rfl⟩
  rw [rows]
  constructor
  · intro shown id fields there
    have first := absent id fields there
    have second : FieldName.userIdentity ∉ fields.lastFirst.keys := by
      rw [fields.mem_keys_lastFirst_iff]
      exact first
    have row := shown ⟨id, fields⟩ ((mem_listed_iff _ ⟨id, fields⟩).mpr there)
    have same := Document.row_of_wildcard_inj settings id second first row
    exact fields.lastFirst_eq_self_iff.mp same
  · intro short d m
    have kept := d.fields.lastFirst_eq_self_iff.mpr
      (short d.id d.fields ((mem_listed_iff _ d).mp m))
    rw [kept]

end Collections

namespace Dataset

def asObject (documents : List (String × Fields)) : Json :=
  .object (documents.map fun d => (d.1, d.2.toJson))

/-- Documents as an array of objects, each with its identity in front of its fields. -/
def asArray (documents : List (String × Fields)) : Json :=
  .array (documents.map fun d => .object (("id", .string d.1) :: d.2.pairs))

variable {documents : List (String × Fields)}

theorem documentsOf_asObject (documents : List (String × Fields)) :
    documentsOf (asObject documents) = documents := by
  have same (d : String × Fields) : (d.1, Fields.ofDocument d.2.toJson) = d :=
    congrArg (Prod.mk d.1) d.2.ofDocument_toJson
  rw [asObject, documentsOf, List.map_map]
  exact (List.map_congr_left fun d _ => same d).trans (List.map_id documents)

theorem documentsOf_asArray (without : ∀ d ∈ documents, "id" ∉ d.2.keys) :
    documentsOf (asArray documents) = documents.map fun d => (d.1, d.2.lastFirst) := by
  refine List.ext_getElem? fun i => ?_
  rw [asArray, documentsOf, List.getElem?_mapIdx, List.getElem?_map, List.getElem?_map,
    Option.map_map]
  cases found : documents[i]? with
  | none => rfl
  | some d =>
    have absent := without d (List.mem_of_getElem? found)
    have fields := d.2.remove_ofPairs_cons absent (.string d.1)
    exact congrArg (fun fields => some (d.1, fields)) fields

theorem fieldsAt?_replay_listed_iff (path : String) (distinct : (documents.map Prod.fst).Nodup)
    (id : String) (fields : Fields) :
    (Collections.empty.replay (documents.map (Write.listed path))).fieldsAt? (Path.trim path) id =
      some fields ↔ (id, fields) ∈ documents := by
  rw [Collections.fieldsAt?_replay_eq_some_iff (Write.nodup_target_listed path distinct)]
  constructor
  · rintro ⟨w, m, target, rfl⟩
    obtain ⟨d, there, rfl⟩ := List.mem_map.mp m
    obtain rfl := (Prod.mk.inj target).2
    exact there
  · intro there
    exact ⟨_, List.mem_map_of_mem there, rfl, rfl⟩

theorem load_singleton_eq_ok_iff (path : String) (listing : Json) (store : Collections) :
    load (.object [(path, listing)]) = .ok store ↔
      (checkPath path = .ok () ∧ IsListing listing) ∧
        store = Collections.empty.replay ((documentsOf listing).map (Write.listed path)) := by
  rw [load_eq_ok_iff, List.forall_mem_singleton, writes, List.flatMap_singleton]

section Forms

variable {path : String} (checked : checkPath path = .ok ())

include checked

theorem load_asObject (documents : List (String × Fields)) :
    load (.object [(path, asObject documents)]) =
      .ok (Collections.empty.replay (documents.map (Write.listed path))) := by
  have objects : IsListing (asObject documents) := by
    intro m there
    obtain ⟨d, -, rfl⟩ := List.mem_map.mp there
    exact ⟨d.2.pairs, rfl⟩
  rw [load_singleton_eq_ok_iff, documentsOf_asObject]
  exact ⟨⟨checked, objects⟩, rfl⟩

theorem load_asArray (without : ∀ d ∈ documents, "id" ∉ d.2.keys) :
    load (.object [(path, asArray documents)]) =
      .ok ((Collections.empty.replay (documents.map (Write.listed path))).mapFields
        Fields.lastFirst) := by
  rw [load_singleton_eq_ok_iff, documentsOf_asArray without, Collections.mapFields_replay,
    List.map_map, List.map_map]
  exact ⟨⟨checked, trivial⟩, rfl⟩

/-- The array form of a collection has the last field of each document in front; stores and answers
are the same exactly when no document has two fields. -/
theorem forms_agree_iff (distinct : (documents.map Prod.fst).Nodup)
    (without : ∀ d ∈ documents, "id" ∉ d.2.keys) :
    ∃ keyed listed : Collections,
      load (.object [(path, asObject documents)]) = .ok keyed ∧
      load (.object [(path, asArray documents)]) = .ok listed ∧
      keyed.size = documents.length ∧ listed.size = documents.length ∧
      (∀ d ∈ documents, keyed.fieldsAt? (Path.trim path) d.1 = some d.2 ∧
        listed.fieldsAt? (Path.trim path) d.1 = some d.2.lastFirst ∧
        ∀ key, d.2.lastFirst.get? key = d.2.get? key) ∧
      (listed = keyed ↔ ∀ d ∈ documents, d.2.pairs.length ≤ 1) ∧
      ∀ capabilities settings query, Shows settings [.wildcard] path query →
        (execute (listed.toStore capabilities) settings query =
            execute (keyed.toStore capabilities) settings query ↔
          ∀ d ∈ documents, d.2.pairs.length ≤ 1) := by
  let writes := documents.map (Write.listed path)
  have once : (writes.map Write.target).Nodup := Write.nodup_target_listed path distinct
  have found := fieldsAt?_replay_listed_iff path distinct
  have size : (Collections.empty.replay writes).size = documents.length :=
    ((Collections.size_replay_eq_length_iff writes).mpr once).trans (List.length_map _)
  refine ⟨Collections.empty.replay writes, (Collections.empty.replay writes).mapFields .lastFirst,
    load_asObject checked documents, load_asArray checked without, size,
    (Collections.size_mapFields ..).trans size, ?_, ?_, ?_⟩
  · intro d m
    have there := (found d.1 d.2).mpr m
    refine ⟨there, ?_, d.2.get?_lastFirst⟩
    rw [Collections.fieldsAt?_mapFields, there]
    rfl
  · rw [Collections.mapFields_replay_eq_self_iff _ once, List.forall_mem_map]
    exact forall₂_congr fun d _ => d.2.lastFirst_eq_self_iff
  · intro capabilities settings query shows
    have absent : ∀ id fields,
        (Collections.empty.replay writes).fieldsAt? (Path.trim path) id = some fields →
          FieldName.userIdentity ∉ fields.keys := by
      intro id fields there
      exact without _ ((found id fields).mp there)
    rw [Collections.execute_mapFields_lastFirst_iff _ capabilities shows checked absent]
    constructor
    · intro short d m
      exact short d.1 d.2 ((found d.1 d.2).mpr m)
    · intro short id fields there
      exact short _ ((found id fields).mp there)

end Forms

def notes : List (String × Fields) :=
  [("n1", .ofPairs [("a", .number (.integer 1)), ("b", .number (.integer 2))]),
    ("n2", .ofPairs [("a", .number (.integer 1))])]

theorem checkPath_notes : checkPath "notes" = .ok () := by rfl

theorem absent_from_notes : ∀ d ∈ notes, "id" ∉ d.2.keys :=
  List.forall_mem_cons.mpr ⟨by decide, List.forall_mem_singleton.mpr (by decide)⟩

theorem shows_notes : Shows {} [.wildcard] "notes" "SELECT * FROM /notes" :=
  shows_of_isPlainPath {} (.inr (.inr rfl)) "SELECT * FROM /" (by decide) (by decide)

theorem forms_agree_iff_of_notes :
    checkPath "notes" = .ok () ∧ (notes.map Prod.fst).Nodup ∧ (∀ d ∈ notes, "id" ∉ d.2.keys) ∧
    ∃ keyed listed : Collections,
      load (.object [("notes", asObject notes)]) = .ok keyed ∧
      load (.object [("notes", asArray notes)]) = .ok listed ∧
      keyed.size = 2 ∧ listed.size = 2 ∧ listed ≠ keyed ∧
      execute (listed.toStore .all) {} "SELECT * FROM /notes" ≠
        execute (keyed.toStore .all) {} "SELECT * FROM /notes" := by
  have distinct : (notes.map Prod.fst).Nodup := by decide
  have long : ¬∀ d ∈ notes, d.2.pairs.length ≤ 1 := by
    intro short
    exact absurd (short _ (List.mem_cons_self ..)) (by decide)
  obtain ⟨keyed, listed, objects, arrays, two, same, -, stores, answers⟩ :=
    forms_agree_iff checkPath_notes distinct absent_from_notes
  exact ⟨checkPath_notes, distinct, absent_from_notes, keyed, listed, objects, arrays, two, same,
    fun same => long (stores.mp same),
    fun same => long ((answers .all {} _ shows_notes).mp same)⟩

theorem array_form_turns_fields :
    (∃ keyed listed : Collections,
      load (.object [("notes", asObject notes)]) = .ok keyed ∧
      load (.object [("notes", asArray notes)]) = .ok listed ∧
      (execute (keyed.toStore .all) {} "SELECT * FROM /notes").map
        (fun o => o.toRows.map (·.toJson.compact)) =
          .ok ["\x7b\"a\":1,\"b\":2\x7d", "\x7b\"a\":1\x7d"] ∧
      (execute (listed.toStore .all) {} "SELECT * FROM /notes").map
        (fun o => o.toRows.map (·.toJson.compact)) =
          .ok ["\x7b\"b\":2,\"a\":1\x7d", "\x7b\"a\":1\x7d"]) ∧
    ¬∀ (path : String) (documents : List (String × Fields)) (keyed listed : Collections),
      (documents.map Prod.fst).Nodup → (∀ d ∈ documents, "id" ∉ d.2.keys) →
      load (.object [(path, asObject documents)]) = .ok keyed →
      load (.object [(path, asArray documents)]) = .ok listed →
      ∀ d ∈ documents, ∃ fields, keyed.fieldsAt? (Path.trim path) d.1 = some fields ∧
        listed.fieldsAt? (Path.trim path) d.1 = some fields := by
  have objects := load_asObject checkPath_notes notes
  have arrays := load_asArray checkPath_notes absent_from_notes
  refine ⟨⟨_, _, objects, arrays, ?_, ?_⟩, ?_⟩
  · rw [Collections.execute_of_shows _ .all shows_notes (by decide) checkPath_notes]
    rfl
  · rw [Collections.execute_of_shows _ .all shows_notes (by decide) checkPath_notes]
    rfl
  · intro same
    obtain ⟨fields, first, second⟩ := same "notes" notes _ _ (by decide) absent_from_notes objects
      arrays _ (List.mem_cons_self ..)
    have turned := congrArg (Option.map Fields.keys) (first.trans second.symm)
    exact absurd turned (by decide)

end Dataset

end DocQuery
