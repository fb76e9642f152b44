import DocQuery.Proofs.Query.Listing
import DocQuery.Proofs.Session.Lookup
import DocQuery.Proofs.Store.Dataset
import DocQuery.Proofs.Store.Scopes

/-!
# Whole collections

A query without a filter answers with a row for every document of its collection, in order of
identity. A path behind a slash names the collection whatever the base is, so it reaches all
documents that a dataset lists under the path, however many slashes stand around it there.
-/

namespace DocQuery

/-- Under these settings a query asks for columns of all documents of a collection. -/
def Shows (settings : Settings) (select : List SelectItem) (path query : String) : Prop :=
  ∃ source, Plan.parse query = .ok (.listing select source) ∧
    Path.trim (Path.resolve source settings.basePath) = Path.trim path

theorem shows_of_isPlainPath (settings : Settings) {select : List SelectItem}
    (writable : SelectItem.AreWritable select) (front : String)
    (written : front.toList =
      "SELECT ".toList ++ (SelectItem.listText select ++ (" FROM ".toList ++ "/".toList)))
    {path : String} (plain : IsPlainPath path) : Shows settings select path (front ++ path) := by
  have whole : (front ++ path).toList = "SELECT ".toList ++
      (SelectItem.listText select ++ (" FROM ".toList ++ ("/" ++ path).toList)) := by
    rw [String.toList_append, String.toList_append, written]
    simp only [List.append_assoc]
  refine ⟨"/" ++ path, Plan.parse_listing writable plain.isSourceWord whole, ?_⟩
  rw [Path.resolve_slash_append, Path.trim_trim]

namespace Collections

theorem execute_of_shows (store : Collections) (capabilities : Capabilities) {settings : Settings}
    {select : List SelectItem} {path query : String} (shows : Shows settings select path query)
    (columns : select ≠ [.countAll]) (checked : Dataset.checkPath path = .ok ()) :
    execute (store.toStore capabilities) settings query =
      .ok (.rows ((listed (store.documents (Path.trim path))).map
        (Document.row settings select))) := by
  obtain ⟨source, parsed, resolved⟩ := shows
  have list : (Plan.listing select source).isCount = false := beq_eq_false_iff_ne.mpr columns
  have named : (Scope.collection (Path.resolve source settings.basePath)).IsValid := by
    show Path.namesCollection (Path.trim _) = true
    rw [resolved]
    exact Dataset.namesCollection_of_checkPath checked
  have fetched := store.fetch_whole named
  rw [resolved] at fetched
  exact store.execute_of_fetched capabilities settings parsed list rfl rfl fetched

theorem rows_of_identities (settings : Settings) (docs : SortedMap Fields) :
    (listed docs).map (Document.row settings [.field FieldName.identity]) =
      docs.keys.map identityRow := by
  rw [rows_identities, ids_listed]

theorem execute_identities (store : Collections) (capabilities : Capabilities)
    (settings : Settings) {path : String} (plain : IsPlainPath path)
    (checked : Dataset.checkPath path = .ok ()) :
    execute (store.toStore capabilities) settings ("SELECT id FROM /" ++ path) =
      identityOutput (store.identities path) := by
  have name : FieldName.IsWritable FieldName.identity := ⟨by decide, by decide, by decide⟩
  have writable : SelectItem.AreWritable [.field FieldName.identity] :=
    .inl ⟨List.cons_ne_nil _ _, List.forall_mem_singleton.mpr name⟩
  have shows := shows_of_isPlainPath settings writable "SELECT id FROM /" (by decide) plain
  rw [store.execute_of_shows capabilities shows (by decide) checked, rows_of_identities]
  rfl

end Collections

/-- A query for the identities under a path of a dataset shows each identity that the dataset lists
under that path, once and in order, and no other. -/
theorem Dataset.listed_documents_are_reached {collections : List (String × Json)}
    {store : Collections} (loaded : load (.object collections) = .ok store) {path : String}
    (key : path ∈ collections.map Prod.fst) (plain : IsPlainPath path)
    (capabilities : Capabilities) (settings : Settings) :
    ∃ ids : List String,
      execute (store.toStore capabilities) settings ("SELECT id FROM /" ++ path) =
        identityOutput ids ∧
      ids.Pairwise (· < ·) ∧
      ∀ id, id ∈ ids ↔ ∃ c ∈ collections, Path.trim c.1 = Path.trim path ∧
        id ∈ (documentsOf c.2).map Prod.fst := by
  obtain ⟨accepted, rfl⟩ := (load_eq_ok_iff collections store).mp loaded
  obtain ⟨c, m, rfl⟩ := List.mem_map.mp key
  refine ⟨(Collections.empty.replay (writes collections)).identities c.1,
    Collections.execute_identities _ capabilities settings plain (accepted c m).1,
    SortedMap.keys_sorted _, ?_⟩
  intro id
  rw [Collections.identities, SortedMap.mem_keys_iff, ← mem_targets_writes_iff]
  have there := Collections.isSome_fieldsAt?_replay .empty (writes collections)
    (Path.trim c.1) id
  rw [Collections.fieldsAt?_empty] at there
  exact there.trans (or_iff_left (by simp))

def Dataset.spelled : List (String × Json) :=
  [("users", .object [("u2", .object []), ("u1", .object [])]),
    ("/users/", .array [.object [("id", .string "u1")], .object []]),
    ("users/u1/orders", .array [.object []])]

theorem Dataset.listed_documents_are_reached_of_spelled :
    load (.object spelled) = .ok (Collections.empty.replay (writes spelled)) ∧
    "/users/" ∈ spelled.map Prod.fst ∧ IsPlainPath "/users/" ∧
    execute ((Collections.empty.replay (writes spelled)).toStore .all)
      { basePath := some "users/u1" } "SELECT id FROM //users/" =
        identityOutput ["doc1", "u1", "u2"] := by
  have loaded : load (.object spelled) = .ok (Collections.empty.replay (writes spelled)) := by
    refine (load_eq_ok_iff spelled _).mpr ⟨?_, rfl⟩
    refine List.forall_mem_cons.mpr ⟨⟨by rfl, ?_⟩, List.forall_mem_cons.mpr ⟨⟨by rfl, trivial⟩, ?_⟩⟩
    · exact List.forall_mem_cons.mpr ⟨⟨[], rfl⟩, List.forall_mem_singleton.mpr ⟨[], rfl⟩⟩
    · exact List.forall_mem_singleton.mpr ⟨by rfl, trivial⟩
  have key : "/users/" ∈ spelled.map Prod.fst := by decide
  have plain : IsPlainPath "/users/" := by decide
  obtain ⟨ids, answered, sorted, exactly⟩ :=
    listed_documents_are_reached loaded key plain .all { basePath := some "users/u1" }
  have listed : (spelled.filter fun c => Path.trim c.1 = Path.trim "/users/").flatMap
      (fun c => (documentsOf c.2).map Prod.fst) = ["u2", "u1", "u1", "doc1"] := by decide
  have forth : ∀ id ∈ ["u2", "u1", "u1", "doc1"], id ∈ ["doc1", "u1", "u2"] := by decide
  have back : ∀ id ∈ ["doc1", "u1", "u2"], id ∈ ["u2", "u1", "u1", "doc1"] := by decide
  have same (id : String) : id ∈ ids ↔ id ∈ ["doc1", "u1", "u2"] := by
    refine Iff.trans ?_ ⟨forth id, back id⟩
    rw [exactly, ← listed, List.mem_flatMap]
    simp only [List.mem_filter, decide_eq_true_eq, and_assoc]
  have increasing : ["doc1", "u1", "u2"].Pairwise (· < ·) := by decide
  have whole : ids = ["doc1", "u1", "u2"] := by
    have distinct {l : List String} (less : l.Pairwise (· < ·)) : l.Nodup :=
      less.imp fun {a b} less => less.ne
    have perm := (List.perm_ext_iff_of_nodup (distinct sorted) (distinct increasing)).mpr same
    exact perm.eq_of_pairwise (fun _ _ _ _ less more => absurd less more.asymm) sorted increasing
  rw [whole] at answered
  exact ⟨loaded, key, plain, answered⟩

end DocQuery
