import DocQuery.Proofs.Store.Arrays
import DocQuery.Proofs.Store.Path

/-!
# The documents of a dataset

A dataset lists documents collection by collection, and loading it writes them in that order. None
of the listed documents is lost exactly when no element of an array brings along the name of the
position of another one.
-/

namespace DocQuery

namespace Dataset

def documentsOf : Json → List (String × Fields)
  | .object members => members.map fun m => (m.1, .ofDocument m.2)
  | .array values => values.mapIdx Collections.numbered
  | _ => []

def listedCount : Json → Nat
  | .object members => members.length
  | .array values => values.length
  | _ => 0

theorem length_documentsOf (documents : Json) :
    (documentsOf documents).length = listedCount documents := by
  cases documents <;> simp [documentsOf, listedCount]

def IsListing : Json → Prop
  | .object members => ∀ m ∈ members, ∃ fields, m.2 = .object fields
  | .array _ => True
  | _ => False

def writes (collections : List (String × Json)) : List Write :=
  collections.flatMap fun c => (documentsOf c.2).map (Write.listed c.1)

theorem insertMembers_eq_ok_iff (path : String) (members : List (String × Json))
    (store result : Collections) : insertMembers path store members = .ok result ↔
      IsListing (.object members) ∧
        result = store.replay ((documentsOf (.object members)).map (Write.listed path)) := by
  induction members generalizing store with
  | nil => simp [insertMembers, IsListing, documentsOf, Collections.replay, eq_comm]
  | cons m rest ih =>
    obtain ⟨id, value⟩ := m
    cases value with
    | object fields =>
      rw [insertMembers, ih]
      simp only [IsListing, List.forall_mem_cons]
      constructor
      · rintro ⟨objects, written⟩
        exact ⟨⟨⟨fields, rfl⟩, objects⟩, written⟩
      · rintro ⟨⟨-, objects⟩, written⟩
        exact ⟨objects, written⟩
    | _ => simp [insertMembers, IsListing]

theorem insertCollection_eq_ok_iff (c : String × Json) (store result : Collections) :
    insertCollection store c.1 c.2 = .ok result ↔ checkPath c.1 = .ok () ∧ IsListing c.2 ∧
      result = store.replay ((documentsOf c.2).map (Write.listed c.1)) := by
  obtain ⟨path, documents⟩ := c
  unfold insertCollection
  cases checked : checkPath path with
  | error e => simp [bind, Except.bind]
  | ok _ =>
    show (match documents with
      | .object members => insertMembers path store members
      | .array values => .ok (store.addAll path values)
      | _ => .error (.noDocuments path)) = .ok result ↔ _
    cases documents with
    | object members => simp [insertMembers_eq_ok_iff]
    | array values => simp [Collections.addAll_eq_replay, IsListing, documentsOf, eq_comm]
    | _ => simp [IsListing]

/-- A dataset loads when its paths name collections and its documents are listed; it is then the
store of its writes. -/
theorem load_eq_ok_iff (collections : List (String × Json)) (store : Collections) :
    load (.object collections) = .ok store ↔
      (∀ c ∈ collections, checkPath c.1 = .ok () ∧ IsListing c.2) ∧
        store = Collections.empty.replay (writes collections) := by
  have fromStore (start : Collections) :
      collections.foldlM (fun store p => insertCollection store p.1 p.2) start = .ok store ↔
        (∀ c ∈ collections, checkPath c.1 = .ok () ∧ IsListing c.2) ∧
          store = start.replay (writes collections) := by
    induction collections generalizing start with
    | nil => simp [writes, Collections.replay, pure, Except.pure, eq_comm]
    | cons c rest ih =>
      rw [List.foldlM_cons, List.forall_mem_cons, writes, List.flatMap_cons,
        Collections.replay_append]
      constructor
      · intro loaded
        cases first : insertCollection start c.1 c.2 with
        | error e =>
          rw [first] at loaded
          cases loaded
        | ok next =>
          rw [first] at loaded
          obtain ⟨checked, listing, rfl⟩ := (insertCollection_eq_ok_iff c start next).mp first
          obtain ⟨others, written⟩ := (ih _).mp loaded
          exact ⟨⟨⟨checked, listing⟩, others⟩, written⟩
      · rintro ⟨⟨⟨checked, listing⟩, others⟩, written⟩
        rw [(insertCollection_eq_ok_iff c start _).mpr ⟨checked, listing, rfl⟩]
        exact (ih _).mpr ⟨others, written⟩
  exact fromStore .empty

theorem targets_writes (collections : List (String × Json)) :
    (writes collections).map Write.target = collections.flatMap fun c =>
      ((documentsOf c.2).map Prod.fst).map fun id => (Path.trim c.1, id) := by
  rw [writes, List.map_flatMap]
  exact congrArg (collections.flatMap ·) (funext fun c => Write.target_listed c.1 _)

theorem mem_targets_writes_iff (collections : List (String × Json)) (path id : String) :
    (path, id) ∈ (writes collections).map Write.target ↔
      ∃ c ∈ collections, Path.trim c.1 = path ∧ id ∈ (documentsOf c.2).map Prod.fst := by
  rw [targets_writes, List.mem_flatMap]
  constructor
  · rintro ⟨c, m, written⟩
    obtain ⟨other, given, same⟩ := List.mem_map.mp written
    obtain ⟨trimmed, rfl⟩ := Prod.mk.inj same
    exact ⟨c, m, trimmed, given⟩
  · rintro ⟨c, m, rfl, given⟩
    exact ⟨c, m, List.mem_map_of_mem given⟩

theorem length_writes (collections : List (String × Json)) :
    (writes collections).length = (collections.map fun c => listedCount c.2).sum := by
  rw [writes, List.length_flatMap]
  simp only [List.length_map, length_documentsOf]

theorem nodup_targets_writes_iff {collections : List (String × Json)}
    (paths : (collections.map fun c => Path.trim c.1).Nodup) :
    ((writes collections).map Write.target).Nodup ↔
      ∀ c ∈ collections, ((documentsOf c.2).map Prod.fst).Nodup := by
  have paired (path : String) : Function.Injective fun id : String => (path, id) :=
    fun _ _ same => (Prod.mk.inj same).2
  have disjoint : collections.Pairwise (Function.onFun List.Disjoint fun c =>
      ((documentsOf c.2).map Prod.fst).map fun id => (Path.trim c.1, id)) := by
    rw [List.nodup_iff_pairwise_ne, List.pairwise_map] at paths
    refine paths.imp fun {a b} differ => ?_
    intro target first second
    obtain ⟨_, -, rfl⟩ := List.mem_map.mp first
    obtain ⟨_, -, same⟩ := List.mem_map.mp second
    exact differ (Prod.mk.inj same).1.symm
  rw [targets_writes, List.nodup_flatMap]
  constructor
  · intro ⟨each, _⟩ c m
    exact (List.nodup_map_iff (paired (Path.trim c.1))).mp (each c m)
  · intro each
    exact ⟨fun c m => (List.nodup_map_iff (paired (Path.trim c.1))).mpr (each c m), disjoint⟩

theorem nodup_documentsOf_iff {documents : Json}
    (keys : ∀ members, documents = .object members → (members.map Prod.fst).Nodup)
    (own : ∀ values, documents = .array values → (values.filterMap Json.identity?).Nodup) :
    ((documentsOf documents).map Prod.fst).Nodup ↔
      ∀ values, documents = .array values → Collections.NamesApart values := by
  cases documents with
  | object members =>
    have same : (documentsOf (.object members)).map Prod.fst = members.map Prod.fst := by
      rw [documentsOf, List.map_map]
      rfl
    rw [same]
    exact iff_of_true (keys members rfl) nofun
  | array values =>
    have one := Collections.nodup_identities_iff (own values rfl)
    constructor
    · intro distinct values' same
      cases same
      exact one.mp distinct
    · intro apart
      exact one.mpr (apart values rfl)
  | _ => exact iff_of_true List.nodup_nil nofun

/-- A dataset loads without a loss exactly when the identities that arrays bring along are apart
from the names of positions. -/
theorem load_keeps_documents_iff {collections : List (String × Json)} {store : Collections}
    (loaded : load (.object collections) = .ok store)
    (paths : (collections.map fun c => Path.trim c.1).Nodup)
    (keys : ∀ c ∈ collections, ∀ members, c.2 = .object members → (members.map Prod.fst).Nodup)
    (own : ∀ c ∈ collections, ∀ values, c.2 = .array values →
      (values.filterMap Json.identity?).Nodup) :
    (store.size = (collections.map fun c => listedCount c.2).sum ↔
      ∀ c ∈ collections, ∀ values, c.2 = .array values → Collections.NamesApart values) ∧
    ((∀ c ∈ collections, ∀ values, c.2 = .array values → Collections.NamesApart values) →
      ∀ c ∈ collections, ∀ d ∈ documentsOf c.2,
        store.fieldsAt? (Path.trim c.1) d.1 = some d.2) := by
  obtain ⟨-, rfl⟩ := (load_eq_ok_iff collections store).mp loaded
  have once : ((writes collections).map Write.target).Nodup ↔
      ∀ c ∈ collections, ∀ values, c.2 = .array values → Collections.NamesApart values := by
    rw [nodup_targets_writes_iff paths]
    exact forall₂_congr fun c m => nodup_documentsOf_iff (keys c m) (own c m)
  constructor
  · rw [← length_writes, Collections.size_replay_eq_length_iff]
    exact once
  · intro apart c m d listed
    have written : Write.listed c.1 d ∈ writes collections :=
      List.mem_flatMap.mpr ⟨c, m, List.mem_map_of_mem listed⟩
    have there := Collections.fieldsAt?_replay_of_mem .empty (once.mpr apart) written
    exact there

def mixed : List (String × Json) :=
  [("users", .object [("u1", .object [])]),
    ("/notes", .array [.object [("id", .string "doc0"), ("text", .string "first")], .object [],
      .null])]

theorem load_keeps_documents_iff_of_mixed :
    load (.object mixed) = .ok (Collections.empty.replay (writes mixed)) ∧
    (mixed.map fun c => Path.trim c.1).Nodup ∧
    (∀ c ∈ mixed, ∀ members, c.2 = .object members → (members.map Prod.fst).Nodup) ∧
    (∀ c ∈ mixed, ∀ values, c.2 = .array values → (values.filterMap Json.identity?).Nodup) ∧
    (Collections.empty.replay (writes mixed)).size = 4 ∧
    ∀ c ∈ mixed, ∀ d ∈ documentsOf c.2,
      (Collections.empty.replay (writes mixed)).fieldsAt? (Path.trim c.1) d.1 = some d.2 := by
  have loaded : load (.object mixed) = .ok (Collections.empty.replay (writes mixed)) := by
    refine (load_eq_ok_iff mixed _).mpr ⟨?_, rfl⟩
    refine List.forall_mem_cons.mpr ⟨⟨by rfl, ?_⟩, List.forall_mem_singleton.mpr ⟨by rfl, trivial⟩⟩
    exact List.forall_mem_singleton.mpr ⟨[], rfl⟩
  have paths : (mixed.map fun c => Path.trim c.1).Nodup := by decide
  have keys : ∀ c ∈ mixed, ∀ members, c.2 = .object members → (members.map Prod.fst).Nodup := by
    refine List.forall_mem_cons.mpr ⟨?_, List.forall_mem_singleton.mpr nofun⟩
    intro members same
    cases same
    decide
  have own : ∀ c ∈ mixed, ∀ values, c.2 = .array values →
      (values.filterMap Json.identity?).Nodup := by
    refine List.forall_mem_cons.mpr ⟨nofun, List.forall_mem_singleton.mpr ?_⟩
    intro values same
    cases same
    decide
  have four : (Collections.empty.replay (writes mixed)).size = 4 := by decide
  have kept := load_keeps_documents_iff loaded paths keys own
  exact ⟨loaded, paths, keys, own, four, kept.2 (kept.1.mp four)⟩

def clashing : List (String × Json) :=
  [("notes", .array [.object [("id", .string "doc1")], .object [("text", .string "second")]])]

/-- A numbered element replaces one that brings its name along, so a document is lost. -/
theorem numbered_element_replaces_named :
    (∃ store, load (.object clashing) = .ok store ∧ store.size = 1 ∧
      (clashing.map fun c => listedCount c.2).sum = 2) ∧
    ¬∀ (collections : List (String × Json)) (store : Collections),
      load (.object collections) = .ok store →
      (collections.map fun c => Path.trim c.1).Nodup →
      (∀ c ∈ collections, ∀ members, c.2 = .object members → (members.map Prod.fst).Nodup) →
      (∀ c ∈ collections, ∀ values, c.2 = .array values →
        (values.filterMap Json.identity?).Nodup) →
      store.size = (collections.map fun c => listedCount c.2).sum := by
  have loaded : load (.object clashing) = .ok (Collections.empty.replay (writes clashing)) :=
    (load_eq_ok_iff clashing _).mpr ⟨List.forall_mem_singleton.mpr ⟨by rfl, trivial⟩, rfl⟩
  have one : (Collections.empty.replay (writes clashing)).size = 1 := by decide
  have two : (clashing.map fun c => listedCount c.2).sum = 2 := by decide
  refine ⟨⟨_, loaded, one, two⟩, ?_⟩
  intro kept
  have own : ∀ c ∈ clashing, ∀ values, c.2 = .array values →
      (values.filterMap Json.identity?).Nodup := by
    refine List.forall_mem_singleton.mpr ?_
    intro values same
    cases same
    decide
  have same := kept clashing _ loaded (by decide) (List.forall_mem_singleton.mpr nofun) own
  rw [one, two] at same
  exact absurd same (by decide)

end Dataset

end DocQuery
