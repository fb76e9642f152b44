import DocQuery.Proofs.Store.History
import DocQuery.Proofs.Store.Path

/-!
# Collection groups

A group is found by a scan of all paths, a collection by the place of its own path. Where every path
written to names a collection, both ways meet the same documents: a group is answered with the
answers of its collections, one after the other in order of path. Groups have no base path.
-/

namespace DocQuery

def Filling.path : Filling → String
  | .insert path _ _ => path
  | .addAll path _ => path

theorem Filling.path_of_mem_writes {call : Filling} {w : Write} (m : w ∈ call.writes) :
    w.path = call.path := by
  cases call with
  | insert path id value =>
    rw [List.mem_singleton.mp m]
    rfl
  | addAll path values =>
    obtain ⟨d, -, rfl⟩ := List.mem_map.mp m
    rfl

namespace Collections

theorem mem_paths_write (store : Collections) (path id : String) (fields : Fields) (p : String) :
    p ∈ (store.write path id fields).paths ↔ p = Path.trim path ∨ p ∈ store.paths := by
  unfold paths write
  rw [SortedMap.mem_keys_iff, SortedMap.mem_keys_iff, SortedMap.get?_insert]
  by_cases here : p = Path.trim path <;> simp [here]

theorem mem_paths_replay (store : Collections) (writes : List Write) (p : String) :
    p ∈ (store.replay writes).paths ↔
      (∃ w ∈ writes, p = Path.trim w.path) ∨ p ∈ store.paths := by
  induction writes generalizing store with
  | nil => simp [replay]
  | cons w writes ih =>
    rw [replay_cons, ih, mem_paths_write]
    simp only [List.mem_cons, exists_eq_or_imp]
    rw [or_left_comm, or_assoc]

/-- Every path names a collection and has no slash at its ends. -/
def PathsName (store : Collections) : Prop :=
  ∀ p ∈ store.paths, Path.trim p = p ∧ Path.namesCollection p = true

theorem pathsName_fill {calls : List Filling}
    (checked : ∀ call ∈ calls, Dataset.checkPath call.path = .ok ()) :
    (empty.fill calls).PathsName := by
  intro p m
  rw [fill_eq_replay, mem_paths_replay] at m
  obtain ⟨w, written, rfl⟩ := m.resolve_right List.not_mem_nil
  obtain ⟨call, made, written⟩ := List.mem_flatMap.mp written
  have named := checked call made
  rw [← Filling.path_of_mem_writes written] at named
  exact ⟨Path.trim_trim w.path, Dataset.namesCollection_of_checkPath named⟩

def pathsOf (store : Collections) (name : String) : List String :=
  store.paths.filter fun p => Path.lastSegment p == name

theorem pathsOf_sorted (store : Collections) (name : String) :
    (store.pathsOf name).Pairwise (· < ·) :=
  store.byPath.keys_sorted.filter _

theorem mapM_eq_ok_map {ε α β : Type} {f : α → Except ε β} {g : α → β} {xs : List α}
    (each : ∀ x ∈ xs, f x = .ok (g x)) : xs.mapM f = .ok (xs.map g) := by
  induction xs with
  | nil => rfl
  | cons x xs ih =>
    obtain ⟨first, rest⟩ := List.forall_mem_cons.mp each
    rw [List.mapM_cons, first, ih rest]
    rfl

def matchingAt (store : Collections) (filters : List Condition) (path : String) :
    List Document :=
  (listed (store.documents path)).filter fun d => filters.all (·.accepts d)

section Filters

variable {store : Collections} (filters : List Condition)

theorem accepted_collection {path : String} (stored : Path.trim path = path)
    (named : Path.namesCollection path = true) :
    store.accepted { scope := .collection path, filters } =
      .ok (store.matchingAt filters path) := by
  simp only [accepted, inScope, stored, named, if_true, Except.map, matchingAt]

/-- The scan of all paths meets the collections where their own paths lead. -/
theorem accepted_group (name : String) :
    store.accepted { scope := .group name, filters } =
      .ok ((store.pathsOf name).map (store.matchingAt filters)).flatten := by
  have found {p : String × SortedMap Fields} (m : p ∈ store.byPath.pairs) :
      store.documents p.1 = p.2 := by
    rw [documents, (SortedMap.mem_pairs_iff _ _ _).mp m]
    rfl
  have places : (store.pathsOf name).map (store.matchingAt filters) =
      (store.byPath.pairs.filter fun p => Path.lastSegment p.1 == name).map fun p =>
        (listed p.2).filter fun d => filters.all (·.accepts d) := by
    unfold pathsOf paths SortedMap.keys
    rw [List.filter_map, List.map_map]
    refine List.map_congr_left fun p m => ?_
    show store.matchingAt filters p.1 = _
    rw [matchingAt, found (List.mem_filter.mp m).1]
  simp only [accepted, inScope, Except.map, places]
  rw [List.filter_flatMap, List.flatMap_def]

variable (names : store.PathsName) (name : String)

include names

theorem accepted_at {p : String} (m : p ∈ store.pathsOf name) :
    store.accepted { scope := .collection p, filters } = .ok (store.matchingAt filters p) :=
  have named := names p (List.mem_filter.mp m).1
  accepted_collection filters named.1 named.2

theorem fetch_each : (store.pathsOf name).mapM (fun p =>
    store.fetch { scope := .collection p, filters }) =
      .ok ((store.pathsOf name).map (store.matchingAt filters)) :=
  mapM_eq_ok_map fun p m => by rw [fetch_unordered store rfl rfl, accepted_at filters names name m]

theorem count_each : (store.pathsOf name).mapM (fun p =>
    store.count { scope := .collection p, filters }) =
      .ok ((store.pathsOf name).map fun p => (store.matchingAt filters p).length) :=
  mapM_eq_ok_map fun p m => by
    rw [count, accepted_at filters names name m]
    rfl

end Filters

theorem row_of_basePath (settings : Settings) (base : Option String) :
    Document.row { settings with basePath := base } = Document.row settings := by
  funext select d
  have columns : d.columns { settings with basePath := base } = d.columns settings := by
    funext item
    cases item with
    | call function argument => cases function <;> rfl
    | _ => rfl
  unfold Document.row
  rw [columns]

theorem planned_of_group {capabilities : Capabilities} {settings : Settings} {query : String}
    (group : ∀ plan, Plan.parse query = .ok plan → ∃ name, plan.source = .group name)
    (base : Option String) :
    planned capabilities { settings with basePath := base } query =
      planned capabilities settings query := by
  cases parsed : Plan.parse query with
  | error e => rw [planned_of_parse_error parsed, planned_of_parse_error parsed]
  | ok plan =>
    obtain ⟨name, source⟩ := group plan parsed
    have requests : plan.request { settings with basePath := base } = plan.request settings := by
      unfold Plan.request
      rw [source]
      rfl
    rw [planned_of_parse parsed, planned_of_parse parsed, Plan.storeQuery_eq_map,
      Plan.storeQuery_eq_map, requests]

theorem execute_of_group (store : Collections) {capabilities : Capabilities} {settings : Settings}
    {query : String}
    (group : ∀ plan, Plan.parse query = .ok plan → ∃ name, plan.source = .group name)
    (base : Option String) :
    execute (store.toStore capabilities) { settings with basePath := base } query =
      execute (store.toStore capabilities) settings query := by
  have runs (plan : Plan) (q : StoreQuery) :
      plan.run (store.toStore capabilities) { settings with basePath := base } q =
        plan.run (store.toStore capabilities) settings q := by
    unfold Plan.run
    rw [row_of_basePath]
  have same : planned (store.toStore capabilities).capabilities
      { settings with basePath := base } query = planned capabilities settings query :=
    planned_of_group group base
  have here : planned (store.toStore capabilities).capabilities settings query =
      planned capabilities settings query := rfl
  unfold execute
  rw [same, here]
  cases planned capabilities settings query with
  | error e => rfl
  | ok p => exact runs p.1 p.2

/-- A group is answered with the answers of its collections, joined in order of path, and counted as
the sum of their counts, under every base path. -/
theorem group_is_union_of_collections {calls : List Filling}
    (checked : ∀ call ∈ calls, Dataset.checkPath call.path = .ok ()) (name : String)
    (filters : List Condition) :
    ((empty.fill calls).pathsOf name).Pairwise (· < ·) ∧
    (∃ answers, ((empty.fill calls).pathsOf name).mapM (fun p =>
        (empty.fill calls).fetch { scope := .collection p, filters }) = .ok answers ∧
      (empty.fill calls).fetch { scope := .group name, filters } = .ok answers.flatten) ∧
    (∃ counts, ((empty.fill calls).pathsOf name).mapM (fun p =>
        (empty.fill calls).count { scope := .collection p, filters }) = .ok counts ∧
      (empty.fill calls).count { scope := .group name, filters } = .ok counts.sum) ∧
    (∃ hits : List (String × Document),
      (empty.fill calls).fetch { scope := .group name, filters } = .ok (hits.map Prod.snd) ∧
      (hits.map fun e => (e.1, e.2.id)).Nodup ∧
      ∀ p d, (p, d) ∈ hits ↔ (empty.fill calls).fieldsAt? p d.id = some d.fields ∧
        Path.lastSegment p = name ∧ ∀ c ∈ filters, c.accepts d = true) ∧
    ∀ capabilities settings query,
      (∀ plan, Plan.parse query = .ok plan → ∃ group, plan.source = .group group) →
      ∀ base, execute ((empty.fill calls).toStore capabilities)
          { settings with basePath := base } query =
        execute ((empty.fill calls).toStore capabilities) settings query := by
  have names := pathsName_fill checked
  refine ⟨pathsOf_sorted _ name, ⟨_, fetch_each filters names name, ?_⟩,
    ⟨_, count_each filters names name, ?_⟩, ?_, ?_⟩
  · rw [fetch_unordered _ rfl rfl, accepted_group]
  · rw [count, accepted_group, Except.map, List.length_flatten, List.map_map]
    rfl
  · refine ⟨(empty.fill calls).entries.filter fun e =>
      Path.lastSegment e.1 == name && filters.all (·.accepts e.2), ?_, ?_, ?_⟩
    · exact fetch_eq (q := { scope := .group name, filters }) trivial
    · exact List.Nodup.sublist (List.filter_sublist.map _) (nodup_targets _)
    · intro p d
      rw [List.mem_filter, mem_entries_iff, Bool.and_eq_true, beq_iff_eq, List.all_eq_true]
  · intro capabilities settings query group base
    exact execute_of_group _ group base

def orderCalls : List Filling :=
  [.addAll "users/u1/orders" [.object [("id", .string "a"), ("open", .boolean true)]],
    .insert "/orders/" "a" (.object [("open", .boolean true)]),
    .insert "orders" "b" (.object [("open", .boolean false)]),
    .insert "users/u1/orders/a/orders" "a" (.object [("open", .boolean true)]),
    .insert "users" "orders" (.object [("open", .boolean true)])]

def openOnly : List Condition := [⟨"open", .equal, .boolean true⟩]

theorem group_is_union_of_collections_of_orders :
    (∀ call ∈ orderCalls, Dataset.checkPath call.path = .ok ()) ∧
    (empty.fill orderCalls).pathsOf "orders" =
      ["orders", "users/u1/orders", "users/u1/orders/a/orders"] ∧
    (empty.fill orderCalls).fetch { scope := .group "orders", filters := openOnly } =
      .ok (List.replicate 3 ⟨"a", .ofPairs [("open", .boolean true)]⟩) ∧
    (empty.fill orderCalls).count { scope := .group "orders", filters := openOnly } = .ok 3 ∧
    ∀ base, execute ((empty.fill orderCalls).toStore .all) { basePath := base }
        "SELECT COUNT(*) FROM GROUP orders" =
      .ok (.count 4) := by
  have checked : ∀ call ∈ orderCalls, Dataset.checkPath call.path = .ok () := by decide
  obtain ⟨-, ⟨answers, each, whole⟩, ⟨counts, counted, sum⟩, -, bases⟩ :=
    group_is_union_of_collections checked "orders" openOnly
  have paths : (empty.fill orderCalls).pathsOf "orders" =
      ["orders", "users/u1/orders", "users/u1/orders/a/orders"] := by decide
  rw [paths] at each counted
  have parsed : Plan.parse "SELECT COUNT(*) FROM GROUP orders" =
      .ok ⟨[.countAll], .group "orders", none, none, none⟩ := by rfl
  refine ⟨checked, paths, ?_, ?_, ?_⟩
  · obtain rfl : answers = List.replicate 3 [⟨"a", .ofPairs [("open", .boolean true)]⟩] :=
      Except.ok.inj (each.symm.trans (by rfl))
    exact whole
  · obtain rfl : counts = [1, 1, 1] := Except.ok.inj (counted.symm.trans (by rfl))
    exact sum
  · intro base
    refine (bases .all {} _ ?_ base).trans (by rfl)
    intro plan found
    rw [parsed] at found
    cases found
    exact ⟨"orders", rfl⟩

end Collections

end DocQuery
