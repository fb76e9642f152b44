import DocQuery.Proofs.Store.SortedMap
import DocQuery.Proofs.Store.TopN

/-!
# Stores as what was written to them

A store is filled by writes, each of which sets all fields of one document. A document is there
exactly when it was written, and has the fields of its last write. The size of a store counts the
documents written, however often each of them was.
-/

namespace DocQuery

structure Write where
  path : String
  id : String
  fields : Fields

namespace Write

/-- The document that is written. Slashes at the ends of a path name no other collection. -/
def target (w : Write) : String × String := (Path.trim w.path, w.id)

def mapFields (f : Fields → Fields) (w : Write) : Write := { w with fields := f w.fields }

end Write

theorem SortedMap.mem_pairs_iff {α : Type} (m : SortedMap α) (key : String) (value : α) :
    (key, value) ∈ m.pairs ↔ m.get? key = some value := by
  have one : (key, value) ∈ m.pairs.filter (fun p => p.1 == key) ↔ m.get? key = some value := by
    rw [m.filter_pairs key]
    cases m.get? key with
    | none => simp
    | some v => simp [eq_comm]
  rw [← one, List.mem_filter]
  exact (and_iff_left (beq_self_eq_true key)).symm

namespace Collections

def fieldsAt? (store : Collections) (path id : String) : Option Fields :=
  (store.documents path).get? id

def replay (store : Collections) (writes : List Write) : Collections :=
  writes.foldl (fun store w => store.write w.path w.id w.fields) store

section Replay

variable (store : Collections)

@[simp] theorem replay_cons (w : Write) (writes : List Write) :
    store.replay (w :: writes) = (store.write w.path w.id w.fields).replay writes := rfl

theorem replay_append (xs ys : List Write) :
    store.replay (xs ++ ys) = (store.replay xs).replay ys :=
  List.foldl_append

theorem fieldsAt?_empty (path id : String) : empty.fieldsAt? path id = none := rfl

theorem fieldsAt?_write (path id : String) (fields : Fields) (p i : String) :
    (store.write path id fields).fieldsAt? p i =
      if (p, i) = (Path.trim path, id) then some fields else store.fieldsAt? p i := by
  unfold fieldsAt? documents write
  rw [SortedMap.get?_insert]
  by_cases same : p = Path.trim path
  · subst same
    rw [if_pos rfl, Option.getD_some, SortedMap.get?_insert]
    by_cases here : i = id
    · simp [here]
    · simp [here, documents]
  · simp [same]

theorem fieldsAt?_write_target (w : Write) (p i : String) :
    (store.write w.path w.id w.fields).fieldsAt? p i =
      if (p, i) = w.target then some w.fields else store.fieldsAt? p i :=
  fieldsAt?_write store w.path w.id w.fields p i

variable {writes : List Write} {p i : String}

theorem fieldsAt?_replay_of_not_mem (absent : (p, i) ∉ writes.map Write.target) :
    (store.replay writes).fieldsAt? p i = store.fieldsAt? p i := by
  induction writes generalizing store with
  | nil => rfl
  | cons w writes ih =>
    rw [List.map_cons, List.mem_cons, not_or] at absent
    rw [replay_cons, ih _ absent.2, fieldsAt?_write_target, if_neg absent.1]

theorem fieldsAt?_replay_of_last {before after : List Write} {w : Write}
    (last : w.target ∉ after.map Write.target) :
    (store.replay (before ++ w :: after)).fieldsAt? (Path.trim w.path) w.id = some w.fields := by
  rw [replay_append, replay_cons, fieldsAt?_replay_of_not_mem _ last, fieldsAt?_write, if_pos rfl]

theorem isSome_fieldsAt?_replay (writes : List Write) (p i : String) :
    ((store.replay writes).fieldsAt? p i).isSome = true ↔
      (p, i) ∈ writes.map Write.target ∨ (store.fieldsAt? p i).isSome = true := by
  induction writes generalizing store with
  | nil => simp [replay]
  | cons w writes ih =>
    rw [replay_cons, ih, fieldsAt?_write_target, List.map_cons, List.mem_cons]
    by_cases here : (p, i) = w.target
    · simp [here]
    · simp [here]

theorem fieldsAt?_replay_of_mem (once : (writes.map Write.target).Nodup) {w : Write}
    (m : w ∈ writes) :
    (store.replay writes).fieldsAt? (Path.trim w.path) w.id = some w.fields := by
  obtain ⟨before, after, rfl⟩ := List.mem_iff_append.mp m
  rw [List.map_append, List.map_cons, List.nodup_middle, List.nodup_cons, List.mem_append,
    not_or] at once
  exact fieldsAt?_replay_of_last store once.1.2

theorem fieldsAt?_replay_eq_some_iff (once : (writes.map Write.target).Nodup) {fields : Fields} :
    (empty.replay writes).fieldsAt? p i = some fields ↔
      ∃ w ∈ writes, w.target = (p, i) ∧ w.fields = fields := by
  constructor
  · intro there
    have given : (p, i) ∈ writes.map Write.target := by
      have stored : ((empty.replay writes).fieldsAt? p i).isSome = true := by rw [there]; rfl
      have found := (isSome_fieldsAt?_replay empty writes p i).mp stored
      rw [fieldsAt?_empty] at found
      exact found.resolve_right (by simp)
    obtain ⟨w, m, target⟩ := List.mem_map.mp given
    obtain ⟨rfl, rfl⟩ := Prod.mk.inj target
    exact ⟨w, m, rfl, Option.some.inj ((fieldsAt?_replay_of_mem empty once m).symm.trans there)⟩
  · rintro ⟨w, m, target, rfl⟩
    obtain ⟨rfl, rfl⟩ := Prod.mk.inj target
    exact fieldsAt?_replay_of_mem empty once m

end Replay

def targets (store : Collections) : List (String × String) :=
  store.entries.map fun e => (e.1, e.2.id)

theorem mem_listed_iff (docs : SortedMap Fields) (d : Document) :
    d ∈ listed docs ↔ docs.get? d.id = some d.fields := by
  rw [listed, List.mem_map, ← SortedMap.mem_pairs_iff]
  constructor
  · rintro ⟨⟨id, fields⟩, there, rfl⟩
    exact there
  · intro there
    exact ⟨(d.id, d.fields), there, rfl⟩

theorem mem_entries_iff (store : Collections) (p : String) (d : Document) :
    (p, d) ∈ store.entries ↔ store.fieldsAt? p d.id = some d.fields := by
  unfold entries listed fieldsAt? documents
  simp only [List.mem_map, List.mem_flatMap, Prod.exists, Prod.mk.injEq]
  constructor
  · rintro ⟨q, docs, stored, _, ⟨i, fields, there, rfl⟩, rfl, rfl⟩
    rw [(SortedMap.mem_pairs_iff _ _ _).mp stored]
    exact (SortedMap.mem_pairs_iff _ _ _).mp there
  · intro there
    cases found : store.byPath.get? p with
    | none =>
      rw [found] at there
      cases there
    | some docs =>
      rw [found] at there
      have stored := (SortedMap.mem_pairs_iff _ _ _).mpr found
      have listed := (SortedMap.mem_pairs_iff _ _ _).mpr there
      exact ⟨p, docs, stored, d, ⟨d.id, d.fields, listed, rfl⟩, rfl, rfl⟩

theorem mem_targets_iff (store : Collections) (p i : String) :
    (p, i) ∈ store.targets ↔ (store.fieldsAt? p i).isSome = true := by
  rw [targets, List.mem_map, Option.isSome_iff_exists]
  constructor
  · rintro ⟨⟨q, d⟩, there, same⟩
    obtain ⟨rfl, rfl⟩ := Prod.mk.inj same
    exact ⟨d.fields, (mem_entries_iff store q d).mp there⟩
  · rintro ⟨fields, there⟩
    exact ⟨(p, ⟨i, fields⟩), (mem_entries_iff store p ⟨i, fields⟩).mpr there, rfl⟩

theorem nodup_targets (store : Collections) : store.targets.Nodup := by
  rw [targets, List.nodup_iff_pairwise_ne, List.pairwise_map]
  refine store.entries_sorted.imp fun {a b} less => ?_
  intro same
  rcases less with less | ⟨-, less⟩
  · exact less.ne (Prod.mk.inj same).1
  · exact less.ne (Prod.mk.inj same).2

theorem length_targets (store : Collections) : store.targets.length = store.size := by
  have counted (pairs : List (String × SortedMap Fields)) (n : Nat) :
      pairs.foldl (fun n p => n + p.2.size) n =
        n + (pairs.flatMap fun p => (listed p.2).map fun d => (p.1, d)).length := by
    induction pairs generalizing n with
    | nil => rfl
    | cons p rest ih =>
      have here : ((listed p.2).map fun d => (p.1, d)).length = p.2.size := by
        simp [listed, SortedMap.size]
      rw [List.foldl_cons, ih, List.flatMap_cons, List.length_append, here]
      omega
  have whole := counted store.byPath.pairs 0
  rw [Nat.zero_add] at whole
  rw [targets, List.length_map, entries, size, whole]

theorem size_replay (writes : List Write) :
    (empty.replay writes).size = (writes.map Write.target).toFinset.card := by
  have same : (empty.replay writes).targets.toFinset = (writes.map Write.target).toFinset := by
    ext ⟨p, i⟩
    rw [List.mem_toFinset, List.mem_toFinset, mem_targets_iff, isSome_fieldsAt?_replay,
      fieldsAt?_empty]
    simp
  rw [← same, List.toFinset_card_of_nodup (nodup_targets _), length_targets]

/-- Writes are as many as the documents exactly when each document is written once. -/
theorem size_replay_eq_length_iff (writes : List Write) :
    (empty.replay writes).size = writes.length ↔ (writes.map Write.target).Nodup := by
  rw [size_replay, ← List.length_map Write.target]
  exact Multiset.toFinset_card_eq_card_iff_nodup

def mapFields (f : Fields → Fields) (store : Collections) : Collections :=
  ⟨store.byPath.map (·.map f)⟩

theorem documents_mapFields (f : Fields → Fields) (store : Collections) (path : String) :
    (store.mapFields f).documents path = (store.documents path).map f := by
  unfold documents mapFields
  rw [SortedMap.get?_map]
  cases store.byPath.get? path <;> rfl

theorem fieldsAt?_mapFields (f : Fields → Fields) (store : Collections) (path id : String) :
    (store.mapFields f).fieldsAt? path id = (store.fieldsAt? path id).map f := by
  unfold fieldsAt?
  rw [documents_mapFields, SortedMap.get?_map]

theorem size_mapFields (f : Fields → Fields) (store : Collections) :
    (store.mapFields f).size = store.size := by
  have same (docs : SortedMap Fields) : (docs.map f).size = docs.size := List.length_map _
  simp only [size, mapFields, SortedMap.map, List.foldl_map]
  exact congrArg (List.foldl · 0 _) (funext₂ fun n p => congrArg (n + ·) (same p.2))

theorem mapFields_write (f : Fields → Fields) (store : Collections) (path id : String)
    (fields : Fields) :
    (store.write path id fields).mapFields f = (store.mapFields f).write path id (f fields) := by
  have inner : ((store.documents (Path.trim path)).insert id fields).map f =
      ((store.mapFields f).documents (Path.trim path)).insert id (f fields) := by
    rw [documents_mapFields, SortedMap.map_insert]
  have outer := SortedMap.map_insert (SortedMap.map f) store.byPath (Path.trim path)
    ((store.documents (Path.trim path)).insert id fields)
  rw [inner] at outer
  exact congrArg Collections.mk outer

theorem mapFields_replay (f : Fields → Fields) (store : Collections) (writes : List Write) :
    (store.replay writes).mapFields f =
      (store.mapFields f).replay (writes.map (·.mapFields f)) := by
  induction writes generalizing store with
  | nil => rfl
  | cons w writes ih =>
    rw [replay_cons, ih, mapFields_write]
    rfl

theorem mapFields_replay_eq_self_iff (f : Fields → Fields) {writes : List Write}
    (once : (writes.map Write.target).Nodup) :
    (empty.replay writes).mapFields f = empty.replay writes ↔
      ∀ w ∈ writes, f w.fields = w.fields := by
  constructor
  · intro same w m
    have there := fieldsAt?_replay_of_mem empty once m
    have changed := fieldsAt?_mapFields f (empty.replay writes) (Path.trim w.path) w.id
    rw [same, there, Option.map_some, Option.some.injEq] at changed
    exact changed.symm
  · intro kept
    have writesKept : writes.map (·.mapFields f) = writes := by
      refine (List.map_congr_left fun w m => ?_).trans (List.map_id writes)
      rw [Write.mapFields, kept w m]
      rfl
    rw [mapFields_replay, writesKept]
    rfl

end Collections

end DocQuery
