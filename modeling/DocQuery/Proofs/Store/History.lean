import DocQuery.Proofs.Session.Execution
import DocQuery.Proofs.Store.Arrays
import DocQuery.Proofs.Store.Scopes

/-!
# Stores by their history

A store that was filled by inserts and added arrays is the map of last writes: of every document
that was ever written it holds what was written last, and it holds no other. What a query answers
depends on these last writes alone, so neither the order of writes to different documents nor a
write outside of its scope matters to it.
-/

namespace DocQuery

inductive Filling where
  | insert (path id : String) (value : Json)
  | addAll (path : String) (values : List Json)

namespace Filling

def writes : Filling → List Write
  | .insert path id value => [⟨path, id, .ofDocument value⟩]
  | .addAll path values => (values.mapIdx Collections.numbered).map (Write.listed path)

def apply (store : Collections) : Filling → Collections
  | .insert path id value => store.insert path id value
  | .addAll path values => store.addAll path values

theorem apply_eq_replay (store : Collections) (call : Filling) :
    call.apply store = store.replay call.writes := by
  cases call with
  | insert path id value => rfl
  | addAll path values => exact store.addAll_eq_replay path values

end Filling

def writesOf (calls : List Filling) : List Write := calls.flatMap Filling.writes

theorem writesOf_append (before after : List Filling) :
    writesOf (before ++ after) = writesOf before ++ writesOf after := List.flatMap_append

theorem writesOf_insert (path id : String) (value : Json) (after : List Filling) :
    writesOf (.insert path id value :: after) =
      ⟨path, id, .ofDocument value⟩ :: writesOf after := rfl

/-- The fields that the last of the writes to a document gave it. -/
def lastWrite? (writes : List Write) (target : String × String) : Option Fields :=
  (writes.reverse.find? fun w => w.target == target).map Write.fields

theorem lastWrite?_append (before after : List Write) (target : String × String) :
    lastWrite? (before ++ after) target =
      (lastWrite? after target).or (lastWrite? before target) := by
  unfold lastWrite?
  rw [List.reverse_append, List.find?_append, Option.map_or]

theorem lastWrite?_cons (w : Write) (writes : List Write) (target : String × String) :
    lastWrite? (w :: writes) target =
      (lastWrite? writes target).or (if w.target = target then some w.fields else none) := by
  rw [← List.singleton_append, lastWrite?_append]
  refine congrArg (Option.or (lastWrite? writes target)) ?_
  by_cases here : w.target = target <;> simp [lastWrite?, here]

theorem isSome_lastWrite? (writes : List Write) (target : String × String) :
    (lastWrite? writes target).isSome = true ↔ target ∈ writes.map Write.target := by
  rw [lastWrite?, Option.isSome_map, List.find?_isSome, List.mem_map]
  simp only [List.mem_reverse, beq_iff_eq]

namespace Collections

def fill (store : Collections) (calls : List Filling) : Collections :=
  calls.foldl Filling.apply store

theorem fill_eq_replay (store : Collections) (calls : List Filling) :
    store.fill calls = store.replay (writesOf calls) := by
  induction calls generalizing store with
  | nil => rfl
  | cons call calls ih =>
    have step : store.fill (call :: calls) = (call.apply store).fill calls := rfl
    rw [step, ih, Filling.apply_eq_replay, ← replay_append]
    rfl

/-- A run of writes leaves to every document its last write, and what it had without one. -/
theorem fieldsAt?_replay (store : Collections) (writes : List Write) (p i : String) :
    (store.replay writes).fieldsAt? p i = (lastWrite? writes (p, i)).or (store.fieldsAt? p i) := by
  induction writes generalizing store with
  | nil => rfl
  | cons w writes ih =>
    rw [replay_cons, ih, fieldsAt?_write_target, lastWrite?_cons, Option.or_assoc]
    by_cases here : (p, i) = w.target
    · simp [here]
    · simp [here, Ne.symm here]

theorem fieldsAt?_fill (calls : List Filling) (p i : String) :
    (empty.fill calls).fieldsAt? p i = lastWrite? (writesOf calls) (p, i) := by
  rw [fill_eq_replay, fieldsAt?_replay, fieldsAt?_empty, Option.or_none]

theorem answerAlike_of_lastWrites {calls others : List Filling} {q : StoreQuery}
    (same : ∀ p i, q.scope.covers p = true →
      lastWrite? (writesOf calls) (p, i) = lastWrite? (writesOf others) (p, i)) :
    AnswerAlike (empty.fill calls) (empty.fill others) q := by
  apply answerAlike_of_agreeOn
  intro p i covered
  rw [fieldsAt?_fill, fieldsAt?_fill, same p i covered]

section Inserts

variable (before after : List Filling) (path id : String) (value : Json)

theorem lastWrite?_swap {path' id' : String} (value' : Json)
    (differ : (Path.trim path, id) ≠ (Path.trim path', id')) (target : String × String) :
    lastWrite? (writesOf (before ++ .insert path id value :: .insert path' id' value' :: after))
      target =
    lastWrite? (writesOf (before ++ .insert path' id' value' :: .insert path id value :: after))
      target := by
  rw [writesOf_append, writesOf_append, lastWrite?_append, lastWrite?_append]
  simp only [writesOf_insert, lastWrite?_cons, Option.or_assoc]
  refine congrArg (Option.or (lastWrite? (writesOf after) target)) ?_
  by_cases first : (Path.trim path, id) = target
  · have second : (Path.trim path', id') ≠ target := fun second => differ (first.trans second.symm)
    simp [Write.target, first, second]
  · simp [Write.target, first]

theorem lastWrite?_insert_of_ne {target : String × String}
    (outside : (Path.trim path, id) ≠ target) :
    lastWrite? (writesOf (before ++ .insert path id value :: after)) target =
      lastWrite? (writesOf (before ++ after)) target := by
  rw [writesOf_append, writesOf_append, lastWrite?_append, lastWrite?_append, writesOf_insert,
    lastWrite?_cons]
  simp [Write.target, outside]

theorem answerAlike_of_swap {path' id' : String} (value' : Json)
    (differ : (Path.trim path, id) ≠ (Path.trim path', id')) (q : StoreQuery) : AnswerAlike
      (empty.fill (before ++ .insert path id value :: .insert path' id' value' :: after))
      (empty.fill (before ++ .insert path' id' value' :: .insert path id value :: after)) q :=
  answerAlike_of_lastWrites fun p i _ =>
    lastWrite?_swap before after path id value value' differ (p, i)

theorem answerAlike_of_outside {q : StoreQuery}
    (outside : q.scope.covers (Path.trim path) = false) :
    AnswerAlike (empty.fill (before ++ .insert path id value :: after))
      (empty.fill (before ++ after)) q := by
  apply answerAlike_of_lastWrites
  intro p i covered
  apply lastWrite?_insert_of_ne
  intro same
  rw [(Prod.mk.inj same).1, covered] at outside
  cases outside

end Inserts

/-- Stores that answer alike what a query asks for give the query the same outcome. -/
theorem execute_eq_of_answerAlike {store other : Collections} {capabilities : Capabilities}
    {settings : Settings} {query : String}
    (alike : ∀ q, explain capabilities settings query = .ok q → AnswerAlike store other q) :
    execute (store.toStore capabilities) settings query =
      execute (other.toStore capabilities) settings query := by
  cases found : planned capabilities settings query with
  | error e =>
    have refused (s : Collections) :
        execute (s.toStore capabilities) settings query = pure (.error e) := by
      have here : planned (s.toStore capabilities).capabilities settings query = .error e := found
      exact (runs_of_refused here).1
    rw [refused store, refused other]
  | ok p =>
    obtain ⟨plan, q⟩ := p
    obtain ⟨fetched, counted⟩ := alike q (explain_eq_ok_iff.mpr ⟨plan, found⟩)
    have same : plan.run (store.toStore capabilities) settings q =
        plan.run (other.toStore capabilities) settings q := by
      simp only [Plan.run, toStore, fetched, counted]
    have ran (s : Collections) : execute (s.toStore capabilities) settings query =
        plan.run (s.toStore capabilities) settings q := by
      have here : planned (s.toStore capabilities).capabilities settings query =
          .ok (plan, q) := found
      rw [execute, here]
    rw [ran, ran, same]

/-- A store is the map of last writes: its answers and its size depend on the last write to each
document alone. -/
theorem filled_store_is_last_writes (calls : List Filling) :
    (∀ path, Path.namesCollection (Path.trim path) = true → ∃ docs,
      (empty.fill calls).fetch { scope := .collection path } = .ok docs ∧
      docs.Pairwise (fun a b => a.id < b.id) ∧
      (∀ id, id ∈ docs.map Document.id ↔
        (Path.trim path, id) ∈ (writesOf calls).map Write.target) ∧
      ∀ d ∈ docs, lastWrite? (writesOf calls) (Path.trim path, d.id) = some d.fields) ∧
    (empty.fill calls).size = ((writesOf calls).map Write.target).toFinset.card ∧
    ((empty.fill calls).isEmpty = true ↔ (empty.fill calls).size = 0) ∧
    (∀ before after path id value path' id' value',
      (Path.trim path, id) ≠ (Path.trim path', id') →
      let written := empty.fill
        (before ++ .insert path id value :: .insert path' id' value' :: after)
      let swapped := empty.fill
        (before ++ .insert path' id' value' :: .insert path id value :: after)
      (∀ q, AnswerAlike written swapped q) ∧
      ∀ capabilities settings query,
        execute (written.toStore capabilities) settings query =
          execute (swapped.toStore capabilities) settings query) ∧
    ∀ before after path id value,
      let written := empty.fill (before ++ .insert path id value :: after)
      let without := empty.fill (before ++ after)
      (∀ q : StoreQuery, q.scope.covers (Path.trim path) = false →
        AnswerAlike written without q) ∧
      ∀ capabilities settings query,
        (∀ q, explain capabilities settings query = .ok q →
          q.scope.covers (Path.trim path) = false) →
        execute (written.toStore capabilities) settings query =
          execute (without.toStore capabilities) settings query := by
  refine ⟨?_, ?_, ?_, ?_, ?_⟩
  · intro path named
    have there (id : String) : ((empty.fill calls).documents (Path.trim path)).get? id =
        lastWrite? (writesOf calls) (Path.trim path, id) := fieldsAt?_fill calls _ id
    refine ⟨_, fetch_whole _ named, ids_listed_sorted _, ?_, ?_⟩
    · intro id
      rw [ids_listed, SortedMap.mem_keys_iff, there, isSome_lastWrite?]
    · intro d m
      rw [← there]
      exact (mem_listed_iff _ d).mp m
  · rw [fill_eq_replay, size_replay]
  · rw [isEmpty, beq_iff_eq]
  · intro before after path id value path' id' value' differ
    have alike := answerAlike_of_swap before after path id value value' differ
    exact ⟨alike, fun _ _ _ => execute_eq_of_answerAlike fun q _ => alike q⟩
  · intro before after path id value
    refine ⟨fun q outside => answerAlike_of_outside before after path id value outside, ?_⟩
    intro capabilities settings query outside
    exact execute_eq_of_answerAlike fun q found =>
      answerAlike_of_outside before after path id value (outside q found)

def noteHistory : List Filling :=
  [.insert "/notes/" "n1" (.string "old"),
    .addAll "notes" [.object [("text", .string "new"), ("id", .string "n1")], .null],
    .insert "users" "n1" (.object [])]

def lastNotes : List Document :=
  [⟨"doc1", .ofPairs [("value", .null)]⟩, ⟨"n1", .ofPairs [("text", .string "new")]⟩]

theorem filled_store_is_last_writes_of_notes :
    Path.namesCollection (Path.trim "notes//") = true ∧
    (empty.fill noteHistory).fetch { scope := .collection "notes//" } = .ok lastNotes ∧
    (∀ d ∈ lastNotes, lastWrite? (writesOf noteHistory) ("notes", d.id) = some d.fields) ∧
    (empty.fill noteHistory).size = 3 ∧
    (Scope.group "notes").covers (Path.trim "users") = false ∧
    AnswerAlike (empty.fill noteHistory) (empty.fill noteHistory.dropLast)
      { scope := .group "notes" } := by
  have named : Path.namesCollection (Path.trim "notes//") = true := by decide
  have outside : (Scope.group "notes").covers (Path.trim "users") = false := by decide
  obtain ⟨notes, size, -, -, left⟩ := filled_store_is_last_writes noteHistory
  obtain ⟨docs, fetched, -, -, fields⟩ := notes "notes//" named
  have answer : (empty.fill noteHistory).fetch { scope := .collection "notes//" } =
      .ok lastNotes := by rfl
  obtain rfl : docs = lastNotes := Except.ok.inj (fetched.symm.trans answer)
  have path : Path.trim "notes//" = "notes" := by decide
  rw [path] at fields
  refine ⟨named, answer, fields, ?_, outside, ?_⟩
  · rw [size]
    decide
  · exact (left noteHistory.dropLast [] "users" "n1" (.object [])).1 _ outside

end Collections

end DocQuery
