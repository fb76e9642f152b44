import DocQuery.Proofs.Session.Translation
import DocQuery.Session.Executor

/-!
# Calls of the store

Running a query makes the call that its explanation shows, or none, and never two. What comes back
is made from the reply of that call alone: an error of the store is passed on as it is, and only a
text that is no query is answered with an error of reading. The store may have any effect.
-/

namespace DocQuery

inductive StoreCall where
  | fetch (q : StoreQuery)
  | count (q : StoreQuery)

namespace DocumentStore

variable {m : Type → Type} [Monad m]

/-- The store that notes every call before it makes it, over a store of any effect. -/
def recording (store : DocumentStore m) : DocumentStore (StateT (List StoreCall) m) where
  capabilities := store.capabilities
  fetch q := do
    modify (· ++ [.fetch q])
    store.fetch q
  count q := do
    modify (· ++ [.count q])
    store.count q

/-- Executing the query has this effect and outcome, and makes these calls in their order. -/
def Runs (store : DocumentStore m) (settings : Settings) (query : String)
    (calls : List StoreCall) (outcome : m (Except QueryError Output)) : Prop :=
  execute store settings query = outcome ∧
    ∀ past, (execute store.recording settings query).run past =
      (fun result => (result, past ++ calls)) <$> outcome

section Lawful

variable [LawfulMonad m] (store : DocumentStore m) (q : StoreQuery) (past : List StoreCall)

theorem run_fetch_recording : (store.recording.fetch q).run past =
    (fun reply => (reply, past ++ [.fetch q])) <$> store.fetch q := by
  simp [recording]

theorem run_count_recording : (store.recording.count q).run past =
    (fun reply => (reply, past ++ [.count q])) <$> store.count q := by
  simp [recording]

end Lawful

end DocumentStore

def Output.ofCount : Except StoreError Nat → Except QueryError Output
  | .ok n => .ok (.count n)
  | .error e => .error (.store e)

def Plan.outputOf (plan : Plan) (settings : Settings) :
    Except StoreError (List Document) → Except QueryError Output
  | .ok docs => .ok (.rows (docs.map (Document.row settings plan.select)))
  | .error e => .error (.store e)

theorem isParseError_of_ofCount {reply : Except StoreError Nat} {e : QueryError}
    (h : Output.ofCount reply = .error e) : e.isParseError = false := by
  cases reply with
  | ok n => cases h
  | error s =>
    cases h
    rfl

theorem Plan.isParseError_of_outputOf {plan : Plan} {settings : Settings}
    {reply : Except StoreError (List Document)} {e : QueryError}
    (h : plan.outputOf settings reply = .error e) : e.isParseError = false := by
  cases reply with
  | ok docs => cases h
  | error s =>
    cases h
    rfl

section Planned

variable {capabilities : Capabilities} {settings : Settings} {query : String}

theorem planned_of_parse_error {p : ParseError} (parsed : Plan.parse query = .error p) :
    planned capabilities settings query = .error (.parse p) := by
  rw [planned, parsed]
  rfl

theorem planned_of_parse {plan : Plan} (parsed : Plan.parse query = .ok plan) :
    planned capabilities settings query =
      match plan.storeQuery settings capabilities with
      | .ok q => .ok (plan, q)
      | .error u => .error (.unsupported u) := by
  rw [planned, parsed]
  cases found : plan.storeQuery settings capabilities with
  | error u =>
    have refused : (plan.storeQuery settings capabilities).mapError QueryError.unsupported =
        .error (.unsupported u) := by
      rw [found]
      rfl
    exact congrArg (· >>= fun q => pure (plan, q)) refused
  | ok q =>
    have made : (plan.storeQuery settings capabilities).mapError QueryError.unsupported =
        .ok q := by
      rw [found]
      rfl
    exact congrArg (· >>= fun q => pure (plan, q)) made

theorem planned_eq_ok_iff {plan : Plan} {q : StoreQuery} :
    planned capabilities settings query = .ok (plan, q) ↔
      Plan.parse query = .ok plan ∧ plan.storeQuery settings capabilities = .ok q := by
  cases parsed : Plan.parse query with
  | error e => simp [planned_of_parse_error parsed]
  | ok p =>
    rw [planned_of_parse parsed]
    constructor
    · intro h
      cases found : p.storeQuery settings capabilities with
      | error u =>
        rw [found] at h
        cases h
      | ok r =>
        rw [found] at h
        cases h
        exact ⟨rfl, found⟩
    · rintro ⟨same, found⟩
      obtain rfl := Except.ok.inj same
      rw [found]

theorem explain_eq_ok_iff {q : StoreQuery} :
    explain capabilities settings query = .ok q ↔
      ∃ plan, planned capabilities settings query = .ok (plan, q) := by
  rw [explain]
  cases planned capabilities settings query with
  | error e => simp [Except.map]
  | ok p => simp [Except.map, Prod.ext_iff]

theorem explain_eq_error_iff {e : QueryError} :
    explain capabilities settings query = .error e ↔
      planned capabilities settings query = .error e := by
  rw [explain]
  cases planned capabilities settings query with
  | error e => simp [Except.map]
  | ok p => simp [Except.map]

theorem isParseError_of_planned {e : QueryError}
    (h : planned capabilities settings query = .error e) :
    e.isParseError = true ↔ ∃ p, Plan.parse query = .error p := by
  cases parsed : Plan.parse query with
  | error p =>
    rw [planned_of_parse_error parsed] at h
    cases h
    exact ⟨fun _ => ⟨p, rfl⟩, fun _ => rfl⟩
  | ok plan =>
    rw [planned_of_parse parsed] at h
    cases found : plan.storeQuery settings capabilities with
    | error u =>
      rw [found] at h
      cases h
      constructor
      · intro parse
        cases parse
      · rintro ⟨p, parse⟩
        cases parse
    | ok q =>
      rw [found] at h
      cases h

end Planned

section Runs

variable {m : Type → Type} [Monad m] [LawfulMonad m] {store : DocumentStore m}
  {settings : Settings} {query : String}

theorem runs_of_refused {e : QueryError}
    (h : planned store.capabilities settings query = .error e) :
    store.Runs settings query [] (pure (.error e)) := by
  have recorded : planned store.recording.capabilities settings query = .error e := h
  constructor
  · rw [execute, h]
  · intro past
    rw [execute, recorded]
    simp

section Planned

variable {plan : Plan} {q : StoreQuery}
  (h : planned store.capabilities settings query = .ok (plan, q))

include h

omit [LawfulMonad m] in
theorem runs_of_plan {calls : List StoreCall} {outcome : m (Except QueryError Output)}
    (run : plan.run store settings q = outcome)
    (recorded : ∀ past, (plan.run store.recording settings q).run past =
      (fun result => (result, past ++ calls)) <$> outcome) :
    store.Runs settings query calls outcome := by
  have same : planned store.recording.capabilities settings query = .ok (plan, q) := h
  constructor
  · rw [execute, h]
    exact run
  · intro past
    rw [execute, same]
    exact recorded past

theorem runs_of_count (count : plan.isCount = true) :
    store.Runs settings query [.count q] (Output.ofCount <$> store.count q) := by
  have reads (reply : Except StoreError Nat) :
      (reply.mapError .store).map .count = Output.ofCount reply := by
    cases reply <;> rfl
  apply runs_of_plan h
  · simp [Plan.run, count, reads]
  · intro past
    simp [Plan.run, count, reads, DocumentStore.run_count_recording]

theorem runs_of_no_limit (list : plan.isCount = false) (none : q.limit = some 0) :
    store.Runs settings query [] (pure (.ok (.rows []))) := by
  apply runs_of_plan h
  · simp [Plan.run, list, none]
  · intro past
    simp [Plan.run, list, none]

theorem runs_of_fetch (list : plan.isCount = false) (some : q.limit ≠ some 0) :
    store.Runs settings query [.fetch q] (plan.outputOf settings <$> store.fetch q) := by
  have reads (reply : Except StoreError (List Document)) :
      ((reply.mapError .store).map fun docs =>
        Output.rows (docs.map (Document.row settings plan.select))) =
          plan.outputOf settings reply := by
    cases reply <;> rfl
  apply runs_of_plan h
  · simp [Plan.run, list, some, reads]
  · intro past
    simp [Plan.run, list, some, reads, DocumentStore.run_fetch_recording]

end Planned

end Runs

/-- A query makes the call that it is explained by and no other, save that a limit of zero fetches
nothing; one that is not explained makes none and fails as its explanation does. -/
theorem execute_follows_explain {m : Type → Type} [Monad m] [LawfulMonad m]
    (store : DocumentStore m) (settings : Settings) (query : String) :
    (∀ e, explain store.capabilities settings query = .error e →
      store.Runs settings query [] (pure (.error e)) ∧
      (e.isParseError = true ↔ ∃ p, Plan.parse query = .error p)) ∧
    ∀ q, explain store.capabilities settings query = .ok q →
      ∃ plan, Plan.parse query = .ok plan ∧
        (plan.isCount = true →
          store.Runs settings query [.count q] (Output.ofCount <$> store.count q)) ∧
        (plan.isCount = false → plan.limit = some 0 →
          store.Runs settings query [] (pure (.ok (.rows [])))) ∧
        (plan.isCount = false → plan.limit ≠ some 0 →
          store.Runs settings query [.fetch q] (plan.outputOf settings <$> store.fetch q)) ∧
        ∀ e, (∃ reply, Output.ofCount reply = .error e) ∨
            (∃ reply, plan.outputOf settings reply = .error e) →
          (e.isParseError = true ↔ ∃ p, Plan.parse query = .error p) := by
  constructor
  · intro e refused
    have h := explain_eq_error_iff.mp refused
    exact ⟨runs_of_refused h, isParseError_of_planned h⟩
  · intro q explained
    obtain ⟨plan, h⟩ := explain_eq_ok_iff.mp explained
    obtain ⟨parsed, found⟩ := planned_eq_ok_iff.mp h
    have limit : plan.isCount = false → q.limit = plan.limit := by
      intro list
      obtain ⟨-, rfl⟩ := (plan.storeQuery_eq_ok_iff settings store.capabilities q).mp found
      simp [Plan.request, list]
    refine ⟨plan, parsed, runs_of_count h, ?_, ?_, ?_⟩
    · intro list zero
      exact runs_of_no_limit h list ((limit list).trans zero)
    · intro list some
      apply runs_of_fetch h list
      rw [limit list]
      exact some
    · intro e failed
      have other : e.isParseError = false := by
        rcases failed with ⟨reply, failed⟩ | ⟨reply, failed⟩
        · exact isParseError_of_ofCount failed
        · exact Plan.isParseError_of_outputOf failed
      rw [other, parsed]
      constructor
      · intro parse
        cases parse
      · rintro ⟨p, parse⟩
        cases parse

/-- A store that answers its first call and refuses every later one. -/
def DocumentStore.tiring : DocumentStore (StateM Nat) where
  capabilities := .all
  fetch _ := do
    let calls ← getModify (· + 1)
    return if calls = 0 then .ok [] else .error (.unavailable "tired")
  count _ := do
    let calls ← getModify (· + 1)
    return if calls = 0 then .ok 7 else .error (.unavailable "tired")

theorem execute_follows_explain_of_tired_count :
    LawfulMonad (StateM Nat) ∧
    explain .all {} "select count(*) from users limit 0" =
      .ok { scope := .collection "users" } ∧
    DocumentStore.tiring.Runs {} "select count(*) from users limit 0"
      [.count { scope := .collection "users" }]
      (Output.ofCount <$> DocumentStore.tiring.count { scope := .collection "users" }) ∧
    (execute DocumentStore.tiring {} "select count(*) from users limit 0").run 1 =
      (.error (.store (.unavailable "tired")), 2) := by
  have explained : explain .all {} "select count(*) from users limit 0" =
      .ok { scope := .collection "users" } := by rfl
  have parsed : Plan.parse "select count(*) from users limit 0" =
      .ok ⟨[.countAll], .collection "users", none, none, some 0⟩ := by rfl
  have follows :=
    execute_follows_explain DocumentStore.tiring {} "select count(*) from users limit 0"
  obtain ⟨plan, found, counts, -⟩ := follows.2 _ explained
  rw [parsed] at found
  cases found
  have runs := counts (by decide)
  refine ⟨inferInstance, explained, runs, ?_⟩
  rw [runs.1]
  rfl

end DocQuery
