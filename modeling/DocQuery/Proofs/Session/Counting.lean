import DocQuery.Proofs.Query.Chain
import DocQuery.Proofs.Query.Selections
import DocQuery.Proofs.Session.Execution
import DocQuery.Proofs.Store.Scopes

/-!
# Counts of documents

Counting and listing take different ways through reading, translation and the store. From the same
text behind `FROM` they come to the same documents: a count is the number of rows that the listing
has, both fail with the same error, and no limit changes a count.
-/

namespace DocQuery

namespace Plan

/-- The plan asks for all documents that match: it counts, or has neither order nor limit. -/
def AsksForAll (plan : Plan) : Prop :=
  plan.isCount = true ∨ plan.order = none ∧ plan.limit = none

theorem AsksForAll.request {plan : Plan} (h : plan.AsksForAll) (settings : Settings)
    (filters : List Condition) :
    plan.request settings filters = { scope := plan.source.scope settings.basePath, filters } := by
  unfold Plan.request
  rcases h with count | ⟨order, limit⟩
  · rw [count]
    rfl
  · rw [order, limit, ite_self, ite_self]

theorem AsksForAll.storeQuery_eq {plan other : Plan} (h : plan.AsksForAll)
    (h' : other.AsksForAll) (source : other.source = plan.source)
    (filter : other.filter = plan.filter) (settings : Settings) (capabilities : Capabilities) :
    other.storeQuery settings capabilities = plan.storeQuery settings capabilities := by
  have filters : other.storeFilters capabilities = plan.storeFilters capabilities := by
    unfold Plan.storeFilters
    rw [filter]
  have requests : other.request settings = plan.request settings := by
    funext filters
    rw [h.request, h'.request, source]
  rw [storeQuery_eq_map, storeQuery_eq_map, filters, requests]

theorem AsksForAll.unordered {plan : Plan} (h : plan.AsksForAll) {settings : Settings}
    {capabilities : Capabilities} {q : StoreQuery}
    (made : plan.storeQuery settings capabilities = .ok q) : q.order = none ∧ q.limit = none := by
  obtain ⟨-, rfl⟩ := (plan.storeQuery_eq_ok_iff settings capabilities q).mp made
  rw [h.request]
  exact ⟨rfl, rfl⟩

end Plan

section Execution

variable (store : Collections) (capabilities : Capabilities) (settings : Settings)
  {query other : String} {plan counted : Plan} (parsed : Plan.parse query = .ok plan)

include parsed

theorem planned_toStore : planned (store.toStore capabilities).capabilities settings query =
    match plan.storeQuery settings capabilities with
    | .ok q => .ok (plan, q)
    | .error u => .error (.unsupported u) :=
  planned_of_parse parsed

/-- A plan that a store does not express is refused; what else is answered is up to the store
query. -/
theorem execute_of_storeQuery {answer : StoreQuery → Except QueryError Output}
    (answers : ∀ q, plan.storeQuery settings capabilities = .ok q →
      planned (store.toStore capabilities).capabilities settings query = .ok (plan, q) →
        execute (store.toStore capabilities) settings query = answer q) :
    execute (store.toStore capabilities) settings query =
      match plan.storeQuery settings capabilities with
      | .error u => .error (.unsupported u)
      | .ok q => answer q := by
  have planned := planned_toStore store capabilities settings parsed
  cases made : plan.storeQuery settings capabilities with
  | error u =>
    rw [made] at planned
    exact (runs_of_refused planned).1
  | ok q =>
    rw [made] at planned
    exact answers q made planned

theorem execute_count (count : plan.isCount = true) :
    execute (store.toStore capabilities) settings query =
      match plan.storeQuery settings capabilities with
      | .error u => .error (.unsupported u)
      | .ok q => Output.ofCount (store.count q) :=
  execute_of_storeQuery store capabilities settings parsed fun _ _ planned =>
    (runs_of_count planned count).1

theorem execute_listing (list : plan.isCount = false) (all : plan.AsksForAll) :
    execute (store.toStore capabilities) settings query =
      match plan.storeQuery settings capabilities with
      | .error u => .error (.unsupported u)
      | .ok q => plan.outputOf settings (store.fetch q) := by
  apply execute_of_storeQuery store capabilities settings parsed
  intro q made planned
  have some : q.limit ≠ some 0 := by
    rw [(all.unordered made).2]
    nofun
  exact (runs_of_fetch planned list some).1

variable (parsed' : Plan.parse other = .ok counted) (count' : counted.isCount = true)
  (source : counted.source = plan.source) (filter : counted.filter = plan.filter)

include parsed' count' source filter

theorem execute_count_congr (count : plan.isCount = true) :
    execute (store.toStore capabilities) settings other =
      execute (store.toStore capabilities) settings query := by
  have same := Plan.AsksForAll.storeQuery_eq (.inl count) (.inl count') source filter settings
    capabilities
  rw [execute_count _ _ _ parsed count, execute_count _ _ _ parsed' count', same]

theorem execute_count_of_listing (list : plan.isCount = false) (all : plan.AsksForAll) :
    (∃ e, execute (store.toStore capabilities) settings query = .error e ∧
      execute (store.toStore capabilities) settings other = .error e) ∨
    ∃ rows, execute (store.toStore capabilities) settings query = .ok (.rows rows) ∧
      execute (store.toStore capabilities) settings other = .ok (.count rows.length) := by
  have same := all.storeQuery_eq (.inl count') source filter settings capabilities
  rw [execute_count _ _ _ parsed' count', execute_listing _ _ _ parsed list all, same]
  cases made : plan.storeQuery settings capabilities with
  | error u => exact .inl ⟨_, rfl, rfl⟩
  | ok q =>
    dsimp only
    rw [store.count_unordered (all.unordered made).1 (all.unordered made).2]
    cases store.fetch q with
    | error e => exact .inl ⟨_, rfl, rfl⟩
    | ok docs => exact .inr ⟨_, rfl, by rw [List.length_map]; rfl⟩

end Execution

/-- Where a listing has neither order nor limit, the count is the number of its rows, and each fails
with the error that the other fails with. -/
theorem count_is_number_of_rows (store : Collections) (capabilities : Capabilities)
    (settings : Settings) {r : String} {plan : Plan}
    (parsed : Plan.parse ("SELECT * FROM " ++ r) = .ok plan) (order : plan.order = none)
    (limit : plan.limit = none) :
    (∀ n, execute (store.toStore capabilities) settings ("SELECT COUNT(*) FROM " ++ r) =
        .ok (.count n) ↔
      ∃ rows, execute (store.toStore capabilities) settings ("SELECT * FROM " ++ r) =
        .ok (.rows rows) ∧ rows.length = n) ∧
    (∀ e, execute (store.toStore capabilities) settings ("SELECT COUNT(*) FROM " ++ r) =
        .error e ↔
      execute (store.toStore capabilities) settings ("SELECT * FROM " ++ r) = .error e) ∧
    ∀ k limited, Plan.parse ("SELECT COUNT(*) FROM " ++ r ++ " LIMIT " ++ k) = .ok limited →
      limited.source = plan.source → limited.filter = plan.filter →
      execute (store.toStore capabilities) settings
          ("SELECT COUNT(*) FROM " ++ r ++ " LIMIT " ++ k) =
        execute (store.toStore capabilities) settings ("SELECT COUNT(*) FROM " ++ r) := by
  have listing : ("SELECT * FROM " ++ r).toList = selectionOf ['*'] (' ' :: r.toList) := by
    rw [String.toList_append]
    rfl
  have counting (s : String) : ("SELECT COUNT(*) FROM " ++ s).toList =
      selectionOf "COUNT(*)".toList (' ' :: s.toList) := by
    rw [String.toList_append]
    rfl
  have counted := Plan.parse_selectionOf_other readsAs_wildcard listing readsAs_countAll
    (counting r) order parsed
  have list : plan.isCount = false := by
    rw [Plan.isCount, Plan.select_of_parse_selectionOf readsAs_wildcard listing parsed]
    rfl
  have outcome := execute_count_of_listing store capabilities settings parsed counted rfl rfl rfl
    list (.inr ⟨order, limit⟩)
  refine ⟨?_, ?_, ?_⟩
  · intro n
    rcases outcome with ⟨e, rows, count⟩ | ⟨rows, listed, count⟩
    · rw [rows, count]
      constructor
      · nofun
      · rintro ⟨_, same, -⟩
        cases same
    · rw [listed, count]
      constructor
      · intro same
        cases same
        exact ⟨rows, rfl, rfl⟩
      · rintro ⟨_, same, rfl⟩
        cases same
        rfl
  · intro e
    rcases outcome with ⟨e', rows, count⟩ | ⟨rows, listed, count⟩
    · rw [rows, count]
    · rw [listed, count]
      constructor <;> nofun
  · intro k limited parsed' source filter
    rw [String.append_assoc, String.append_assoc] at parsed' ⊢
    have select := Plan.select_of_parse_selectionOf readsAs_countAll (counting _) parsed'
    have count : limited.isCount = true := by
      rw [Plan.isCount, select]
      rfl
    exact execute_count_congr store capabilities settings counted parsed' count source filter rfl

def tasks : Collections :=
  ((Collections.empty.insert "tasks" "t1" (.object [("done", .boolean true)])).insert "tasks" "t2"
    (.object [("done", .boolean false)])).insert "tasks" "t3" (.object [("done", .boolean true)])

def doneOnly : Predicate := .condition ⟨"done", .equal, .boolean true⟩

theorem reads_doneOnly {text : List Char}
    (tokens : Token.tokens text = ["done", "=", "true"]) :
    ((some text).mapM fun text =>
      (Predicate.ofTokens (Token.tokens text)).mapError ParseError.predicate) =
        .ok (some doneOnly) := by
  have read : Predicate.ofTokens (Token.tokens text) = .ok doneOnly := by
    rw [tokens, Predicate.ofTokens_three]
    rfl
  rw [Option.mapM_some, read]
  rfl

theorem count_is_number_of_rows_of_tasks :
    (∃ rows, execute (tasks.toStore .all) {} "SELECT * FROM tasks WHERE done = true" =
      .ok (.rows rows) ∧ rows.length = 2) ∧
    execute (tasks.toStore .all) {} "SELECT COUNT(*) FROM tasks WHERE done = true" =
      .ok (.count 2) ∧
    execute (tasks.toStore .all) {} "SELECT COUNT(*) FROM tasks WHERE done = true LIMIT 0" =
      .ok (.count 2) ∧
    execute (tasks.toStore ⟨[]⟩) {} "SELECT COUNT(*) FROM tasks WHERE done = true" =
      .error (.unsupported (.operator .equal)) := by
  let plan : Plan := ⟨[.wildcard], .collection "tasks", some doneOnly, none, none⟩
  have parsed : Plan.parse ("SELECT * FROM " ++ "tasks WHERE done = true") = .ok plan :=
    (Plan.parse_eq_ok_iff rfl).mpr ⟨by decide, _, plan, rfl,
      ⟨rfl, rfl, reads_doneOnly (by decide), rfl, rfl⟩, rfl, rfl⟩
  let limited : Plan := ⟨[.countAll], .collection "tasks", some doneOnly, none, some 0⟩
  have parsed' : Plan.parse ("SELECT COUNT(*) FROM " ++ "tasks WHERE done = true" ++ " LIMIT " ++
      "0") = .ok limited :=
    (Plan.parse_eq_ok_iff rfl).mpr ⟨by decide, _, limited, rfl,
      ⟨rfl, rfl, reads_doneOnly (by decide), rfl, rfl⟩, rfl, rfl⟩
  have listed (capabilities : Capabilities) :=
    execute_listing tasks capabilities {} parsed rfl (.inr ⟨rfl, rfl⟩)
  obtain ⟨counts, -, limits⟩ := count_is_number_of_rows tasks .all {} parsed rfl rfl
  obtain ⟨-, errors, -⟩ := count_is_number_of_rows tasks ⟨[]⟩ {} parsed rfl rfl
  have rows : ∃ rows, execute (tasks.toStore .all) {} "SELECT * FROM tasks WHERE done = true" =
      .ok (.rows rows) ∧ rows.length = 2 := ⟨_, listed .all, rfl⟩
  have count : execute (tasks.toStore .all) {} "SELECT COUNT(*) FROM tasks WHERE done = true" =
      .ok (.count 2) := (counts 2).mpr rows
  exact ⟨rows, count, (limits "0" _ parsed' rfl rfl).trans count, (errors _).mpr (listed ⟨[]⟩)⟩

end DocQuery
