import DocQuery.Proofs.Query.Conditions
import DocQuery.Proofs.Session.Execution
import DocQuery.Proofs.Store.TopN

/-!
# Answers to one condition

A query with one condition answers with a row for every document of its collection that matches the
condition, in order of identity.
-/

namespace DocQuery

theorem supports_all (op : Operator) : Capabilities.all.supports op = true := by
  cases op <;> decide

namespace Collections

@[simp] theorem toStore_fetch (store : Collections) (capabilities : Capabilities) :
    (store.toStore capabilities).fetch = store.fetch := rfl

theorem fetch_collection (store : Collections) {path : String}
    (named : (Scope.collection path).IsValid) (c : Condition) :
    store.fetch { scope := .collection path, filters := [c] } =
      .ok ((listed (store.documents (Path.trim path))).filter c.accepts) := by
  have valid : Path.namesCollection (Path.trim path) = true := named
  simp [fetch, accepted, inScope, valid, Except.map]

theorem execute_of_fetched (store : Collections) (capabilities : Capabilities)
    (settings : Settings) {query : String} {plan : Plan} (parsed : Plan.parse query = .ok plan)
    (list : plan.isCount = false) (unlimited : plan.limit = none) {filters : List Condition}
    (filtered : plan.storeFilters capabilities = .ok filters) {docs : List Document}
    (fetched : store.fetch
      { scope := plan.source.scope settings.basePath, filters, order := plan.order } = .ok docs) :
    execute (store.toStore capabilities) settings query =
      .ok (.rows (docs.map (Document.row settings plan.select))) := by
  have request : plan.request settings filters =
      { scope := plan.source.scope settings.basePath, filters, order := plan.order } := by
    rw [Plan.request, list, unlimited]
    rfl
  have translated : plan.storeQuery settings capabilities =
      .ok (plan.request settings filters) := by
    rw [Plan.storeQuery_eq_map, filtered]
    rfl
  have planned : planned (store.toStore capabilities).capabilities settings query =
      .ok (plan, plan.request settings filters) := planned_eq_ok_iff.mpr ⟨parsed, translated⟩
  have some : (plan.request settings filters).limit ≠ some 0 := by
    rw [request]
    exact (Option.some_ne_none 0).symm
  rw [(runs_of_fetch planned list some).1, toStore_fetch, request, fetched]
  rfl

/-- A query that is read as one condition answers with the documents that match it. -/
theorem execute_matching (store : Collections) (settings : Settings) {select : List SelectItem}
    (columns : select ≠ [.countAll]) {query path : String} {c : Condition}
    (parsed : Plan.parse query = .ok (.matching select path c))
    (named : (Scope.collection (Path.resolve path settings.basePath)).IsValid) :
    execute (store.toStore .all) settings query =
      .ok (.rows (((listed (store.documents
        (Path.trim (Path.resolve path settings.basePath)))).filter c.accepts).map
          (Document.row settings select))) := by
  have list : (Plan.matching select path c).isCount = false := beq_eq_false_iff_ne.mpr columns
  have filters : (Plan.matching select path c).storeFilters .all = .ok [c] :=
    if_pos (supports_all c.operator)
  exact store.execute_of_fetched .all settings parsed list rfl filters
    (store.fetch_collection named c)

end Collections

end DocQuery
