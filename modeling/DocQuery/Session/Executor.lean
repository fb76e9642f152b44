import DocQuery.Session.Row
import DocQuery.Store.Collections

/-!
# Running queries

A document store answers store queries in some effect. A query is read, turned into a store query,
and answered with at most one call of the store. A failure of the store is passed on unchanged.
-/

namespace DocQuery

/-- A document store: the operators it runs, and how it fetches and counts documents. -/
structure DocumentStore (m : Type → Type) where
  capabilities : Capabilities
  fetch : StoreQuery → m (Except StoreError (List Document))
  count : StoreQuery → m (Except StoreError Nat)

def Collections.toStore (collections : Collections) (capabilities : Capabilities) :
    DocumentStore Id :=
  ⟨capabilities, collections.fetch, collections.count⟩

inductive Output where
  | rows (list : List Row)
  | count (n : Nat)

namespace Output

/-- The rows to show; a count is one row. -/
def toRows : Output → List Row
  | .rows list => list
  | .count n => [Fields.ofPairs [("COUNT(*)", .number (.integer n))]]

def length : Output → Nat
  | .rows list => list.length
  | .count _ => 1

def isEmpty (o : Output) : Bool := o.length == 0

end Output

def planned (capabilities : Capabilities) (settings : Settings) (query : String) :
    Except QueryError (Plan × StoreQuery) := do
  let plan ← (Plan.parse query).mapError .parse
  let request ← (plan.storeQuery settings capabilities).mapError .unsupported
  return (plan, request)

def explain (capabilities : Capabilities) (settings : Settings) (query : String) :
    Except QueryError StoreQuery :=
  (planned capabilities settings query).map Prod.snd

/-- Runs a plan by its store query. A limit of zero needs no call. -/
def Plan.run {m : Type → Type} [Monad m] (plan : Plan) (store : DocumentStore m)
    (settings : Settings) (request : StoreQuery) : m (Except QueryError Output) :=
  if plan.isCount then do
    let n ← store.count request
    return (n.mapError .store).map .count
  else if request.limit = some 0 then
    pure (.ok (.rows []))
  else do
    let docs ← store.fetch request
    return (docs.mapError .store).map fun docs =>
      .rows (docs.map (Document.row settings plan.select))

def execute {m : Type → Type} [Monad m] (store : DocumentStore m) (settings : Settings)
    (query : String) : m (Except QueryError Output) :=
  match planned store.capabilities settings query with
  | .error e => pure (.error e)
  | .ok (plan, request) => plan.run store settings request

end DocQuery
