import DocQuery.Query.Plan

/-!
# Store queries

What a document store is asked for: a scope, filters that all have to match, an order by one field
and a limit. The operators a store runs are its capabilities.
-/

namespace DocQuery

/-- Where a store query reads from: a collection by its path, or all collections of a name. -/
inductive Scope where
  | collection (path : String)
  | group (name : String)
deriving DecidableEq, Repr

structure StoreQuery where
  scope : Scope
  filters : List Condition := []
  order : Option OrderBy := none
  limit : Option Nat := none

def Scope.display : Scope → String
  | .collection path => "collection(" ++ path ++ ")"
  | .group name => "collection_group(" ++ name ++ ")"

def Condition.storeDisplay (c : Condition) : String :=
  "where(" ++ c.field ++ " " ++ c.operator.storeName ++ " " ++ c.value.display ++ ")"

def StoreQuery.display (q : StoreQuery) : String :=
  let filters := q.filters.map Condition.storeDisplay
  let order := q.order.toList.map fun o =>
    "order_by(" ++ o.field ++ " " ++ o.direction.word ++ ")"
  let limit := q.limit.toList.map fun n => "limit(" ++ toString n ++ ")"
  " | ".intercalate (q.scope.display :: filters ++ order ++ limit)

structure Capabilities where
  operators : List Operator

namespace Capabilities

def all : Capabilities := ⟨Operator.all⟩

def comparisonsOnly : Capabilities := ⟨Operator.comparisons⟩

def supports (c : Capabilities) (op : Operator) : Bool :=
  c.operators.contains op

end Capabilities

end DocQuery
