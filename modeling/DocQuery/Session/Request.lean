import DocQuery.Store.Path
import DocQuery.Store.Query
import DocQuery.Time.Zone

/-!
# Store queries of plans

A plan becomes a store query under the settings of a session. A filter becomes a list of
conditions that all have to match, so it is refused when it has an alternative anywhere, or an
operator that the store does not run. A count takes neither order nor limit.
-/

namespace DocQuery

/-- What a session sets: the path that relative sources are taken under, the zone that dates are
shown in, and whether rows of all fields begin with the identity. The clocks are those of its
surroundings. -/
structure Settings where
  basePath : Option String := none
  zone : Option Zone := none
  includeId : Bool := false
  clocks : Clocks := .universal

def Predicate.storeFilters (capabilities : Capabilities) :
    Predicate → Except UnsupportedError (List Condition)
  | .condition c =>
    if capabilities.supports c.operator then .ok [c] else .error (.operator c.operator)
  | .joined .both left right => do
    let l ← left.storeFilters capabilities
    let r ← right.storeFilters capabilities
    return l ++ r
  | .joined .either _ _ => .error .alternative

/-- The scope of a source under a base path, which groups ignore. -/
def Source.scope (base : Option String) : Source → Scope
  | .collection path => .collection (Path.resolve path base)
  | .group name => .group name

namespace Plan

def storeQuery (plan : Plan) (settings : Settings) (capabilities : Capabilities) :
    Except UnsupportedError StoreQuery := do
  let filters ← match plan.filter with
    | some filter => filter.storeFilters capabilities
    | none => pure []
  let scope := plan.source.scope settings.basePath
  if plan.isCount then return { scope, filters }
  return { scope, filters, order := plan.order, limit := plan.limit }

end Plan

end DocQuery
