import DocQuery.Query.Clauses
import DocQuery.Query.Condition
import DocQuery.Query.SelectItem

/-!
# Plans

The plan of a query: what to select, from where, which documents, in which order and how many.
Reading a query checks its clauses one after the other and then names the identity of documents as
stores do.
-/

namespace DocQuery

open Text

/-- Where documents come from: one collection, or all collections of a name. -/
inductive Source where
  | collection (path : String)
  | group (name : String)
deriving DecidableEq, Repr

namespace Source

def display : Source → String
  | .collection path => path
  | .group name => "GROUP " ++ name

/-- The source that a text writes: one word, or `GROUP` and the name of a collection. -/
def ofText (text : List Char) : Except ClauseError Source :=
  match words text with
  | [] => .error .emptySource
  | [path] => .ok (.collection (String.ofList path))
  | [keyword, name] =>
    if sameLetters keyword "GROUP".toList then
      if '/' ∈ name then .error (.groupPath (String.ofList name))
      else .ok (.group (String.ofList name))
    else .error (.source (String.ofList (trim text)))
  | _ => .error (.source (String.ofList (trim text)))

end Source

inductive Direction where
  | ascending
  | descending
deriving DecidableEq, Repr

namespace Direction

def word : Direction → String
  | .ascending => "ASC"
  | .descending => "DESC"

def ofWord? (word : List Char) : Option Direction :=
  if sameLetters word "ASC".toList then some .ascending
  else if sameLetters word "DESC".toList then some .descending
  else none

end Direction

structure OrderBy where
  field : String
  direction : Direction
deriving DecidableEq, Repr

def OrderBy.ofText (text : List Char) : Except ClauseError OrderBy :=
  if ',' ∈ text then .error .severalOrderFields
  else
    match words text with
    | [field, direction] =>
      match Direction.ofWord? direction with
      | none => .error (.orderDirection (String.ofList direction))
      | some direction =>
        if FieldName.isName field then
          .ok ⟨String.ofList (FieldName.bare field), direction⟩
        else .error (.orderField (String.ofList field))
    | [_] => .error .noOrderDirection
    | _ => .error (.orderShape (String.ofList (trim text)))

/-- The signed 64-bit integer that a whole text writes: an optional sign and ASCII digits. -/
def readSigned? (text : List Char) : Option Int :=
  let (negative, digits) := Numeral.sign text
  (readDigits? digits).bind fun n =>
    let i : Int := if negative then -(n : Int) else n
    if Word.IsSigned i then some i else none

def limitOfText (text : List Char) : Except LimitError Nat :=
  match readSigned? (trim text) with
  | none => .error (.noInteger (String.ofList (trim text)))
  | some i => if i < 0 then .error (.negative i) else .ok i.toNat

structure Plan where
  select : List SelectItem
  source : Source
  filter : Option Predicate
  order : Option OrderBy
  limit : Option Nat

namespace Plan

def isCount (plan : Plan) : Bool :=
  plan.select == [.countAll]

def mapFields (f : String → String) (plan : Plan) : Plan :=
  { plan with
    select := plan.select.map (·.mapField f)
    filter := plan.filter.map (·.mapFields f)
    order := plan.order.map fun o => { o with field := f o.field } }

/-- The plan with the identity of documents under the name that stores keep it. -/
def resolveIdentity (plan : Plan) : Plan :=
  plan.mapFields FieldName.resolve

def ofClauses (texts : ClauseTexts) : Except ParseError Plan := do
  let select ← (SelectItem.listOfText texts.select).mapError .clause
  let source ← (Source.ofText texts.source).mapError .clause
  let filter ← texts.filter.mapM fun text =>
    (Predicate.ofTokens (Token.tokens text)).mapError .predicate
  let order ← texts.order.mapM fun text => (OrderBy.ofText text).mapError .clause
  let limit ← texts.limit.mapM fun text => (limitOfText text).mapError .limit
  return ⟨select, source, filter, order, limit⟩

/-- The plan of a query. Open quotations are found first; a count takes no order. -/
def parse (query : String) : Except ParseError Plan := do
  let text := queryText query.toList
  if let some (mark, position) := unclosedQuote? none 0 text then
    throw (.clause (.openQuote mark position))
  let texts ← clauseTexts text
  let plan ← ofClauses texts
  if plan.isCount && plan.order.isSome then
    throw .countWithOrder
  return plan.resolveIdentity

end Plan

end DocQuery
