import DocQuery.Query.Operator

/-!
# Errors of queries

Why a query has no answer: its text is no query, the store cannot express its filter, or the store
failed. Each error carries what its message tells the user.
-/

namespace DocQuery

inductive ClauseError where
  | openQuote (mark : Char) (position : Nat)
  | emptySelectList
  | emptySelectItem
  | countNotAlone
  | wildcardNotAlone
  | countArgument (item : String)
  | unknownFunction (name : String)
  | functionArgument (argument function : String)
  | selectItem (item : String)
  | groupPath (name : String)
  | emptySource
  | source (text : String)
  | severalOrderFields
  | orderDirection (word : String)
  | orderField (word : String)
  | noOrderDirection
  | orderShape (text : String)
deriving DecidableEq

def ClauseError.message : ClauseError → String
  | .openQuote mark position =>
    "unterminated quote " ++ mark.toString ++ " starting at position " ++ toString position
  | .emptySelectList => "empty select list"
  | .emptySelectItem => "empty item in select list"
  | .countNotAlone => "COUNT(*) must be the only item in the select list"
  | .wildcardNotAlone => "* must be the only item in the select list"
  | .countArgument item => "only COUNT(*) is supported, found '" ++ item ++ "'"
  | .unknownFunction name => "unknown function '" ++ name ++ "'"
  | .functionArgument argument function =>
    "invalid argument '" ++ argument ++ "' to " ++ function
  | .selectItem item => "invalid select item '" ++ item ++ "'"
  | .groupPath name =>
    "collection group '" ++ name ++ "' must be a collection name, not a path"
  | .emptySource => "empty FROM path"
  | .source text => "invalid FROM path '" ++ text ++ "'"
  | .severalOrderFields => "ORDER BY supports a single field"
  | .orderDirection word => "ORDER BY direction must be ASC or DESC, found '" ++ word ++ "'"
  | .orderField word => "invalid ORDER BY field '" ++ word ++ "'"
  | .noOrderDirection => "ORDER BY requires an explicit ASC or DESC direction"
  | .orderShape text => "expected `ORDER BY field ASC|DESC`, found '" ++ text ++ "'"

inductive PredicateError where
  | noCondition (tokens : List String)
  | unknownOperator (token : String)
  | expectsList (operator : Operator) (value : String)
  | rejectsList (operator : Operator)
deriving DecidableEq

def PredicateError.message : PredicateError → String
  | .noCondition tokens =>
    "expected `field operator value` or a connective in '" ++ " ".intercalate tokens ++ "'"
  | .unknownOperator token => "unknown operator '" ++ token ++ "'"
  | .expectsList operator value =>
    operator.symbol ++ " expects a list such as ('a', 'b'), found '" ++ value ++ "'"
  | .rejectsList operator => operator.symbol ++ " does not accept a list operand"

inductive LimitError where
  | noInteger (text : String)
  | negative (n : Int)
deriving DecidableEq

def LimitError.message : LimitError → String
  | .noInteger text => "'" ++ text ++ "' is not an integer"
  | .negative n => toString n ++ " is negative"

/-- Why a text is no query. -/
inductive ParseError where
  | missingSelect
  | missingFrom
  | clause (e : ClauseError)
  | predicate (e : PredicateError)
  | limit (e : LimitError)
  | countWithOrder
deriving DecidableEq

def ParseError.message : ParseError → String
  | .missingSelect => "Syntax error: query must begin with SELECT"
  | .missingFrom => "Syntax error: missing FROM clause"
  | .clause e => "Syntax error: " ++ e.message
  | .predicate e => "Malformed predicate: " ++ e.message
  | .limit e => "Invalid LIMIT: " ++ e.message
  | .countWithOrder => "Unsupported combination: COUNT(*) cannot be combined with ORDER BY"

inductive UnsupportedError where
  | alternative
  | operator (op : Operator)
deriving DecidableEq

def UnsupportedError.message : UnsupportedError → String
  | .alternative =>
    "Unsupported operator: OR cannot be expressed as store filters; " ++
      "run one query per branch and merge the results"
  | .operator op => "Unsupported operator: " ++ op.symbol ++ " is not supported by this store"

inductive StoreError where
  | invalidPath (path : String)
  | unavailable (reason : String)
  | failure (reason : String)
deriving DecidableEq

def StoreError.message : StoreError → String
  | .invalidPath path =>
    "Invalid collection path: '" ++ path ++ "' does not name a collection"
  | .unavailable reason => "Store unavailable: " ++ reason
  | .failure reason => "Store error: " ++ reason

inductive QueryError where
  | parse (e : ParseError)
  | unsupported (e : UnsupportedError)
  | store (e : StoreError)
deriving DecidableEq

namespace QueryError

def message : QueryError → String
  | .parse e => e.message
  | .unsupported e => e.message
  | .store e => "Backend error: " ++ e.message

/-- Errors of the text alone. -/
def isParseError : QueryError → Bool
  | .parse _ => true
  | _ => false

end QueryError

end DocQuery
