import DocQuery.Text.Letters

/-!
# Operators and connectives

The ten comparison operators of conditions, each with the name it has in queries and the name it
has in store queries, and the two connectives.
-/

namespace DocQuery

inductive Operator where
  | equal
  | notEqual
  | less
  | lessOrEqual
  | greater
  | greaterOrEqual
  | isIn
  | notIn
  | arrayContains
  | arrayContainsAny
deriving DecidableEq, Repr

namespace Operator

def comparisons : List Operator :=
  [.equal, .notEqual, .less, .lessOrEqual, .greater, .greaterOrEqual]

def all : List Operator :=
  comparisons ++ [.isIn, .notIn, .arrayContains, .arrayContainsAny]

def symbol : Operator → String
  | .equal => "="
  | .notEqual => "!="
  | .less => "<"
  | .lessOrEqual => "<="
  | .greater => ">"
  | .greaterOrEqual => ">="
  | .isIn => "IN"
  | .notIn => "NOT IN"
  | .arrayContains => "ARRAY_CONTAINS"
  | .arrayContainsAny => "ARRAY_CONTAINS_ANY"

def storeName : Operator → String
  | .equal => "=="
  | .notEqual => "!="
  | .less => "<"
  | .lessOrEqual => "<="
  | .greater => ">"
  | .greaterOrEqual => ">="
  | .isIn => "in"
  | .notIn => "not-in"
  | .arrayContains => "array-contains"
  | .arrayContainsAny => "array-contains-any"

def takesList : Operator → Bool
  | .isIn | .notIn | .arrayContainsAny => true
  | _ => false

/-- The operator that a token writes; words count in any case. -/
def ofToken? (token : String) : Option Operator :=
  all.find? fun op => (token.toList.map Text.capital) == op.symbol.toList

end Operator

inductive Connective where
  | both
  | either
deriving DecidableEq, Repr

namespace Connective

def word : Connective → String
  | .both => "AND"
  | .either => "OR"

/-- The connective that a token writes, in any case. -/
def ofToken? (token : String) : Option Connective :=
  if Text.sameWord token "AND" then some .both
  else if Text.sameWord token "OR" then some .either
  else none

end Connective

end DocQuery
