import DocQuery.Query.Literal
import DocQuery.Query.Operator

/-!
# Predicates

A predicate is a binary tree with conditions at its leaves.
-/

namespace DocQuery

structure Condition where
  field : String
  operator : Operator
  value : Literal

inductive Predicate where
  | condition (c : Condition)
  | joined (connective : Connective) (left right : Predicate)

def Condition.display (c : Condition) : String :=
  c.field ++ " " ++ c.operator.symbol ++ " " ++ c.value.display

namespace Predicate

def conditions : Predicate → List Condition
  | .condition c => [c]
  | .joined _ left right => left.conditions ++ right.conditions

def display : Predicate → String
  | .condition c => c.display
  | .joined connective left right =>
    "(" ++ left.display ++ " " ++ connective.word ++ " " ++ right.display ++ ")"

def mapFields (f : String → String) : Predicate → Predicate
  | .condition c => .condition { c with field := f c.field }
  | .joined connective left right =>
    .joined connective (left.mapFields f) (right.mapFields f)

end Predicate

end DocQuery
