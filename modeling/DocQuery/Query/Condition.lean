import DocQuery.Query.Error
import DocQuery.Query.FieldName
import DocQuery.Query.Predicate
import DocQuery.Query.Token

/-!
# Predicates of tokens

Three tokens make a condition. Any other number is cut at its first connective that has a token on
both sides, so connectives bind alike and group to the right: `a = 1 AND b = 2 OR c = 3` is
`(a = 1 AND (b = 2 OR c = 3))`.
-/

namespace DocQuery

open Text

def isListText (text : List Char) : Bool :=
  (text.head? == some '(' && text.getLast? == some ')') ||
    (text.head? == some '[' && text.getLast? == some ']')

/-- The list of literals that a bracketed text writes; commas inside quotations separate
nothing. -/
def Literal.listOfText? (text : List Char) : Option Literal :=
  if !isListText text then none
  else
    let inner := text.tail.dropLast
    if trim inner = [] then some (.list [])
    else
      some (.list ((splitOutside .none (· == ',') .outside inner).map fun item =>
        .ofText (trim item)))

namespace Condition

def ofTokens (field operator value : String) : Except PredicateError Condition :=
  match Operator.ofToken? operator with
  | none => .error (.unknownOperator operator)
  | some op =>
    let name := String.ofList (FieldName.bare field.toList)
    if op.takesList then
      match Literal.listOfText? value.toList with
      | some list => .ok ⟨name, op, list⟩
      | none => .error (.expectsList op value)
    else if isListText value.toList then .error (.rejectsList op)
    else .ok ⟨name, op, .ofText value.toList⟩

end Condition

/-- Cuts tokens at the first connective that is neither the first nor the last of them. -/
def splitConnective? : List String → Option (List String × Connective × List String)
  | first :: second :: third :: rest =>
    match Connective.ofToken? second with
    | some connective => some ([first], connective, third :: rest)
    | none =>
      (splitConnective? (second :: third :: rest)).map fun (left, connective, right) =>
        (first :: left, connective, right)
  | _ => none

theorem length_of_splitConnective? {tokens left right : List String} {connective : Connective}
    (h : splitConnective? tokens = some (left, connective, right)) :
    left.length + right.length + 1 = tokens.length := by
  induction tokens generalizing left with
  | nil => simp [splitConnective?] at h
  | cons first tail ih =>
    match tail with
    | [] => simp [splitConnective?] at h
    | [_] => simp [splitConnective?] at h
    | second :: third :: rest =>
      rw [splitConnective?] at h
      split at h
      · simp only [Option.some.injEq, Prod.mk.injEq] at h
        obtain ⟨rfl, rfl, rfl⟩ := h
        simp only [List.length_cons, List.length_nil]
        omega
      · rw [Option.map_eq_some_iff] at h
        obtain ⟨⟨l, c, r⟩, found, e⟩ := h
        simp only [Prod.mk.injEq] at e
        obtain ⟨rfl, rfl, rfl⟩ := e
        have := ih found
        simp only [List.length_cons] at this ⊢
        omega

namespace Predicate

def ofTokens (tokens : List String) : Except PredicateError Predicate :=
  match tokens with
  | [field, operator, value] => (Condition.ofTokens field operator value).map .condition
  | tokens =>
    match _cut : splitConnective? tokens with
    | some (left, connective, right) => do
      let l ← ofTokens left
      let r ← ofTokens right
      return .joined connective l r
    | none => .error (.noCondition tokens)
termination_by tokens.length
decreasing_by
  all_goals have := length_of_splitConnective? _cut; omega

end Predicate

end DocQuery
