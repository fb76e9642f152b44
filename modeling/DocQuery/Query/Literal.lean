import DocQuery.Json.Writer
import DocQuery.Number.Numeral
import DocQuery.Text.Escaped
import DocQuery.Text.Letters
import DocQuery.Text.Quote
import DocQuery.Time.Stamp

/-!
# Literals

The values on the right-hand side of conditions. A literal's kind is read off its text: an instant
before a number before a truth value before null, and otherwise a string. One layer of quotation
marks is taken off first, so quoted digits are a number too.
-/

namespace DocQuery

/-- A literal of a query. Only list operators take lists. -/
inductive Literal where
  | string (s : String)
  | number (x : Binary64)
  | boolean (b : Bool)
  | null
  | instant (t : Instant)
  | list (items : List Literal)

namespace Literal

def kindName : Literal → String
  | .string _ => "string"
  | .number _ => "number"
  | .boolean _ => "boolean"
  | .null => "null"
  | .instant _ => "timestamp"
  | .list _ => "list"

def isList : Literal → Bool
  | .list _ => true
  | _ => false

/-- The literals that a list operator ranges over; a scalar stands for itself alone. -/
def members : Literal → List Literal
  | .list items => items
  | v => [v]

def ofBareText (text : List Char) : Literal :=
  match Stamp.literal? text with
  | some t => .instant t
  | none =>
    match Numeral.read? text with
    | some x => .number x
    | none =>
      if Text.sameLetters text "true".toList then .boolean true
      else if Text.sameLetters text "false".toList then .boolean false
      else if Text.sameLetters text "null".toList then .null
      else .string (String.ofList text)

def ofText (text : List Char) : Literal :=
  ofBareText (Text.unquote text)

/-- The document form of a number: an integer when it is one and below 2^53 in magnitude. -/
def numberToJson (x : Binary64) : Json :=
  match x.toInt? with
  | some i => if i.natAbs < Binary64.exactEnd then .number (.integer i) else .number (.float x)
  | none => .number (.float x)

mutual

def toJson : Literal → Json
  | .string s => .string s
  | .number x => numberToJson x
  | .boolean b => .boolean b
  | .null => .null
  | .instant t => .string t.text
  | .list items => .array (toJsonItems items)

def toJsonItems : List Literal → List Json
  | [] => []
  | v :: rest => toJson v :: toJsonItems rest

end

mutual

def display : Literal → String
  | .string s => Text.quoted s
  | .number x => (numberToJson x).compact
  | .boolean b => toString b
  | .null => "null"
  | .instant t => "timestamp(" ++ t.text ++ ")"
  | .list items => "[" ++ displayItems items ++ "]"

def displayItems : List Literal → String
  | [] => ""
  | [v] => display v
  | v :: rest => display v ++ ", " ++ displayItems rest

end

end Literal

end DocQuery
