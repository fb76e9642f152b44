import DocQuery.Json.Basic
import DocQuery.Number.Numeral

/-!
# Writing values

Two written forms: the compact one, without any blank, and the indented one, with one item or
member a line. Both keep the order of members, write characters beyond ASCII as they are, and
leave integers in integer form.
-/

namespace DocQuery

def Number.text : Number → String
  | .integer i => toString i
  | .float x => x.text

namespace Json

def escapeChar (c : Char) : List Char :=
  if c = '"' then ['\\', '"']
  else if c = '\\' then ['\\', '\\']
  else if c = '\x08' then ['\\', 'b']
  else if c = '\x0c' then ['\\', 'f']
  else if c = '\n' then ['\\', 'n']
  else if c = '\r' then ['\\', 'r']
  else if c = '\t' then ['\\', 't']
  else if c.toNat < 0x20 then
    ['\\', 'u', '0', '0', Nat.digitChar (c.toNat / 16), Nat.digitChar (c.toNat % 16)]
  else [c]

def writeText (s : String) : String :=
  String.ofList ('"' :: s.toList.flatMap escapeChar ++ ['"'])

mutual

def compact : Json → String
  | .null => "null"
  | .boolean b => toString b
  | .number n => n.text
  | .string s => writeText s
  | .array items => "[" ++ compactItems items ++ "]"
  | .object members => "\x7b" ++ compactMembers members ++ "\x7d"

def compactItems : List Json → String
  | [] => ""
  | [v] => compact v
  | v :: rest => compact v ++ "," ++ compactItems rest

def compactMembers : List (String × Json) → String
  | [] => ""
  | [(k, v)] => writeText k ++ ":" ++ compact v
  | (k, v) :: rest => writeText k ++ ":" ++ compact v ++ "," ++ compactMembers rest

end

def newLine (depth : Nat) : String :=
  String.ofList ('\n' :: List.replicate (2 * depth) ' ')

mutual

/-- The indented form of a value that stands at a depth of nesting. -/
def indented (depth : Nat) : Json → String
  | .null => "null"
  | .boolean b => toString b
  | .number n => n.text
  | .string s => writeText s
  | .array [] => "[]"
  | .array items => "[" ++ indentedItems (depth + 1) items ++ newLine depth ++ "]"
  | .object [] => "\x7b\x7d"
  | .object members =>
    "\x7b" ++ indentedMembers (depth + 1) members ++ newLine depth ++ "\x7d"

def indentedItems (depth : Nat) : List Json → String
  | [] => ""
  | [v] => newLine depth ++ indented depth v
  | v :: rest => newLine depth ++ indented depth v ++ "," ++ indentedItems depth rest

def indentedMembers (depth : Nat) : List (String × Json) → String
  | [] => ""
  | [(k, v)] => newLine depth ++ writeText k ++ ": " ++ indented depth v
  | (k, v) :: rest =>
    newLine depth ++ writeText k ++ ": " ++ indented depth v ++ "," ++ indentedMembers depth rest

end

def pretty (v : Json) : String :=
  indented 0 v

end Json

end DocQuery
