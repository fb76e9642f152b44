import DocQuery.Text.Letters

/-!
# Field names

A field is named by an identifier with points, or by any text between backquotes. Users write `id`
for the identity of a document, which stores keep under a reserved name.
-/

namespace DocQuery.FieldName

def backquote : Char := '\x60'

/-- The reserved name of a document's identity. -/
def identity : String := "__name__"

def userIdentity : String := "id"

def resolve (name : String) : String :=
  if name = userIdentity then identity else name

def display (name : String) : String :=
  if name = identity then userIdentity else name

/-- A letter or underscore, then letters, digits, underscores and points. -/
def isIdentifier : List Char → Bool
  | c :: rest => Text.isNameStart c && rest.all Text.isNameChar
  | [] => false

def isBackquoted : List Char → Bool
  | c :: rest =>
    c == backquote && rest.getLast? == some backquote && rest.dropLast ≠ [] &&
      rest.dropLast.all (· != backquote)
  | [] => false

def isName (text : List Char) : Bool :=
  isIdentifier text || isBackquoted text

def bare (text : List Char) : List Char :=
  match text with
  | c :: rest => if c = backquote ∧ rest.getLast? = some backquote then rest.dropLast else text
  | [] => []

end DocQuery.FieldName
