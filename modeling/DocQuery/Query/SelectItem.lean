import DocQuery.Query.Error
import DocQuery.Query.FieldName
import DocQuery.Text.Blank
import DocQuery.Text.Quote

/-!
# Select lists

A select list is cut at the commas outside quotations and parentheses. An item is a field, a call
of a function on a field, the count of all documents, or all fields; the last two stand alone.
-/

namespace DocQuery

open Text

inductive SelectFunction where
  | toDate
  | prettyJson
deriving DecidableEq, Repr

namespace SelectFunction

def name : SelectFunction → String
  | .toDate => "toDate"
  | .prettyJson => "prettyJson"

def ofName? (text : String) : Option SelectFunction :=
  if sameWord text "toDate" then some .toDate
  else if sameWord text "prettyJson" then some .prettyJson
  else none

end SelectFunction

inductive SelectItem where
  | field (name : String)
  | call (function : SelectFunction) (argument : String)
  | countAll
  | wildcard
deriving DecidableEq, Repr

namespace SelectItem

/-- The column of a result row that an item fills; the identity is shown as users name it. -/
def label : SelectItem → String
  | .field name => FieldName.display name
  | .call function argument => function.name ++ "(" ++ FieldName.display argument ++ ")"
  | .countAll => "COUNT(*)"
  | .wildcard => "*"

def mapField (f : String → String) : SelectItem → SelectItem
  | .field name => .field (f name)
  | .call function argument => .call function (f argument)
  | item => item

/-- The name and the trimmed argument of a call: a word, an opening parenthesis, and a closing one
at the end. The argument holds no line feed. -/
def callParts? (item : List Char) : Option (List Char × List Char) :=
  match item with
  | c :: _ =>
    match (item.dropWhile isWordChar).dropWhile isBlank with
    | '(' :: rest =>
      let argument := trim rest.dropLast
      if isNameStart c ∧ rest.getLast? = some ')' ∧ '\n' ∉ argument then
        some (item.takeWhile isWordChar, argument)
      else none
    | _ => none
  | [] => none

def ofCall (item name argument : List Char) : Except ClauseError SelectItem :=
  if sameLetters name "COUNT".toList then
    if argument = ['*'] then .ok .countAll else .error (.countArgument (String.ofList item))
  else
    match SelectFunction.ofName? (String.ofList name) with
    | none => .error (.unknownFunction (String.ofList name))
    | some function =>
      if FieldName.isName argument ∨ (argument = ['*'] ∧ function = .prettyJson) then
        .ok (.call function (String.ofList (FieldName.bare argument)))
      else .error (.functionArgument (String.ofList argument) function.name)

def ofText (item : List Char) : Except ClauseError SelectItem :=
  if item = [] then .error .emptySelectItem
  else if item = ['*'] then .ok .wildcard
  else
    match callParts? item with
    | some (name, argument) => ofCall item name argument
    | none =>
      if FieldName.isName item then .ok (.field (String.ofList (FieldName.bare item)))
      else .error (.selectItem (String.ofList item))

def listOfText (text : List Char) : Except ClauseError (List SelectItem) :=
  if trim text = [] then .error .emptySelectList
  else do
    let items ← (splitOutside .round (· == ',') .outside text).mapM fun item =>
      ofText (trim item)
    if 1 < items.length ∧ .countAll ∈ items then .error .countNotAlone
    else if 1 < items.length ∧ .wildcard ∈ items then .error .wildcardNotAlone
    else .ok items

end SelectItem

end DocQuery
