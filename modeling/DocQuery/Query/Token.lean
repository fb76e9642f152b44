import DocQuery.Text.Blank
import DocQuery.Text.Letters
import DocQuery.Text.Quote

/-!
# Tokens of a filter

A filter is cut at the blanks outside quotations and brackets. A field name glued to a comparison
is then taken apart, and `NOT` followed by `IN` becomes one token. Tokens carry no class: names,
operators, values and connectives are all plain strings, and quotation marks stay.
-/

namespace DocQuery.Token

open Text

def comparison? : List Char → Option (List Char × List Char)
  | '!' :: '=' :: text => some (['!', '='], text)
  | '<' :: '=' :: text => some (['<', '='], text)
  | '>' :: '=' :: text => some (['>', '='], text)
  | '=' :: text => some (['='], text)
  | '<' :: text => some (['<'], text)
  | '>' :: text => some (['>'], text)
  | _ => none

/-- Takes a field name with a comparison right after it apart. What follows the comparison is a
token of its own, unless it is empty; a line feed in it keeps the whole token together. -/
def unglue (token : List Char) : List (List Char) :=
  match token with
  | c :: _ =>
    if isNameStart c then
      match comparison? (token.dropWhile isNameChar) with
      | some (op, value) =>
        if '\n' ∈ value then [token]
        else [token.takeWhile isNameChar, op] ++ if value = [] then [] else [value]
      | none => [token]
    else [token]
  | [] => [token]

def joinNotIn : List String → List String
  | first :: second :: rest =>
    if sameWord first "NOT" && sameWord second "IN" then "NOT IN" :: joinNotIn rest
    else first :: joinNotIn (second :: rest)
  | tokens => tokens

/-- The pieces of a text between the blanks outside quotations and brackets. -/
def pieces (text : List Char) : List (List Char) :=
  (splitOutside .roundOrSquare isBlank .outside text).filter (· ≠ [])

def tokens (text : List Char) : List String :=
  joinNotIn (((pieces text).flatMap unglue).map String.ofList)

end DocQuery.Token
