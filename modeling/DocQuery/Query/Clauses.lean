import DocQuery.Query.Error
import DocQuery.Text.Blank
import DocQuery.Text.Letters
import DocQuery.Text.Quote

/-!
# Clauses of a query

A query is cut into clauses at its keywords, which come in one order and are found outside
quotations, in any case, with a blank or an end of the text on either side. A clause runs up to
the next keyword that is there. Nothing of the text is lost or used twice.
-/

namespace DocQuery

open Text

inductive Clause where
  | select
  | source
  | filter
  | order
  | limit
deriving DecidableEq, Repr

def Clause.keyword : Clause → List String
  | .select => ["SELECT"]
  | .source => ["FROM"]
  | .filter => ["WHERE"]
  | .order => ["ORDER", "BY"]
  | .limit => ["LIMIT"]

def atGap : List Char → Bool
  | [] => true
  | c :: _ => isGap c

/-- What follows a sequence of words, with blanks between them and a gap after the last. -/
def dropKeyword? : List String → List Char → Option (List Char)
  | [], text => if atGap text then some text else none
  | [word], text =>
    (dropWord? word.toList text).bind fun rest => if atGap rest then some rest else none
  | word :: words, text =>
    (dropWord? word.toList text).bind fun rest =>
      if atGap rest then dropKeyword? words (rest.dropWhile isGap) else none

/-- The text before the first place of a keyword outside quotations, and the text after it. The
flag tells whether the keyword may start right here. -/
def cutAt? (keyword : List String) (bounded : Bool) (mark : Option Char) :
    List Char → Option (List Char × List Char)
  | [] => none
  | c :: text =>
    let found := if bounded && mark.isNone then dropKeyword? keyword (c :: text) else none
    match found with
    | some after => some ([], after)
    | none =>
      (cutAt? keyword (isGap c) (quoteAfter mark c) text).map fun (before, after) =>
        (c :: before, after)

structure ClauseTexts where
  select : List Char
  source : List Char
  filter : Option (List Char)
  order : Option (List Char)
  limit : Option (List Char)

def queryText (text : List Char) : List Char :=
  let trimmed := trim text
  if trimmed.getLast? = some ';' then trimEnd trimmed.dropLast else trimmed

def cutClause (clause : Clause) (text : List Char) : List Char × Option (List Char) :=
  match cutAt? clause.keyword false none text with
  | some (before, after) => (before, some after)
  | none => (text, none)

/-- Cuts a query into its clauses. The text up to a keyword belongs to the last clause opened
before it. -/
def clauseTexts (text : List Char) : Except ParseError ClauseTexts :=
  match dropKeyword? Clause.select.keyword text with
  | none => .error .missingSelect
  | some afterSelect =>
    match cutAt? Clause.source.keyword false none afterSelect with
    | none => .error .missingFrom
    | some (select, afterFrom) =>
      let (beforeWhere, afterWhere) := cutClause .filter afterFrom
      let (beforeOrder, afterOrder) := cutClause .order (afterWhere.getD afterFrom)
      let (beforeLimit, afterLimit) :=
        cutClause .limit (afterOrder.getD (afterWhere.getD afterFrom))
      let uptoOrder := if afterOrder.isSome then beforeOrder else beforeLimit
      .ok {
        select
        source := if afterWhere.isSome then beforeWhere else uptoOrder
        filter := afterWhere.map fun _ => uptoOrder
        order := afterOrder.map fun _ => beforeLimit
        limit := afterLimit }

end DocQuery
