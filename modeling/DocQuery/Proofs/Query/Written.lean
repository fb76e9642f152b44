import DocQuery.Proofs.Text.Scanning
import DocQuery.Proofs.Time.Texts
import DocQuery.Query.Plan

/-!
# Plans written as queries

A plan is written as a query clause by clause: labels, source, conditions with their connectives
and no parentheses, order and limit. What can be written without loss is said here for each part
of a plan.
-/

namespace DocQuery

open Text

/-- Choices that leave the meaning of a query as it is: the brackets of lists, quotation marks
around instants, and stored names for the identity in the filter and the order. -/
structure WritingStyle where
  squareLists : Bool
  quotedInstants : Bool
  storedNames : Bool

namespace WritingStyle

def name (style : WritingStyle) (field : String) : String :=
  if style.storedNames then field else FieldName.display field

def opening (style : WritingStyle) : Char := if style.squareLists then '[' else '('

def closing (style : WritingStyle) : Char := if style.squareLists then ']' else ')'

end WritingStyle

def doubleQuoted (s : String) : String := String.ofList (quotation '"' s.toList)

section Written

variable (style : WritingStyle)

/-- A string is written between quotation marks just as it is, without escapes. -/
def Literal.scalarText : Literal → String
  | .string s => doubleQuoted s
  | .instant t => if style.quotedInstants then doubleQuoted t.text else t.text
  | v => v.display

def Literal.written : Literal → String
  | .list items =>
    style.opening.toString ++ ", ".intercalate (items.map (·.scalarText style)) ++
      style.closing.toString
  | v => v.scalarText style

def Condition.written (c : Condition) : String :=
  style.name c.field ++ " " ++ c.operator.symbol ++ " " ++ c.value.written style

/-- Connectives group to the right, so a chain needs no parentheses. -/
def Predicate.written : Predicate → String
  | .condition c => c.written style
  | .joined connective left right =>
    left.written ++ " " ++ connective.word ++ " " ++ right.written

def OrderBy.written (order : OrderBy) : String :=
  style.name order.field ++ " " ++ order.direction.word

def Plan.written (plan : Plan) : String :=
  "SELECT " ++ ", ".intercalate (plan.select.map (·.label)) ++ " FROM " ++ plan.source.display ++
    plan.filter.elim "" (fun filter => " WHERE " ++ filter.written style) ++
    plan.order.elim "" (fun order => " ORDER BY " ++ order.written style) ++
    plan.limit.elim "" (fun limit => " LIMIT " ++ toString limit)

end Written

/-- Words that name no field and no source. `BY` and `GROUP` may: no reader takes them for a
keyword where a name stands. -/
def reservedWords : List String :=
  ["SELECT", "FROM", "WHERE", "ORDER", "LIMIT", "AND", "OR", "NOT", "IN"]

def Unreserved (text : List Char) : Prop :=
  ∀ word ∈ reservedWords, sameLetters text word.toList = false

instance (text : List Char) : Decidable (Unreserved text) :=
  inferInstanceAs (Decidable (∀ word ∈ reservedWords, _))

/-- An identifier other than the word that users write for the identity; the identity itself goes
by its stored name. -/
structure FieldName.IsWritable (name : String) : Prop where
  identifier : isIdentifier name.toList = true
  stored : name ≠ userIdentity
  unreserved : Unreserved name.toList

def SelectItem.IsListed : SelectItem → Prop
  | .field name => FieldName.IsWritable name
  | .call function argument =>
    FieldName.IsWritable argument ∨ (function = .prettyJson ∧ argument = "*")
  | .countAll => False
  | .wildcard => False

def SelectItem.AreWritable (items : List SelectItem) : Prop :=
  (items ≠ [] ∧ ∀ item ∈ items, item.IsListed) ∨ items = [.countAll] ∨ items = [.wildcard]

structure IsSourceWord (text : List Char) : Prop where
  some : text ≠ []
  plain : ∀ c ∈ text, isBlank c = false ∧ isQuote c = false ∧ c ≠ ';'
  unreserved : Unreserved text

def Source.IsWritable : Source → Prop
  | .collection path => IsSourceWord path.toList
  | .group name => IsSourceWord name.toList ∧ '/' ∉ name.toList

/-- Scalars that their text tells apart: a string holds no double mark and reads as a string, a
number is no negative zero, and the text of an instant shows all of it. -/
def Literal.IsWritableScalar : Literal → Prop
  | .string s => '"' ∉ s.toList ∧ ofBareText s.toList = .string s
  | .number x => x.negative = true → x.units ≠ 0
  | .boolean _ => True
  | .null => True
  | .instant t => t.IsShown
  | .list _ => False

/-- Operators on lists have a list of scalars, all others a scalar. -/
structure Condition.IsWritable (c : Condition) : Prop where
  field : FieldName.IsWritable c.field
  list : c.operator.takesList = true →
    ∃ items, c.value = .list items ∧ ∀ v ∈ items, v.IsWritableScalar
  scalar : c.operator.takesList = false → c.value.IsWritableScalar

/-- A predicate that groups to the right: what stands left of a connective is a condition. -/
inductive Predicate.IsWritable : Predicate → Prop where
  | condition {c : Condition} : c.IsWritable → IsWritable (.condition c)
  | joined {connective : Connective} {c : Condition} {right : Predicate} :
    c.IsWritable → IsWritable right → IsWritable (.joined connective (.condition c) right)

/-- A plan that can be written as a query without loss. -/
structure Plan.IsWritable (plan : Plan) : Prop where
  select : SelectItem.AreWritable plan.select
  source : plan.source.IsWritable
  filter : ∀ filter ∈ plan.filter, filter.IsWritable
  order : ∀ order ∈ plan.order, FieldName.IsWritable order.field
  count : plan.isCount = true → plan.order = none
  limit : ∀ limit ∈ plan.limit, (limit : Int) < Word.signedEnd

end DocQuery
