import DocQuery.Session.Request
import DocQuery.Store.Comparison

/-!
# Rows

A document becomes a row of columns, one for each item of the select list, under the label of the
item. A field that the document lacks fills no column; a function of it fills one with null.
-/

namespace DocQuery

abbrev Row := Fields

namespace Document

def toJson (d : Document) : Json :=
  ((Fields.ofPairs [(FieldName.userIdentity, .string d.id)]).putAll d.fields.pairs).toJson

/-- A value with an instant shown as a short date; every other value stays. -/
def dateColumn (settings : Settings) (v : Json) : Json :=
  match v.instant? with
  | some t => .string (t.shortTextIn settings.clocks settings.zone)
  | none => v

def dateOf (settings : Settings) (d : Document) (argument : String) : Json :=
  ((d.get? argument).map (dateColumn settings)).getD .null

/-- The value of the print function: an indented text, or null when the field is not there. The
identity stands for the whole document, as the star does. -/
def printOf (d : Document) (argument : String) : Json :=
  let value :=
    if argument = "*" ∨ argument = FieldName.identity then some d.toJson else d.get? argument
  (value.map fun v => Json.string v.pretty).getD .null

def columns (settings : Settings) (d : Document) (item : SelectItem) : List (String × Json) :=
  match item with
  | .field name => (d.get? name).toList.map fun v => (item.label, v)
  | .call .toDate argument => [(item.label, dateOf settings d argument)]
  | .call .prettyJson argument => [(item.label, printOf d argument)]
  | .wildcard =>
    (if settings.includeId then [(FieldName.userIdentity, .string d.id)] else []) ++
      d.fields.pairs
  | .countAll => []

def row (settings : Settings) (select : List SelectItem) (d : Document) : Row :=
  Fields.ofPairs (select.flatMap (d.columns settings))

end Document

end DocQuery
