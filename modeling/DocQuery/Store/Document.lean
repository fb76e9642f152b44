import DocQuery.Json.Fields
import DocQuery.Query.FieldName

/-!
# Documents

A document is its identity and its fields. The reserved field name stands for the identity.
-/

namespace DocQuery

structure Document where
  id : String
  fields : Fields

/-- The value of a field; the reserved name gives the identity. -/
def Document.get? (d : Document) (field : String) : Option Json :=
  if field = FieldName.identity then some (.string d.id) else d.fields.get? field

end DocQuery
