import DocQuery.Proofs.Json.Fields
import DocQuery.Session.Row

/-!
# The identity among the fields

A row of all fields begins with the identity, and so does a document printed whole. A field that is
stored under the same name takes the place of the identity there, so it is the identity of the
document exactly when no such field says otherwise.
-/

namespace DocQuery.Document

variable (d : Document)

/-- The identity and the fields behind it, as rows and printed documents have them. -/
def merged : List (String × Json) :=
  (FieldName.userIdentity, (d.fields.get? FieldName.userIdentity).getD (.string d.id)) ::
    d.fields.pairs.filter fun p => p.1 ≠ FieldName.userIdentity

theorem toJson_eq_merged : d.toJson = .object d.merged := by
  have pairs := Fields.pairs_ofPairs_cons FieldName.userIdentity (.string d.id) d.fields
  exact congrArg Json.object pairs

theorem lookup_merged_identity : d.merged.lookup FieldName.userIdentity =
    some ((d.fields.get? FieldName.userIdentity).getD (.string d.id)) := by
  simp [merged]

/-- The identity survives unless a field is stored under its name with another value. -/
theorem lookup_merged_identity_iff :
    d.merged.lookup FieldName.userIdentity = some (.string d.id) ↔
      ∀ v, d.fields.get? FieldName.userIdentity = some v → v = .string d.id := by
  rw [lookup_merged_identity, Option.some.injEq]
  cases stored : d.fields.get? FieldName.userIdentity with
  | none => simp
  | some v => simp

theorem lookup_merged_of_ne {name : String} (h : name ≠ FieldName.userIdentity) :
    d.merged.lookup name = d.fields.get? name := by
  have differ : (name == FieldName.userIdentity) = false := beq_eq_false_iff_ne.mpr h
  rw [merged, List.lookup_cons, differ, lookup_filter_ne h]
  rfl

variable (settings : Settings)

theorem pairs_row_of_wildcard :
    (d.row { settings with includeId := true } [.wildcard]).pairs = d.merged := by
  have columns : [SelectItem.wildcard].flatMap (d.columns { settings with includeId := true }) =
      (FieldName.userIdentity, .string d.id) :: d.fields.pairs := List.append_nil _
  rw [row, columns]
  exact Fields.pairs_ofPairs_cons FieldName.userIdentity (.string d.id) d.fields

theorem pairs_row_of_identity :
    (d.row settings [(SelectItem.field FieldName.userIdentity).mapField FieldName.resolve]).pairs =
      [(FieldName.userIdentity, .string d.id)] := by
  rfl

theorem pairs_row_of_print {argument : String}
    (h : argument = "*" ∨ argument = FieldName.userIdentity) :
    (d.row settings [(SelectItem.call .prettyJson argument).mapField FieldName.resolve]).pairs =
      [("prettyJson(" ++ argument ++ ")", .string (Json.object d.merged).pretty)] := by
  rw [← toJson_eq_merged]
  rcases h with rfl | rfl
  · rfl
  · rfl

/-- The identity in a row of all fields is the one that a row of the identity shows exactly when no
field stored under its name holds another value. -/
theorem merged_identity :
    (d.row { settings with includeId := true } [.wildcard]).pairs = d.merged ∧
    (∀ argument, argument = "*" ∨ argument = FieldName.userIdentity →
      (d.row settings [(SelectItem.call .prettyJson argument).mapField FieldName.resolve]).pairs =
        [("prettyJson(" ++ argument ++ ")", .string (Json.object d.merged).pretty)]) ∧
    (d.row settings [(SelectItem.field FieldName.userIdentity).mapField FieldName.resolve]).pairs =
      [(FieldName.userIdentity, .string d.id)] ∧
    (d.merged.lookup FieldName.userIdentity = some (.string d.id) ↔
      ∀ v, d.fields.get? FieldName.userIdentity = some v → v = .string d.id) ∧
    ∀ name ≠ FieldName.userIdentity, d.merged.lookup name = d.fields.get? name := by
  refine ⟨d.pairs_row_of_wildcard settings, fun argument h => d.pairs_row_of_print settings h,
    d.pairs_row_of_identity settings, d.lookup_merged_identity_iff, ?_⟩
  intro name other
  exact d.lookup_merged_of_ne other

theorem stored_field_hides_identity :
    let d : Document := ⟨"u1", .ofPairs [("id", .string "other"), ("name", .string "Ada")]⟩
    (d.row { includeId := true } [.wildcard]).pairs =
      [("id", .string "other"), ("name", .string "Ada")] ∧
    d.toJson = .object [("id", .string "other"), ("name", .string "Ada")] ∧
    (d.row {} [.field FieldName.identity]).pairs = [("id", .string "u1")] ∧
    ¬∀ d : Document, (d.row { includeId := true } [.wildcard]).get? FieldName.userIdentity =
      some (.string d.id) := by
  intro d
  have shown : (d.row { includeId := true } [.wildcard]).pairs =
      [("id", .string "other"), ("name", .string "Ada")] := by rfl
  refine ⟨shown, by rfl, by rfl, ?_⟩
  intro kept
  have same : some (Json.string "other") = some (.string "u1") := kept d
  rw [Option.some.injEq, Json.string.injEq] at same
  exact absurd same (by decide)

end DocQuery.Document
