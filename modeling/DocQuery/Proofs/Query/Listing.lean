import DocQuery.Proofs.Query.RoundTrip

/-!
# Queries for whole collections

A query of a select list and a path asks for these columns of all documents of a collection. No
path that begins with a slash is a keyword, so behind a slash every path can stand that is a word
without quotation marks and semicolons.
-/

namespace DocQuery

open Text

def Plan.listing (select : List SelectItem) (path : String) : Plan where
  select := select
  source := .collection path
  filter := none
  order := none
  limit := none

/-- A path without blanks, quotation marks and semicolons. -/
def IsPlainPath (path : String) : Prop :=
  ∀ c ∈ path.toList, isBlank c = false ∧ isQuote c = false ∧ c ≠ ';'

instance (path : String) : Decidable (IsPlainPath path) :=
  inferInstanceAs (Decidable (∀ c ∈ path.toList, isBlank c = false ∧ isQuote c = false ∧ c ≠ ';'))

theorem unreserved_slash (text : List Char) : Unreserved ('/' :: text) := by
  intro word m
  have letters : ∀ word ∈ reservedWords, ∀ c ∈ word.toList, c.isAlpha = true := by decide
  rw [← Bool.not_eq_true]
  intro same
  have letter := isAlpha_of_sameLetters same (letters word m) '/' (List.mem_cons_self ..)
  cases letter

theorem IsPlainPath.isSourceWord {path : String} (plain : IsPlainPath path) :
    IsSourceWord ("/" ++ path).toList := by
  have front : ("/" ++ path).toList = '/' :: path.toList := by
    rw [String.toList_append]
    rfl
  rw [front]
  refine ⟨List.cons_ne_nil _ _, ?_, unreserved_slash path.toList⟩
  intro c m
  rcases List.mem_cons.mp m with rfl | m
  · decide
  · exact plain c m

theorem queryOf_listing (columns path : List Char) :
    queryOf [columns] [path] none none none =
      "SELECT ".toList ++ (columns ++ (" FROM ".toList ++ path)) := by
  have front : "SELECT ".toList = Clause.select.text ++ [' '] := rfl
  have keyword : " FROM ".toList = ' ' :: (Clause.source.text ++ [' ']) := rfl
  rw [front, keyword]
  simp [queryOf, tailText, opened]

section Listing

variable {select : List SelectItem} (writable : SelectItem.AreWritable select) {path : String}
  (word : IsSourceWord path.toList)

include writable word

theorem Plan.isWritable_listing : (Plan.listing select path).IsWritable where
  select := writable
  source := word
  filter := nofun
  order := nofun
  count := fun _ => rfl
  limit := nofun

theorem Plan.parse_listing {query : String} (written : query.toList =
    "SELECT ".toList ++ (SelectItem.listText select ++ (" FROM ".toList ++ path.toList))) :
    Plan.parse query = .ok (Plan.listing select path) := by
  let style : WritingStyle := ⟨false, false, false⟩
  have listing := Plan.isWritable_listing writable word
  have selects : ∀ text ∈ [SelectItem.listText select], Settled text :=
    List.forall_mem_singleton.mpr writable.settled
  have source : IsClause [path.toList] := Source.isClause_pieces listing.source
  have absent : ∀ texts ∈ (none : Option (List (List Char))), IsClause texts := nofun
  have shape : clausesOf [SelectItem.listText (Plan.listing select path).select]
      (Plan.listing select path).source.pieces
      ((Plan.listing select path).filter.map (·.pieces style))
      ((Plan.listing select path).order.map (·.pieces style))
      ((Plan.listing select path).limit.map limitPieces) =
        clausesOf [SelectItem.listText select] [path.toList] none none none := rfl
  have clauses := Plan.ofClauses_written style listing
  rw [shape] at clauses
  rw [← queryOf_listing] at written
  rw [Plan.parse_queryOf selects source absent absent absent written, clauses]
  show (if _ then _ else Except.ok ((Plan.listing select path).shown style).resolveIdentity) = _
  rw [Plan.not_count_with_order style listing, Plan.resolveIdentity_shown style listing]
  rfl

end Listing

end DocQuery
