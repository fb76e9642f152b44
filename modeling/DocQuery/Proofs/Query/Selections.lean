import DocQuery.Proofs.Query.Clauses
import DocQuery.Proofs.Query.Reading

/-!
# What is selected and what it is selected from

The clauses after the select list are cut and read without regard to it. Two queries that select
different items from the same text have plans that differ in these items alone.
-/

namespace DocQuery

open Text

def selectionOf (item rest : List Char) : List Char :=
  Clause.select.text ++ (spaced [item] ++ (opened .source (some []) ++ rest))

theorem queryText_selectionOf (item rest : List Char) :
    queryText (selectionOf item rest) = selectionOf item (queryEnd rest) := by
  have first : Clause.select.text = 'S' :: "ELECT".toList := by decide
  have second : opened .source (some []) = " FRO".toList ++ ['M'] := by decide
  have whole (rest : List Char) : selectionOf item rest =
      ('S' :: ("ELECT".toList ++ (' ' :: item ++ " FRO".toList))) ++ 'M' :: rest := by
    simp only [selectionOf, first, second, spaced_cons, spaced_nil, List.append_nil,
      List.append_assoc, List.cons_append, List.nil_append]
  rw [whole, queryText_append_stop (by decide) (by decide), whole,
    List.dropWhile_cons_of_neg (by decide)]

theorem queryEnd_isPrefix (text : List Char) : (queryEnd text).IsPrefix text := by
  have cut (text : List Char) : (trimEnd text).IsPrefix text := by
    have suffix := List.dropWhile_suffix isBlank (l := text.reverse)
    rw [← List.reverse_prefix, List.reverse_reverse] at suffix
    exact suffix
  unfold queryEnd
  split
  · exact ((cut _).trans (List.dropLast_prefix _)).trans (cut text)
  · exact cut text

theorem atGap_of_isPrefix {x y : List Char} (front : x.IsPrefix y) (gap : atGap y = true) :
    atGap x = true := by
  obtain ⟨z, rfl⟩ := front
  cases x with
  | nil => rfl
  | cons c x => exact gap

theorem markAfter_selectionOf {item : List Char} (settled : Settled item) (rest : List Char) :
    markAfter none (selectionOf item rest) = markAfter none rest := by
  have word : markAfter none Clause.select.text = none := by decide
  have keyword : markAfter none (opened .source (some [])) = none := by decide
  have items := markAfter_spaced (List.forall_mem_singleton.mpr settled)
  rw [selectionOf, markAfter_append, word, markAfter_append, items, markAfter_append, keyword]

/-- The cuts after the source do not depend on what is selected. -/
theorem clauseTexts_selectionOf {rest : List Char} (stop : atGap rest = true) :
    ∃ cuts : ClauseTexts, ∀ item, Settled item →
      clauseTexts (selectionOf item rest) = .ok { cuts with select := ended [item] true } := by
  have opens (item : List Char) : dropKeyword? Clause.select.keyword (selectionOf item rest) =
      some (spaced [item] ++ (opened .source (some []) ++ rest)) :=
    dropKeyword?_text .select (atGap_spaced_append _ (atGap_opened .source (some []) stop))
  have from_ {item : List Char} (settled : Settled item) :=
    cutAt?_next (List.forall_mem_singleton.mpr settled) .source [] stop
  cases where_ : cutAt? Clause.filter.keyword false none rest with
  | none =>
    let cuts : ClauseTexts :=
      ⟨[], restOfClause rest, none, orderText? rest, limitText? rest⟩
    exact ⟨cuts, fun item settled => clauseTexts_of_no_filter (opens item) (from_ settled) where_⟩
  | some p =>
    let cuts : ClauseTexts :=
      ⟨[], p.1, some (restOfClause p.2), orderText? p.2, limitText? p.2⟩
    exact ⟨cuts, fun item settled => clauseTexts_of_filter (opens item) (from_ settled) where_⟩

structure ReadsAs (text : List Char) (items : List SelectItem) : Prop where
  settled : Settled text
  read : SelectItem.listOfText (ended [text] true) = .ok items

theorem readsAs_wildcard : ReadsAs ['*'] [.wildcard] where
  settled := settled_of_gapless (uncut_of_forall (by decide)) (by decide)
    fun clause => by cases clause <;> decide
  read := by rfl

theorem readsAs_countAll : ReadsAs "COUNT(*)".toList [.countAll] where
  settled := settled_of_gapless (uncut_of_forall (by decide)) (by decide)
    fun clause => by cases clause <;> decide
  read := by rfl

namespace Plan

section Selections

variable {query : String} {text rest : List Char} {items : List SelectItem} {plan : Plan}
  (reads : ReadsAs text items) (written : query.toList = selectionOf text (' ' :: rest))

include reads written

theorem parse_selectionOf_iff : Plan.parse query = .ok plan ↔
    markAfter none (queryEnd (' ' :: rest)) = none ∧ ∃ texts shown,
      clauseTexts (selectionOf text (queryEnd (' ' :: rest))) = .ok texts ∧
      ReadFrom texts shown ∧ (shown.isCount && shown.order.isSome) = false ∧
      shown.resolveIdentity = plan := by
  have trimmed : queryText query.toList = selectionOf text (queryEnd (' ' :: rest)) := by
    rw [written, queryText_selectionOf]
  rw [parse_eq_ok_iff trimmed, markAfter_selectionOf reads.settled]

theorem select_of_parse_selectionOf (parsed : Plan.parse query = .ok plan) :
    plan.select = items.map (·.mapField FieldName.resolve) := by
  have stop := atGap_of_isPrefix (queryEnd_isPrefix (' ' :: rest)) rfl
  obtain ⟨cuts, cut⟩ := clauseTexts_selectionOf stop
  obtain ⟨-, texts, shown, found, read, -, rfl⟩ :=
    (parse_selectionOf_iff reads written).mp parsed
  obtain rfl := Except.ok.inj ((cut text reads.settled).symm.trans found)
  have same : items = shown.select := Except.ok.inj (reads.read.symm.trans read.select)
  rw [same]
  rfl

theorem parse_selectionOf_other {other : String} {text' : List Char} {items' : List SelectItem}
    (reads' : ReadsAs text' items') (written' : other.toList = selectionOf text' (' ' :: rest))
    (unordered : plan.order = none) (parsed : Plan.parse query = .ok plan) :
    Plan.parse other =
      .ok { plan with select := items'.map (·.mapField FieldName.resolve) } := by
  have stop := atGap_of_isPrefix (queryEnd_isPrefix (' ' :: rest)) rfl
  obtain ⟨cuts, cut⟩ := clauseTexts_selectionOf stop
  obtain ⟨closed, texts, shown, found, read, -, rfl⟩ :=
    (parse_selectionOf_iff reads written).mp parsed
  obtain rfl := Except.ok.inj ((cut text reads.settled).symm.trans found)
  have order : shown.order = none := Option.map_eq_none_iff.mp unordered
  refine (parse_selectionOf_iff reads' written').mpr ⟨closed, _, { shown with select := items' },
    cut text' reads'.settled, ?_, ?_, rfl⟩
  · exact ⟨reads'.read, read.source, read.filter, read.order, read.limit⟩
  · rw [order]
    exact Bool.and_false _

end Selections

end Plan

end DocQuery
