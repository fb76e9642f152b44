import DocQuery.Proofs.Query.Casing
import DocQuery.Proofs.Text.Bytes

/-!
# The parts of a query

A query is a sequence of parts, each a keyword and the text of its clause. The parts make the whole
query, and a closed query has closed parts: no quotation reaches from one clause into another.
-/

namespace DocQuery

open Text

structure Part where
  clause : Clause
  word : List Char
  contents : List Char

def Part.text (part : Part) : List Char := part.word ++ part.contents

def wholeOf (parts : List Part) : List Char := parts.flatMap Part.text

/-- A text is cut at those keywords that are there, each looked for behind the one before: what
stands before the first of them, and the parts. -/
inductive CutInto : List Clause → List Char → List Char → List Part → Prop where
  | done (text : List Char) : CutInto [] text text []
  | skip {clause : Clause} {clauses : List Clause} {text head : List Char} {parts : List Part}
      (missing : cutAt? clause.keyword false none text = none)
      (rest : CutInto clauses text head parts) : CutInto (clause :: clauses) text head parts
  | cut {clause : Clause} {clauses : List Clause} {text head word after contents : List Char}
      {parts : List Part} (found : cutAt? clause.keyword false none text = some (head, after))
      (spells : Spells clause.keyword word) (whole : text = head ++ (word ++ after))
      (closed : markAfter none head = none) (rest : CutInto clauses after contents parts) :
      CutInto (clause :: clauses) text head (⟨clause, word, contents⟩ :: parts)

theorem exists_cutInto (clauses : List Clause) (text : List Char) :
    ∃ head parts, CutInto clauses text head parts := by
  induction clauses generalizing text with
  | nil => exact ⟨text, [], .done text⟩
  | cons clause clauses ih =>
    cases found : cutAt? clause.keyword false none text with
    | none =>
      obtain ⟨head, parts, rest⟩ := ih text
      exact ⟨head, parts, .skip found rest⟩
    | some place =>
      obtain ⟨head, after⟩ := place
      obtain ⟨word, spells, whole, closed⟩ := exists_spells_of_cutAt? clause.spelled found
      obtain ⟨contents, parts, rest⟩ := ih after
      exact ⟨head, ⟨clause, word, contents⟩ :: parts, .cut found spells whole closed rest⟩

namespace CutInto

variable {clauses : List Clause} {text head : List Char} {parts : List Part}

/-- Nothing of the text is lost or used twice. -/
theorem whole_eq (h : CutInto clauses text head parts) : text = head ++ wholeOf parts := by
  induction h with
  | done text => exact (List.append_nil text).symm
  | skip _ _ ih => exact ih
  | cut found spells whole closed rest ih =>
    rw [whole, ih]
    simp [wholeOf, Part.text]

theorem spells (h : CutInto clauses text head parts) :
    ∀ p ∈ parts, Spells p.clause.keyword p.word := by
  induction h with
  | done => simp
  | skip _ _ ih => exact ih
  | cut found spells whole closed rest ih =>
    intro p m
    rcases List.mem_cons.mp m with rfl | m
    · exact spells
    · exact ih p m

theorem closed (h : CutInto clauses text head parts) (closed : markAfter none text = none) :
    markAfter none head = none ∧ ∀ p ∈ parts, markAfter none p.contents = none := by
  induction h with
  | done => exact ⟨closed, by simp⟩
  | skip _ _ ih => exact ih closed
  | @cut clause _ _ _ _ _ _ _ found spells whole closedHead rest ih =>
    rw [markAfter_of_cutAt? clause.spelled found] at closed
    obtain ⟨first, others⟩ := ih closed
    refine ⟨closedHead, fun p m => ?_⟩
    rcases List.mem_cons.mp m with rfl | m
    · exact first
    · exact others p m

theorem of_order_limit (h : CutInto [.order, .limit] text head parts) :
    head = restOfClause text ∧ (parts.map fun p => (p.clause, p.contents)) =
      ((orderText? text).map (Clause.order, ·)).toList ++
        ((limitText? text).map (Clause.limit, ·)).toList := by
  unfold restOfClause orderText? limitText?
  cases h with
  | skip order rest =>
    rw [cutClause_of_none order]
    cases rest with
    | skip limit rest =>
      cases rest
      rw [cutClause_of_none limit]
      simp [cutClause_of_none limit]
    | cut limit _ _ _ rest =>
      cases rest
      rw [cutClause_of_some limit]
      simp [cutClause_of_some limit]
  | cut order _ _ _ rest =>
    rw [cutClause_of_some order]
    cases rest with
    | skip limit rest =>
      cases rest
      simp [cutClause_of_none limit]
    | cut limit _ _ _ rest =>
      cases rest
      simp [cutClause_of_some limit]

end CutInto

def ClauseTexts.listed (texts : ClauseTexts) : List (Clause × List Char) :=
  (.select, texts.select) :: (.source, texts.source) ::
    ((texts.filter.map (Clause.filter, ·)).toList ++
      ((texts.order.map (Clause.order, ·)).toList ++ (texts.limit.map (Clause.limit, ·)).toList))

theorem ClauseTexts.listed_sublist (texts : ClauseTexts) :
    (texts.listed.map Prod.fst).Sublist [.select, .source, .filter, .order, .limit] := by
  obtain ⟨select, source, filter, order, limit⟩ := texts
  cases filter <;> cases order <;> cases limit <;> simp [ClauseTexts.listed]

/-- How a query is cut: behind the keyword that it opens with, at the source, and at the later
keywords that are there. A query without one of the first two is refused. -/
inductive QueryCut (text : List Char) : Except ParseError (List Part) → Prop where
  | noSelect (missing : dropKeyword? Clause.select.keyword text = none) :
      QueryCut text (.error .missingSelect)
  | noSource {afterSelect : List Char}
      (opens : dropKeyword? Clause.select.keyword text = some afterSelect)
      (missing : cutAt? Clause.source.keyword false none afterSelect = none) :
      QueryCut text (.error .missingFrom)
  | cut {afterSelect selectWord select afterSource sourceWord source : List Char}
      {later : List Part} (opens : dropKeyword? Clause.select.keyword text = some afterSelect)
      (spells : Spells Clause.select.keyword selectWord) (whole : text = selectWord ++ afterSelect)
      (from_ : cutAt? Clause.source.keyword false none afterSelect = some (select, afterSource))
      (spells' : Spells Clause.source.keyword sourceWord)
      (whole' : afterSelect = select ++ (sourceWord ++ afterSource))
      (closed : markAfter none select = none)
      (rest : CutInto [.filter, .order, .limit] afterSource source later) :
      QueryCut text (.ok (⟨.select, selectWord, select⟩ :: ⟨.source, sourceWord, source⟩ :: later))

theorem exists_queryCut (text : List Char) : ∃ outcome, QueryCut text outcome := by
  cases opens : dropKeyword? Clause.select.keyword text with
  | none => exact ⟨_, .noSelect opens⟩
  | some afterSelect =>
    obtain ⟨selectWord, spells, whole⟩ := exists_spells_of_dropKeyword? Clause.select.spelled opens
    cases from_ : cutAt? Clause.source.keyword false none afterSelect with
    | none => exact ⟨_, .noSource opens from_⟩
    | some place =>
      obtain ⟨select, afterSource⟩ := place
      obtain ⟨sourceWord, spells', whole', closed⟩ :=
        exists_spells_of_cutAt? Clause.source.spelled from_
      obtain ⟨source, later, rest⟩ := exists_cutInto [.filter, .order, .limit] afterSource
      exact ⟨_, .cut opens spells whole from_ spells' whole' closed rest⟩

theorem QueryCut.listed {text : List Char} {outcome : Except ParseError (List Part)}
    (h : QueryCut text outcome) :
    (clauseTexts text).map ClauseTexts.listed =
      outcome.map fun parts => parts.map fun p => (p.clause, p.contents) := by
  cases h with
  | noSelect missing =>
    simp only [clauseTexts, missing]
    rfl
  | noSource opens missing =>
    simp only [clauseTexts, opens, missing]
    rfl
  | cut opens _ _ from_ _ _ _ rest =>
    cases rest with
    | skip where_ rest =>
      obtain ⟨rfl, later⟩ := rest.of_order_limit
      rw [clauseTexts_of_no_filter opens from_ where_]
      simp [Except.map, ClauseTexts.listed, later]
    | cut where_ _ _ _ rest =>
      obtain ⟨rfl, later⟩ := rest.of_order_limit
      rw [clauseTexts_of_filter opens from_ where_]
      simp [Except.map, ClauseTexts.listed, later]

section Parts

variable {text : List Char} {parts : List Part} (h : QueryCut text (.ok parts))

include h

theorem QueryCut.whole_eq : wholeOf parts = text := by
  cases h with
  | cut _ _ whole _ _ whole' _ rest =>
    rw [whole, whole', rest.whole_eq]
    simp [wholeOf, Part.text]

theorem QueryCut.spells : ∀ p ∈ parts, Spells p.clause.keyword p.word := by
  cases h with
  | cut _ spells _ from_ spells' whole' closed rest =>
    have others := (CutInto.cut from_ spells' whole' closed rest).spells
    intro p m
    rcases List.mem_cons.mp m with rfl | m
    · exact spells
    · exact others p m

theorem QueryCut.closed (closed : markAfter none text = none) :
    ∀ p ∈ parts, markAfter none p.contents = none := by
  cases h with
  | cut opens spells whole from_ spells' whole' closed' rest =>
    rw [markAfter_of_dropKeyword? Clause.select.spelled opens] at closed
    have others := (CutInto.cut from_ spells' whole' closed' rest).closed closed
    intro p m
    rcases List.mem_cons.mp m with rfl | m
    · exact others.1
    · exact others.2 p m

end Parts

end DocQuery
