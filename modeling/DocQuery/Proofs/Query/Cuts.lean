import DocQuery.Proofs.Query.Keywords
import DocQuery.Query.Plan

/-!
# Clauses of joined texts

How the steps of reading a query treat a text that goes on: what is trimmed off its ends, where its
clauses are cut, and what is checked on the way.
-/

namespace DocQuery

open Text

/-- What trimming and the semicolon leave of a text that ends a query. -/
def queryEnd (text : List Char) : List Char :=
  if (trimEnd text).getLast? = some ';' then trimEnd (trimEnd text).dropLast else trimEnd text

theorem queryText_append_stop {c : Char} (blank : isBlank c = false) (semicolon : c ≠ ';')
    (x y : List Char) :
    queryText (x ++ c :: y) = x.dropWhile isBlank ++ c :: queryEnd y := by
  unfold queryText queryEnd
  rw [trim_append_stop blank]
  cases h : trimEnd y with
  | nil => simp [semicolon]
  | cons d t =>
    have last : (x.dropWhile isBlank ++ c :: d :: t).getLast? = (d :: t).getLast? := by
      simp [List.getLast?_append, List.getLast?_cons]
    dsimp only
    rw [last]
    by_cases ends : (d :: t).getLast? = some ';'
    · have shorter : (x.dropWhile isBlank ++ c :: d :: t).dropLast =
          x.dropWhile isBlank ++ c :: (d :: t).dropLast := by
        rw [List.dropLast_append_of_ne_nil (by simp), List.dropLast_cons_of_ne_nil (by simp)]
      simp only [ends, if_true]
      rw [shorter, trimEnd_append_stop blank]
    · simp only [ends, if_false]

/-- A text from whose end nothing is taken off when it ends a query. -/
def IsFinished (text : List Char) : Prop :=
  ∃ front c, text = front ++ [c] ∧ isBlank c = false ∧ c ≠ ';'

theorem isFinished_of_forall {text : List Char} (some : text ≠ [])
    (plain : ∀ c ∈ text, isBlank c = false ∧ c ≠ ';') : IsFinished text :=
  ⟨text.dropLast, text.getLast some, (List.dropLast_concat_getLast some).symm,
    plain _ (List.getLast_mem some)⟩

theorem IsFinished.append {text : List Char} (h : IsFinished text) (front : List Char) :
    IsFinished (front ++ text) := by
  obtain ⟨middle, c, rfl, blank, semicolon⟩ := h
  exact ⟨front ++ middle, c, by simp, blank, semicolon⟩

theorem queryText_of_finished {text : List Char} (h : IsFinished text)
    (first : ∀ c ∈ text.head?, isBlank c = false) : queryText text = text := by
  obtain ⟨front, c, rfl, blank, semicolon⟩ := h
  have kept : front.dropWhile isBlank = front := by
    cases front with
    | nil => rfl
    | cons d front =>
      have stop : isBlank d = false := first d rfl
      rw [List.dropWhile_cons_of_neg (by simp [stop])]
  rw [queryText_append_stop blank semicolon, kept]
  rfl

/-- The part of a text that belongs to the clause opened before it, be that the source or the
filter: it ends where the order or the limit begins. -/
def restOfClause (text : List Char) : List Char :=
  if (cutClause .order text).2.isSome then (cutClause .order text).1
  else (cutClause .limit text).1

def orderText? (text : List Char) : Option (List Char) :=
  (cutClause .order text).2.map fun after => (cutClause .limit after).1

def limitText? (text : List Char) : Option (List Char) :=
  (cutClause .limit ((cutClause .order text).2.getD text)).2

theorem cutClause_of_some {clause : Clause} {text before after : List Char}
    (h : cutAt? clause.keyword false none text = some (before, after)) :
    cutClause clause text = (before, some after) := by
  simp [cutClause, h]

theorem cutClause_of_none {clause : Clause} {text : List Char}
    (h : cutAt? clause.keyword false none text = none) :
    cutClause clause text = (text, none) := by
  simp [cutClause, h]

section Clauses

variable {text select source afterSelect afterSource : List Char}
  (opens : dropKeyword? Clause.select.keyword text = some afterSelect)
  (from_ : cutAt? Clause.source.keyword false none afterSelect = some (select, afterSource))

include opens from_

theorem clauseTexts_of_filter {filter : List Char}
    (where_ : cutAt? Clause.filter.keyword false none afterSource = some (source, filter)) :
    clauseTexts text = .ok {
      select, source, filter := some (restOfClause filter)
      order := orderText? filter, limit := limitText? filter } := by
  simp only [clauseTexts, opens, from_, cutClause_of_some where_, restOfClause, orderText?,
    limitText?, Option.getD_some]
  cases (cutClause .order filter).2 <;> rfl

theorem clauseTexts_of_no_filter
    (where_ : cutAt? Clause.filter.keyword false none afterSource = none) :
    clauseTexts text = .ok {
      select, source := restOfClause afterSource, filter := none
      order := orderText? afterSource, limit := limitText? afterSource } := by
  simp only [clauseTexts, opens, from_, cutClause_of_none where_, restOfClause, orderText?,
    limitText?, Option.getD_none]
  cases (cutClause .order afterSource).2 <;> rfl

end Clauses

theorem cuts_of_open_filter {text select source filter : List Char}
    (h : clauseTexts text = .ok ⟨select, source, some filter, none, none⟩) :
    ∃ afterSelect afterSource,
      dropKeyword? Clause.select.keyword text = some afterSelect ∧
      cutAt? Clause.source.keyword false none afterSelect = some (select, afterSource) ∧
      cutAt? Clause.filter.keyword false none afterSource = some (source, filter) ∧
      cutAt? Clause.order.keyword false none filter = none ∧
      cutAt? Clause.limit.keyword false none filter = none := by
  unfold clauseTexts at h
  split at h
  · cases h
  · next afterSelect opens =>
    split at h
    · cases h
    · next select' afterSource from_ =>
      cases where_ : cutAt? Clause.filter.keyword false none afterSource with
      | none => simp [cutClause, where_] at h
      | some p =>
        obtain ⟨source', filter'⟩ := p
        cases order : cutAt? Clause.order.keyword false none filter' with
        | some p => simp [cutClause, where_, order] at h
        | none =>
          cases limit : cutAt? Clause.limit.keyword false none filter' with
          | some p => simp [cutClause, where_, order, limit] at h
          | none =>
            simp only [cutClause, where_, order, limit, Option.map_none, Option.map_some,
              Option.getD_some, Option.getD_none, Option.isSome_none, Option.isSome_some,
              Bool.false_eq_true, if_false, if_true, Except.ok.injEq, ClauseTexts.mk.injEq,
              Option.some.injEq, and_true] at h
            obtain ⟨rfl, rfl, rfl⟩ := h
            exact ⟨afterSelect, afterSource, opens, from_, where_, order, limit⟩

section Quotation

variable {q : Char} {contents text : List Char} (hq : isQuote q = true) (free : q ∉ contents)
  (closed : markAfter none text = none)

include hq free closed

theorem cutClause_quotation {clause : Clause}
    (missing : cutAt? clause.keyword false none text = none) (rest : List Char) :
    cutClause clause (text ++ (quotation q contents ++ rest)) =
      (text ++ (quotation q contents ++ (cutClause clause rest).1), (cutClause clause rest).2) := by
  have pass := cutAt?_append_quotation_of_none clause.spelled hq free missing closed rest
  cases h : cutAt? clause.keyword false none rest with
  | none =>
    rw [h] at pass
    rw [cutClause_of_none h, cutClause_of_none pass]
  | some p =>
    rw [h] at pass
    rw [cutClause_of_some h, cutClause_of_some pass]

variable (order : cutAt? Clause.order.keyword false none text = none)
  (limit : cutAt? Clause.limit.keyword false none text = none) (rest : List Char)

include order

theorem orderText?_quotation :
    orderText? (text ++ (quotation q contents ++ rest)) = orderText? rest := by
  unfold orderText?
  rw [cutClause_quotation hq free closed order]

include limit

theorem restOfClause_quotation :
    restOfClause (text ++ (quotation q contents ++ rest)) =
      text ++ (quotation q contents ++ restOfClause rest) := by
  unfold restOfClause
  rw [cutClause_quotation hq free closed order, cutClause_quotation hq free closed limit]
  cases (cutClause .order rest).2 <;> rfl

theorem limitText?_quotation :
    limitText? (text ++ (quotation q contents ++ rest)) = limitText? rest := by
  unfold limitText?
  rw [cutClause_quotation hq free closed order]
  cases (cutClause .order rest).2 with
  | none =>
    show (cutClause .limit (text ++ (quotation q contents ++ rest))).2 = (cutClause .limit rest).2
    rw [cutClause_quotation hq free closed limit]
  | some after => rfl

end Quotation

/-- A quotation in a filter: the text before it is cut as if it ended there, and the text after it
as if it began there. -/
theorem clauseTexts_quotation {text select source filter : List Char}
    (h : clauseTexts text = .ok ⟨select, source, some filter, none, none⟩) (some : filter ≠ [])
    (closed : markAfter none filter = none) {q : Char} (hq : isQuote q = true)
    {contents : List Char} (free : q ∉ contents) (rest : List Char) :
    clauseTexts (text ++ (quotation q contents ++ rest)) = .ok {
      select, source, filter := .some (filter ++ (quotation q contents ++ restOfClause rest))
      order := orderText? rest, limit := limitText? rest } := by
  obtain ⟨afterSelect, afterSource, opens, from_, where_, order, limit⟩ := cuts_of_open_filter h
  have someSource : afterSource ≠ [] := by
    rintro rfl
    simp [cutAt?] at where_
  have someSelect : afterSelect ≠ [] := by
    rintro rfl
    simp [cutAt?] at from_
  have opens' : dropKeyword? Clause.select.keyword (text ++ (quotation q contents ++ rest)) =
      .some (afterSelect ++ (quotation q contents ++ rest)) := by
    have kept : (!afterSelect.isEmpty) = true := by simpa using someSelect
    rw [quotation_append, dropKeyword?_append_stop (Clause.spelled .select)
      (not_isAlpha_of_isQuote hq) (not_isGap_of_isQuote hq), opens, Option.filter_some, if_pos kept]
    rfl
  have from' : cutAt? Clause.source.keyword false none
      (afterSelect ++ (quotation q contents ++ rest)) =
        .some (select, afterSource ++ (quotation q contents ++ rest)) :=
    cutAt?_append_quotation_of_some (Clause.spelled .source) hq from_ someSource rest
  have where' : cutAt? Clause.filter.keyword false none
      (afterSource ++ (quotation q contents ++ rest)) =
        .some (source, filter ++ (quotation q contents ++ rest)) :=
    cutAt?_append_quotation_of_some (Clause.spelled .filter) hq where_ some rest
  rw [clauseTexts_of_filter opens' from' where',
    restOfClause_quotation hq free closed order limit, orderText?_quotation hq free closed order,
    limitText?_quotation hq free closed order limit]

theorem markAfter_of_open_filter {text select source filter : List Char}
    (h : clauseTexts text = .ok ⟨select, source, some filter, none, none⟩) :
    markAfter none text = markAfter none filter := by
  obtain ⟨afterSelect, afterSource, opens, from_, where_, -, -⟩ := cuts_of_open_filter h
  rw [markAfter_of_dropKeyword? (Clause.spelled .select) opens,
    markAfter_of_cutAt? (Clause.spelled .source) from_,
    markAfter_of_cutAt? (Clause.spelled .filter) where_]

theorem Plan.parse_of_closed {query : String} {text : List Char}
    (trimmed : queryText query.toList = text) (closed : markAfter none text = none) :
    Plan.parse query = (clauseTexts text).bind fun texts =>
      (Plan.ofClauses texts).bind fun plan =>
        if plan.isCount && plan.order.isSome then .error .countWithOrder
        else .ok plan.resolveIdentity := by
  have none := (unclosedQuote?_eq_none_iff text).mpr closed
  unfold Plan.parse
  rw [trimmed]
  dsimp only
  rw [none]
  rfl

theorem Plan.parse_openQuote {query : String} {text : List Char}
    (trimmed : queryText query.toList = text) (opened : markAfter none text ≠ none) :
    ∃ mark position, Plan.parse query = .error (.clause (.openQuote mark position)) := by
  cases h : unclosedQuote? none 0 text with
  | none => exact absurd ((unclosedQuote?_eq_none_iff text).mp h) opened
  | some p =>
    refine ⟨p.1, p.2, ?_⟩
    unfold Plan.parse
    rw [trimmed]
    dsimp only
    rw [h]
    rfl

theorem Plan.parse_of_open {query : String} {text : List Char}
    (trimmed : queryText query.toList = text) (opened : markAfter none text ≠ none) :
    ∃ e, Plan.parse query = .error e := by
  obtain ⟨mark, position, refused⟩ := parse_openQuote trimmed opened
  exact ⟨_, refused⟩

end DocQuery
