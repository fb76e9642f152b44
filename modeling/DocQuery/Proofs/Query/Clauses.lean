import DocQuery.Proofs.Query.Cuts
import DocQuery.Proofs.Query.Quiet

/-!
# Clauses of a written query

A query that is written clause by clause, with single blanks between its words, is cut into those
clauses when no word of it is a keyword.
-/

namespace DocQuery

open Text

/-- A text that holds no keyword and leaves no quotation open. -/
structure Settled (text : List Char) : Prop where
  quiet : ∀ clause : Clause, QuietFor clause.keyword text
  closed : markAfter none text = none

theorem settled_of_gapless {text : List Char} (gapless : Gapless text)
    (closed : markAfter none text = none)
    (other : ∀ clause : Clause, ∀ w ∈ clause.keyword.head?, sameLetters text w.toList = false) :
    Settled text where
  quiet clause := by
    have spelled := clause.spelled
    have differ := other clause
    revert spelled differ
    cases clause.keyword with
    | nil => exact fun spelled => absurd rfl spelled.some
    | cons first words =>
      intro spelled differ
      exact quietFor_of_gapless spelled gapless closed (differ first rfl)
  closed := closed

theorem Settled.append {x y : List Char} (hx : Settled x) (hy : Settled y) :
    Settled (x ++ ' ' :: y) where
  quiet clause := (hx.quiet clause).append (hy.quiet clause)
  closed := by
    have blank : quoteAfter none ' ' = none := by decide
    rw [markAfter_append, hx.closed, markAfter_cons, blank, hy.closed]

theorem Settled.cons {c : Char} (letter : c.isAlpha = false) (gap : isGap c = false)
    (quote : isQuote c = false) {text : List Char} (h : Settled text) : Settled (c :: text) where
  quiet clause := by
    intro bounded rest stop
    have plain : quoteAfter none c = none := by simp [quoteAfter, quote]
    have no := dropKeyword?_append_stop clause.spelled letter gap [] (text ++ rest)
    rw [dropKeyword?_nil clause.spelled] at no
    rw [List.cons_append, cutAt?_cons_of_not_found fun _ _ => no, gap, plain,
      h.quiet clause false rest stop, Option.map_map]
    rfl
  closed := by
    have plain : quoteAfter none c = none := by simp [quoteAfter, quote]
    rw [markAfter_cons, plain, h.closed]

def spaced (texts : List (List Char)) : List Char := texts.flatMap (' ' :: ·)

@[simp] theorem spaced_nil : spaced [] = [] := rfl

@[simp] theorem spaced_cons (text : List Char) (texts : List (List Char)) :
    spaced (text :: texts) = ' ' :: (text ++ spaced texts) := rfl

@[simp] theorem spaced_append (x y : List (List Char)) :
    spaced (x ++ y) = spaced x ++ spaced y := List.flatMap_append

theorem atGap_spaced_append (texts : List (List Char)) {rest : List Char}
    (h : atGap rest = true) : atGap (spaced texts ++ rest) = true := by
  cases texts with
  | nil => exact h
  | cons text texts => rfl

theorem cutAt?_spaced {keyword : List String} {texts : List (List Char)}
    (quiet : ∀ text ∈ texts, QuietFor keyword text) {rest : List Char} (h : atGap rest = true) :
    cutAt? keyword false none (spaced texts ++ rest) =
      (cutAt? keyword false none rest).map fun p => (spaced texts ++ p.1, p.2) := by
  induction texts with
  | nil => simp
  | cons text texts ih =>
    rw [spaced_cons, List.cons_append, List.append_assoc, cutAt?_blank,
      quiet text (List.mem_cons_self ..) true _ (atGap_spaced_append texts h),
      ih fun u m => quiet u (List.mem_cons_of_mem _ m), Option.map_map, Option.map_map]
    congr 1
    funext p
    simp

theorem markAfter_spaced {texts : List (List Char)} (settled : ∀ text ∈ texts, Settled text) :
    markAfter none (spaced texts) = none := by
  induction texts with
  | nil => rfl
  | cons text texts ih =>
    have blank : quoteAfter none ' ' = none := by decide
    rw [spaced_cons, markAfter_cons, blank, markAfter_append,
      (settled text (List.mem_cons_self ..)).closed]
    exact ih fun u m => settled u (List.mem_cons_of_mem _ m)

def Clause.text : Clause → List Char
  | .select => "SELECT".toList
  | .source => "FROM".toList
  | .filter => "WHERE".toList
  | .order => "ORDER".toList ++ ' ' :: "BY".toList
  | .limit => "LIMIT".toList

def opened (clause : Clause) (texts? : Option (List (List Char))) : List Char :=
  texts?.elim [] fun texts => ' ' :: (clause.text ++ spaced texts)

theorem atGap_opened (clause : Clause) (texts? : Option (List (List Char))) {rest : List Char}
    (h : atGap rest = true) : atGap (opened clause texts? ++ rest) = true := by
  cases texts? with
  | none => exact h
  | some texts => rfl

theorem dropWord?_self (word rest : List Char) : dropWord? word (word ++ rest) = some rest :=
  dropWord?_eq_some_iff.mpr ⟨word, rfl, by simp [sameLetters]⟩

theorem Clause.text_ne_nil (clause : Clause) : clause.text ≠ [] := by
  cases clause <;> decide

theorem dropKeyword?_text (clause : Clause) {rest : List Char} (h : atGap rest = true) :
    dropKeyword? clause.keyword (clause.text ++ rest) = some rest := by
  have single (word : String) : dropKeyword? [word] (word.toList ++ rest) = some rest := by
    rw [dropKeyword?, dropWord?_self, Option.bind_some, if_pos h]
  cases clause with
  | select => exact single "SELECT"
  | source => exact single "FROM"
  | filter => exact single "WHERE"
  | order =>
    have gap : atGap (' ' :: ("BY".toList ++ rest)) = true := rfl
    have next : (' ' :: ("BY".toList ++ rest)).dropWhile isGap = "BY".toList ++ rest := rfl
    show dropKeyword? ["ORDER", "BY"] ("ORDER".toList ++ ' ' :: "BY".toList ++ rest) = some rest
    rw [List.append_assoc, List.cons_append, dropKeyword?, dropWord?_self, Option.bind_some,
      if_pos gap, next]
    · exact single "BY"
    · simp
  | limit => exact single "LIMIT"

theorem cutAt?_text (clause : Clause) {rest : List Char} (h : atGap rest = true) :
    cutAt? clause.keyword false none (' ' :: (clause.text ++ rest)) = some ([' '], rest) := by
  have found := dropKeyword?_text clause h
  rw [cutAt?_blank]
  cases text : clause.text ++ rest with
  | nil => exact absurd (List.append_eq_nil_iff.mp text).1 clause.text_ne_nil
  | cons c t =>
    rw [text] at found
    rw [cutAt?_cons_of_found found]
    rfl

theorem quietFor_word (clause : Clause) (word : String)
    (plain : ∀ c ∈ word.toList, isGap c = false ∧ isQuote c = false)
    (differ : ∀ v ∈ clause.keyword, sameLetters word.toList v.toList = false) :
    QuietFor clause.keyword word.toList := by
  have spelled := clause.spelled
  revert spelled differ
  cases clause.keyword with
  | nil => exact fun _ spelled => absurd rfl spelled.some
  | cons first words =>
    intro differ spelled
    exact quietFor_of_gapless spelled (uncut_of_forall fun c m => (plain c m).1)
      (markAfter_of_no_quote fun c m => (plain c m).2) (differ first (List.mem_cons_self ..))

theorem quietFor_text {clause other : Clause} (h : clause ≠ other) :
    QuietFor clause.keyword other.text := by
  cases other with
  | select =>
    refine quietFor_word clause "SELECT" (by decide) ?_
    revert h
    cases clause <;> decide
  | source =>
    refine quietFor_word clause "FROM" (by decide) ?_
    revert h
    cases clause <;> decide
  | filter =>
    refine quietFor_word clause "WHERE" (by decide) ?_
    revert h
    cases clause <;> decide
  | order =>
    refine QuietFor.append (quietFor_word clause "ORDER" (by decide) ?_)
      (quietFor_word clause "BY" (by decide) ?_)
    all_goals
      revert h
      cases clause <;> decide
  | limit =>
    refine quietFor_word clause "LIMIT" (by decide) ?_
    revert h
    cases clause <;> decide

theorem cutAt?_opened {clause other : Clause} (h : clause ≠ other)
    {texts? : Option (List (List Char))}
    (settled : ∀ texts ∈ texts?, ∀ text ∈ texts, Settled text) {rest : List Char}
    (stop : atGap rest = true) :
    cutAt? clause.keyword false none (opened other texts? ++ rest) =
      (cutAt? clause.keyword false none rest).map fun p => (opened other texts? ++ p.1, p.2) := by
  cases texts? with
  | none => simp [opened]
  | some texts =>
    have quiet : ∀ text ∈ other.text :: texts, QuietFor clause.keyword text := by
      intro text m
      rcases List.mem_cons.mp m with rfl | m
      · exact quietFor_text h
      · exact (settled texts rfl text m).quiet clause
    exact cutAt?_spaced quiet stop

def ended (texts : List (List Char)) (more : Bool) : List Char :=
  spaced texts ++ if more then [' '] else []

def tailText (order? limit? : Option (List (List Char))) : List Char :=
  opened .order order? ++ opened .limit limit?

theorem atGap_opened_nil (clause : Clause) (texts? : Option (List (List Char))) :
    atGap (opened clause texts?) = true := by
  have gap := atGap_opened clause texts? (rfl : atGap [] = true)
  rwa [List.append_nil] at gap

theorem atGap_tailText (order? limit? : Option (List (List Char))) :
    atGap (tailText order? limit?) = true :=
  atGap_opened .order order? (atGap_opened_nil .limit limit?)

/-- A clause that follows ends the texts before it, whatever other keywords they hold. -/
theorem cutAt?_next_of_quiet {clause : Clause} {texts : List (List Char)}
    (quiet : ∀ text ∈ texts, QuietFor clause.keyword text) (next : List (List Char))
    {rest : List Char} (stop : atGap rest = true) : cutAt? clause.keyword false none
      (spaced texts ++ (opened clause (some next) ++ rest)) =
        some (ended texts true, spaced next ++ rest) := by
  have place := cutAt?_text clause (atGap_spaced_append next stop)
  rw [cutAt?_spaced quiet (atGap_opened clause (some next) stop)]
  simp only [opened, Option.elim_some, List.cons_append, List.append_assoc, place,
    Option.map_some]
  rfl

section Cuts

variable {texts : List (List Char)} (settled : ∀ text ∈ texts, Settled text)

include settled

theorem cutAt?_next (clause : Clause) (next : List (List Char)) {rest : List Char}
    (stop : atGap rest = true) : cutAt? clause.keyword false none
      (spaced texts ++ (opened clause (some next) ++ rest)) =
        some (ended texts true, spaced next ++ rest) :=
  cutAt?_next_of_quiet (fun text m => (settled text m).quiet clause) next stop

theorem cutAt?_missing {clause : Clause} {rest : List Char} (stop : atGap rest = true)
    (missing : cutAt? clause.keyword false none rest = none) :
    cutAt? clause.keyword false none (spaced texts ++ rest) = none := by
  rw [cutAt?_spaced (fun text m => (settled text m).quiet clause) stop, missing]
  rfl

variable {order? limit? : Option (List (List Char))}
  (settledOrder : ∀ texts ∈ order?, ∀ text ∈ texts, Settled text)
  (settledLimit : ∀ texts ∈ limit?, ∀ text ∈ texts, Settled text)

omit settled in
include settledLimit in
theorem cutAt?_limit_missing {clause : Clause} (h : clause ≠ .limit) :
    cutAt? clause.keyword false none (opened .limit limit?) = none := by
  have pass := cutAt?_opened h settledLimit (rfl : atGap [] = true)
  rw [List.append_nil] at pass
  rw [pass]
  rfl

omit settled in
include settledOrder settledLimit in
theorem cutAt?_tail_missing {clause : Clause} (h : clause ≠ .order) (h' : clause ≠ .limit) :
    cutAt? clause.keyword false none (tailText order? limit?) = none := by
  unfold tailText
  rw [cutAt?_opened h settledOrder (atGap_opened_nil .limit limit?),
    cutAt?_limit_missing settledLimit h']
  rfl

theorem cutClause_limit : cutClause .limit (spaced texts ++ opened .limit limit?) =
    (ended texts limit?.isSome, limit?.map spaced) := by
  cases limit? with
  | none =>
    have missing := cutClause_of_none (cutAt?_missing settled (rfl : atGap [] = true)
      (rfl : cutAt? Clause.limit.keyword false none [] = none))
    simpa [opened, ended] using missing
  | some next =>
    have found := cutClause_of_some (cutAt?_next settled .limit next (rfl : atGap [] = true))
    simpa using found

include settledOrder settledLimit

theorem cutClause_order : cutClause .order (spaced texts ++ tailText order? limit?) =
    (if order?.isSome then ended texts true else spaced texts ++ opened .limit limit?,
      order?.map fun next => spaced next ++ opened .limit limit?) := by
  have stop := atGap_opened_nil .limit limit?
  cases order? with
  | none =>
    exact cutClause_of_none
      (cutAt?_missing settled stop (cutAt?_limit_missing settledLimit (by decide)))
  | some next => exact cutClause_of_some (cutAt?_next settled .order next stop)

theorem restOfClause_tail : restOfClause (spaced texts ++ tailText order? limit?) =
    ended texts (order?.isSome || limit?.isSome) := by
  unfold restOfClause
  rw [cutClause_order settled settledOrder settledLimit]
  cases order? with
  | none =>
    show (cutClause .limit (spaced texts ++ opened .limit limit?)).1 = _
    rw [cutClause_limit settled]
    rfl
  | some next => rfl

theorem orderText?_tail : orderText? (spaced texts ++ tailText order? limit?) =
    order?.map fun next => ended next limit?.isSome := by
  unfold orderText?
  rw [cutClause_order settled settledOrder settledLimit]
  cases order? with
  | none => rfl
  | some next =>
    show some (cutClause .limit (spaced next ++ opened .limit limit?)).1 = _
    rw [cutClause_limit (settledOrder next rfl)]
    rfl

theorem limitText?_tail :
    limitText? (spaced texts ++ tailText order? limit?) = limit?.map spaced := by
  unfold limitText?
  rw [cutClause_order settled settledOrder settledLimit]
  cases order? with
  | none =>
    show (cutClause .limit (spaced texts ++ opened .limit limit?)).2 = _
    rw [cutClause_limit settled]
  | some next =>
    show (cutClause .limit (spaced next ++ opened .limit limit?)).2 = _
    rw [cutClause_limit (settledOrder next rfl)]

end Cuts

theorem finished_spaced {texts : List (List Char)} (some : texts ≠ [])
    (h : ∀ text ∈ texts, IsFinished text) : IsFinished (spaced texts) := by
  have ends := (List.dropLast_concat_getLast some).symm
  have last := h _ (List.getLast_mem some)
  rw [ends, spaced_append]
  refine IsFinished.append ?_ _
  rw [spaced_cons, spaced_nil, List.append_nil]
  exact last.append [' ']

/-- Texts of a clause that holds no keyword and may be the last one of a query. -/
structure IsClause (texts : List (List Char)) : Prop where
  settled : ∀ text ∈ texts, Settled text
  finished : IsFinished (spaced texts)

theorem isClause_of_texts {texts : List (List Char)} (some : texts ≠ [])
    (settled : ∀ text ∈ texts, Settled text) (finished : ∀ text ∈ texts, IsFinished text) :
    IsClause texts :=
  ⟨settled, finished_spaced some finished⟩

theorem IsFinished.opened {front : List Char} (h : IsFinished front) (clause : Clause)
    {texts? : Option (List (List Char))} (clauses : ∀ texts ∈ texts?, IsClause texts) :
    IsFinished (front ++ opened clause texts?) := by
  cases texts? with
  | none => rwa [DocQuery.opened, Option.elim_none, List.append_nil]
  | some texts =>
    have whole : front ++ DocQuery.opened clause (some texts) =
        (front ++ ' ' :: clause.text) ++ spaced texts := by simp [DocQuery.opened]
    rw [whole]
    exact (clauses texts rfl).finished.append _

theorem markAfter_opened (clause : Clause) {texts? : Option (List (List Char))}
    (clauses : ∀ texts ∈ texts?, IsClause texts) : markAfter none (opened clause texts?) = none := by
  cases texts? with
  | none => rfl
  | some texts =>
    have word : markAfter none (' ' :: clause.text) = none := by cases clause <;> decide
    show markAfter none (' ' :: clause.text ++ spaced texts) = none
    rw [markAfter_append, word, markAfter_spaced (clauses texts rfl).settled]

def queryOf (select source : List (List Char)) (filter? order? limit? : Option (List (List Char))) :
    List Char :=
  Clause.select.text ++ (spaced select ++ (opened .source (some source) ++
    (opened .filter filter? ++ tailText order? limit?)))

/-- The clauses that such a query is cut into. A blank stands after a clause that is not the last. -/
def clausesOf (select source : List (List Char))
    (filter? order? limit? : Option (List (List Char))) : ClauseTexts where
  select := ended select true
  source := ended source (filter?.isSome || (order?.isSome || limit?.isSome))
  filter := filter?.map (ended · (order?.isSome || limit?.isSome))
  order := order?.map (ended · limit?.isSome)
  limit := limit?.map spaced

/-- A filter ends the source, so the source may hold every keyword but the one between them. -/
theorem clauseTexts_queryOf_of_filter {select source texts : List (List Char)}
    {order? limit? : Option (List (List Char))} (selects : ∀ text ∈ select, Settled text)
    (quiet : ∀ text ∈ source, QuietFor Clause.filter.keyword text)
    (filters : ∀ text ∈ texts, Settled text)
    (orders : ∀ texts ∈ order?, ∀ text ∈ texts, Settled text)
    (limits : ∀ texts ∈ limit?, ∀ text ∈ texts, Settled text) :
    clauseTexts (queryOf select source (some texts) order? limit?) =
      .ok (clausesOf select source (some texts) order? limit?) := by
  have tail := atGap_tailText order? limit?
  have after := atGap_opened .filter (some texts) tail
  have opens : dropKeyword? Clause.select.keyword
      (queryOf select source (some texts) order? limit?) =
        some (spaced select ++ (opened .source (some source) ++
          (opened .filter (some texts) ++ tailText order? limit?))) :=
    dropKeyword?_text .select (atGap_spaced_append select (atGap_opened .source (some source) after))
  have from_ := cutAt?_next selects .source source after
  have where_ := cutAt?_next_of_quiet quiet texts tail
  rw [clauseTexts_of_filter opens from_ where_, restOfClause_tail filters orders limits,
    orderText?_tail filters orders limits, limitText?_tail filters orders limits]
  rfl

section Query

variable {select source : List (List Char)} {filter? order? limit? : Option (List (List Char))}
  (selects : ∀ text ∈ select, Settled text) (sources : IsClause source)
  (filters : ∀ texts ∈ filter?, IsClause texts) (orders : ∀ texts ∈ order?, IsClause texts)
  (limits : ∀ texts ∈ limit?, IsClause texts)

include selects sources filters orders limits

theorem clauseTexts_queryOf : clauseTexts (queryOf select source filter? order? limit?) =
    .ok (clausesOf select source filter? order? limit?) := by
  have settledOrder texts m := (orders texts m).settled
  have settledLimit texts m := (limits texts m).settled
  cases filter? with
  | none =>
    have tail := atGap_tailText order? limit?
    have opens : dropKeyword? Clause.select.keyword (queryOf select source none order? limit?) =
        some (spaced select ++ (opened .source (some source) ++ tailText order? limit?)) :=
      dropKeyword?_text .select
        (atGap_spaced_append select (atGap_opened .source (some source) tail))
    have from_ := cutAt?_next selects .source source tail
    have where_ := cutAt?_missing sources.settled tail
      (cutAt?_tail_missing settledOrder settledLimit (by decide) (by decide : Clause.filter ≠ .limit))
    rw [clauseTexts_of_no_filter opens from_ where_,
      restOfClause_tail sources.settled settledOrder settledLimit,
      orderText?_tail sources.settled settledOrder settledLimit,
      limitText?_tail sources.settled settledOrder settledLimit]
    rfl
  | some texts =>
    exact clauseTexts_queryOf_of_filter selects (fun text m => (sources.settled text m).quiet .filter)
      (filters texts rfl).settled settledOrder settledLimit

theorem markAfter_queryOf : markAfter none (queryOf select source filter? order? limit?) = none := by
  have word : markAfter none Clause.select.text = none := by decide
  have given : ∀ texts ∈ some source, IsClause texts := by
    intro texts m
    cases m
    exact sources
  unfold queryOf tailText
  rw [markAfter_append, word, markAfter_append, markAfter_spaced selects, markAfter_append,
    markAfter_opened .source given, markAfter_append, markAfter_opened .filter filters,
    markAfter_append, markAfter_opened .order orders, markAfter_opened .limit limits]

omit selects in
theorem queryText_queryOf : queryText (queryOf select source filter? order? limit?) =
    queryOf select source filter? order? limit? := by
  have whole : queryOf select source filter? order? limit? =
      Clause.select.text ++ spaced select ++ ' ' :: Clause.source.text ++ spaced source ++
        opened .filter filter? ++ opened .order order? ++ opened .limit limit? := by
    simp [queryOf, tailText, opened]
  apply queryText_of_finished
  · rw [whole]
    exact ((sources.finished.append _).opened .filter filters).opened .order orders
      |>.opened .limit limits
  · intro c m
    cases m
    decide

theorem Plan.parse_queryOf {query : String}
    (written : query.toList = queryOf select source filter? order? limit?) :
    Plan.parse query = (Plan.ofClauses (clausesOf select source filter? order? limit?)).bind
      fun plan =>
        if plan.isCount && plan.order.isSome then .error .countWithOrder
        else .ok plan.resolveIdentity := by
  have trimmed : queryText query.toList = queryOf select source filter? order? limit? := by
    rw [written, queryText_queryOf sources filters orders limits]
  have closed := markAfter_queryOf selects sources filters orders limits
  rw [parse_of_closed trimmed closed, clauseTexts_queryOf selects sources filters orders limits]
  rfl

end Query

end DocQuery
