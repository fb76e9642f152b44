import DocQuery.Proofs.Query.Cuts

/-!
# Plans and the clauses they are read from

A text has a plan when its quotations are closed, its clauses are found, and each of them can be
read. The parts of the plan then come from one clause each.
-/

namespace DocQuery

open Text

theorem exists_of_bind_eq_ok {ε α β : Type} {x : Except ε α} {f : α → Except ε β} {b : β}
    (h : x.bind f = .ok b) : ∃ a, x = .ok a ∧ f a = .ok b := by
  cases x with
  | error e => cases h
  | ok a => exact ⟨a, rfl, h⟩

theorem eq_ok_of_mapError_eq_ok {ε δ α : Type} {x : Except ε α} {f : ε → δ} {a : α}
    (h : x.mapError f = .ok a) : x = .ok a := by
  cases x with
  | error e => cases h
  | ok b =>
    cases h
    rfl

namespace Plan

/-- What each part of a plan is read from. -/
structure ReadFrom (texts : ClauseTexts) (plan : Plan) : Prop where
  select : SelectItem.listOfText texts.select = .ok plan.select
  source : Source.ofText texts.source = .ok plan.source
  filter : (texts.filter.mapM fun text =>
    (Predicate.ofTokens (Token.tokens text)).mapError ParseError.predicate) = .ok plan.filter
  order : (texts.order.mapM fun text => (OrderBy.ofText text).mapError ParseError.clause) =
    .ok plan.order
  limit : (texts.limit.mapM fun text => (limitOfText text).mapError ParseError.limit) =
    .ok plan.limit

theorem readFilter_of_tokens {filter : List Char} {tokens : List String} {p : Predicate}
    (cut : Token.tokens filter = tokens) (read : Predicate.ofTokens tokens = .ok p) :
    ((some filter).mapM fun text =>
      (Predicate.ofTokens (Token.tokens text)).mapError ParseError.predicate) = .ok (some p) := by
  rw [Option.mapM_some, cut, read]
  rfl

theorem ReadFrom.exists_filter {texts : ClauseTexts} {plan : Plan} (read : plan.ReadFrom texts)
    {filter : List Char} (clause : texts.filter = some filter) :
    ∃ p, Predicate.ofTokens (Token.tokens filter) = .ok p ∧ plan.filter = some p := by
  have filtered := read.filter
  rw [clause, Option.mapM_some] at filtered
  obtain ⟨p, tree, same⟩ := exists_of_bind_eq_ok filtered
  exact ⟨p, eq_ok_of_mapError_eq_ok tree, (Except.ok.inj same).symm⟩

theorem ReadFrom.exists_tokens {texts : ClauseTexts} {plan : Plan} (read : plan.ReadFrom texts)
    {p : Predicate} (m : p ∈ plan.filter) : ∃ tokens, Predicate.ofTokens tokens = .ok p := by
  cases clause : texts.filter with
  | none =>
    have filtered := read.filter
    rw [clause, m] at filtered
    cases filtered
  | some filter =>
    obtain ⟨q, tree, found⟩ := read.exists_filter clause
    obtain rfl : q = p := Option.some.inj (found.symm.trans m)
    exact ⟨_, tree⟩

theorem ofClauses_eq_ok_iff {texts : ClauseTexts} {plan : Plan} :
    ofClauses texts = .ok plan ↔ plan.ReadFrom texts := by
  constructor
  · intro h
    obtain ⟨select, hselect, h⟩ := exists_of_bind_eq_ok h
    obtain ⟨source, hsource, h⟩ := exists_of_bind_eq_ok h
    obtain ⟨filter, hfilter, h⟩ := exists_of_bind_eq_ok h
    obtain ⟨order, horder, h⟩ := exists_of_bind_eq_ok h
    obtain ⟨limit, hlimit, h⟩ := exists_of_bind_eq_ok h
    obtain rfl : Plan.mk select source filter order limit = plan := Except.ok.inj h
    exact ⟨eq_ok_of_mapError_eq_ok hselect, eq_ok_of_mapError_eq_ok hsource, hfilter, horder,
      hlimit⟩
  · rintro ⟨select, source, filter, order, limit⟩
    unfold ofClauses
    rw [select, source, filter, order, limit]
    rfl

/-- A plan is read off the clauses of its query, and the identity in it is then renamed. -/
theorem parse_eq_ok_iff {query : String} {text : List Char} {plan : Plan}
    (trimmed : queryText query.toList = text) :
    Plan.parse query = .ok plan ↔ markAfter none text = none ∧
      ∃ texts shown, clauseTexts text = .ok texts ∧ ReadFrom texts shown ∧
        (shown.isCount && shown.order.isSome) = false ∧ shown.resolveIdentity = plan := by
  constructor
  · intro parsed
    have closed : markAfter none text = none := by
      by_contra opened
      obtain ⟨e, refused⟩ := parse_of_open trimmed opened
      rw [parsed] at refused
      cases refused
    rw [parse_of_closed trimmed closed] at parsed
    obtain ⟨texts, cut, parsed⟩ := exists_of_bind_eq_ok parsed
    obtain ⟨shown, read, parsed⟩ := exists_of_bind_eq_ok parsed
    refine ⟨closed, texts, shown, cut, ofClauses_eq_ok_iff.mp read, ?_⟩
    split at parsed
    · cases parsed
    · next apart => exact ⟨eq_false_of_ne_true apart, Except.ok.inj parsed⟩
  · rintro ⟨closed, texts, shown, cut, read, apart, rfl⟩
    rw [parse_of_closed trimmed closed, cut]
    show (ofClauses texts).bind _ = _
    rw [ofClauses_eq_ok_iff.mpr read]
    show (if _ then _ else _) = _
    rw [apart]
    rfl

end Plan

end DocQuery
