import DocQuery.Proofs.Query.Lookup

/-!
# Queries in an order

A query of a select list and a path is read as the plan of these, with an order or without one. An
order ends the path, which can then be any word whose quotations are closed, save the keyword
`WHERE`: even `ORDER`, since the word behind it is not `BY`. At the end of a query the word may not
be `LIMIT` either, and a semicolon is no part of it.
-/

namespace DocQuery

open Text

def Plan.ordered (select : List SelectItem) (path : String) (order? : Option OrderBy) : Plan where
  select := select
  source := .collection path
  filter := none
  order := order?
  limit := none

structure IsLastWord (text : List Char) : Prop where
  other : sameLetters text "LIMIT".toList = false
  kept : text.getLast? ≠ some ';'

section Path

variable {select path : List Char} (usable : IsPathWord path)
  {order? : Option (List (List Char))}

include usable

theorem IsPathWord.gapless : Gapless path :=
  uncut_of_forall fun c m => not_isGap_of_not_isBlank (usable.plain c m)

/-- No order begins at a path, since an order behind it begins with `ORDER`, not with `BY`. -/
theorem dropKeyword?_path (order? : Option (List (List Char))) :
    dropKeyword? Clause.order.keyword (path ++ opened .order order?) = none := by
  have stop := atGap_opened_nil .order order?
  by_cases same : sameLetters path "ORDER".toList = true
  · have next : dropKeyword? ["BY"] ((opened .order order?).dropWhile isGap) = none := by
      cases order? <;> rfl
    show dropKeyword? ["ORDER", "BY"] (path ++ opened .order order?) = none
    rw [dropKeyword?, dropWord?_eq_some_iff.mpr ⟨path, rfl, same⟩, Option.bind_some, if_pos stop,
      next]
    simp
  · exact dropKeyword?_of_gapless Clause.order.spelled usable.gapless (eq_false_of_ne_true same) stop

theorem cutClause_path (order? : Option (List (List Char))) :
    cutClause .order (spaced [path] ++ opened .order order?) =
      (ended [path] order?.isSome, order?.map spaced) := by
  have stop := atGap_opened_nil .order order?
  have pass := cutAt?_append_of_gapless Clause.order.spelled usable.gapless usable.closed stop
    (dropKeyword?_path usable order?) true
  have whole : spaced [path] ++ opened .order order? = ' ' :: (path ++ opened .order order?) := by
    simp
  have cut : cutAt? Clause.order.keyword false none (spaced [path] ++ opened .order order?) =
      (cutAt? Clause.order.keyword false none (opened .order order?)).map fun p =>
        (spaced [path] ++ p.1, p.2) := by
    rw [whole, cutAt?_blank]
    refine (congrArg (Option.map _) pass).trans ?_
    rw [Option.map_map]
    congr 1
    funext p
    simp
  cases order? with
  | none =>
    rw [cutClause_of_none cut]
    simp [ended, opened]
  | some words =>
    have place : cutAt? Clause.order.keyword false none (opened .order (some words)) =
        some ([' '], spaced words) := by
      have found := cutAt?_text .order (atGap_spaced_append words (rfl : atGap [] = true))
      rwa [List.append_nil] at found
    rw [place, Option.map_some] at cut
    exact cutClause_of_some cut

theorem cutClause_limit_path (ends : IsLastWord path) :
    cutClause .limit (spaced [path]) = (spaced [path], none) := by
  have quiet : QuietFor Clause.limit.keyword path :=
    quietFor_of_gapless Clause.limit.spelled usable.gapless usable.closed ends.other
  have pass := cutAt?_spaced (List.forall_mem_singleton.mpr quiet) (rfl : atGap [] = true)
  rw [List.append_nil] at pass
  exact cutClause_of_none pass

variable (last : order? = none → IsLastWord path) (orders : ∀ words ∈ order?, IsClause words)

include last orders

theorem clauses_path :
    restOfClause (spaced [path] ++ tailText order? none) = ended [path] order?.isSome ∧
    orderText? (spaced [path] ++ tailText order? none) = order?.map (ended · false) ∧
    limitText? (spaced [path] ++ tailText order? none) = none := by
  have tail : tailText order? none = opened .order order? := List.append_nil _
  rw [tail, restOfClause, orderText?, limitText?, cutClause_path usable]
  cases order? with
  | none =>
    have whole : spaced [path] ++ opened .order none = spaced [path] := List.append_nil _
    have ends := cutClause_limit_path usable (last rfl)
    simp only [whole, ends, ended, Option.map_none, Option.isSome_none, Option.getD_none,
      Bool.false_eq_true, if_false, List.append_nil, and_self]
  | some words =>
    have ends : cutClause .limit (spaced words ++ opened .limit none) =
        (ended words false, none) := cutClause_limit (orders words rfl).settled
    have whole : spaced words ++ opened .limit none = spaced words := List.append_nil _
    rw [whole] at ends
    simp [ends]

theorem clauseTexts_path (settled : Settled select) :
    clauseTexts (queryOf [select] [path] none order? none) =
      .ok (clausesOf [select] [path] none order? none) := by
  have tail := atGap_tailText order? none
  have selects : ∀ text ∈ [select], Settled text := List.forall_mem_singleton.mpr settled
  have opens : dropKeyword? Clause.select.keyword (queryOf [select] [path] none order? none) =
      some (spaced [select] ++ (opened .source (some [path]) ++ tailText order? none)) :=
    dropKeyword?_text .select
      (atGap_spaced_append [select] (atGap_opened .source (some [path]) tail))
  have from_ := cutAt?_next selects .source [path] tail
  have settledOrder words m := (orders words m).settled
  have where_ : cutAt? Clause.filter.keyword false none (spaced [path] ++ tailText order? none) =
      none := by
    have settledLimit : ∀ words ∈ (none : Option (List (List Char))), ∀ text ∈ words,
        Settled text := nofun
    have missing := cutAt?_tail_missing settledOrder settledLimit
      (by decide : Clause.filter ≠ .order) (by decide)
    rw [cutAt?_spaced (List.forall_mem_singleton.mpr usable.quiet) tail, missing]
    rfl
  obtain ⟨source, order, limit⟩ := clauses_path usable last orders
  rw [clauseTexts_of_no_filter opens from_ where_, source, order, limit]
  simp [clausesOf]

omit usable last orders in
theorem queryText_ordered {words : List (List Char)} (clause : IsClause words) :
    queryText (queryOf [select] [path] none (some words) none) =
      queryOf [select] [path] none (some words) none := by
  have whole : queryOf [select] [path] none (some words) none =
      (Clause.select.text ++ spaced [select] ++ ' ' :: Clause.source.text ++ spaced [path] ++
        ' ' :: Clause.order.text) ++ spaced words := by simp [queryOf, tailText, opened]
  apply queryText_of_finished
  · rw [whole]
    exact clause.finished.append _
  · intro c m
    cases m
    decide

omit last orders in
theorem queryText_last (ends : IsLastWord path) :
    queryText (queryOf [select] [path] none none none) =
      queryOf [select] [path] none none none := by
  have whole : queryOf [select] [path] none none none =
      (Clause.select.text ++ spaced [select] ++ ' ' :: Clause.source.text ++ [' ']) ++ path := by
    simp [queryOf, tailText, opened]
  have kept := ends.kept
  rw [List.getLast?_eq_some_getLast usable.some, ne_eq, Option.some.injEq] at kept
  have finished : IsFinished path :=
    ⟨path.dropLast, path.getLast usable.some, (List.dropLast_concat_getLast usable.some).symm,
      usable.plain _ (List.getLast_mem usable.some), kept⟩
  apply queryText_of_finished
  · rw [whole]
    exact finished.append _
  · intro c m
    cases m
    decide

theorem queryText_path : queryText (queryOf [select] [path] none order? none) =
    queryOf [select] [path] none order? none := by
  cases order? with
  | none => exact queryText_last usable (last rfl)
  | some words => exact queryText_ordered (orders words rfl)

end Path

theorem Plan.parse_ordered {select : List SelectItem} (writable : SelectItem.AreWritable select)
    (columns : select ≠ [.countAll]) {path : String} (usable : IsPathWord path.toList)
    {order? : Option OrderBy} (last : order? = none → IsLastWord path.toList)
    (fields : ∀ order ∈ order?, FieldName.IsWritable order.field) (style : WritingStyle) :
    Plan.parse ((Plan.ordered select path order?).written style) =
      .ok (.ordered select path order?) := by
  have clauses : ∀ words ∈ order?.map (·.pieces style), IsClause words :=
    Option.forall_mem_map.mpr fun order m => OrderBy.isClause_pieces style (fields order m)
  have ends : order?.map (·.pieces style) = none → IsLastWord path.toList :=
    fun none => last (Option.map_eq_none_iff.mp none)
  have written : ((Plan.ordered select path order?).written style).toList =
      queryOf [SelectItem.listText select] [path.toList] none (order?.map (·.pieces style)) none :=
    Plan.toList_written style _
  have trimmed : queryText ((Plan.ordered select path order?).written style).toList =
      queryOf [SelectItem.listText select] [path.toList] none (order?.map (·.pieces style))
        none := by
    rw [written]
    exact queryText_path usable ends clauses
  have order : ((order?.map (·.pieces style)).map (ended · false)).mapM (fun text =>
      (OrderBy.ofText text).mapError ParseError.clause) =
        .ok (order?.map fun order => { order with field := style.name order.field }) := by
    rw [Option.map_map]
    apply mapM_map_ok
    intro order m
    have reads := OrderBy.ofText_ended style (fields order m) false
    exact congrArg (Except.mapError ParseError.clause) reads
  have read : ReadFrom (clausesOf [SelectItem.listText select] [path.toList] none
      (order?.map (·.pieces style)) none) ((Plan.ordered select path order?).shown style) :=
    ⟨writable.listOfText_ended, Source.ofText_path usable _, rfl, order, rfl⟩
  have rows : ((Plan.ordered select path order?).shown style).isCount = false := by
    apply beq_eq_false_iff_ne.mpr
    intro counts
    exact columns (writable.countAll counts)
  have resolved : (order?.map fun order => { order with field := style.name order.field }).map
      (fun order => { order with field := FieldName.resolve order.field }) = order? := by
    cases order? with
    | none => rfl
    | some given =>
      have field := FieldName.resolve_name (fields given rfl) style
      simp only [Option.map_some, field]
  refine (parse_eq_ok_iff trimmed).mpr ⟨markAfter_path writable.settled usable nofun clauses, _, _,
    clauseTexts_path usable ends clauses writable.settled, read, by rw [rows]; rfl, ?_⟩
  unfold resolveIdentity mapFields shown ordered
  simp only [writable.resolve, resolved]
  rfl

def identitiesBy (path : String) (direction : Direction) : String :=
  "SELECT id FROM " ++ path ++ " ORDER BY id " ++ direction.word

theorem identitiesBy_eq (path : String) (direction : Direction) :
    identitiesBy path direction = (Plan.ordered [.field FieldName.identity] path
      (some ⟨FieldName.identity, direction⟩)).written ⟨false, false, false⟩ := by
  rw [← String.toList_inj]
  have front : "SELECT id FROM ".toList = "SELECT ".toList ++ "id".toList ++ " FROM ".toList := rfl
  have field : " ORDER BY id ".toList = " ORDER BY ".toList ++ "id".toList ++ " ".toList := rfl
  have label : (SelectItem.field FieldName.identity).label = "id" := by decide
  have name : (⟨false, false, false⟩ : WritingStyle).name FieldName.identity = "id" := by decide
  unfold identitiesBy Plan.written
  simp only [String.toList_append, front, field]
  simp [Plan.ordered, OrderBy.written, Source.display, label, name]

section Identities

variable {path : String} (usable : IsPathWord path.toList)

include usable

theorem parse_identitiesBy (direction : Direction) : Plan.parse (identitiesBy path direction) =
    .ok (.ordered [.field FieldName.identity] path (some ⟨FieldName.identity, direction⟩)) := by
  let order : OrderBy := ⟨FieldName.identity, direction⟩
  have last : some order = none → IsLastWord path.toList := nofun
  have fields : ∀ given ∈ some order, FieldName.IsWritable given.field := by
    intro given m
    cases m
    exact FieldName.isWritable_identity
  rw [identitiesBy_eq]
  exact Plan.parse_ordered areWritable_userIdentity (by decide) usable last fields _

theorem parse_identities (last : IsLastWord path.toList) :
    Plan.parse ("SELECT id FROM " ++ path) =
      .ok (.ordered [.field FieldName.identity] path none) := by
  have written : "SELECT id FROM " ++ path =
      (Plan.ordered [.field FieldName.identity] path none).written ⟨false, false, false⟩ := by
    rw [← String.toList_inj]
    have front : "SELECT id FROM ".toList =
        "SELECT ".toList ++ "id".toList ++ " FROM ".toList := rfl
    have label : (SelectItem.field FieldName.identity).label = "id" := by decide
    unfold Plan.written
    simp only [String.toList_append, front]
    simp [Plan.ordered, Source.display, label]
  have fields : ∀ given ∈ (none : Option OrderBy), FieldName.IsWritable given.field := by
    intro given m
    cases m
  rw [written]
  exact Plan.parse_ordered areWritable_userIdentity (by decide) usable (fun _ => last) fields _

end Identities

def identityOrder (direction : Direction) : List (List Char) :=
  OrderBy.pieces ⟨false, false, false⟩ ⟨FieldName.identity, direction⟩

theorem toList_identitiesBy (path : String) (direction : Direction) :
    (identitiesBy path direction).toList = queryOf [FieldName.userIdentity.toList] [path.toList]
      none (some (identityOrder direction)) none := by
  rw [identitiesBy_eq]
  exact Plan.toList_written ⟨false, false, false⟩ _

theorem markAfter_path_of_identitiesBy {path : String} {direction : Direction}
    (closed : markAfter none (identitiesBy path direction).toList = none) :
    markAfter none path.toList = none := by
  have front : markAfter none "SELECT id FROM ".toList = none := by decide
  have behind {q : Char} (quote : isQuote q = true) :
      markAfter (some q) (" ORDER BY id ".toList ++ direction.word.toList) = some q := by
    have mark : q = '\'' ∨ q = '"' := by simpa [isQuote] using quote
    rcases mark with rfl | rfl <;> cases direction <;> decide
  have unopened : ∀ q ∈ (none : Option Char), isQuote q = true := by
    intro q m
    cases m
  unfold identitiesBy at closed
  rw [String.toList_append, String.toList_append, String.toList_append, List.append_assoc,
    List.append_assoc, markAfter_append, front, markAfter_append] at closed
  cases after : markAfter none path.toList with
  | none => rfl
  | some q =>
    rw [after, behind (isQuote_of_markAfter unopened path.toList q after)] at closed
    cases closed

/-- The path words are exactly the paths that a query in an order can name. -/
theorem isPathWord_iff_identitiesBy {path : String} (direction : Direction) :
    IsPathWord path.toList ↔
      ∃ plan, Plan.parse (identitiesBy path direction) = .ok plan ∧
        plan.source = .collection path := by
  have written := toList_identitiesBy path direction
  constructor
  · intro usable
    exact ⟨_, parse_identitiesBy usable direction, rfl⟩
  · rintro ⟨plan, parsed, source⟩
    have trimmed : queryText (identitiesBy path direction).toList =
        (identitiesBy path direction).toList := by
      rw [written]
      exact queryText_ordered (OrderBy.isClause_pieces _ FieldName.isWritable_identity)
    obtain ⟨closed, texts, cut, read⟩ := Plan.source_of_parse trimmed parsed
    rw [source] at read
    rw [written] at cut
    have named := Source.words_of_collection read
    obtain ⟨some, plain⟩ := of_mem_words (named ▸ List.mem_singleton_self path.toList)
    refine ⟨some, plain, markAfter_path_of_identitiesBy closed, ?_⟩
    -- As the keyword, the path would end the source in front of it.
    rw [← Bool.not_eq_true]
    intro same
    have empty := source_of_keyword isNameText_userIdentity.isScalarText.settled some same cut
    rw [empty] at named
    cases named

end DocQuery
