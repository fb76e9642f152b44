import DocQuery.Proofs.Query.SelectLists
import Mathlib.Data.Option.Basic

/-!
# The round trip of plans

A plan that is written as a query is the plan of that query.
-/

namespace DocQuery

open Text

theorem words_ended {texts : List (List Char)}
    (h : ∀ text ∈ texts, text ≠ [] ∧ ∀ c ∈ text, isBlank c = false) (more : Bool) :
    words (ended texts more) = texts := by
  induction texts with
  | nil => cases more <;> decide
  | cons text texts ih =>
    have blank : isBlank ' ' = true := by decide
    have word := h text (List.mem_cons_self ..)
    have whole : ended (text :: texts) more = ' ' :: (text ++ ended texts more) := by
      simp [ended]
    rw [whole, words_cons_blank blank, words_append word.1 word.2 (Token.atBlank_ended texts more),
      ih fun t m => h t (List.mem_cons_of_mem _ m)]

namespace Source

def pieces : Source → List (List Char)
  | .collection path => [path.toList]
  | .group name => ["GROUP".toList, name.toList]

theorem spaced_pieces (source : Source) : spaced source.pieces = ' ' :: source.display.toList := by
  cases source with
  | collection path => simp [pieces, display]
  | group name =>
    have keyword : "GROUP ".toList = "GROUP".toList ++ [' '] := rfl
    unfold pieces display
    rw [String.toList_append, keyword]
    simp

end Source

theorem IsSourceWord.settled {text : List Char} (h : IsSourceWord text) : Settled text :=
  settled_of_unreserved (uncut_of_forall fun c m => not_isGap_of_not_isBlank (h.plain c m).1)
    (markAfter_of_no_quote fun c m => (h.plain c m).2.1) h.unreserved

theorem IsSourceWord.finished {text : List Char} (h : IsSourceWord text) : IsFinished text :=
  isFinished_of_forall h.some fun c m => ⟨(h.plain c m).1, (h.plain c m).2.2⟩

namespace Source

section Writable

variable {source : Source} (h : source.IsWritable)

include h

theorem isClause_pieces : IsClause source.pieces := by
  cases source with
  | collection path =>
    have word : IsSourceWord path.toList := h
    exact isClause_of_texts (by simp [pieces]) (by simpa [pieces] using word.settled)
      (by simpa [pieces] using word.finished)
  | group name =>
    have word : IsSourceWord name.toList := h.1
    have plain : IsPlainWord "GROUP".toList := ⟨by decide, by decide⟩
    have keyword : Settled "GROUP".toList := settled_of_word plain (by decide)
    refine isClause_of_texts (by simp [pieces]) ?_ ?_
    · exact List.forall_mem_cons.mpr ⟨keyword, List.forall_mem_singleton.mpr word.settled⟩
    · exact List.forall_mem_cons.mpr ⟨plain.finished, List.forall_mem_singleton.mpr word.finished⟩

theorem ofText_ended (more : Bool) : ofText (ended source.pieces more) = .ok source := by
  have plain {text : List Char} (word : IsSourceWord text) :
      text ≠ [] ∧ ∀ c ∈ text, isBlank c = false :=
    ⟨word.some, fun c m => (word.plain c m).1⟩
  cases source with
  | collection path =>
    have word : IsSourceWord path.toList := h
    have cut : words (ended (pieces (.collection path)) more) = [path.toList] :=
      words_ended (by simpa [pieces] using plain word) more
    unfold ofText
    rw [cut]
    dsimp only
    rw [String.ofList_toList]
  | group name =>
    have word : IsSourceWord name.toList := h.1
    have keyword : "GROUP".toList ≠ [] ∧ ∀ c ∈ "GROUP".toList, isBlank c = false := by decide
    have cut : words (ended (pieces (.group name)) more) = ["GROUP".toList, name.toList] := by
      apply words_ended
      intro text m
      rcases List.mem_cons.mp m with rfl | m
      · exact keyword
      · rw [List.mem_singleton.mp m]
        exact plain word
    have same : sameLetters "GROUP".toList "GROUP".toList = true := by decide
    unfold ofText
    rw [cut]
    dsimp only
    rw [if_pos same, if_neg h.2, String.ofList_toList]

end Writable

end Source

namespace Direction

theorem isPlainWord_word (direction : Direction) : IsPlainWord direction.word.toList := by
  cases direction <;> exact ⟨by decide, by decide⟩

theorem settled_word (direction : Direction) : Settled direction.word.toList :=
  settled_of_word direction.isPlainWord_word (by cases direction <;> decide)

theorem ofWord?_word (direction : Direction) : ofWord? direction.word.toList = some direction := by
  cases direction <;> decide

end Direction

namespace OrderBy

variable (style : WritingStyle)

def pieces (order : OrderBy) : List (List Char) :=
  [(style.name order.field).toList, order.direction.word.toList]

theorem spaced_pieces (order : OrderBy) :
    spaced (order.pieces style) = ' ' :: (order.written style).toList := by
  have blank : " ".toList = [' '] := rfl
  simp [pieces, written, blank]

section Writable

variable {order : OrderBy} (h : FieldName.IsWritable order.field)

include h

theorem isPlainWord_pieces : ∀ text ∈ order.pieces style, IsPlainWord text :=
  List.forall_mem_cons.mpr ⟨(h.shown style).isPlainWord,
    List.forall_mem_singleton.mpr order.direction.isPlainWord_word⟩

theorem isClause_pieces : IsClause (order.pieces style) := by
  refine isClause_of_texts (by simp [pieces]) ?_ fun t m => (isPlainWord_pieces style h t m).finished
  exact List.forall_mem_cons.mpr ⟨(h.shown style).isScalarText.settled,
    List.forall_mem_singleton.mpr order.direction.settled_word⟩

theorem ofText_ended (more : Bool) :
    ofText (ended (order.pieces style) more) = .ok { order with field := style.name order.field } := by
  have plain := isPlainWord_pieces style h
  have cut := words_ended (fun t m =>
    ⟨(plain t m).some, fun c mc => not_isBlank_of_isPlain ((plain t m).plain c mc)⟩) more
  have comma : ',' ∉ ended (order.pieces style) more := by
    intro m
    rcases List.mem_append.mp m with m | m
    · obtain ⟨text, mt, m⟩ := List.mem_flatMap.mp m
      rcases List.mem_cons.mp m with e | m
      · exact absurd e (by decide)
      · exact absurd ((plain text mt).plain _ m) (by decide)
    · cases more with
      | false => cases m
      | true => exact absurd (List.mem_singleton.mp m) (by decide)
  have name := h.shown style
  unfold ofText
  rw [if_neg comma, cut, pieces]
  dsimp only
  rw [Direction.ofWord?_word]
  dsimp only
  rw [if_pos name.isName, name.bare, String.ofList_toList]

end Writable

end OrderBy

def limitPieces (limit : Nat) : List (List Char) := [Nat.toDigits 10 limit]

theorem isScalarText_toDigits (n : Nat) : IsScalarText (Nat.toDigits 10 n) :=
  (Numeral.isText_toDigits n).isScalarText

theorem isClause_limitPieces (limit : Nat) : IsClause (limitPieces limit) := by
  have text := (isScalarText_toDigits limit).isValueText
  exact isClause_of_texts (by simp [limitPieces]) (List.forall_mem_singleton.mpr text.settled)
    (List.forall_mem_singleton.mpr text.finished)

theorem limitOfText_spaced {limit : Nat} (fits : (limit : Int) < Word.signedEnd) :
    limitOfText (spaced (limitPieces limit)) = .ok limit := by
  have text := isScalarText_toDigits limit
  have trimmed : trim (spaced (limitPieces limit)) = Nat.toDigits 10 limit := by
    have whole := text.isItem.solid.trim (x := [' ']) (y := []) (by decide) (by decide)
    exact whole
  have unsigned : Numeral.sign (Nat.toDigits 10 limit) = (false, Nat.toDigits 10 limit) := by
    obtain ⟨c, rest, e, digit⟩ := toDigits_eq_cons limit
    rw [e]
    exact Numeral.sign_of_digit digit rest
  have signed : Word.IsSigned (limit : Int) := by
    refine ⟨?_, fits⟩
    unfold Word.signedEnd
    omega
  have read : readSigned? (Nat.toDigits 10 limit) = some (limit : Int) := by
    unfold readSigned?
    rw [unsigned]
    dsimp only
    rw [readDigits?_toDigits, Option.bind_some]
    exact if_pos signed
  have positive : ¬(limit : Int) < 0 := by omega
  unfold limitOfText
  rw [trimmed, read]
  dsimp only
  rw [if_neg positive, Int.toNat_natCast]

namespace SelectItem

theorem listText_label (items : List SelectItem) :
    (", ".intercalate (items.map (·.label))).toList = listText items := by
  have comma : ", ".toList = [',', ' '] := rfl
  rw [String.toList_intercalate, List.map_map, comma]
  rfl

section Writable

variable {items : List SelectItem} (h : AreWritable items)

include h

theorem AreWritable.settled : Settled (listText items) := by
  rcases h with ⟨some, listed⟩ | rfl | rfl
  · exact settled_listText some listed
  · have gapless : Uncut .none isGap .outside (listText [.countAll]) := by decide
    exact settled_of_unreserved gapless (by decide) (by decide)
  · have gapless : Uncut .none isGap .outside (listText [.wildcard]) := by decide
    exact settled_of_unreserved gapless (by decide) (by decide)

theorem AreWritable.listOfText_ended :
    listOfText (ended [listText items] true) = .ok (items.map (·.mapField FieldName.display)) := by
  rcases h with ⟨some, listed⟩ | rfl | rfl
  · exact listOfText_listed some listed
  · rfl
  · rfl

theorem AreWritable.resolve :
    (items.map (·.mapField FieldName.display)).map (·.mapField FieldName.resolve) = items := by
  rcases h with ⟨-, listed⟩ | rfl | rfl
  · rw [List.map_map]
    calc items.map ((·.mapField FieldName.resolve) ∘ (·.mapField FieldName.display))
        = items.map id := List.map_congr_left fun item m => resolve_mapField (listed item m)
      _ = items := List.map_id items
  · rfl
  · rfl

theorem AreWritable.countAll (count : items.map (·.mapField FieldName.display) = [.countAll]) :
    items = [.countAll] := by
  have back := h.resolve
  rw [count] at back
  exact back.symm

end Writable

end SelectItem

namespace Plan

variable (style : WritingStyle)

theorem toList_written (plan : Plan) : (plan.written style).toList =
    queryOf [SelectItem.listText plan.select] plan.source.pieces
      (plan.filter.map (·.pieces style)) (plan.order.map (·.pieces style))
      (plan.limit.map limitPieces) := by
  have filter : (plan.filter.elim "" fun filter => " WHERE " ++ filter.written style).toList =
      opened .filter (plan.filter.map (·.pieces style)) := by
    cases plan.filter with
    | none => rfl
    | some filter =>
      have keyword : " WHERE ".toList = ' ' :: Clause.filter.text ++ [' '] := rfl
      simp [opened, filter.spaced_pieces style, keyword]
  have order : (plan.order.elim "" fun order => " ORDER BY " ++ order.written style).toList =
      opened .order (plan.order.map (·.pieces style)) := by
    cases plan.order with
    | none => rfl
    | some order =>
      have keyword : " ORDER BY ".toList = ' ' :: Clause.order.text ++ [' '] := rfl
      simp [opened, order.spaced_pieces style, keyword]
  have limit : (plan.limit.elim "" fun limit => " LIMIT " ++ toString limit).toList =
      opened .limit (plan.limit.map limitPieces) := by
    cases plan.limit with
    | none => rfl
    | some limit =>
      have keyword : " LIMIT ".toList = ' ' :: Clause.limit.text ++ [' '] := rfl
      simp [opened, limitPieces, keyword]
  have select : "SELECT ".toList = Clause.select.text ++ [' '] := rfl
  have source : " FROM ".toList = ' ' :: Clause.source.text ++ [' '] := rfl
  unfold written queryOf tailText
  simp only [String.toList_append, SelectItem.listText_label, filter, order, limit, select, source]
  simp [opened, plan.source.spaced_pieces]

/-- The plan that a written query shows, as its text names the fields. -/
def shown (plan : Plan) : Plan where
  select := plan.select.map (·.mapField FieldName.display)
  source := plan.source
  filter := plan.filter.map (·.mapFields style.name)
  order := plan.order.map fun order => { order with field := style.name order.field }
  limit := plan.limit

section Writable

variable {plan : Plan} (h : plan.IsWritable)

include h

theorem resolveIdentity_shown : (plan.shown style).resolveIdentity = plan := by
  obtain ⟨select, source, filter, order, limit⟩ := plan
  have selects := h.select.resolve
  have filters : (filter.map (·.mapFields style.name)).map (·.mapFields FieldName.resolve) =
      filter := by
    cases filter with
    | none => rfl
    | some filter => exact congrArg some (Predicate.resolve_mapFields style (h.filter filter rfl))
  have orders : (order.map fun order => { order with field := style.name order.field }).map
      (fun order => { order with field := FieldName.resolve order.field }) = order := by
    cases order with
    | none => rfl
    | some order =>
      have field := FieldName.resolve_name (h.order order rfl) style
      simp only [Option.map_some, field]
  unfold resolveIdentity mapFields shown
  simp only [selects, filters, orders]

/-- Only a plan that counts is shown as one, so it has no order. -/
theorem not_count_with_order :
    ((plan.shown style).isCount && (plan.shown style).order.isSome) = false := by
  rw [← Bool.not_eq_true, Bool.and_eq_true]
  rintro ⟨count, ordered⟩
  have shown : plan.select.map (·.mapField FieldName.display) = [.countAll] := eq_of_beq count
  have counts : plan.isCount = true := beq_of_eq (h.select.countAll shown)
  have none : (plan.shown style).order = none := by
    unfold Plan.shown
    rw [h.count counts]
    rfl
  rw [none] at ordered
  cases ordered

omit h in
theorem mapM_map_ok {α β γ ε : Type} {f : α → β} {read : β → Except ε γ} {shown : α → γ}
    {a? : Option α} (reads : ∀ a ∈ a?, read (f a) = .ok (shown a)) :
    (a?.map f).mapM read = .ok (a?.map shown) := by
  cases a? with
  | none => rfl
  | some a =>
    rw [Option.map_some, Option.mapM_some, reads a rfl]
    rfl

theorem ofClauses_written : ofClauses (clausesOf [SelectItem.listText plan.select]
    plan.source.pieces (plan.filter.map (·.pieces style)) (plan.order.map (·.pieces style))
    (plan.limit.map limitPieces)) = .ok (plan.shown style) := by
  obtain ⟨select, source, filter, order, limit⟩ := plan
  have selects := h.select.listOfText_ended
  have sources := Source.ofText_ended h.source
  have filters (more : Bool) :
      ((filter.map (·.pieces style)).map (ended · more)).mapM (fun text =>
        (Predicate.ofTokens (Token.tokens text)).mapError ParseError.predicate) =
          .ok (filter.map (·.mapFields style.name)) := by
    rw [Option.map_map]
    apply mapM_map_ok
    intro filter m
    have reads := Predicate.ofTokens_ended style (h.filter filter m) more
    exact congrArg (Except.mapError ParseError.predicate) reads
  have orders (more : Bool) :
      ((order.map (·.pieces style)).map (ended · more)).mapM (fun text =>
        (OrderBy.ofText text).mapError ParseError.clause) =
          .ok (order.map fun order => { order with field := style.name order.field }) := by
    rw [Option.map_map]
    apply mapM_map_ok
    intro order m
    have reads := OrderBy.ofText_ended style (h.order order m) more
    exact congrArg (Except.mapError ParseError.clause) reads
  have limits : ((limit.map limitPieces).map spaced).mapM (fun text =>
      (limitOfText text).mapError ParseError.limit) = .ok (limit.map id) := by
    rw [Option.map_map]
    apply mapM_map_ok
    intro limit m
    exact congrArg (Except.mapError ParseError.limit) (limitOfText_spaced (h.limit limit m))
  rw [Option.map_id] at limits
  unfold ofClauses clausesOf
  simp only [selects, sources, filters, orders, limits]
  rfl

end Writable

/-- A plan written as a query is what parsing the query gives back, whatever its strings hold. -/
theorem parse_written (style : WritingStyle) {plan : Plan} (h : plan.IsWritable) :
    Plan.parse (plan.written style) = .ok plan := by
  have select : ∀ text ∈ [SelectItem.listText plan.select], Settled text :=
    List.forall_mem_singleton.mpr h.select.settled
  have filter : ∀ texts ∈ plan.filter.map (·.pieces style), IsClause texts :=
    Option.forall_mem_map.mpr fun filter m => Predicate.isClause_pieces style (h.filter filter m)
  have order : ∀ texts ∈ plan.order.map (·.pieces style), IsClause texts :=
    Option.forall_mem_map.mpr fun order m => OrderBy.isClause_pieces style (h.order order m)
  have limit : ∀ texts ∈ plan.limit.map limitPieces, IsClause texts :=
    Option.forall_mem_map.mpr fun limit _ => isClause_limitPieces limit
  rw [parse_queryOf select (Source.isClause_pieces h.source) filter order limit
    (plan.toList_written style), ofClauses_written style h]
  show (if _ then _ else Except.ok (plan.shown style).resolveIdentity) = _
  rw [not_count_with_order style h, resolveIdentity_shown style h]
  rfl

def ofNotes : Plan where
  select := [.field "__name__", .call .toDate "made.at", .call .prettyJson "*"]
  source := .group "notes"
  filter := some (.joined .either (.condition ⟨"title", .equal, .string "it's LIMIT 5 \\"⟩)
    (.joined .both (.condition ⟨"tag", .notIn, .list [.string "a, b) AND",
      .number ⟨false, Nat.pow 2 1073, by decide +kernel⟩, .null]⟩)
      (.condition ⟨"made.at", .greaterOrEqual, .instant ⟨1700000000, 250000000⟩⟩)))
  order := some ⟨"__name__", .descending⟩
  limit := some 0x7fffffffffffffff

theorem parse_written_of_notes :
    ofNotes.IsWritable ∧
    ofNotes.written ⟨false, true, false⟩ =
      "SELECT id, toDate(made.at), prettyJson(*) FROM GROUP notes WHERE title = \"it's LIMIT 5 \\\" " ++
      "OR tag NOT IN (\"a, b) AND\", 0.5, null) AND made.at >= \"2023-11-14T22:13:20.250Z\" " ++
      "ORDER BY id DESC LIMIT 9223372036854775807" ∧
    Plan.parse (ofNotes.written ⟨false, true, false⟩) = .ok ofNotes := by
  have name : FieldName.IsWritable "__name__" := ⟨by decide, by decide, by decide⟩
  have made : FieldName.IsWritable "made.at" := ⟨by decide, by decide, by decide⟩
  have title : Condition.IsWritable ⟨"title", .equal, .string "it's LIMIT 5 \\"⟩ :=
    ⟨⟨by decide, by decide, by decide⟩, nofun, fun _ => ⟨by decide, by rfl⟩⟩
  have tags : ∀ v ∈ ([.string "a, b) AND", .number ⟨false, Nat.pow 2 1073, by decide +kernel⟩,
      .null] : List Literal), v.IsWritableScalar := by
    refine List.forall_mem_cons.mpr ⟨⟨by decide, by rfl⟩, ?_⟩
    exact List.forall_mem_cons.mpr ⟨nofun, List.forall_mem_singleton.mpr trivial⟩
  have instant : Instant.IsShown ⟨1700000000, 250000000⟩ := ⟨⟨250, by decide, by decide⟩, by decide⟩
  have writable : ofNotes.IsWritable := {
    select := by
      refine .inl ⟨by decide, List.forall_mem_cons.mpr ⟨name, ?_⟩⟩
      exact List.forall_mem_cons.mpr ⟨.inl made, List.forall_mem_singleton.mpr (.inr ⟨rfl, rfl⟩)⟩
    source := ⟨⟨by decide, by decide, by decide⟩, by decide⟩
    filter := by
      intro filter m
      cases m
      refine .joined title (.joined ⟨⟨by decide, by decide, by decide⟩, ?_, nofun⟩ (.condition ?_))
      · exact fun _ => ⟨_, rfl, tags⟩
      · exact ⟨made, nofun, fun _ => instant⟩
    order := by
      intro order m
      cases m
      exact name
    count := nofun
    limit := by
      intro limit m
      cases m
      decide }
  exact ⟨writable, by decide +kernel, parse_written ⟨false, true, false⟩ writable⟩

end Plan

end DocQuery
