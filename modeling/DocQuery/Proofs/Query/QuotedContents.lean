import DocQuery.Proofs.Query.Glued
import DocQuery.Proofs.Query.Grammar
import DocQuery.Proofs.Query.QuotedValues
import DocQuery.Proofs.Query.Reading

/-!
# The contents of quotations

Two queries that differ in the contents of one quoted value have the same structure: every scanner
passes over a closed quotation without looking at what it holds. The clauses are cut at the same
places, the filter has the same tokens but one, and so both queries fail or both have plans that
differ in that value alone. The one exception is a line feed in a value glued to its comparison.
-/

namespace DocQuery

open Text

/-- What sets a value off from the text before it: a blank, or the comparison it is glued to. -/
inductive Joint where
  | blank
  | comparison

/-- A line feed in what is glued to a comparison keeps it from being taken apart. -/
def Joint.Admits (joint : Joint) (text : List Char) : Prop :=
  joint = .comparison → '\n' ∉ text

theorem Joint.Admits.quotation {joint : Joint} {q : Char} {contents : List Char}
    (h : joint.Admits contents) (hq : isQuote q = true) : joint.Admits (quotation q contents) := by
  intro glued
  have free := h glued
  have differ : '\n' ≠ q := by
    rintro rfl
    exact absurd hq (by decide)
  simp [Text.quotation, differ, free]

/-- A value begins after the text, outside quotations and brackets. It does not stand where a
condition begins. -/
inductive ValueNext : Joint → List Char → Prop where
  | blank {text : List Char} : Token.EndsOutside text → ¬ConditionNext (Token.tokens text) →
      ValueNext .blank text
  | comparison {front name op : List Char} : (∀ c ∈ front.getLast?, isBlank c = true) →
      Nesting.outside.afterText .roundOrSquare front = .outside → Token.IsGlue name op →
      ValueNext .comparison (front ++ (name ++ op))

namespace ValueNext

variable {joint : Joint} {before : List Char}

theorem ne_nil (h : ValueNext joint before) : before ≠ [] := by
  cases h with
  | blank ends =>
    obtain ⟨front, c, rfl, -⟩ := ends
    simp
  | comparison _ _ glue =>
    obtain ⟨c, rest, rfl, -, -⟩ := glue.exists_cons
    simp

theorem closed (h : ValueNext joint before) : markAfter none before = none := by
  have outside : Nesting.outside.afterText .roundOrSquare before = .outside := by
    cases h with
    | blank ends => exact ends.afterText
    | comparison _ outside glue =>
      have bare := glue.afterText []
      rw [List.append_nil] at bare
      rw [Nesting.afterText_append, outside, bare]
      rfl
  have mark := Nesting.mark_afterText .roundOrSquare .outside before
  rw [outside] at mark
  exact mark.symm

theorem not_conditionNext (h : ValueNext joint before) :
    ¬ConditionNext (Token.tokens before) := by
  cases h with
  | blank _ place => exact place
  | @comparison front name op blank outside glue =>
    have inert : ∀ op ∈ Token.comparisonTexts, Connective.ofToken? (String.ofList op) = none := by
      decide
    intro next
    exact next _ (glue.getLast?_tokens blank outside) (inert op glue.comparison)

theorem tokens_append (h : ValueNext joint before) {value after : List Char}
    (token : ValueToken value) (piece : Token.PieceBefore value after) (admits : joint.Admits value) :
    Token.tokens (before ++ value ++ after) =
      Token.tokens before ++ String.ofList value :: Token.tokens after := by
  cases h with
  | blank ends => exact Token.tokens_append ends piece token.alone
  | comparison blank outside glue =>
    exact glue.tokens_append blank outside piece token.alone token.first (admits rfl)

end ValueNext

theorem ofTokens_between {joint : Joint} {old new : Literal} {before after x y : List Char}
    (next : ValueNext joint before) (hx : ValueToken x) (hy : ValueToken y)
    (pieceX : Token.PieceBefore x after) (pieceY : Token.PieceBefore y after)
    (admitsX : joint.Admits x) (admitsY : joint.Admits y)
    (value : ∀ field operator, SameOutcome
      (fun c d : Condition => (Predicate.condition c).Replaced old new (.condition d))
      (Condition.ofTokens field operator (String.ofList x))
      (Condition.ofTokens field operator (String.ofList y))) :
    SameOutcome (Predicate.Replaced old new)
      (Predicate.ofTokens (Token.tokens (before ++ x ++ after)))
      (Predicate.ofTokens (Token.tokens (before ++ y ++ after))) := by
  rw [next.tokens_append hx pieceX admitsX, next.tokens_append hy pieceY admitsY]
  exact ofTokens_replaced hx.inert hy.inert value _ _ next.not_conditionNext

/-- The place of a value, by the texts before and after it in its filter. The value is a token of
its own, or a whole item of a bracketed list that is one. Brackets within the list need not be
closed where the list ends the filter. -/
inductive ValuePlace (joint : Joint) : List Char → List Char → Prop where
  | token {before after : List Char} : ValueNext joint before → Token.AtBlank after →
      ValuePlace joint before after
  | item {before lead follow after : List Char} {opening closing : Char} :
      (opening, closing) ∈ [('(', ')'), ('[', ']')] → ValueNext joint before →
      ItemPlace lead follow → Token.PieceBefore (opening :: lead ++ (follow ++ [closing])) after →
      joint.Admits (lead ++ follow) →
      ValuePlace joint (before ++ opening :: lead) (follow ++ closing :: after)

theorem ValuePlace.ne_nil {joint : Joint} {before after : List Char}
    (h : ValuePlace joint before after) : before ≠ [] := by
  cases h with
  | token next => exact next.ne_nil
  | item => simp

theorem ValuePlace.closed {joint : Joint} {before after : List Char}
    (h : ValuePlace joint before after) : markAfter none before = none := by
  cases h with
  | token next => exact next.closed
  | item pair next items =>
    rw [markAfter_append, next.closed, markAfter_cons, quoteAfter_of_pair pair]
    exact items.closed

theorem filter_quotation {joint : Joint} {before after : List Char}
    (place : ValuePlace joint before after) {q : Char} (hq : isQuote q = true)
    {s₁ s₂ : List Char} (free₁ : q ∉ s₁) (free₂ : q ∉ s₂) (admits₁ : joint.Admits s₁)
    (admits₂ : joint.Admits s₂) :
    SameOutcome (Predicate.Replaced (.ofText (quotation q s₁)) (.ofText (quotation q s₂)))
      (Predicate.ofTokens (Token.tokens (before ++ (quotation q s₁ ++ after))))
      (Predicate.ofTokens (Token.tokens (before ++ (quotation q s₂ ++ after)))) := by
  cases place with
  | token next stop =>
    have opens : opensValue q = true := by simp [opensValue, hq]
    rw [← List.append_assoc, ← List.append_assoc]
    exact ofTokens_between next (valueToken_of_opensValue opens _)
      (valueToken_of_opensValue opens _) ((piece_quotation hq free₁).before stop)
      ((piece_quotation hq free₂).before stop) (admits₁.quotation hq)
      (admits₂.quotation hq) (condition_quotation hq s₁ s₂)
  | @item before lead follow after opening closing pair next items piece admits =>
    have opens : opensValue opening = true := by
      rcases bracket_pair pair with ⟨rfl, rfl⟩ | ⟨rfl, rfl⟩ <;> decide
    have closed : markAfter none (opening :: lead) = none := by
      rw [markAfter_cons, quoteAfter_of_pair pair]
      exact items.closed
    have around (s : List Char) :
        before ++ opening :: lead ++ (quotation q s ++ (follow ++ closing :: after)) =
          before ++ (opening :: lead ++ (quotation q s ++ (follow ++ [closing]))) ++ after := by
      simp
    have list {s : List Char} (h : joint.Admits s) :
        joint.Admits (opening :: lead ++ (quotation q s ++ (follow ++ [closing]))) := by
      intro glued
      have contents := h.quotation hq glued
      have items := admits glued
      have differ : '\n' ≠ opening ∧ '\n' ≠ closing := by
        rcases bracket_pair pair with ⟨rfl, rfl⟩ | ⟨rfl, rfl⟩ <;> decide
      simp only [List.mem_append, not_or] at items
      simp [contents, items, differ]
    rw [around, around]
    exact ofTokens_between next (valueToken_of_opensValue opens _)
      (valueToken_of_opensValue opens _) (pieceBefore_insert hq piece closed free₁)
      (pieceBefore_insert hq piece closed free₂) (list admits₁) (list admits₂)
      (condition_list pair items hq free₁ free₂)

theorem Predicate.Replaced.mapFields {old new : Literal} {p₁ p₂ : Predicate} (f : String → String)
    (h : p₁.Replaced old new p₂) : (p₁.mapFields f).Replaced old new (p₂.mapFields f) := by
  induction h with
  | value field operator literal => exact .value _ operator literal
  | inLeft connective right _ ih => exact .inLeft connective _ ih
  | inRight connective left _ ih => exact .inRight connective _ ih

theorem Plan.Replaced.mapFields {old new : Literal} {p₁ p₂ : Plan} (f : String → String)
    (h : p₁.Replaced old new p₂) : (p₁.mapFields f).Replaced old new (p₂.mapFields f) := by
  obtain ⟨f₁, f₂, h₁, h₂, filter⟩ := h.filter
  constructor
  · simp only [Plan.mapFields, h.select]
  · exact h.source
  · simp only [Plan.mapFields, h.order]
  · exact h.limit
  · exact ⟨f₁.mapFields f, f₂.mapFields f, by simp [Plan.mapFields, h₁], by simp [Plan.mapFields, h₂],
      filter.mapFields f⟩

theorem Plan.ofClauses_of_filter (select source filter : List Char)
    (order limit : Option (List Char)) :
    ofClauses ⟨select, source, some filter, order, limit⟩ =
      ((SelectItem.listOfText select).mapError .clause).bind fun select =>
      ((Source.ofText source).mapError .clause).bind fun source =>
      ((Predicate.ofTokens (Token.tokens filter)).mapError .predicate).bind fun filter =>
      (order.mapM fun text => (OrderBy.ofText text).mapError .clause).bind fun order =>
      (limit.mapM fun text => (limitOfText text).mapError .limit).bind fun limit =>
      .ok ⟨select, source, some filter, order, limit⟩ := by
  cases h : Predicate.ofTokens (Token.tokens filter) with
  | error e =>
    simp only [ofClauses, Option.mapM_some, h]
    rfl
  | ok f =>
    simp only [ofClauses, Option.mapM_some, h]
    rfl

theorem Plan.ofClauses_replaced {old new : Literal} {select source filter₁ filter₂ : List Char}
    {order limit : Option (List Char)}
    (h : SameOutcome (Predicate.Replaced old new) (Predicate.ofTokens (Token.tokens filter₁))
      (Predicate.ofTokens (Token.tokens filter₂))) :
    SameOutcome (Plan.Replaced old new) (ofClauses ⟨select, source, some filter₁, order, limit⟩)
      (ofClauses ⟨select, source, some filter₂, order, limit⟩) := by
  rw [ofClauses_of_filter, ofClauses_of_filter]
  refine SameOutcome.same _ fun select => SameOutcome.same _ fun source => ?_
  refine SameOutcome.bind (h.mapError ParseError.predicate) fun f₁ f₂ filter => ?_
  refine SameOutcome.same _ fun order => SameOutcome.same _ fun limit => ?_
  exact .ok ⟨rfl, rfl, rfl, rfl, f₁, f₂, rfl, rfl, filter⟩

/-- What trimming takes off a query is in front of a quotation or behind it. -/
theorem queryText_quotation {q : Char} (hq : isQuote q = true) (before contents after : List Char) :
    queryText (before ++ quotation q contents ++ after) =
      before.dropWhile isBlank ++ (quotation q contents ++ queryEnd after) := by
  have semicolon : q ≠ ';' := by
    rintro rfl
    exact absurd hq (by decide)
  have ends : before ++ quotation q contents ++ after =
      (before ++ q :: contents) ++ q :: after := by
    simp [quotation]
  rw [ends, queryText_append_stop (not_isBlank_of_isQuote hq) semicolon,
    dropWhile_append_stop (not_isBlank_of_isQuote hq)]
  simp [quotation]

/-- The contents of a quoted value never change the structure of a query, unless a line feed stands
in a value glued to its comparison. Both queries fail, or both have plans that differ in that value
or list item alone. -/
theorem Plan.parse_ignores_quoted_contents {joint : Joint}
    {before after select source filter : List Char}
    (opens : clauseTexts (before.dropWhile isBlank) =
      .ok ⟨select, source, some filter, none, none⟩)
    (place : ValuePlace joint filter (restOfClause (queryEnd after))) {q : Char}
    (hq : isQuote q = true) {s₁ s₂ : List Char} (free₁ : q ∉ s₁) (free₂ : q ∉ s₂)
    (admits₁ : joint.Admits s₁) (admits₂ : joint.Admits s₂) :
    SameOutcome (Plan.Replaced (.ofText (quotation q s₁)) (.ofText (quotation q s₂)))
      (Plan.parse (String.ofList (before ++ quotation q s₁ ++ after)))
      (Plan.parse (String.ofList (before ++ quotation q s₂ ++ after))) := by
  have trimmed (s : List Char) :
      queryText (String.ofList (before ++ quotation q s ++ after)).toList =
        before.dropWhile isBlank ++ (quotation q s ++ queryEnd after) := by
    rw [String.toList_ofList, queryText_quotation hq]
  have mark (s : List Char) (free : q ∉ s) :
      markAfter none (before.dropWhile isBlank ++ (quotation q s ++ queryEnd after)) =
        markAfter none (queryEnd after) := by
    rw [markAfter_append, markAfter_of_open_filter opens, place.closed, markAfter_append,
      markAfter_quotation hq free]
  by_cases closed : markAfter none (queryEnd after) = none
  · rw [Plan.parse_of_closed (trimmed s₁) ((mark s₁ free₁).trans closed),
      Plan.parse_of_closed (trimmed s₂) ((mark s₂ free₂).trans closed),
      clauseTexts_quotation opens place.ne_nil place.closed hq free₁,
      clauseTexts_quotation opens place.ne_nil place.closed hq free₂]
    show SameOutcome _ ((Plan.ofClauses _).bind _) ((Plan.ofClauses _).bind _)
    refine SameOutcome.bind (ofClauses_replaced
      (filter_quotation place hq free₁ free₂ admits₁ admits₂)) ?_
    intro p₁ p₂ same
    have count : p₁.isCount = p₂.isCount := by
      unfold Plan.isCount
      rw [same.select]
    rw [count, same.order]
    split
    · exact .error _ _
    · exact .ok (same.mapFields FieldName.resolve)
  · obtain ⟨e₁, h₁⟩ := Plan.parse_of_open (trimmed s₁) (by rwa [mark s₁ free₁])
    obtain ⟨e₂, h₂⟩ := Plan.parse_of_open (trimmed s₂) (by rwa [mark s₂ free₂])
    rw [h₁, h₂]
    exact .error e₁ e₂

theorem Plan.parse_ignores_quoted_contents_of_item :
    clauseTexts ("select name from users where tag in (1, ".toList.dropWhile isBlank) =
      .ok ⟨" name ".toList, " users ".toList, some " tag in (1, ".toList, none, none⟩ ∧
    ValuePlace .blank " tag in (1, ".toList
      (restOfClause (queryEnd " , \"y\") or age > 3 limit 5;".toList)) ∧
    '\'' ∉ ") LIMIT 7, [\" AND a = 1\n".toList ∧
    SameOutcome (Plan.Replaced (.ofText (quotation '\'' ['x']))
        (.ofText (quotation '\'' ") LIMIT 7, [\" AND a = 1\n".toList)))
      (Plan.parse (String.ofList ("select name from users where tag in (1, ".toList ++
        quotation '\'' ['x'] ++ " , \"y\") or age > 3 limit 5;".toList)))
      (Plan.parse (String.ofList ("select name from users where tag in (1, ".toList ++
        quotation '\'' ") LIMIT 7, [\" AND a = 1\n".toList ++
        " , \"y\") or age > 3 limit 5;".toList))) := by
  have opens : clauseTexts ("select name from users where tag in (1, ".toList.dropWhile isBlank) =
      .ok ⟨" name ".toList, " users ".toList, some " tag in (1, ".toList, none, none⟩ := by rfl
  have rest : restOfClause (queryEnd " , \"y\") or age > 3 limit 5;".toList) =
      " , \"y\"".toList ++ ')' :: " or age > 3 ".toList := by decide +kernel
  have items : ItemPlace "1, ".toList " , \"y\"".toList :=
    ⟨.inr ⟨['1'], [' '], by decide, by decide, by decide⟩,
      .inr ⟨[' '], " \"y\"".toList, by decide, by decide⟩⟩
  have ends : Token.EndsOutside " tag in ".toList :=
    ⟨" tag in".toList, ' ', by decide, by decide, by decide⟩
  have next : ¬ConditionNext (Token.tokens " tag in ".toList) := fun next =>
    next "in" (by decide +kernel) (by decide)
  have stop : Token.AtBlank " or age > 3 ".toList := by decide
  have piece : Token.Piece ('(' :: "1, ".toList ++ (" , \"y\"".toList ++ [')'])) :=
    ⟨by decide, by decide, by decide⟩
  have place : ValuePlace .blank " tag in (1, ".toList
      (restOfClause (queryEnd " , \"y\") or age > 3 limit 5;".toList)) := by
    have list : " tag in (1, ".toList = " tag in ".toList ++ '(' :: "1, ".toList := by decide
    rw [rest, list]
    exact .item (by decide) (.blank ends next) items (piece.before stop) nofun
  have free : '\'' ∉ ") LIMIT 7, [\" AND a = 1\n".toList := by decide
  exact ⟨opens, place, free,
    Plan.parse_ignores_quoted_contents opens place (by decide) (by decide) free nofun nofun⟩

/-- With a line feed in it, a list glued to its comparison is one token with the name and the
comparison, and so it is read as a field. -/
theorem Plan.line_feed_makes_list_a_field :
    ValuePlace .comparison " f>=(".toList ") = b".toList ∧
    parse "SELECT * FROM t WHERE f>=('a') = b" =
      .error (.predicate (.noCondition ["f", ">=", "('a')", "=", "b"])) ∧
    parse "SELECT * FROM t WHERE f>=('\n') = b" = .ok ⟨[.wildcard], .collection "t",
      some (.condition ⟨"f>=('\n')", .equal, .string "b"⟩), none, none⟩ ∧
    ¬SameOutcome (Plan.Replaced (.ofText (quotation '\'' ['a'])) (.ofText (quotation '\'' ['\n'])))
      (parse "SELECT * FROM t WHERE f>=('a') = b") (parse "SELECT * FROM t WHERE f>=('\n') = b") := by
  have glue : Token.IsGlue ['f'] ['>', '='] := ⟨by decide, by decide⟩
  have next : ValueNext .comparison ([' '] ++ (['f'] ++ ['>', '='])) :=
    .comparison (by decide) (by decide) glue
  have items : ItemPlace [] [] := ⟨.inl (by decide), .inl (by decide)⟩
  have piece : Token.PieceBefore ['(', ')'] " = b".toList := ⟨by decide, by decide, by decide⟩
  have place : ValuePlace .comparison " f>=(".toList ") = b".toList :=
    .item (by decide) next items piece nofun
  have three : ["f", ">=", "('a')", "=", "b"].length ≠ 3 := by decide
  have refused : parse "SELECT * FROM t WHERE f>=('a') = b" =
      .error (.predicate (.noCondition ["f", ">=", "('a')", "=", "b"])) := by
    have tokens : Token.tokens " f>=('a') = b".toList = ["f", ">=", "('a')", "=", "b"] := by decide
    have cut : clauseTexts (queryText "SELECT * FROM t WHERE f>=('a') = b".toList) =
        .ok ⟨" * ".toList, " t ".toList, some " f>=('a') = b".toList, none, none⟩ := by rfl
    rw [parse_of_closed rfl (by decide), cut]
    show (Plan.ofClauses _).bind _ = _
    rw [ofClauses_of_filter, tokens, Predicate.ofTokens_of_no_split three (by decide)]
    rfl
  have taken : parse "SELECT * FROM t WHERE f>=('\n') = b" = .ok ⟨[.wildcard], .collection "t",
      some (.condition ⟨"f>=('\n')", .equal, .string "b"⟩), none, none⟩ := by
    have tokens : Token.tokens " f>=('\n') = b".toList = ["f>=('\n')", "=", "b"] := by decide
    have filter := readFilter_of_tokens tokens
      (Predicate.ofTokens_three_eq_ok_iff.mpr ⟨⟨"f>=('\n')", .equal, .string "b"⟩, rfl, rfl⟩)
    exact (parse_eq_ok_iff rfl).mpr ⟨by decide, _, ⟨[.wildcard], .collection "t",
      some (.condition ⟨"f>=('\n')", .equal, .string "b"⟩), none, none⟩, rfl,
      ⟨rfl, rfl, filter, rfl, rfl⟩, rfl, rfl⟩
  refine ⟨place, refused, taken, ?_⟩
  rw [refused, taken]
  nofun

end DocQuery
