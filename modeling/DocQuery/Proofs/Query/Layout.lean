import DocQuery.Proofs.Query.Casing
import DocQuery.Proofs.Query.SelectSpacing
import Mathlib.Data.List.DropRight
import Mathlib.Logic.Relation

/-!
# The layout of a query

How a query is laid out does not matter: the gaps between its words, the case of its keywords, and
a semicolon at its end. A change of one of these leaves the plan of a query as it is, or its error
of the same kind, and so does every sequence of such changes. Texts with backquotes are left out,
since a name between backquotes holds gaps that no quotation protects.
-/

namespace DocQuery

open Text

namespace ParseError

inductive Kind where
  | missingSelect
  | missingFrom
  | clause
  | predicate
  | limit
  | combination
deriving DecidableEq, Repr

def kind : ParseError → Kind
  | .missingSelect => .missingSelect
  | .missingFrom => .missingFrom
  | .clause _ => .clause
  | .predicate _ => .predicate
  | .limit _ => .limit
  | .countWithOrder => .combination

end ParseError

/-- What a reader of plans, or of their parts, makes of a text, up to the details of errors. -/
def outcome {α : Type} (read : Except ParseError α) : Except ParseError.Kind α :=
  read.mapError ParseError.kind

section Outcomes

variable {α β : Type} {x y : Except ParseError α}

theorem outcome_bind {f g : α → Except ParseError β} (h : outcome x = outcome y)
    (step : ∀ a, outcome (f a) = outcome (g a)) : outcome (x.bind f) = outcome (y.bind g) := by
  cases x with
  | error e =>
    cases y with
    | error e' => exact congrArg Except.error (Except.error.inj h)
    | ok b => cases h
  | ok a =>
    cases y with
    | error e' => cases h
    | ok b =>
      obtain rfl : a = b := Except.ok.inj h
      exact step a

theorem SameOutcome.outcome_eq {ε : Type} {x y : Except ε α} (h : SameOutcome Eq x y)
    {f : ε → ParseError} (alike : ∀ e e', (f e).kind = (f e').kind) :
    outcome (x.mapError f) = outcome (y.mapError f) := by
  cases h with
  | ok same => rw [same]
  | error e e' => exact congrArg Except.error (alike e e')

theorem outcome_mapM {γ : Type} {related : γ → γ → Prop} {o o' : Option γ}
    {f g : γ → Except ParseError β} (h : Option.Rel related o o')
    (step : ∀ a b, related a b → outcome (f a) = outcome (g b)) :
    outcome (o.mapM f) = outcome (o'.mapM g) := by
  cases h with
  | none => rfl
  | some r =>
    rw [Option.mapM_some, Option.mapM_some]
    exact outcome_bind (step _ _ r) fun _ => rfl

end Outcomes

theorem mem_of_mem_queryText {text : List Char} {c : Char} (m : c ∈ queryText text) : c ∈ text := by
  unfold queryText at m
  dsimp only at m
  split at m
  · exact mem_of_mem_trim ((List.dropLast_sublist _).subset (mem_of_mem_trimEnd m))
  · exact mem_of_mem_trim m

theorem mem_of_mem_select {text : List Char} {texts : ClauseTexts}
    (cut : clauseTexts text = .ok texts) {c : Char} (m : c ∈ texts.select) : c ∈ text := by
  unfold clauseTexts at cut
  split at cut
  · cases cut
  · next afterSelect opens =>
    split at cut
    · cases cut
    · next select afterSource from_ =>
      obtain rfl := Except.ok.inj cut
      obtain ⟨first, -, rfl⟩ := dropKeyword?_parts Clause.select.spelled opens
      obtain ⟨second, -, rfl⟩ := cutAt?_parts Clause.source.spelled from_
      exact List.mem_append_right _ (List.mem_append_left _ m)

theorem queryText_append_semicolon {text : List Char} (missing : (trim text).getLast? ≠ some ';') :
    queryText (text ++ [';']) = queryText text := by
  have trimmed : trim (text ++ [';']) = text.dropWhile isBlank ++ [';'] :=
    trim_append_stop (by decide) text []
  unfold queryText
  simp only [trimmed, missing, List.getLast?_concat, List.dropLast_concat, if_true, if_false]
  rfl

theorem queryText_recased {lead front word word' after trail : List Char} (blanks : IsBlanks lead)
    (ends : EndsInLetter word) (same : lower word = lower word')
    (trimmed : queryText (lead ++ (front ++ (word ++ (after ++ trail)))) =
      front ++ (word ++ after)) :
    queryText (lead ++ (front ++ (word' ++ (after ++ trail)))) = front ++ (word' ++ after) := by
  have opened {word : List Char} {c : Char} (letter : c.isAlpha = true) :
      queryText (lead ++ (front ++ (word ++ [c] ++ (after ++ trail)))) =
        (front ++ word).dropWhile isBlank ++ c :: queryEnd (after ++ trail) := by
    have semicolon : c ≠ ';' := by
      rintro rfl
      cases letter
    have shape : lead ++ (front ++ (word ++ [c] ++ (after ++ trail))) =
        lead ++ (front ++ word) ++ c :: (after ++ trail) := by simp
    rw [shape, queryText_append_stop (not_isBlank_of_isAlpha letter) semicolon,
      List.dropWhile_append_of_pos blanks]
  have ends' := ends.of_lower same
  obtain ⟨w, c, rfl, letter⟩ := ends
  obtain ⟨w', c', rfl, letter'⟩ := ends'
  have shape {word : List Char} (c : Char) :
      front ++ (word ++ [c] ++ after) = front ++ word ++ c :: after := by simp
  rw [opened letter, shape] at trimmed
  rw [opened letter', shape]
  -- What is left of the text begins with no blank, whatever the case of the word is.
  have kept : (front ++ w).dropWhile isBlank = front ++ w := by
    have again := congrArg (List.dropWhile isBlank) trimmed
    rw [dropWhile_append_stop (not_isBlank_of_isAlpha letter),
      dropWhile_append_stop (not_isBlank_of_isAlpha letter), List.dropWhile_idempotent isBlank,
      trimmed] at again
    exact (List.append_cancel_right again).symm
  rw [kept] at trimmed
  obtain ⟨-, rest⟩ := List.cons.inj (List.append_cancel_left trimmed)
  have words : lower w = lower w' := by
    rw [lower_append, lower_append] at same
    exact (List.append_inj' same rfl).1
  have kept' : (front ++ w').dropWhile isBlank = front ++ w' := by
    have texts : lower (front ++ w) = lower (front ++ w') := by simp [words]
    have small := dropWhile_lower isBlank_toLower (front ++ w')
    rw [← texts, dropWhile_lower isBlank_toLower, kept, texts] at small
    exact (List.dropWhile_suffix _).eq_of_length (length_eq_of_lower small).symm
  rw [kept', rest]

/-- One change of the layout of a text: other gaps outside quotations and brackets, gaps around the
text, a keyword of a clause in another case, or a semicolon at an end that has none. -/
inductive Relaid : List Char → List Char → Prop where
  | gaps {before run run' after : List Char}
      (outside : Nesting.outside.afterText .roundOrSquare before = .outside) (old : IsGaps run)
      (new : IsGaps run') : Relaid (before ++ (run ++ after)) (before ++ (run' ++ after))
  | before {run : List Char} (new : IsGaps run) (text : List Char) : Relaid text (run ++ text)
  | after {run : List Char} (new : IsGaps run) (text : List Char) : Relaid text (text ++ run)
  | keyword {clause : Clause} {lead front before word word' after trail : List Char}
      (blanks : IsBlanks lead)
      (trimmed : queryText (lead ++ (front ++ (before ++ (word ++ (after ++ trail))))) =
        front ++ (before ++ (word ++ after)))
      (found : KeywordAt clause front before word after) (same : sameLetters word word' = true) :
      Relaid (lead ++ (front ++ (before ++ (word ++ (after ++ trail)))))
        (lead ++ (front ++ (before ++ (word' ++ (after ++ trail)))))
  | semicolon {text : List Char} (missing : (trim text).getLast? ≠ some ';') :
      Relaid text (text ++ [';'])

theorem Relaid.plain {x y : List Char} (h : Relaid x y) (plain : FieldName.backquote ∉ x) :
    FieldName.backquote ∉ y := by
  have solid {run : List Char} (gaps : IsGaps run) : FieldName.backquote ∉ run := by
    intro m
    exact absurd (gaps.gaps _ m) (by decide)
  intro m
  cases h with
  | gaps _ _ new =>
    simp only [List.mem_append] at plain m
    rcases m with m | m | m
    · exact plain (.inl m)
    · exact solid new m
    · exact plain (.inr (.inr m))
  | before new _ => exact (List.mem_append.mp m).elim (solid new) plain
  | after new _ => exact (List.mem_append.mp m).elim plain (solid new)
  | keyword _ _ _ same =>
    rw [← mem_lower_iff (by decide)] at plain m
    simp only [lower_append, sameLetters_iff_lower.mp same] at plain m
    exact plain m
  | semicolon _ => exact (List.mem_append.mp m).elim plain (by decide)

namespace Plan

theorem ofClauses_respaced {texts other : ClauseTexts} (h : texts.Respaced other)
    (free : FieldName.backquote ∉ texts.select) :
    outcome (ofClauses texts) = outcome (ofClauses other) := by
  refine outcome_bind ?_ fun select => outcome_bind ?_ fun source => outcome_bind ?_ fun filter =>
    outcome_bind ?_ fun order => outcome_bind ?_ fun limit => rfl
  · exact (SelectItem.listOfText_respaced h.select free).outcome_eq fun _ _ => rfl
  · exact (Source.ofText_respaced h.source).outcome_eq fun _ _ => rfl
  · exact outcome_mapM h.filter fun a b same => by rw [Token.tokens_respaced same]
  · exact outcome_mapM h.order fun a b same =>
      (OrderBy.ofText_respaced same).outcome_eq fun _ _ => rfl
  · exact outcome_mapM h.limit fun a b same =>
      (limitOfText_respaced same).outcome_eq fun _ _ => rfl

section Outcomes

variable {query other : String} {x y : List Char}

/-- Two queries have the same plan when both leave a quotation open or none does, and when their
clauses are read alike. -/
theorem outcome_parse_eq (hx : queryText query.toList = x) (hy : queryText other.toList = y)
    (marks : markAfter none x = markAfter none y)
    (clauses : outcome ((clauseTexts x).bind ofClauses) =
      outcome ((clauseTexts y).bind ofClauses)) :
    outcome (parse query) = outcome (parse other) := by
  by_cases closed : markAfter none x = none
  · have joined {α β γ : Type} (x : Except ParseError α) (f : α → Except ParseError β)
        (g : β → Except ParseError γ) : (x.bind fun a => (f a).bind g) = (x.bind f).bind g := by
      cases x <;> rfl
    rw [parse_of_closed hx closed, parse_of_closed hy (marks.symm.trans closed), joined, joined]
    exact outcome_bind clauses fun _ => rfl
  · obtain ⟨mark, position, refused⟩ := parse_openQuote hx closed
    obtain ⟨mark', position', refused'⟩ := parse_openQuote hy fun e => closed (marks.trans e)
    rw [refused, refused']
    rfl

theorem outcome_parse_of_queryText (h : queryText query.toList = queryText other.toList) :
    outcome (parse query) = outcome (parse other) :=
  outcome_parse_eq h rfl rfl rfl

theorem outcome_parse_respaced (h : Respaced .outside query.toList other.toList)
    (plain : FieldName.backquote ∉ query.toList) :
    outcome (parse query) = outcome (parse other) := by
  have same := queryText_respaced h
  refine outcome_parse_eq rfl rfl same.markAfter_eq ?_
  rcases clauseTexts_respaced same with ⟨e, hx, hy⟩ | ⟨texts, texts', hx, hy, clauses⟩
  · rw [hx, hy]
  · rw [hx, hy]
    refine ofClauses_respaced clauses fun m => plain ?_
    exact mem_of_mem_queryText (mem_of_mem_select hx m)

theorem outcome_parse_relaid (h : Relaid query.toList other.toList)
    (plain : FieldName.backquote ∉ query.toList) :
    outcome (parse query) = outcome (parse other) := by
  generalize hx : query.toList = x at h plain
  generalize hy : other.toList = y at h
  cases h with
  | gaps outside old new =>
    refine outcome_parse_respaced ?_ (by rwa [hx])
    rw [hx, hy]
    refine (Respaced.refl _ _).append ?_
    rw [outside]
    exact .gaps rfl old new (.refl _ _)
  | before new =>
    apply outcome_parse_of_queryText
    rw [hx, hy]
    simp only [queryText, trim_blanks_append new.isBlanks]
  | after new =>
    apply outcome_parse_of_queryText
    rw [hx, hy]
    simp only [queryText, trim_append_blanks new.isBlanks]
  | semicolon missing =>
    apply outcome_parse_of_queryText
    rw [hx, hy, queryText_append_semicolon missing]
  | @keyword clause lead front before word word' after trail blanks trimmed found same =>
    have letters := sameLetters_iff_lower.mp same
    have shape (word : List Char) : lead ++ (front ++ (before ++ (word ++ (after ++ trail)))) =
        lead ++ (front ++ before ++ (word ++ (after ++ trail))) := by simp
    have trimmed' : queryText (lead ++ (front ++ (before ++ (word' ++ (after ++ trail))))) =
        front ++ (before ++ (word' ++ after)) := by
      rw [shape] at trimmed ⊢
      rw [← List.append_assoc front] at trimmed ⊢
      exact queryText_recased blanks found.endsInLetter letters trimmed
    refine outcome_parse_eq (hx ▸ trimmed) (hy ▸ trimmed') ?_ ?_
    · rw [← markAfter_none_lower, ← markAfter_none_lower (front ++ (before ++ (word' ++ after)))]
      simp [letters]
    · rw [clauseTexts_recased found letters]

end Outcomes

/-- However the layout of a text without backquotes is changed, the plan is the same or the error is
of the same kind. -/
theorem parse_ignores_layout {query other : String} (plain : FieldName.backquote ∉ query.toList)
    (relaid : Relation.ReflTransGen Relaid query.toList other.toList) :
    (parse query).mapError ParseError.kind = (parse other).mapError ParseError.kind := by
  -- The run carries both the outcome and that no backquote has come in.
  have run {y : List Char} (h : Relation.ReflTransGen Relaid query.toList y) :
      FieldName.backquote ∉ y ∧ outcome (parse query) = outcome (parse (String.ofList y)) := by
    induction h with
    | refl => exact ⟨plain, by rw [String.ofList_toList]⟩
    | @tail y z _ step ih =>
      refine ⟨step.plain ih.1, ih.2.trans ?_⟩
      apply outcome_parse_relaid
      · simpa using step
      · simpa using ih.1
  have last := (run relaid).2
  rwa [String.ofList_toList] at last

theorem parse_ignores_layout_of_pets :
    FieldName.backquote ∉ "SELECT name FROM pets WHERE tag = 'a  b'".toList ∧
    Relation.ReflTransGen Relaid "SELECT name FROM pets WHERE tag = 'a  b'".toList
      " SELECT\n\tname FROM pets where tag = 'a  b';\n".toList ∧
    (parse "SELECT name FROM pets WHERE tag = 'a  b'").mapError ParseError.kind =
      (parse " SELECT\n\tname FROM pets where tag = 'a  b';\n").mapError ParseError.kind := by
  have plain : FieldName.backquote ∉ "SELECT name FROM pets WHERE tag = 'a  b'".toList := by decide
  have wider : Relaid "SELECT name FROM pets WHERE tag = 'a  b'".toList
      "SELECT\n\tname FROM pets WHERE tag = 'a  b'".toList :=
    @Relaid.gaps "SELECT".toList [' '] ['\n', '\t'] "name FROM pets WHERE tag = 'a  b'".toList
      rfl ⟨by decide, by decide⟩ ⟨by decide, by decide⟩
  have smaller : Relaid "SELECT\n\tname FROM pets WHERE tag = 'a  b'".toList
      "SELECT\n\tname FROM pets where tag = 'a  b'".toList :=
    @Relaid.keyword .filter [] "SELECT\n\tname FROM".toList " pets ".toList "WHERE".toList
      "where".toList " tag = 'a  b'".toList [] (by decide) (by decide +kernel)
      ⟨by decide +kernel, by decide +kernel⟩ (by decide)
  have indented : Relaid "SELECT\n\tname FROM pets where tag = 'a  b'".toList
      " SELECT\n\tname FROM pets where tag = 'a  b'".toList :=
    @Relaid.before [' '] ⟨by decide, by decide⟩ _
  have ended : Relaid " SELECT\n\tname FROM pets where tag = 'a  b'".toList
      " SELECT\n\tname FROM pets where tag = 'a  b';".toList :=
    @Relaid.semicolon " SELECT\n\tname FROM pets where tag = 'a  b'".toList (by decide +kernel)
  have broken : Relaid " SELECT\n\tname FROM pets where tag = 'a  b';".toList
      " SELECT\n\tname FROM pets where tag = 'a  b';\n".toList :=
    @Relaid.after ['\n'] ⟨by decide, by decide⟩ _
  have relaid := ((((Relation.ReflTransGen.single wider).tail smaller).tail indented).tail
    ended).tail broken
  exact ⟨plain, relaid, parse_ignores_layout plain relaid⟩

end Plan

end DocQuery
