import DocQuery.Proofs.Query.TokenTexts
import DocQuery.Proofs.Query.WellFormed
import Mathlib.Data.List.Induction

/-!
# Brackets in filters

Nothing is cut inside brackets, so a bracket that is left open keeps the rest of a filter together.
Only the last token can hold one, and a filter that can be read has the value of its last condition
there. All brackets of such a filter are closed exactly when those of this value are.
-/

namespace DocQuery

open Text

def openBrackets (text : List Char) : Nat :=
  (Nesting.outside.afterText .roundOrSquare text).depth

/-- A bracket between two texts is closed in the second: a later one brings the number of open
brackets back to what it was. -/
def IsClosedBehind (before : List Char) (opening : Char) (after : List Char) : Prop :=
  ∃ inside closing rest, after = inside ++ closing :: rest ∧
    Brackets.roundOrSquare.closes closing = true ∧
    markAfter none (before ++ opening :: inside) = none ∧
    openBrackets (before ++ opening :: (inside ++ [closing])) = openBrackets before

/-- Every bracket that opens outside quotations is closed. -/
def ClosesBrackets (text : List Char) : Prop :=
  ∀ before opening after, text = before ++ opening :: after → markAfter none before = none →
    Brackets.roundOrSquare.opens opening = true → IsClosedBehind before opening after

theorem openBrackets_concat (text : List Char) (c : Char) : openBrackets (text ++ [c]) =
    if (markAfter none text).isSome then openBrackets text
    else if Brackets.roundOrSquare.opens c then openBrackets text + 1
    else if Brackets.roundOrSquare.closes c then openBrackets text - 1
    else openBrackets text := by
  have mark : (Nesting.outside.afterText .roundOrSquare text).mark = markAfter none text :=
    Nesting.mark_afterText .roundOrSquare .outside text
  unfold openBrackets
  rw [Nesting.afterText_append, ← mark]
  cases state : Nesting.outside.afterText .roundOrSquare text with
  | mk mark depth => cases mark <;> rfl

theorem not_isClosedBehind {before after : List Char} {opening : Char}
    (above : ∀ y, y <+: after → openBrackets before < openBrackets (before ++ opening :: y)) :
    ¬IsClosedBehind before opening after := by
  rintro ⟨inside, closing, rest, rfl, -, -, back⟩
  have front : inside ++ [closing] <+: inside ++ closing :: rest := ⟨rest, by simp⟩
  have more := above _ front
  omega

/-- Of the brackets left open one is opened at each depth; the induction is from the end. -/
theorem exists_opening {text : List Char} {depth : Nat} (h : depth < openBrackets text) :
    ∃ before opening after, text = before ++ opening :: after ∧ markAfter none before = none ∧
      Brackets.roundOrSquare.opens opening = true ∧
      ∀ y, y <+: after → depth < openBrackets (before ++ opening :: y) ∧
        openBrackets before = depth := by
  induction text using List.reverseRecOn with
  | nil => exact absurd h (Nat.not_lt_zero depth)
  | append_singleton text c ih =>
    by_cases earlier : depth < openBrackets text
    · obtain ⟨before, opening, after, rfl, closed, opens, above⟩ := ih earlier
      refine ⟨before, opening, after ++ [c], by simp, closed, opens, ?_⟩
      intro y front
      rcases List.prefix_concat_iff.mp front with rfl | front
      · refine ⟨?_, (above [] List.nil_prefix).2⟩
        simpa using h
      · exact above y front
    · -- The last character is the bracket that opens at this depth.
      have last := openBrackets_concat text c
      have closed : (markAfter none text).isSome = false := by
        rw [← Bool.not_eq_true]
        intro marked
        rw [if_pos marked] at last
        omega
      have opens : Brackets.roundOrSquare.opens c = true := by
        by_contra other
        rw [closed, if_neg (by decide), if_neg other] at last
        split at last <;> omega
      rw [closed, if_neg (by decide), if_pos opens] at last
      refine ⟨text, c, [], rfl, by simpa using closed, opens, ?_⟩
      intro y front
      obtain rfl := List.prefix_nil.mp front
      omega

/-- Behind a bracket that opens, the number first comes back to what it was at the bracket that
closes it. -/
theorem exists_closing {before after : List Char} {opening : Char}
    (more : openBrackets before < openBrackets (before ++ [opening]))
    (back : openBrackets (before ++ opening :: after) ≤ openBrackets before) :
    IsClosedBehind before opening after := by
  induction after using List.reverseRecOn with
  | nil => omega
  | append_singleton after c ih =>
    by_cases earlier : openBrackets (before ++ opening :: after) ≤ openBrackets before
    · obtain ⟨inside, closing, rest, rfl, closes, outside, same⟩ := ih earlier
      exact ⟨inside, closing, rest ++ [c], by simp, closes, outside, same⟩
    · have last := openBrackets_concat (before ++ opening :: after) c
      have shape : before ++ opening :: after ++ [c] = before ++ opening :: (after ++ [c]) := by
        simp
      rw [shape] at last
      by_cases marked : (markAfter none (before ++ opening :: after)).isSome = true
      · rw [if_pos marked] at last
        omega
      · rw [if_neg marked] at last
        by_cases opens : Brackets.roundOrSquare.opens c = true
        · rw [if_pos opens] at last
          omega
        · rw [if_neg opens] at last
          by_cases closes : Brackets.roundOrSquare.closes c = true
          · rw [if_pos closes] at last
            refine ⟨after, c, [], rfl, closes, by simpa using marked, ?_⟩
            omega
          · rw [if_neg closes] at last
            omega

theorem closesBrackets_iff {text : List Char} : ClosesBrackets text ↔ openBrackets text = 0 := by
  constructor
  · intro closes
    by_contra some
    have zero : 0 < openBrackets text := by omega
    obtain ⟨before, opening, after, whole, outside, opens, above⟩ := exists_opening zero
    have closed := closes before opening after whole outside opens
    refine not_isClosedBehind ?_ closed
    intro y front
    obtain ⟨more, least⟩ := above y front
    omega
  · rintro none before opening after rfl outside opens
    have first := openBrackets_concat before opening
    rw [outside, if_neg (by decide), if_pos opens] at first
    apply exists_closing
    · omega
    · omega

theorem IsClosedBehind.append {before after : List Char} {opening : Char}
    (h : IsClosedBehind before opening after) (more : List Char) :
    IsClosedBehind before opening (after ++ more) := by
  obtain ⟨inside, closing, rest, rfl, closes, outside, back⟩ := h
  exact ⟨inside, closing, rest ++ more, by simp, closes, outside, back⟩

namespace Token

theorem LaidOut.exists_last {text : List Char} {parts : List (List Char)} (h : LaidOut text parts)
    (inside : Nesting.outside.afterText .roundOrSquare text ≠ .outside) :
    ∃ head last, text = head ++ last ∧ parts.getLast? = some last ∧
      Nesting.outside.afterText .roundOrSquare head = .outside := by
  induction h with
  | nil => exact absurd rfl inside
  | @blank c text parts blank _ ih =>
    rw [Nesting.afterText_cons, after_blank blank] at inside
    obtain ⟨head, last, rfl, ends, outside⟩ := ih inside
    refine ⟨c :: head, last, rfl, ends, ?_⟩
    rw [Nesting.afterText_cons, after_blank blank, outside]
  | @part part text parts piece _ ih =>
    rw [Nesting.afterText_append, piece.outside] at inside
    obtain ⟨head, last, rfl, ends, outside⟩ := ih inside
    refine ⟨part ++ head, last, (List.append_assoc ..).symm, List.mem_getLast?_cons ends, ?_⟩
    rw [Nesting.afterText_append, piece.outside, outside]
  | last => exact ⟨[], _, rfl, rfl, rfl⟩

theorem StandFor.getLast?_eq {tokens : List String} {parts : List (List Char)}
    (h : StandFor tokens parts) {last : List Char} (ends : parts.getLast? = some last) :
    tokens.getLast? = some (String.ofList last) ∨
      sameLetters last "IN".toList = true ∧ tokens.getLast? = some "NOT IN" := by
  induction h with
  | nil => cases ends
  | @itself part tokens parts _ stand ih =>
    rw [List.getLast?_cons] at ends
    cases behind : parts.getLast? with
    | none =>
      obtain rfl := List.getLast?_eq_none_iff.mp behind
      cases stand
      cases ends
      exact .inl rfl
    | some value =>
      rw [behind] at ends
      rcases ih (behind.trans ends) with whole | ⟨isIn, whole⟩
      · exact .inl (List.mem_getLast?_cons whole)
      · exact .inr ⟨isIn, List.mem_getLast?_cons whole⟩
  | @notIn first second tokens parts _ isIn stand ih =>
    rw [List.getLast?_cons_cons, List.getLast?_cons] at ends
    cases behind : parts.getLast? with
    | none =>
      obtain rfl := List.getLast?_eq_none_iff.mp behind
      cases stand
      cases ends
      exact .inr ⟨isIn, rfl⟩
    | some value =>
      rw [behind] at ends
      rcases ih (behind.trans ends) with whole | ⟨isIn, whole⟩
      · exact .inl (List.mem_getLast?_cons whole)
      · exact .inr ⟨isIn, List.mem_getLast?_cons whole⟩

theorem openBrackets_of_isIn {word : List Char} (isIn : sameLetters word "IN".toList = true) :
    openBrackets word = 0 := by
  have letters := isAlpha_of_sameLetters isIn (by decide)
  have plain : IsPlainWord word := by
    constructor
    · rintro rfl
      cases isIn
    · intro c m
      apply isPlain_of_isNameChar
      simp [isNameChar, isWordChar, Char.isAlphanum, letters c m]
  rw [openBrackets, plain.piece.outside]
  rfl

theorem openBrackets_of_getLast? {text : List Char} {value : String}
    (ends : (tokens text).getLast? = some value) :
    openBrackets text = openBrackets value.toList := by
  have stand := standFor_tokens text
  have last : openBrackets text = openBrackets ((parts text).getLast?.getD []) := by
    rw [openBrackets, (laidOut_parts text).afterText_eq]
    rfl
  rw [last]
  cases behind : (parts text).getLast? with
  | none =>
    rw [List.getLast?_eq_none_iff.mp behind] at stand
    generalize tokens text = none at stand ends
    cases stand
    cases ends
  | some part =>
    rcases stand.getLast?_eq behind with whole | ⟨isIn, whole⟩
    · cases ends.symm.trans whole
      rw [String.toList_ofList]
      rfl
    · cases ends.symm.trans whole
      exact openBrackets_of_isIn isIn

/-- A bracket that is left open stands in the last token, and all of the text behind it as well. -/
theorem getLast?_of_open {before after : List Char} {opening : Char}
    (outside : markAfter none before = none)
    (opens : Brackets.roundOrSquare.opens opening = true)
    (left : ¬IsClosedBehind before opening after) :
    ∃ head inner, before = head ++ inner ∧
      (tokens (before ++ opening :: after)).getLast? =
        some (String.ofList (inner ++ opening :: after)) := by
  have first := openBrackets_concat before opening
  rw [outside, if_neg (by decide), if_pos opens] at first
  have one : openBrackets before < openBrackets (before ++ [opening]) := by omega
  have more : openBrackets before < openBrackets (before ++ opening :: after) := by
    by_contra back
    exact left (exists_closing one (by omega))
  have inside : Nesting.outside.afterText .roundOrSquare (before ++ opening :: after) ≠
      .outside := by
    intro same
    rw [openBrackets, openBrackets, same] at more
    exact absurd more (Nat.not_lt_zero _)
  obtain ⟨head, last, whole, ends, settled⟩ := (laidOut_parts _).exists_last inside
  -- The last part begins outside brackets, so it does not begin behind the one left open.
  have place : ∃ inner, before = head ++ inner ∧ last = inner ++ opening :: after := by
    rcases List.append_eq_append_iff.mp whole with ⟨mid, rfl, behind⟩ | ⟨inner, rfl, rfl⟩
    · cases mid with
      | nil => exact ⟨[], by simp, by simpa using behind.symm⟩
      | cons c mid =>
        obtain ⟨rfl, rfl⟩ := List.cons.inj behind
        have none : openBrackets (before ++ opening :: mid) = 0 := by
          rw [openBrackets, settled]
          rfl
        have closed := exists_closing one (none ▸ Nat.zero_le _)
        exact absurd (closed.append last) left
    · exact ⟨inner, rfl, rfl⟩
  obtain ⟨inner, rfl, rfl⟩ := place
  refine ⟨head, inner, rfl, ?_⟩
  rcases (standFor_tokens _).getLast?_eq ends with token | ⟨isIn, token⟩
  · exact token
  · have none := openBrackets_of_getLast? token
    have closed : openBrackets "NOT IN".toList = 0 := by decide
    omega

end Token

theorem Predicate.exists_last_condition {tokens : List String} {p : Predicate}
    (read : ofTokens tokens = .ok p) :
    ∃ front field operator value c, tokens = front ++ [field, operator, value] ∧
      Condition.ofTokens field operator value = .ok c ∧ p.conditions.getLast? = some c := by
  induction p generalizing tokens with
  | condition d =>
    rcases ofTokens_eq_ok_cases read with
      ⟨field, operator, value, c, rfl, condition, same⟩ | ⟨_, _, _, _, _, _, _, _, _, _, _, other⟩
    · cases same
      exact ⟨[], field, operator, value, d, rfl, condition, rfl⟩
    · cases other
  | joined k left right _ ih =>
    rcases ofTokens_eq_ok_cases read with
      ⟨_, _, _, _, _, _, other⟩ |
      ⟨first, second, third, word, rest, c, k, right, rfl, -, behind, same⟩
    · cases other
    · cases same
      obtain ⟨front, field, operator, value, last, rfl, condition, ends⟩ := ih behind
      refine ⟨first :: second :: third :: word :: front, field, operator, value, last, rfl,
        condition, ?_⟩
      rw [conditions, List.getLast?_append, ends]
      rfl

namespace Plan

/-- A filter that is read closes its brackets exactly when the value of its last condition does: a
bracket left open takes in all that follows. -/
theorem filter_closes_brackets_iff {query : String} {plan : Plan} {texts : ClauseTexts}
    {filter : List Char} (parsed : parse query = .ok plan)
    (cut : clauseTexts (queryText query.toList) = .ok texts) (clause : texts.filter = some filter) :
    ∃ front field operator value c p, Token.tokens filter = front ++ [field, operator, value] ∧
      Condition.ofTokens field operator value = .ok c ∧
      plan.filter = some p ∧
      p.conditions.getLast? = some { c with field := FieldName.resolve c.field } ∧
      (ClosesBrackets filter ↔ ClosesBrackets value.toList) ∧
      ∀ before opening after, filter = before ++ opening :: after →
        markAfter none before = none → Brackets.roundOrSquare.opens opening = true →
        ¬IsClosedBehind before opening after →
        ∃ head inner, before = head ++ inner ∧ value.toList = inner ++ opening :: after := by
  obtain ⟨-, texts', shown, cut', read, -, rfl⟩ := (parse_eq_ok_iff rfl).mp parsed
  obtain rfl := Except.ok.inj (cut.symm.trans cut')
  obtain ⟨p, tree, found⟩ := read.exists_filter clause
  obtain ⟨front, field, operator, value, c, tokens, condition, last⟩ :=
    Predicate.exists_last_condition tree
  have ends : (Token.tokens filter).getLast? = some value := by
    rw [tokens, List.getLast?_append]
    rfl
  refine ⟨front, field, operator, value, c, p.mapFields FieldName.resolve, tokens, condition, ?_,
    ?_, ?_, ?_⟩
  · show shown.filter.map _ = _
    rw [found, Option.map_some]
  · rw [Predicate.conditions_mapFields, List.getLast?_map, last, Option.map_some]
  · rw [closesBrackets_iff, closesBrackets_iff, Token.openBrackets_of_getLast? ends]
  · rintro before opening after rfl outside opens left
    obtain ⟨head, inner, rfl, token⟩ := Token.getLast?_of_open outside opens left
    refine ⟨head, inner, rfl, ?_⟩
    rw [Option.some.inj (ends.symm.trans token), String.toList_ofList]

def callFilter : Predicate :=
  .joined .both (.condition ⟨"a", .equal, .string "f(x AND y)"⟩)
    (.condition ⟨"b", .isIn, .list [.string "(", .string "(2)"]⟩)

theorem filter_closes_brackets_iff_of_call :
    parse "SELECT id FROM t WHERE a = f(x AND y) AND b IN ['(', (2)]" =
      .ok ⟨[.field "__name__"], .collection "t", some callFilter, none, none⟩ ∧
    ClosesBrackets " a = f(x AND y) AND b IN ['(', (2)]".toList := by
  have tokens : Token.tokens " a = f(x AND y) AND b IN ['(', (2)]".toList =
      ["a", "=", "f(x AND y)", "AND", "b", "IN", "['(', (2)]"] := by decide
  have link : IsLink "a" "=" "f(x AND y)" "AND" ⟨"a", .equal, .string "f(x AND y)"⟩ .both :=
    ⟨rfl, fun k => by cases k <;> decide, by decide⟩
  have last : Condition.ofTokens "b" "IN" "['(', (2)]" =
      .ok ⟨"b", .isIn, .list [.string "(", .string "(2)"]⟩ := rfl
  have filter : ((some " a = f(x AND y) AND b IN ['(', (2)]".toList).mapM fun text =>
      (Predicate.ofTokens (Token.tokens text)).mapError ParseError.predicate) =
        .ok (some callFilter) := by
    rw [Option.mapM_some, tokens, Predicate.ofTokens_link link
      (Predicate.ofTokens_three_eq_ok_iff.mpr ⟨_, last, rfl⟩)]
    rfl
  have parsed : parse "SELECT id FROM t WHERE a = f(x AND y) AND b IN ['(', (2)]" =
      .ok ⟨[.field "__name__"], .collection "t", some callFilter, none, none⟩ :=
    (parse_eq_ok_iff rfl).mpr ⟨by decide, _,
      ⟨[.field "id"], .collection "t", some callFilter, none, none⟩, rfl,
      ⟨rfl, rfl, filter, rfl, rfl⟩, rfl, rfl⟩
  obtain ⟨front, field, operator, value, c, p, shape, -, -, -, closes, -⟩ :=
    filter_closes_brackets_iff parsed (by rfl) (by rfl)
  have ends := congrArg List.getLast? (tokens.symm.trans shape)
  rw [List.getLast?_append] at ends
  obtain rfl : "['(', (2)]" = value := Option.some.inj ends
  exact ⟨parsed, closes.mpr (closesBrackets_iff.mpr (by decide))⟩

/-- The bracket is never closed, and the second condition becomes part of the first value. -/
theorem open_bracket_absorbs_condition :
    parse "SELECT * FROM t WHERE a = (b AND c = 2" =
      .ok ⟨[.wildcard], .collection "t",
        some (.condition ⟨"a", .equal, .string "(b AND c = 2"⟩), none, none⟩ ∧
    ¬ClosesBrackets " a = (b AND c = 2".toList := by
  have tokens : Token.tokens " a = (b AND c = 2".toList = ["a", "=", "(b AND c = 2"] := by decide
  have filter : ((some " a = (b AND c = 2".toList).mapM fun text =>
      (Predicate.ofTokens (Token.tokens text)).mapError ParseError.predicate) =
        .ok (some (.condition ⟨"a", .equal, .string "(b AND c = 2"⟩)) := by
    rw [Option.mapM_some, tokens, Predicate.ofTokens_three_eq_ok_iff.mpr ⟨_, rfl, rfl⟩]
    rfl
  refine ⟨(parse_eq_ok_iff rfl).mpr ⟨by decide, _, ⟨[.wildcard], .collection "t",
    some (.condition ⟨"a", .equal, .string "(b AND c = 2"⟩), none, none⟩, rfl,
    ⟨rfl, rfl, filter, rfl, rfl⟩, rfl, rfl⟩, ?_⟩
  rw [closesBrackets_iff]
  decide

end Plan

end DocQuery
