import DocQuery.Proofs.Query.TokenTexts

/-!
# Conditions without blanks

A name, a comparison and a quotation right behind each other are one piece of a filter, which is
taken apart. With blanks between them they are three pieces. The tokens are the same, save that a
line feed in the quotation keeps the piece whole. Inside a quotation or a bracket nothing is taken
apart, and the blanks are kept.
-/

namespace DocQuery

open Text

theorem Text.Nesting.after_of_ignored {b : Brackets} {s : Nesting}
    (marks : ∀ q ∈ s.mark, isQuote q = true) {c : Char} (quote : isQuote c = false)
    (ignored : b.Ignore c) : s.after b c = s := by
  obtain ⟨mark, depth⟩ := s
  cases mark with
  | none => simp [Nesting.after, quoteAfter, quote, ignored.1, ignored.2]
  | some q =>
    apply Nesting.after_within
    rintro rfl
    have marked := marks c rfl
    rw [quote] at marked
    cases marked

namespace Token

theorem unspaced_within {s : Nesting} (within : s.isOutside = false)
    (marks : ∀ q ∈ s.mark, isQuote q = true) {text : List Char}
    (ignored : ∀ c ∈ text, isQuote c = false ∧ Brackets.roundOrSquare.Ignore c)
    (rest : List Char) : unspaced s (text ++ rest) = text ++ unspaced s rest := by
  induction text with
  | nil => rfl
  | cons c text ih =>
    obtain ⟨⟨quote, plain⟩, later⟩ := List.forall_mem_cons.mp ignored
    have same := Nesting.after_of_ignored marks quote plain
    simp only [List.cons_append, unspaced, within, Bool.false_and, Bool.false_eq_true, if_false,
      same, ih later]

/-- A condition can begin behind the first text and end before the second. -/
structure SetOff (front rest : List Char) : Prop where
  before : ∀ c ∈ front.getLast?, isBlank c = true
  behind : AtBlank rest

theorem parts_append {front : List Char} (before : ∀ c ∈ front.getLast?, isBlank c = true)
    (outside : Nesting.outside.afterText .roundOrSquare front = .outside) (rest : List Char) :
    parts (front ++ rest) = parts front ++ parts rest := by
  rcases List.eq_nil_or_concat front with rfl | ⟨init, c, rfl⟩
  · have none : parts [] = [] := by decide
    rw [none]
    rfl
  · have blank : isBlank c = true := by
      apply before
      simp
    have unopened : ∀ q ∈ Nesting.outside.mark, isQuote q = true := nofun
    have marks : ∀ q ∈ (Nesting.outside.afterText .roundOrSquare init).mark,
        isQuote q = true := by
      rw [Nesting.mark_afterText]
      exact isQuote_of_markAfter unopened init
    have same := Nesting.after_of_ignored marks (not_isQuote_of_isBlank blank)
      (Brackets.roundOrSquare_ignore_blank blank)
    have ends : EndsOutside (init ++ [c]) := by
      refine ⟨init, c, rfl, blank, ?_⟩
      rw [← same]
      rwa [List.concat_eq_append, Nesting.afterText_append] at outside
    rw [List.concat_eq_append]
    simp only [parts, pieces_append ends, List.flatMap_append]

theorem parts_append_of_piece {piece rest : List Char} (h : PieceBefore piece rest) :
    parts (piece ++ rest) = unglue piece ++ parts rest := by
  rw [parts, pieces_append_of_piece h, List.flatMap_cons]
  rfl

theorem parts_append_blank {front : List Char} {c : Char} (blank : isBlank c = true)
    (outside : Nesting.outside.afterText .roundOrSquare front = .outside) (rest : List Char) :
    parts (front ++ c :: rest) = parts front ++ parts rest := by
  simp only [parts, pieces_append_blank blank outside, List.flatMap_append]

theorem parts_cons_blank {c : Char} (blank : isBlank c = true) (rest : List Char) :
    parts (c :: rest) = parts rest := by
  rw [parts, pieces_cons_blank blank]
  rfl

theorem tokens_eq_joinNotIn (text : List Char) :
    tokens text = joinNotIn ((parts text).map String.ofList) := rfl

/-- A name with a comparison right behind it. -/
structure IsGlue (name op : List Char) : Prop where
  name : FieldName.isIdentifier name = true
  comparison : op ∈ comparisonTexts

namespace IsGlue

variable {name op : List Char} (h : IsGlue name op)

include h

theorem exists_cons : ∃ c rest, name = c :: rest ∧ isNameStart c = true ∧
    ∀ d ∈ name, isNameChar d = true := exists_of_isIdentifier h.name

theorem isPlainWord_name : IsPlainWord name := by
  obtain ⟨c, rest, rfl, -, chars⟩ := h.exists_cons
  exact ⟨List.cons_ne_nil _ _, fun d m => isPlain_of_isNameChar (chars d m)⟩

theorem isPlainWord_op : IsPlainWord op := isPlainWord_of_comparison h.comparison

theorem unglue_name : unglue name = [name] := by
  obtain ⟨-, -, -, -, chars⟩ := h.exists_cons
  exact unglue_of_name chars

theorem alone_op : Alone op := by
  have facts : ∀ op ∈ comparisonTexts, unglue op = [op] ∧
      sameWord (String.ofList op) "IN" = false ∧ sameWord (String.ofList op) "NOT" = false := by
    decide
  obtain ⟨unglue, notIn, notNot⟩ := facts op h.comparison
  exact ⟨unglue, notIn, notNot⟩

theorem afterText (value : List Char) :
    Nesting.outside.afterText .roundOrSquare (name ++ (op ++ value)) =
      Nesting.outside.afterText .roundOrSquare value := by
  rw [Nesting.afterText_append, h.isPlainWord_name.piece.outside, Nesting.afterText_append,
    h.isPlainWord_op.piece.outside]

theorem pieceBefore {value rest : List Char} (piece : PieceBefore value rest) :
    PieceBefore (name ++ (op ++ value)) rest := by
  have first := h.isPlainWord_name.piece
  have second := h.isPlainWord_op.piece
  refine ⟨List.append_ne_nil_of_left_ne_nil first.some _, ?_, ?_⟩
  · rw [uncut_append, first.outside, uncut_append, second.outside]
    exact ⟨first.uncut, second.uncut, piece.uncut⟩
  · rw [h.afterText]
    exact piece.stop

theorem comparison?_eq {value : List Char} (first : ∀ c ∈ value.head?, c ≠ '=') :
    comparison? (op ++ value) = some (op, value) := by
  have listed : comparisonTexts =
      [['='], ['!', '='], ['<'], ['<', '='], ['>'], ['>', '=']] := by decide
  have ops : op ∈ comparisonTexts := h.comparison
  simp only [listed, List.mem_cons, List.not_mem_nil, or_false] at ops
  cases value with
  | nil => rcases ops with rfl | rfl | rfl | rfl | rfl | rfl <;> rfl
  | cons c value =>
    have other : c ≠ '=' := first c rfl
    rcases ops with rfl | rfl | rfl | rfl | rfl | rfl <;> simp [comparison?, other]

/-- A line feed in the value keeps the condition whole; otherwise it is taken apart. -/
theorem unglue_eq {value : List Char} (first : ∀ c ∈ value.head?, c ≠ '=') :
    unglue (name ++ (op ++ value)) = if '\n' ∈ value then [name ++ (op ++ value)]
      else [name, op] ++ if value = [] then [] else [value] := by
  obtain ⟨c, rest, whole, start, chars⟩ := h.exists_cons
  have opStop : ∀ d ∈ (op ++ value).head?, isNameChar d = false := by
    have facts : ∀ op ∈ comparisonTexts, op ≠ [] ∧ ∀ d ∈ op.head?, isNameChar d = false := by decide
    obtain ⟨some, stop⟩ := facts op h.comparison
    rw [List.head?_append_of_ne_nil _ some]
    exact stop
  have behind : (name ++ (op ++ value)).dropWhile isNameChar = op ++ value :=
    dropWhile_append_of_stop chars opStop
  have front : (name ++ (op ++ value)).takeWhile isNameChar = name :=
    takeWhile_append_of_stop chars opStop
  have found := h.comparison?_eq first
  rw [← behind] at found
  have shape : name ++ (op ++ value) = c :: (rest ++ (op ++ value)) := by
    rw [whole]
    rfl
  rw [shape] at found front
  rw [shape, unglue_of_comparison start found, front]

theorem parts_eq : parts (name ++ op) = [name, op] := by
  have none : ∀ c ∈ ([] : List Char).head?, c ≠ '=' := nofun
  have cut := h.unglue_eq none
  rw [List.append_nil] at cut
  have plain : IsPlainWord (name ++ op) := by
    refine ⟨List.append_ne_nil_of_left_ne_nil h.isPlainWord_name.some _, ?_⟩
    intro c m
    rcases List.mem_append.mp m with m | m
    · exact h.isPlainWord_name.plain c m
    · exact h.isPlainWord_op.plain c m
  have alone := parts_append_of_piece (plain.piece.before (nofun : AtBlank []))
  rw [List.append_nil] at alone
  rw [alone, cut]
  rfl

section Behind

variable {front : List Char} (before : ∀ c ∈ front.getLast?, isBlank c = true)
  (outside : Nesting.outside.afterText .roundOrSquare front = .outside)

include before outside

theorem parts_append_eq : parts (front ++ (name ++ op)) = parts front ++ [name, op] := by
  rw [parts_append before outside, h.parts_eq]

theorem getLast?_tokens : (tokens (front ++ (name ++ op))).getLast? = some (String.ofList op) := by
  have last := joinNotIn_append_cons h.alone_op.notIn h.alone_op.notNot
    ((parts front ++ [name]).map String.ofList) []
  have both : parts front ++ [name, op] = (parts front ++ [name]) ++ [op] := by simp
  rw [tokens_eq_joinNotIn, h.parts_append_eq before outside, both, List.map_append,
    List.map_singleton, last]
  exact List.getLast?_concat

theorem tokens_append {value rest : List Char} (piece : PieceBefore value rest)
    (alone : Alone value) (first : ∀ c ∈ value.head?, c ≠ '=') (oneLine : '\n' ∉ value) :
    tokens (front ++ (name ++ op) ++ value ++ rest) =
      tokens (front ++ (name ++ op)) ++ String.ofList value :: tokens rest := by
  have whole : front ++ (name ++ op) ++ value ++ rest =
      front ++ ((name ++ (op ++ value)) ++ rest) := by simp
  have apart : unglue (name ++ (op ++ value)) = [name, op] ++ [value] := by
    rw [h.unglue_eq first, if_neg oneLine, if_neg piece.some]
  rw [tokens_eq_joinNotIn, whole, parts_append before outside,
    parts_append_of_piece (h.pieceBefore piece), apart, tokens_eq_joinNotIn,
    h.parts_append_eq before outside]
  have last := joinNotIn_append_cons alone.notIn alone.notNot
    ((parts front ++ [name, op]).map String.ofList) ((parts rest).map String.ofList)
  rw [← tokens_eq_joinNotIn] at last
  rw [← last]
  simp

end Behind

end IsGlue

/-- A name, a comparison and a mark, and contents that do not hold the mark. -/
structure IsQuotedCondition (name op : List Char) (q : Char) (contents : List Char) : Prop where
  name : FieldName.isIdentifier name = true
  comparison : op ∈ comparisonTexts
  mark : isQuote q = true
  free : q ∉ contents

def glued (name op : List Char) (q : Char) (contents : List Char) : List Char :=
  name ++ (op ++ quotation q contents)

def apart (name op : List Char) (q : Char) (contents : List Char) : List Char :=
  name ++ ' ' :: (op ++ ' ' :: quotation q contents)

namespace IsQuotedCondition

variable {name op : List Char} {q : Char} {contents : List Char}
  (h : IsQuotedCondition name op q contents)

include h

theorem isGlue : IsGlue name op := ⟨h.name, h.comparison⟩

theorem isValueText : IsValueText (quotation q contents) :=
  (IsScalarText.quotation h.mark h.free).isValueText

theorem unglue_glued : unglue (glued name op q contents) =
    if '\n' ∈ contents then [glued name op q contents] else [name, op, quotation q contents] := by
  have marks : q = '\'' ∨ q = '"' := by simpa [isQuote] using h.mark
  have differ : '\n' ≠ q ∧ q ≠ '=' := by
    rcases marks with rfl | rfl <;> decide
  have first : ∀ c ∈ (quotation q contents).head?, c ≠ '=' := by
    intro c m
    cases m
    exact differ.2
  have feed : '\n' ∈ quotation q contents ↔ '\n' ∈ contents := by simp [quotation, differ.1]
  have some : quotation q contents ≠ [] := List.cons_ne_nil _ _
  have cut := h.isGlue.unglue_eq first
  simp only [feed, some, if_false] at cut
  exact cut

theorem alone_glued (feed : '\n' ∈ contents) : Alone (glued name op q contents) := by
  have m : q ∈ glued name op q contents := by simp [glued, quotation]
  have other := unreserved_of_mem m (not_isAlpha_of_isQuote h.mark)
  have apart {w : String} (reserved : w ∈ reservedWords) :
      sameWord (String.ofList (glued name op q contents)) w = false := by
    rw [sameWord, String.toList_ofList]
    exact other w reserved
  refine ⟨?_, apart (by decide), apart (by decide)⟩
  rw [h.unglue_glued, if_pos feed]

theorem parts_append_name {front : List Char}
    (before : ∀ c ∈ front.getLast?, isBlank c = true)
    (outside : Nesting.outside.afterText .roundOrSquare front = .outside) :
    parts (front ++ name) = parts front ++ [name] := by
  have alone := parts_append_of_piece (h.isGlue.isPlainWord_name.piece.before (nofun : AtBlank []))
  rw [List.append_nil] at alone
  rw [parts_append before outside, alone, h.isGlue.unglue_name]
  rfl

theorem tokens_append_name {front : List Char}
    (before : ∀ c ∈ front.getLast?, isBlank c = true)
    (outside : Nesting.outside.afterText .roundOrSquare front = .outside)
    (other : sameLetters name "IN".toList = false) :
    tokens (front ++ name) = tokens front ++ [String.ofList name] := by
  have notIn : sameWord (String.ofList name) "IN" = false := by
    rwa [sameWord, String.toList_ofList]
  rw [tokens_eq_joinNotIn, h.parts_append_name before outside, List.map_append]
  exact joinNotIn_append notIn _ []

section Context

variable {front rest : List Char}

theorem tokens_ne_of_within
    (within : Nesting.outside.afterText .roundOrSquare front ≠ .outside) :
    tokens (front ++ (glued name op q contents ++ rest)) ≠
      tokens (front ++ (apart name op q contents ++ rest)) := by
  intro same
  generalize state : Nesting.outside.afterText .roundOrSquare front = s at within
  have inside : s.isOutside = false := by
    rw [← Bool.not_eq_true]
    intro outside
    exact within (Nesting.eq_outside outside)
  have unopened : ∀ q ∈ Nesting.outside.mark, isQuote q = true := nofun
  have marks : ∀ q ∈ s.mark, isQuote q = true := by
    rw [← state, Nesting.mark_afterText]
    exact isQuote_of_markAfter unopened front
  have plain {word : List Char} (h : IsPlainWord word) :
      ∀ c ∈ word, isQuote c = false ∧ Brackets.roundOrSquare.Ignore c := by
    intro c m
    exact ⟨not_isQuote_of_isPlain (h.plain c m), spare_roundOrSquare c (h.plain c m)⟩
  have blank : ∀ c ∈ [' '], isQuote c = false ∧ Brackets.roundOrSquare.Ignore c :=
    List.forall_mem_singleton.mpr ⟨by decide, by decide, by decide⟩
  have kept (text : List Char) : unspaced .outside (front ++ text) =
      unspaced .outside front ++ unspaced s text := by
    rw [unspaced_append, state]
  have short : unspaced s (glued name op q contents ++ rest) =
      name ++ (op ++ unspaced s (quotation q contents ++ rest)) := by
    rw [glued, List.append_assoc, unspaced_within inside marks (plain h.isGlue.isPlainWord_name),
      List.append_assoc, unspaced_within inside marks (plain h.isGlue.isPlainWord_op)]
  have long : unspaced s (apart name op q contents ++ rest) =
      name ++ ([' '] ++ (op ++ ([' '] ++ unspaced s (quotation q contents ++ rest)))) := by
    have shape : apart name op q contents ++ rest =
        name ++ ([' '] ++ (op ++ ([' '] ++ (quotation q contents ++ rest)))) := by simp [apart]
    rw [shape, unspaced_within inside marks (plain h.isGlue.isPlainWord_name),
      unspaced_within inside marks blank,
      unspaced_within inside marks (plain h.isGlue.isPlainWord_op), unspaced_within inside marks blank]
  have stands := standFor_tokens (front ++ (glued name op q contents ++ rest))
  rw [same] at stands
  have lengths := stands.length_flatten_eq (standFor_tokens _)
  rw [(laidOut_parts _).flatten_eq, (laidOut_parts _).flatten_eq, kept, kept, short, long] at lengths
  simp only [List.length_append, List.length_singleton] at lengths
  omega

variable (set : SetOff front rest)
  (outside : Nesting.outside.afterText .roundOrSquare front = .outside)

include set outside

theorem parts_apart : parts (front ++ (apart name op q contents ++ rest)) =
    (parts front ++ [name]) ++ op :: quotation q contents :: parts rest := by
  have value := h.isValueText
  have blank : isBlank ' ' = true := by decide
  have shape : apart name op q contents ++ rest =
      name ++ (' ' :: (op ++ (' ' :: (quotation q contents ++ rest)))) := by simp [apart]
  rw [shape, parts_append set.before outside,
    parts_append_of_piece (h.isGlue.isPlainWord_name.piece.before (atBlank_cons blank _)),
    parts_cons_blank blank,
    parts_append_of_piece (h.isGlue.isPlainWord_op.piece.before (atBlank_cons blank _)),
    parts_cons_blank blank, parts_append_of_piece (value.piece.before set.behind),
    h.isGlue.unglue_name, h.isGlue.alone_op.unglue, value.alone.unglue]
  simp

theorem parts_glued : parts (front ++ (glued name op q contents ++ rest)) =
    parts front ++ (unglue (glued name op q contents) ++ parts rest) := by
  have piece := h.isGlue.pieceBefore (h.isValueText.piece.before set.behind)
  rw [parts_append set.before outside, glued, parts_append_of_piece piece]

/-- Of the three tokens only the first can join with a token in front of it. -/
theorem tokens_apart : tokens (front ++ (apart name op q contents ++ rest)) =
    tokens (front ++ name) ++ String.ofList op :: String.ofList (quotation q contents) ::
      tokens rest := by
  have value := h.isValueText.alone
  have comparison := h.isGlue.alone_op
  have last := joinNotIn_append_cons value.notIn value.notNot [] ((parts rest).map String.ofList)
  rw [List.nil_append] at last
  rw [tokens_eq_joinNotIn, tokens_eq_joinNotIn, h.parts_apart set outside,
    h.parts_append_name set.before outside, List.map_append, List.map_cons, List.map_cons,
    joinNotIn_append_cons comparison.notIn comparison.notNot, last]
  rfl

theorem tokens_glued_eq_iff : tokens (front ++ (glued name op q contents ++ rest)) =
    tokens (front ++ (apart name op q contents ++ rest)) ↔ '\n' ∉ contents := by
  constructor
  · intro same feed
    have alone := h.alone_glued feed
    have whole : tokens (front ++ (glued name op q contents ++ rest)) =
        tokens front ++ String.ofList (glued name op q contents) :: tokens rest := by
      rw [tokens_eq_joinNotIn, h.parts_glued set outside, alone.unglue, List.map_append,
        List.singleton_append, List.map_cons, joinNotIn_append_cons alone.notIn alone.notNot]
      rfl
    rw [h.tokens_apart set outside, whole] at same
    -- In front of the same tokens, one list ends in the condition and the other in the quotation.
    have ends : tokens front ++ [String.ofList (glued name op q contents)] =
        (tokens (front ++ name) ++ [String.ofList op]) ++
          [String.ofList (quotation q contents)] := by
      refine List.append_cancel_right (?_ : _ ++ tokens rest = _ ++ tokens rest)
      simpa using same
    have last := (List.append_inj' ends rfl).2
    have token := String.ofList_injective (List.cons.inj last).1
    obtain ⟨c, more, rfl, start, -⟩ := h.isGlue.exists_cons
    have first : c = q := (List.cons.inj token).1
    rw [first] at start
    have letters : isNameStart '\'' = false ∧ isNameStart '"' = false := by decide
    have marks : q = '\'' ∨ q = '"' := by simpa [isQuote] using h.mark
    rcases marks with rfl | rfl
    · rw [letters.1] at start
      cases start
    · rw [letters.2] at start
      cases start
  · intro free
    have same : parts (front ++ (glued name op q contents ++ rest)) =
        parts (front ++ (apart name op q contents ++ rest)) := by
      rw [h.parts_glued set outside, h.unglue_glued, if_neg free, h.parts_apart set outside]
      simp
    rw [tokens_eq_joinNotIn, same]
    rfl

end Context

end IsQuotedCondition

/-- A condition on a quotation has the tokens that it has with blanks around its comparison exactly
when the quotation holds no line feed. -/
theorem glued_condition_reads_as_apart_iff {name op : List Char} {q : Char} {contents : List Char}
    (h : IsQuotedCondition name op q contents) :
    tokens (apart name op q contents) =
      [String.ofList name, String.ofList op, String.ofList (quotation q contents)] ∧
    (tokens (glued name op q contents) = tokens (apart name op q contents) ↔ '\n' ∉ contents) ∧
    ∀ front rest, SetOff front rest →
      (Nesting.outside.afterText .roundOrSquare front = .outside →
        tokens (front ++ (apart name op q contents ++ rest)) =
          tokens (front ++ name) ++ String.ofList op :: String.ofList (quotation q contents) ::
            tokens rest ∧
        (sameLetters name "IN".toList = false →
          tokens (front ++ name) = tokens front ++ [String.ofList name])) ∧
      (tokens (front ++ (glued name op q contents ++ rest)) =
          tokens (front ++ (apart name op q contents ++ rest)) ↔
        Nesting.outside.afterText .roundOrSquare front = .outside ∧ '\n' ∉ contents) := by
  have alone : SetOff [] [] := ⟨nofun, nofun⟩
  refine ⟨?_, ?_, ?_⟩
  · have whole := h.tokens_apart alone rfl
    have first : tokens name = [String.ofList name] := by
      rw [tokens_eq_joinNotIn, ← List.nil_append name, h.parts_append_name alone.before rfl]
      rfl
    rw [List.append_nil, List.nil_append, List.nil_append, first] at whole
    exact whole
  · have same := h.tokens_glued_eq_iff alone rfl
    simpa only [List.append_nil, List.nil_append] using same
  · intro front rest set
    refine ⟨?_, ?_⟩
    · intro outside
      exact ⟨h.tokens_apart set outside, h.tokens_append_name set.before outside⟩
    · constructor
      · intro same
        by_cases outside : Nesting.outside.afterText .roundOrSquare front = .outside
        · exact ⟨outside, (h.tokens_glued_eq_iff set outside).mp same⟩
        · exact absurd same (h.tokens_ne_of_within outside)
      · rintro ⟨outside, free⟩
        exact (h.tokens_glued_eq_iff set outside).mpr free

theorem glued_condition_reads_as_apart_of_title :
    IsQuotedCondition "title".toList "!=".toList '"' "it's (a) b".toList ∧
    SetOff "a IN (1, 2) AND NOT ".toList " OR b = 2".toList ∧
    tokens "a IN (1, 2) AND NOT title!=\"it's (a) b\" OR b = 2".toList =
      ["a", "IN", "(1, 2)", "AND", "NOT", "title", "!=", "\"it's (a) b\"", "OR", "b", "=", "2"] := by
  have condition : IsQuotedCondition "title".toList "!=".toList '"' "it's (a) b".toList :=
    ⟨by decide, by decide, by decide, by decide⟩
  have set : SetOff "a IN (1, 2) AND NOT ".toList " OR b = 2".toList := ⟨by decide, by decide⟩
  have outside : Nesting.outside.afterText .roundOrSquare "a IN (1, 2) AND NOT ".toList =
      .outside := by decide
  obtain ⟨-, -, within⟩ := glued_condition_reads_as_apart_iff condition
  obtain ⟨shown, same⟩ := within _ _ set
  obtain ⟨whole, name⟩ := shown outside
  have glued := same.mpr ⟨outside, by decide⟩
  rw [whole, name (by decide)] at glued
  have before : tokens "a IN (1, 2) AND NOT ".toList =
      ["a", "IN", "(1, 2)", "AND", "NOT"] := by decide
  have behind : tokens " OR b = 2".toList = ["OR", "b", "=", "2"] := by decide
  rw [before, behind] at glued
  exact ⟨condition, set, glued⟩

theorem line_feed_keeps_condition_whole :
    IsQuotedCondition "note".toList "=".toList '\'' "a\nb".toList ∧
    tokens "note = 'a\nb'".toList = ["note", "=", "'a\nb'"] ∧
    tokens "note='a\nb'".toList = ["note='a\nb'"] :=
  ⟨⟨by decide, by decide, by decide, by decide⟩, by decide, by decide⟩

end Token

end DocQuery
