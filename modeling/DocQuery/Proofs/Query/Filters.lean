import DocQuery.Proofs.Query.Chain
import DocQuery.Proofs.Query.Values
import Mathlib.Data.List.Basic

/-!
# Filters of written queries

A filter is written piece by piece: names, operators, values and connectives with blanks between
them. Its pieces become its tokens, where `NOT` and `IN` are one, and the tokens are read as the
predicate again because a chain is cut at its first connective.
-/

namespace DocQuery

open Text

structure IsNameText (text : List Char) : Prop where
  identifier : FieldName.isIdentifier text = true
  unreserved : Unreserved text

namespace IsNameText

variable {text : List Char} (h : IsNameText text)

include h

theorem ne_nil : text ≠ [] := by
  rintro rfl
  exact absurd h.identifier (by decide)

theorem isNameChar : ∀ c ∈ text, isNameChar c = true := isNameChar_of_isIdentifier h.identifier

theorem isScalarText : IsScalarText text :=
  isScalarText_of_name h.ne_nil h.isNameChar h.unreserved

theorem isPlainWord : IsPlainWord text :=
  ⟨h.ne_nil, fun c m => isPlain_of_isNameChar (h.isNameChar c m)⟩

theorem isName : FieldName.isName text = true := by
  unfold FieldName.isName
  rw [h.identifier, Bool.true_or]

theorem bare : FieldName.bare text = text := bare_of_isIdentifier h.identifier

end IsNameText

namespace FieldName

variable {name : String} (h : IsWritable name)

include h

theorem IsWritable.isNameText : IsNameText name.toList := ⟨h.identifier, h.unreserved⟩

theorem IsWritable.display : IsNameText (display name).toList := by
  unfold FieldName.display
  split
  · exact ⟨by decide, by decide⟩
  · exact h.isNameText

theorem IsWritable.shown (style : WritingStyle) : IsNameText (style.name name).toList := by
  unfold WritingStyle.name
  split
  · exact h.isNameText
  · exact h.display

theorem resolve_display : resolve (FieldName.display name) = name := by
  unfold FieldName.display
  split
  · next identity =>
    rw [identity]
    rfl
  · exact if_neg h.stored

theorem resolve_name (style : WritingStyle) : resolve (style.name name) = name := by
  unfold WritingStyle.name
  split
  · exact if_neg h.stored
  · exact resolve_display h

end FieldName

def firstWords : List String := ["SELECT", "FROM", "WHERE", "ORDER", "LIMIT"]

/-- A text between two blanks of a filter: no keyword, and one token at most. -/
structure IsFilterPiece (text : List Char) : Prop where
  settled : Settled text
  piece : Token.Piece text
  unglue : Token.unglue text = [text]
  finished : IsFinished text

theorem settled_of_word {text : List Char} (word : IsPlainWord text)
    (other : ∀ w ∈ firstWords, sameLetters text w.toList = false) : Settled text := by
  apply settled_of_gapless word.gapless word.closed
  intro clause w first
  apply other
  revert first
  cases clause <;> revert w <;> decide

theorem isFilterPiece_of_word {text : List Char} (word : IsPlainWord text)
    (unglue : Token.unglue text = [text])
    (other : ∀ w ∈ firstWords, sameLetters text w.toList = false) : IsFilterPiece text :=
  ⟨settled_of_word word other, word.piece, unglue, word.finished⟩

theorem IsValueText.isFilterPiece {text : List Char} (h : IsValueText text) :
    IsFilterPiece text :=
  ⟨h.settled, h.piece, h.alone.unglue, h.finished⟩

def Operator.words : Operator → List (List Char)
  | .notIn => ["NOT".toList, "IN".toList]
  | op => [op.symbol.toList]

theorem Operator.spaced_words (op : Operator) : spaced op.words = ' ' :: op.symbol.toList := by
  cases op <;> rfl

theorem Operator.isFilterPiece_words (op : Operator) : ∀ word ∈ op.words, IsFilterPiece word := by
  have facts : ∀ word ∈ op.words, (word ≠ [] ∧ ∀ c ∈ word, isPlain c = true) ∧
      Token.unglue word = [word] ∧ ∀ w ∈ firstWords, sameLetters word w.toList = false := by
    cases op <;> decide
  intro word m
  obtain ⟨⟨some, plain⟩, unglue, other⟩ := facts word m
  exact isFilterPiece_of_word ⟨some, plain⟩ unglue other

theorem Token.joinNotIn_condition {name value : List Char} (hn : Token.Alone name) (op : Operator)
    (hv : Token.Alone value) (rest : List String) :
    Token.joinNotIn ((name :: (op.words ++ [value])).map String.ofList ++ rest) =
      [String.ofList name, op.symbol, String.ofList value] ++ Token.joinNotIn rest := by
  have operator : Token.joinNotIn (op.words.map String.ofList) = [op.symbol] := by
    cases op <;> decide
  have first := Token.joinNotIn_append_cons hn.notIn hn.notNot []
  have last := Token.joinNotIn_append_cons hv.notIn hv.notNot (op.words.map String.ofList) rest
  have whole : (name :: (op.words ++ [value])).map String.ofList ++ rest =
      String.ofList name :: (op.words.map String.ofList ++ String.ofList value :: rest) := by simp
  rw [whole, ← List.nil_append (String.ofList name :: _), first, last, operator]
  rfl

namespace WritingStyle

theorem pair (style : WritingStyle) : (style.opening, style.closing) ∈ [('(', ')'), ('[', ']')] := by
  unfold opening closing
  split <;> decide

end WritingStyle

namespace Literal

variable (style : WritingStyle)

theorem written_of_scalar {v : Literal} (h : v.IsWritableScalar) :
    v.written style = v.scalarText style := by
  cases v with
  | list items => exact h.elim
  | _ => rfl

theorem toList_written_list (items : List Literal) :
    (written style (.list items)).toList = style.opening ::
      (listed (items.map fun v => (v.scalarText style).toList) ++ [style.closing]) := by
  have comma : ", ".toList = [',', ' '] := rfl
  unfold written listed
  rw [String.toList_append, String.toList_append, String.toList_intercalate, List.map_map, comma]
  simp [Function.comp_def]

section Items

variable {items : List Literal} (scalars : ∀ v ∈ items, v.IsWritableScalar)

include scalars

theorem isScalarText_items :
    ∀ text ∈ items.map fun v => (v.scalarText style).toList, IsScalarText text := by
  intro text m
  obtain ⟨v, mv, rfl⟩ := List.mem_map.mp m
  exact isScalarText style (scalars v mv)

theorem ofText_items : (items.map fun v => (v.scalarText style).toList).map ofText = items := by
  rw [List.map_map]
  calc items.map (ofText ∘ fun v => (v.scalarText style).toList)
      = items.map id := List.map_congr_left fun v m => ofText_scalarText style (scalars v m)
    _ = items := List.map_id items

end Items

end Literal

theorem Operator.ofToken?_symbol (op : Operator) : ofToken? op.symbol = some op := by
  cases op <;> decide

namespace Condition

section Tokens

variable {field : String} (name : IsNameText field.toList) {op : Operator}

include name

theorem ofTokens_scalar (single : op.takesList = false) {text : String}
    (h : IsScalarText text.toList) :
    ofTokens field op.symbol text = .ok ⟨field, op, .ofText text.toList⟩ := by
  unfold ofTokens
  rw [Operator.ofToken?_symbol, name.bare, String.ofList_toList]
  dsimp only
  rw [single, h.not_isListText]
  rfl

theorem ofTokens_list (several : op.takesList = true) {texts : List (List Char)}
    (scalars : ∀ text ∈ texts, IsScalarText text) {opening closing : Char}
    (pair : (opening, closing) ∈ [('(', ')'), ('[', ']')]) {value : String}
    (written : value.toList = opening :: (listed texts ++ [closing])) :
    ofTokens field op.symbol value = .ok ⟨field, op, .list (texts.map .ofText)⟩ := by
  unfold ofTokens
  rw [Operator.ofToken?_symbol, name.bare, String.ofList_toList, written]
  dsimp only
  rw [several, listOfText?_bracketed scalars pair]
  rfl

end Tokens

end Condition

namespace Condition

variable (style : WritingStyle) {c : Condition} (h : c.IsWritable)

include h

theorem IsWritable.isValueText : IsValueText (c.value.written style).toList := by
  cases takes : c.operator.takesList with
  | true =>
    obtain ⟨items, value, scalars⟩ := h.list takes
    rw [value, Literal.toList_written_list]
    exact isValueText_bracketed (Literal.isScalarText_items style scalars) style.pair
  | false =>
    have scalar := h.scalar takes
    rw [Literal.written_of_scalar style scalar]
    exact (Literal.isScalarText style scalar).isValueText

theorem ofTokens_written :
    ofTokens (style.name c.field) c.operator.symbol (c.value.written style) =
      .ok { c with field := style.name c.field } := by
  have name := h.field.shown style
  cases takes : c.operator.takesList with
  | true =>
    obtain ⟨items, value, scalars⟩ := h.list takes
    have written := Literal.toList_written_list style items
    rw [← value] at written
    rw [ofTokens_list name takes (Literal.isScalarText_items style scalars) style.pair written,
      Literal.ofText_items style scalars, ← value]
  | false =>
    have scalar := h.scalar takes
    rw [Literal.written_of_scalar style scalar,
      ofTokens_scalar name takes (Literal.isScalarText style scalar),
      Literal.ofText_scalarText style scalar]

def pieces (c : Condition) : List (List Char) :=
  (style.name c.field).toList :: (c.operator.words ++ [(c.value.written style).toList])

def tokens (c : Condition) : List String :=
  [style.name c.field, c.operator.symbol, c.value.written style]

omit h in
theorem spaced_pieces : spaced (c.pieces style) = ' ' :: (c.written style).toList := by
  have blank : " ".toList = [' '] := rfl
  unfold pieces written
  rw [spaced_cons, spaced_append, Operator.spaced_words]
  simp [blank]

theorem isFilterPiece_pieces : ∀ text ∈ c.pieces style, IsFilterPiece text := by
  intro text m
  rcases List.mem_cons.mp m with rfl | m
  · exact (h.field.shown style).isScalarText.isValueText.isFilterPiece
  · rcases List.mem_append.mp m with m | m
    · exact c.operator.isFilterPiece_words text m
    · rw [List.mem_singleton.mp m]
      exact (h.isValueText style).isFilterPiece

theorem joinNotIn_pieces (rest : List String) :
    Token.joinNotIn ((c.pieces style).map String.ofList ++ rest) =
      c.tokens style ++ Token.joinNotIn rest := by
  have name := (h.field.shown style).isScalarText.isValueText.alone
  have value := (h.isValueText style).alone
  have joined := Token.joinNotIn_condition name c.operator value rest
  rw [String.ofList_toList, String.ofList_toList] at joined
  exact joined

end Condition

namespace Connective

theorem isFilterPiece_word (connective : Connective) : IsFilterPiece connective.word.toList := by
  cases connective <;>
    exact isFilterPiece_of_word ⟨by decide, by decide⟩ (by decide) (by decide)

theorem ofToken?_word (connective : Connective) : ofToken? connective.word = some connective := by
  cases connective <;> decide

end Connective

namespace Predicate

variable (style : WritingStyle)

def pieces : Predicate → List (List Char)
  | .condition c => c.pieces style
  | .joined connective left right =>
    left.pieces ++ connective.word.toList :: right.pieces

def tokens : Predicate → List String
  | .condition c => c.tokens style
  | .joined connective left right => left.tokens ++ connective.word :: right.tokens

theorem pieces_ne_nil (p : Predicate) : p.pieces style ≠ [] := by
  cases p <;> simp [pieces, Condition.pieces]

theorem spaced_pieces (p : Predicate) : spaced (p.pieces style) = ' ' :: (p.written style).toList := by
  induction p with
  | condition c => exact Condition.spaced_pieces style
  | joined connective left right ihl ihr =>
    have blank : " ".toList = [' '] := rfl
    unfold pieces written
    rw [spaced_append, spaced_cons, ihl, ihr]
    simp [blank]

section Chain

variable {p : Predicate} (h : p.IsWritable)

include h

theorem isFilterPiece_pieces : ∀ text ∈ p.pieces style, IsFilterPiece text := by
  induction h with
  | condition hc => exact Condition.isFilterPiece_pieces style hc
  | @joined connective c right hc _ ih =>
    intro text m
    rcases List.mem_append.mp m with m | m
    · exact Condition.isFilterPiece_pieces style hc text m
    · rcases List.mem_cons.mp m with rfl | m
      · exact connective.isFilterPiece_word
      · exact ih text m

theorem isClause_pieces : IsClause (p.pieces style) :=
  isClause_of_texts (p.pieces_ne_nil style) (fun t m => (isFilterPiece_pieces style h t m).settled)
    fun t m => (isFilterPiece_pieces style h t m).finished

theorem joinNotIn_pieces : Token.joinNotIn ((p.pieces style).map String.ofList) = p.tokens style := by
  induction h with
  | condition hc =>
    have whole := Condition.joinNotIn_pieces style hc []
    rw [List.append_nil] at whole
    rw [pieces, whole]
    exact List.append_nil _
  | @joined connective c right hc _ ih =>
    have apart : sameWord connective.word "IN" = false ∧ sameWord connective.word "NOT" = false := by
      cases connective <;> decide
    have next := Token.joinNotIn_append_cons apart.1 apart.2 [] ((right.pieces style).map String.ofList)
    rw [List.nil_append, ih] at next
    rw [pieces, List.map_append, List.map_cons, String.ofList_toList, pieces,
      Condition.joinNotIn_pieces style hc, next]
    rfl

/-- A chain of conditions is cut at its first connective, so its tokens are read as the chain. -/
theorem ofTokens_tokens : ofTokens (p.tokens style) = .ok (p.mapFields style.name) := by
  induction h with
  | condition hc =>
    show ofTokens [_, _, _] = _
    rw [ofTokens_three, Condition.ofTokens_written style hc]
    rfl
  | @joined connective c right hc hr ih =>
    have some : right.tokens style ≠ [] := by
      cases right <;> simp [tokens, Condition.tokens]
    have operator : Connective.ofToken? c.operator.symbol = none := by
      cases c.operator <;> decide
    have value : Connective.ofToken? (c.value.written style) = none := by
      have text := (hc.isValueText style).connective
      rwa [String.ofList_toList] at text
    have cut : splitConnective? (c.tokens style ++ connective.word :: right.tokens style) =
        .some (c.tokens style, connective, right.tokens style) := by
      rw [splitConnective?_eq_some_iff]
      refine ⟨by simp [Condition.tokens], some, ?_, connective.word, rfl, connective.ofToken?_word⟩
      intro token m
      rcases List.mem_cons.mp m with rfl | m
      · exact operator
      · rw [List.mem_singleton.mp m]
        exact value
    have long : (c.tokens style ++ connective.word :: right.tokens style).length ≠ 3 := by
      simp [Condition.tokens]
    have left : ofTokens (c.tokens style) = .ok (.condition { c with field := style.name c.field }) := by
      show ofTokens [_, _, _] = _
      rw [ofTokens_three, Condition.ofTokens_written style hc]
      rfl
    rw [tokens, tokens, ofTokens_of_split long cut, left, ih]
    rfl

theorem resolve_mapFields : (p.mapFields style.name).mapFields FieldName.resolve = p := by
  induction h with
  | condition hc =>
    simp only [mapFields, FieldName.resolve_name hc.field style]
  | joined hc _ ih =>
    simp only [mapFields, FieldName.resolve_name hc.field style, ih]

end Chain

end Predicate

theorem Token.atBlank_ended (texts : List (List Char)) (more : Bool) :
    Token.AtBlank (ended texts more) := by
  have blank : isBlank ' ' = true := by decide
  intro c m
  cases texts with
  | nil =>
    cases more with
    | false => cases m
    | true =>
      cases m
      exact blank
  | cons text texts =>
    cases m
    exact blank

theorem pieces_ended {texts : List (List Char)} (h : ∀ text ∈ texts, Token.Piece text)
    (more : Bool) : Token.pieces (ended texts more) = texts := by
  induction texts with
  | nil => cases more <;> decide
  | cons text texts ih =>
    have blank : isBlank ' ' = true := by decide
    have whole : ended (text :: texts) more = ' ' :: (text ++ ended texts more) := by
      simp [ended]
    have first := (h text (List.mem_cons_self ..)).before (Token.atBlank_ended texts more)
    rw [whole, Token.pieces_cons_blank blank, Token.pieces_append_of_piece first,
      ih fun t m => h t (List.mem_cons_of_mem _ m)]

/-- Every piece of a filter is a token, up to the joining of `NOT` and `IN`. -/
theorem Token.tokens_ended {texts : List (List Char)} (h : ∀ text ∈ texts, IsFilterPiece text)
    (more : Bool) : Token.tokens (ended texts more) = Token.joinNotIn (texts.map String.ofList) := by
  have whole : texts.flatMap Token.unglue = texts := by
    rw [List.flatMap_congr fun text m => (h text m).unglue, List.flatMap_singleton']
  unfold Token.tokens
  rw [pieces_ended (fun text m => (h text m).piece), whole]

theorem Predicate.ofTokens_ended (style : WritingStyle) {p : Predicate} (h : p.IsWritable)
    (more : Bool) : ofTokens (Token.tokens (ended (p.pieces style) more)) =
      .ok (p.mapFields style.name) := by
  rw [Token.tokens_ended (isFilterPiece_pieces style h), joinNotIn_pieces style h,
    ofTokens_tokens style h]

end DocQuery
