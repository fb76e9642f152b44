import DocQuery.Proofs.Text.Scanning
import DocQuery.Query.Token

/-!
# Tokens of joined texts

A blank outside quotations and brackets separates the tokens before it from those after it. A
token that neither begins like a name nor joins with a neighbour stands by itself.
-/

namespace DocQuery.Token

open Text

def AtBlank (text : List Char) : Prop := ∀ c ∈ text.head?, isBlank c = true

instance (text : List Char) : Decidable (AtBlank text) :=
  inferInstanceAs (Decidable (∀ c ∈ text.head?, _))

theorem atBlank_cons {c : Char} (blank : isBlank c = true) (text : List Char) :
    AtBlank (c :: text) := by
  intro d m
  cases m
  exact blank

/-- The text ends with a blank outside quotations and brackets. -/
def EndsOutside (text : List Char) : Prop :=
  ∃ front c, text = front ++ [c] ∧ isBlank c = true ∧
    Nesting.outside.afterText .roundOrSquare front = .outside

/-- One piece of a filter: no blank of it is outside quotations and brackets, and all of these are
closed at its end. -/
structure Piece (text : List Char) : Prop where
  some : text ≠ []
  uncut : Uncut .roundOrSquare isBlank .outside text
  outside : Nesting.outside.afterText .roundOrSquare text = .outside

/-- A piece of a filter that the rest does not go on with: the rest is over, or begins with a blank
outside quotations and brackets. -/
structure PieceBefore (text rest : List Char) : Prop where
  some : text ≠ []
  uncut : Uncut .roundOrSquare isBlank .outside text
  stop : ∀ c ∈ rest.head?, isBlank c = true ∧
    Nesting.outside.afterText .roundOrSquare text = .outside

theorem Piece.before {text rest : List Char} (h : Piece text) (stop : AtBlank rest) :
    PieceBefore text rest where
  some := h.some
  uncut := h.uncut
  stop := fun c m => ⟨stop c m, h.outside⟩

theorem quoteAfter_blank {c : Char} (h : isBlank c = true) : quoteAfter none c = none := by
  simp [quoteAfter, not_isQuote_of_isBlank h]

theorem after_blank {c : Char} (h : isBlank c = true) :
    Nesting.outside.after .roundOrSquare c = .outside := by
  have plain := Brackets.roundOrSquare_ignore_blank h
  simp [Nesting.after, Nesting.outside, quoteAfter_blank h, plain.1, plain.2]

theorem EndsOutside.afterText {text : List Char} (h : EndsOutside text) :
    Nesting.outside.afterText .roundOrSquare text = .outside := by
  obtain ⟨front, c, rfl, blank, outside⟩ := h
  rw [Nesting.afterText_append, outside, Nesting.afterText_cons, after_blank blank]
  rfl

theorem outside_cut {c : Char} (h : isBlank c = true) :
    (Nesting.outside.isOutside && isBlank c) = true := by
  rw [h]
  rfl

theorem pieces_append_blank {front : List Char} {c : Char} (blank : isBlank c = true)
    (outside : Nesting.outside.afterText .roundOrSquare front = .outside) (rest : List Char) :
    pieces (front ++ c :: rest) = pieces front ++ pieces rest := by
  have cut : ((Nesting.outside.afterText .roundOrSquare front).isOutside && isBlank c) = true := by
    rw [outside]
    exact outside_cut blank
  unfold pieces
  rw [splitOutside_append_cut cut, outside, after_blank blank, List.filter_append]

theorem pieces_append {text : List Char} (h : EndsOutside text) (rest : List Char) :
    pieces (text ++ rest) = pieces text ++ pieces rest := by
  obtain ⟨front, c, rfl, blank, outside⟩ := h
  have split := pieces_append_blank blank outside
  have none : pieces [] = [] := by decide
  rw [List.append_assoc, List.singleton_append, split, split, none, List.append_nil]

theorem pieces_cons_blank {c : Char} (h : isBlank c = true) (rest : List Char) :
    pieces (c :: rest) = pieces rest := by
  unfold pieces
  rw [splitOutside_of_cut (outside_cut h), after_blank h]
  rfl

theorem pieces_of_uncut {text : List Char} (some : text ≠ [])
    (uncut : Uncut .roundOrSquare isBlank .outside text) : pieces text = [text] := by
  simp [pieces, splitOutside_of_uncut uncut, some]

theorem pieces_append_of_piece {text rest : List Char} (h : PieceBefore text rest) :
    pieces (text ++ rest) = text :: pieces rest := by
  have alone := pieces_of_uncut h.some h.uncut
  cases rest with
  | nil =>
    rw [List.append_nil, alone]
    rfl
  | cons c rest =>
    obtain ⟨blank, outside⟩ := h.stop c rfl
    simp only [pieces_append_blank blank outside, alone, pieces_cons_blank blank,
      List.singleton_append]

/-- A token of its own: it is no name before a comparison, and no half of `NOT IN`. -/
structure Alone (text : List Char) : Prop where
  unglue : unglue text = [text]
  notIn : sameWord (String.ofList text) "IN" = false
  notNot : sameWord (String.ofList text) "NOT" = false

/-- A token other than `IN` joins with nothing in front of it. -/
theorem joinNotIn_append {word : String} (notIn : sameWord word "IN" = false)
    (front rest : List String) :
    joinNotIn (front ++ word :: rest) = joinNotIn front ++ joinNotIn (word :: rest) := by
  induction front using joinNotIn.induct with
  | case1 a b front joined ih =>
    rw [List.cons_append, List.cons_append, joinNotIn, if_pos joined, ih, joinNotIn, if_pos joined]
    rfl
  | case2 a b front apart ih =>
    rw [List.cons_append, List.cons_append, joinNotIn, if_neg apart, ← List.cons_append, ih,
      joinNotIn, if_neg apart]
    rfl
  | case3 front short =>
    match front, short with
    | [], _ => rfl
    | [a], _ => simp [joinNotIn, notIn]
    | a :: b :: front, short => exact absurd rfl (short a b front)

theorem joinNotIn_append_cons {word : String} (notIn : sameWord word "IN" = false)
    (notNot : sameWord word "NOT" = false) (front rest : List String) :
    joinNotIn (front ++ word :: rest) = joinNotIn front ++ word :: joinNotIn rest := by
  have first : joinNotIn (word :: rest) = word :: joinNotIn rest := by
    cases rest with
    | nil => rfl
    | cons second rest => simp [joinNotIn, notNot]
  rw [joinNotIn_append notIn, first]

theorem tokens_append {front token rest : List Char} (ends : EndsOutside front)
    (piece : PieceBefore token rest) (alone : Alone token) :
    tokens (front ++ token ++ rest) =
      tokens front ++ String.ofList token :: tokens rest := by
  have glued : pieces (front ++ token ++ rest) = pieces front ++ token :: pieces rest := by
    rw [List.append_assoc, pieces_append ends, pieces_append_of_piece piece]
  unfold tokens
  rw [glued, List.flatMap_append, List.flatMap_cons, alone.unglue, List.map_append,
    List.singleton_append, List.map_cons, joinNotIn_append_cons alone.notIn alone.notNot]

end DocQuery.Token
