import DocQuery.Proofs.Number.RoundTrip
import DocQuery.Proofs.Query.Atoms
import DocQuery.Proofs.Time.Numerals

/-!
# Values of written conditions

The text of a scalar stands for that scalar again, and a bracketed list of such texts for the list
of them. Either is one token of a filter.
-/

namespace DocQuery

open Text

theorem isNameStart_of_isDigit {c : Char} (h : c.isDigit = true) : isNameStart c = false := by
  unfold isNameStart
  rw [not_isAlpha_of_isDigit h, Bool.false_or, beq_eq_false_iff_ne]
  rintro rfl
  exact absurd h (by decide)

theorem Numeral.isPlain_exponentText (n : Int) : ∀ c ∈ exponentText n, isPlain c = true := by
  intro c m
  unfold exponentText at m
  rcases List.mem_cons.mp m with rfl | m
  · decide
  · rcases List.mem_cons.mp m with rfl | m
    · split <;> decide
    · exact isPlain_of_isDigit (isDigit_of_mem_toDigits c m)

theorem Numeral.Parts.isPlain_text (p : Numeral.Parts) : ∀ c ∈ p.text, isPlain c = true := by
  intro c m
  rcases List.mem_append.mp m with m | m
  · exact isPlain_of_isDigit (p.isDigit_whole c m)
  · rcases List.mem_append.mp m with m | m
    · cases fraction : p.fraction with
      | none =>
        rw [fraction] at m
        cases m
      | some digits =>
        rw [fraction] at m
        rcases List.mem_cons.mp m with rfl | m
        · decide
        · exact isPlain_of_isDigit (p.digits c (List.mem_append_right _ (by rwa [fraction])))
    · cases exponent : p.exponent with
      | none =>
        rw [exponent] at m
        cases m
      | some n =>
        rw [exponent] at m
        exact isPlain_exponentText n c m

theorem Numeral.IsText.isPlain {text : List Char} (h : Numeral.IsText text) :
    ∀ c ∈ text, isPlain c = true := by
  obtain ⟨negative, p, rfl⟩ := h
  intro c m
  rcases List.mem_append.mp m with m | m
  · cases negative with
    | true =>
      rw [List.mem_singleton.mp m]
      decide
    | false => cases m
  · exact p.isPlain_text c m

theorem Numeral.IsText.head {text : List Char} (h : Numeral.IsText text) :
    ∃ c rest, text = c :: rest ∧ isNameStart c = false := by
  obtain ⟨negative, p, rfl⟩ := h
  cases negative with
  | true => exact ⟨'-', p.text, rfl, by decide⟩
  | false =>
    obtain ⟨c, rest, text, digit⟩ := p.text_eq_cons
    exact ⟨c, rest, text, isNameStart_of_isDigit digit⟩

theorem isScalarText_of_head {c : Char} {rest : List Char}
    (plain : ∀ d ∈ c :: rest, isPlain d = true) (start : isNameStart c = false) :
    IsScalarText (c :: rest) := by
  refine .word ⟨by simp, plain⟩ (by simp [Token.unglue, start]) ?_
  apply unreserved_of_mem (List.mem_cons_self ..)
  simp only [isNameStart, Bool.or_eq_false_iff] at start
  exact start.1

theorem Numeral.IsText.isScalarText {text : List Char} (h : Numeral.IsText text) :
    IsScalarText text := by
  have plain := h.isPlain
  obtain ⟨c, rest, rfl, start⟩ := h.head
  exact isScalarText_of_head plain start

theorem Instant.IsShown.isPlain_text {t : Instant} (h : t.IsShown) :
    ∀ c ∈ t.text.toList, isPlain c = true := by
  have digits (width n : Nat) : (padZeros width n).all isPlain = true :=
    List.all_eq_true.mpr fun c m => isPlain_of_isDigit (isDigit_of_mem_padZeros c m)
  have mark : isPlain '-' = true ∧ isPlain 'T' = true ∧ isPlain ':' = true ∧ isPlain '.' = true ∧
      isPlain 'Z' = true := by decide
  rw [← List.all_eq_true, h.text_eq]
  simp only [List.all_append, List.all_cons, List.all_nil, digits, mark, Bool.and_self]

theorem Instant.IsShown.isScalarText {t : Instant} (h : t.IsShown) :
    IsScalarText t.text.toList := by
  have plain := h.isPlain_text
  have year : ∀ c ∈ padZeros 4 t.date.year.toNat, c.isDigit = true := isDigit_of_mem_padZeros
  have some : padZeros 4 t.date.year.toNat ≠ [] := by simp [padZeros]
  obtain ⟨c, more, first⟩ := List.exists_cons_of_ne_nil some
  rw [first] at year
  rw [h.text_eq, first, List.cons_append] at plain ⊢
  exact isScalarText_of_head plain (isNameStart_of_isDigit (year c (List.mem_cons_self ..)))

theorem unquote_quotation {q : Char} (hq : isQuote q = true) (contents : List Char) :
    unquote (quotation q contents) = contents := by
  have ends : (contents ++ [q]).getLast? = some q := List.getLast?_concat
  have both : (isQuote q && some q == some q) = true := by simp [hq]
  rw [quotation, List.cons_append, unquote, ends, if_pos both, List.dropLast_concat]

theorem unquote_of_isPlain {text : List Char} (plain : ∀ c ∈ text, isPlain c = true) :
    unquote text = text := by
  cases text with
  | nil => rfl
  | cons c text =>
    have mark := not_isQuote_of_isPlain (plain c (List.mem_cons_self ..))
    simp [unquote, mark]

namespace Literal

theorem ofBareText_of_instant {text : List Char} {t : Instant}
    (h : Stamp.literal? text = some t) : ofBareText text = .instant t := by
  unfold ofBareText
  rw [h]

theorem ofBareText_of_number {text : List Char} {x : Binary64}
    (none : Stamp.literal? text = none) (h : Numeral.read? text = some x) :
    ofBareText text = .number x := by
  unfold ofBareText
  rw [none]
  dsimp only
  rw [h]

theorem ofText_text {t : Instant} (h : t.IsShown) : ofText t.text.toList = .instant t := by
  unfold ofText
  rw [unquote_of_isPlain h.isPlain_text, ofBareText_of_instant (Instant.literal?_text h)]

section Scalars

variable (style : WritingStyle) {v : Literal} (h : v.IsWritableScalar)

theorem toList_doubleQuoted (s : String) : (doubleQuoted s).toList = quotation '"' s.toList :=
  String.toList_ofList

include h

theorem isScalarText : IsScalarText (v.scalarText style).toList := by
  have double : isQuote '"' = true := by decide
  cases v with
  | string s =>
    show IsScalarText (doubleQuoted s).toList
    rw [toList_doubleQuoted]
    exact .quotation double h.1
  | number x => exact (read?_numberToJson h).1.isScalarText
  | boolean b =>
    cases b with
    | false =>
      show IsScalarText "false".toList
      exact isScalarText_of_name (by decide) (by decide) (by decide)
    | true =>
      show IsScalarText "true".toList
      exact isScalarText_of_name (by decide) (by decide) (by decide)
  | null =>
    show IsScalarText "null".toList
    exact isScalarText_of_name (by decide) (by decide) (by decide)
  | instant t =>
    have shown : t.IsShown := h
    have word := shown.isScalarText
    show IsScalarText (if style.quotedInstants then doubleQuoted t.text else t.text).toList
    split
    · rw [toList_doubleQuoted]
      exact .quotation double fun m => absurd (shown.isPlain_text _ m) (by decide)
    · exact word
  | list items => exact h.elim

theorem ofText_scalarText : ofText (v.scalarText style).toList = v := by
  have double : isQuote '"' = true := by decide
  cases v with
  | string s =>
    show ofText (doubleQuoted s).toList = _
    unfold ofText
    rw [toList_doubleQuoted, unquote_quotation double, h.2]
  | number x =>
    obtain ⟨text, reads⟩ := read?_numberToJson h
    obtain ⟨d, numeral⟩ := text.unsigned?
    show ofText (numberToJson x).compact.toList = _
    unfold ofText
    rw [unquote_of_isPlain text.isPlain,
      ofBareText_of_number (Stamp.literal?_of_numeral numeral) reads]
  | boolean b =>
    cases b with
    | false =>
      show ofText "false".toList = _
      rfl
    | true =>
      show ofText "true".toList = _
      rfl
  | null =>
    show ofText "null".toList = _
    rfl
  | instant t =>
    have shown : t.IsShown := h
    show ofText (if style.quotedInstants then doubleQuoted t.text else t.text).toList = _
    split
    · rw [ofText, toList_doubleQuoted, unquote_quotation double,
        ofBareText_of_instant (Instant.literal?_text shown)]
    · exact ofText_text shown
  | list items => exact h.elim

end Scalars

end Literal

section Lists

variable {texts : List (List Char)} (scalars : ∀ text ∈ texts, IsScalarText text)

include scalars

theorem within_listed : Uncut .roundOrSquare isBlank ⟨none, 1⟩ (listed texts) ∧
    Nesting.afterText .roundOrSquare ⟨none, 1⟩ (listed texts) = ⟨none, 1⟩ := by
  induction texts with
  | nil => exact ⟨trivial, rfl⟩
  | cons first texts ih =>
    have whole := (scalars first (List.mem_cons_self ..)).within 1
    cases texts with
    | nil =>
      rw [listed_singleton]
      exact whole
    | cons second texts =>
      obtain ⟨uncut, after⟩ := ih fun t m => scalars t (List.mem_cons_of_mem _ m)
      have comma : Nesting.afterText .roundOrSquare ⟨none, 1⟩ [',', ' '] = ⟨none, 1⟩ := by decide
      have kept : Uncut .roundOrSquare isBlank ⟨none, 1⟩ [',', ' '] := by decide
      have split : listed (first :: second :: texts) =
          first ++ ([',', ' '] ++ listed (second :: texts)) := listed_cons_cons ..
      rw [split]
      constructor
      · rw [uncut_append, whole.2, uncut_append, comma]
        exact ⟨whole.1, kept, uncut⟩
      · rw [Nesting.afterText_append, whole.2, Nesting.afterText_append, comma, after]

variable {opening closing : Char} (pair : (opening, closing) ∈ [('(', ')'), ('[', ']')])

include pair

theorem settled_bracketed : Settled (opening :: (listed texts ++ [closing])) := by
  have plain : (opening.isAlpha = false ∧ isGap opening = false ∧ isQuote opening = false) ∧
      closing.isAlpha = false ∧ isGap closing = false ∧ isQuote closing = false := by
    rcases bracket_pair pair with ⟨rfl, rfl⟩ | ⟨rfl, rfl⟩ <;> decide
  obtain ⟨⟨letter, gap, quote⟩, letter', gap', quote'⟩ := plain
  refine Settled.cons letter gap quote ?_
  by_cases some : texts = []
  · rw [some]
    have bare : Gapless [] := trivial
    exact settled_append_mark bare rfl letter' gap' quote'
  · exact settled_listed some
      (fun t m => (scalars t m).settled_append (by decide) (by decide) (by decide))
      fun t m => (scalars t m).settled_append letter' gap' quote'

theorem piece_bracketed : Token.Piece (opening :: (listed texts ++ [closing])) := by
  obtain ⟨uncut, after⟩ := within_listed scalars
  have opened : isBlank opening = false ∧
      Nesting.outside.after .roundOrSquare opening = ⟨none, 1⟩ := by
    rcases bracket_pair pair with ⟨rfl, rfl⟩ | ⟨rfl, rfl⟩ <;> decide
  have closed : Uncut .roundOrSquare isBlank ⟨none, 1⟩ [closing] ∧
      Nesting.afterText .roundOrSquare ⟨none, 1⟩ [closing] = .outside := by
    rcases bracket_pair pair with ⟨rfl, rfl⟩ | ⟨rfl, rfl⟩ <;> decide
  refine ⟨by simp, ⟨by rw [opened.1, Bool.and_false], ?_⟩, ?_⟩
  · rw [opened.2, uncut_append, after]
    exact ⟨uncut, closed.1⟩
  · rw [Nesting.afterText_cons, opened.2, Nesting.afterText_append, after, closed.2]

theorem isValueText_bracketed : IsValueText (opening :: (listed texts ++ [closing])) := by
  have opens : opensValue opening = true ∧ isBlank closing = false ∧ closing ≠ ';' := by
    rcases bracket_pair pair with ⟨rfl, rfl⟩ | ⟨rfl, rfl⟩ <;> decide
  have token := valueToken_of_opensValue opens.1 (listed texts ++ [closing])
  exact ⟨settled_bracketed scalars pair, piece_bracketed scalars pair, token.alone, token.inert.connective,
    opening :: listed texts, closing, rfl, opens.2⟩

theorem listOfText?_bracketed : Literal.listOfText? (opening :: (listed texts ++ [closing])) =
    some (.list (texts.map .ofText)) := by
  have none : IsBlanks [] := by decide
  by_cases some : texts = []
  · rw [some]
    rcases bracket_pair pair with ⟨rfl, rfl⟩ | ⟨rfl, rfl⟩ <;> rfl
  · have items := itemsOf_listed (Brackets.ignore_none ',') Brackets.ignore_none_blank some
      (fun t m => (scalars t m).isItem) none none
    rw [List.nil_append, List.append_nil] at items
    have shown := trim_listed_ne_nil some (fun t m => (scalars t m).isItem.solid) [] []
    rw [List.nil_append, List.append_nil] at shown
    rw [listOfText?_of_pair pair shown, items]

end Lists

end DocQuery
