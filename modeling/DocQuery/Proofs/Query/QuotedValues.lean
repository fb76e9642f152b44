import DocQuery.Proofs.Query.Replacement
import DocQuery.Proofs.Query.Tokens
import DocQuery.Proofs.Text.Items
import DocQuery.Proofs.Text.Letters

/-!
# Quoted values

A quotation is a token of its own, and a list is one with the quotations in it, whatever these hold.
Two quotations in the place of one value make conditions that differ in that value alone.
-/

namespace DocQuery

open Text

/-- The texts before and after a whole item of a list: the item is set off by blanks alone, on
either side up to a comma outside quotations or to the end of the list. -/
structure ItemPlace (lead follow : List Char) : Prop where
  before : IsBlanks lead ∨ ∃ front blanks,
    lead = front ++ ',' :: blanks ∧ markAfter none front = none ∧ IsBlanks blanks
  after : IsBlanks follow ∨ ∃ blanks back, follow = blanks ++ ',' :: back ∧ IsBlanks blanks

theorem ItemPlace.closed {lead follow : List Char} (h : ItemPlace lead follow) :
    markAfter none lead = none := by
  rcases h.before with blanks | ⟨front, blanks, rfl, closed, hb⟩
  · exact markAfter_of_isBlanks blanks
  · rw [markAfter_append, closed, markAfter_cons]
    exact markAfter_of_isBlanks hb

section Items

variable {q : Char} {contents : List Char} (hq : isQuote q = true) (free : q ∉ contents)

include hq

include free

theorem itemsOf_quotation {x y : List Char} (hx : IsBlanks x) (hy : IsBlanks y) :
    itemsOf .none (x ++ (quotation q contents ++ y)) = [quotation q contents] := by
  have keep : (q == ',') = false := by
    rw [beq_eq_false_iff_ne]
    rintro rfl
    exact absurd hq (by decide)
  have uncut : Uncut .none (· == ',') .outside (quotation q contents) :=
    uncut_quotation hq (Brackets.ignore_none q) keep 0 free
  rw [itemsOf_of_uncut Brackets.ignore_none_blank hx uncut hy, (solid_quotation hq contents).trim hx hy]

end Items

theorem itemsOf_place {lead follow : List Char} (h : ItemPlace lead follow) {q : Char}
    (hq : isQuote q = true) :
    ∃ front back : List (List Char), ∀ contents, q ∉ contents →
      itemsOf .none (lead ++ (quotation q contents ++ follow)) =
        front ++ quotation q contents :: back := by
  -- The item with the blanks before it and all that follows it.
  have last : ∀ blanks, IsBlanks blanks → ∃ back : List (List Char), ∀ contents, q ∉ contents →
      itemsOf .none (blanks ++ (quotation q contents ++ follow)) = quotation q contents :: back := by
    intro blanks hb
    rcases h.after with hf | ⟨blanks', back, rfl, hb'⟩
    · exact ⟨[], fun contents free => itemsOf_quotation hq free hb hf⟩
    · refine ⟨itemsOf .none back, fun contents free => ?_⟩
      have closed : markAfter none (blanks ++ (quotation q contents ++ blanks')) = none := by
        rw [markAfter_append, markAfter_append, markAfter_of_isBlanks hb,
          markAfter_quotation hq free, markAfter_of_isBlanks hb']
      have split := itemsOf_append (Brackets.ignore_none ',') (outside_of_closed closed) back
      rw [itemsOf_quotation hq free hb hb'] at split
      simpa using split
  rcases h.before with hl | ⟨front, blanks, rfl, closed, hb⟩
  · obtain ⟨back, split⟩ := last lead hl
    exact ⟨[], back, split⟩
  · obtain ⟨back, rest⟩ := last blanks hb
    refine ⟨itemsOf .none front, back, fun contents free => ?_⟩
    rw [List.append_assoc, List.cons_append, itemsOf_append (Brackets.ignore_none ',')
      (outside_of_closed closed), rest contents free]

/-- A token that can only be the value of a condition. -/
structure ValueToken (text : List Char) : Prop where
  alone : Token.Alone text
  inert : Inert (String.ofList text)
  first : ∀ c ∈ text.head?, c ≠ '='

def opensValue (c : Char) : Bool :=
  isQuote c || c == '(' || c == '['

theorem opensValue_cases {c : Char} (h : opensValue c = true) :
    c = '\'' ∨ c = '"' ∨ c = '(' ∨ c = '[' := by
  simp only [opensValue, isQuote, Bool.or_eq_true, beq_iff_eq] at h
  rcases h with ((h | h) | h) | h
  · exact .inl h
  · exact .inr (.inl h)
  · exact .inr (.inr (.inl h))
  · exact .inr (.inr (.inr h))

theorem sameWord_of_opensValue {c : Char} (h : opensValue c = true) (text : List Char)
    {word : String} (letters : ∀ d ∈ word.toList, d.isAlpha = true) :
    sameWord (String.ofList (c :: text)) word = false := by
  rw [← Bool.not_eq_true]
  intro same
  rw [sameWord, String.toList_ofList] at same
  have letter := isAlpha_of_sameLetters same letters c (List.mem_cons_self ..)
  rcases opensValue_cases h with rfl | rfl | rfl | rfl <;> exact absurd letter (by decide)

theorem valueToken_of_opensValue {c : Char} (h : opensValue c = true) (text : List Char) :
    ValueToken (c :: text) where
  alone := {
    unglue := by
      rcases opensValue_cases h with rfl | rfl | rfl | rfl <;> rfl
    notIn := sameWord_of_opensValue h text (by decide)
    notNot := sameWord_of_opensValue h text (by decide) }
  inert := {
    operator := by
      unfold Operator.ofToken?
      rw [List.find?_eq_none]
      intro op _ same
      rw [beq_iff_eq, String.toList_ofList, List.map_cons] at same
      have first := congrArg List.head? same
      rw [List.head?_cons] at first
      rcases opensValue_cases h with rfl | rfl | rfl | rfl <;> cases op <;>
        exact absurd first (by decide)
    connective := by
      have both : sameWord (String.ofList (c :: text)) "AND" = false :=
        sameWord_of_opensValue h text (by decide)
      have either : sameWord (String.ofList (c :: text)) "OR" = false :=
        sameWord_of_opensValue h text (by decide)
      unfold Connective.ofToken?
      rw [both, either]
      rfl }
  first := by
    intro d m
    cases m
    rcases opensValue_cases h with rfl | rfl | rfl | rfl <;> decide

theorem bracket_pair {opening closing : Char}
    (h : (opening, closing) ∈ [('(', ')'), ('[', ']')]) :
    opening = '(' ∧ closing = ')' ∨ opening = '[' ∧ closing = ']' := by
  simpa using h

theorem quoteAfter_of_pair {opening closing : Char}
    (h : (opening, closing) ∈ [('(', ')'), ('[', ']')]) : quoteAfter none opening = none := by
  rcases bracket_pair h with ⟨rfl, rfl⟩ | ⟨rfl, rfl⟩ <;> decide

section Values

variable {q : Char} (hq : isQuote q = true)

include hq

theorem piece_quotation {contents : List Char} (free : q ∉ contents) :
    Token.Piece (quotation q contents) where
  some := by simp [quotation]
  uncut := uncut_quotation hq (Brackets.roundOrSquare_ignore_quote hq) (not_isBlank_of_isQuote hq) 0
    free
  outside := Nesting.afterText_quotation hq (Brackets.roundOrSquare_ignore_quote hq) 0 free

/-- A quotation put into a piece outside quotations leaves it one piece. -/
theorem pieceBefore_insert {x y rest contents : List Char} (piece : Token.PieceBefore (x ++ y) rest)
    (closed : markAfter none x = none) (free : q ∉ contents) :
    Token.PieceBefore (x ++ (quotation q contents ++ y)) rest := by
  have plain := Brackets.roundOrSquare_ignore_quote hq
  have mark : (Nesting.outside.afterText .roundOrSquare x).mark = none := by
    rw [Nesting.mark_afterText]
    exact closed
  have shape := Nesting.eq_mk_none mark
  have pass := Nesting.afterText_quotation hq plain
    (Nesting.outside.afterText .roundOrSquare x).depth free
  rw [← shape] at pass
  have kept := uncut_quotation hq plain (not_isBlank_of_isQuote hq)
    (Nesting.outside.afterText .roundOrSquare x).depth free
  rw [← shape] at kept
  have uncut := uncut_append.mp piece.uncut
  refine ⟨by simp [quotation], ?_, ?_⟩
  · rw [uncut_append, uncut_append, pass]
    exact ⟨uncut.1, kept, uncut.2⟩
  · intro c m
    have stop := piece.stop c m
    rw [Nesting.afterText_append] at stop
    rw [Nesting.afterText_append, Nesting.afterText_append, pass]
    exact stop

theorem not_isListText_quotation (contents : List Char) :
    isListText (quotation q contents) = false := by
  have head : (quotation q contents).head? = some q := rfl
  have differ (bracket : Char) (h : isQuote bracket = false) :
      (some q == some bracket) = false := by
    rw [beq_eq_false_iff_ne]
    rintro e
    cases e
    rw [hq] at h
    cases h
  unfold isListText
  rw [head, differ '(' (by decide), differ '[' (by decide)]
  rfl

theorem condition_quotation (s₁ s₂ : List Char) (field operator : String) :
    SameOutcome (fun c d : Condition => (Predicate.condition c).Replaced
        (.ofText (quotation q s₁)) (.ofText (quotation q s₂)) (.condition d))
      (Condition.ofTokens field operator (String.ofList (quotation q s₁)))
      (Condition.ofTokens field operator (String.ofList (quotation q s₂))) := by
  have none₁ := not_isListText_quotation hq s₁
  have none₂ := not_isListText_quotation hq s₂
  unfold Condition.ofTokens
  cases Operator.ofToken? operator with
  | none => exact .error _ _
  | some op =>
    by_cases takes : op.takesList = true
    · simp only [takes, if_true, String.toList_ofList, Literal.listOfText?, none₁, none₂]
      exact .error _ _
    · simp only [takes, String.toList_ofList, none₁, none₂, Bool.false_eq_true, if_false]
      exact .ok (.value _ op .whole)

end Values

theorem isListText_of_pair {opening closing : Char}
    (h : (opening, closing) ∈ [('(', ')'), ('[', ']')]) (inner : List Char) :
    isListText (opening :: (inner ++ [closing])) = true := by
  rcases bracket_pair h with ⟨rfl, rfl⟩ | ⟨rfl, rfl⟩ <;> simp [isListText, List.getLast?_cons]

theorem listOfText?_of_pair {opening closing : Char}
    (h : (opening, closing) ∈ [('(', ')'), ('[', ']')]) {inner : List Char}
    (some : trim inner ≠ []) :
    Literal.listOfText? (opening :: (inner ++ [closing])) =
      .some (.list ((itemsOf .none inner).map .ofText)) := by
  unfold Literal.listOfText? itemsOf
  simp only [isListText_of_pair h inner, Bool.not_true, Bool.false_eq_true, if_false,
    List.tail_cons, List.dropLast_concat, if_neg some, List.map_map]
  rfl

theorem list_quotation {lead follow : List Char} {opening closing : Char}
    (pair : (opening, closing) ∈ [('(', ')'), ('[', ']')]) (place : ItemPlace lead follow)
    {q : Char} (hq : isQuote q = true) :
    ∃ front back : List Literal, ∀ contents, q ∉ contents →
      Literal.listOfText? (opening :: lead ++ (quotation q contents ++ (follow ++ [closing]))) =
        some (.list (front ++ .ofText (quotation q contents) :: back)) := by
  obtain ⟨front, back, split⟩ := itemsOf_place place hq
  refine ⟨front.map .ofText, back.map .ofText, fun contents free => ?_⟩
  have some : trim (lead ++ (quotation q contents ++ follow)) ≠ [] := by
    rw [quotation_append, trim_append_stop (not_isBlank_of_isQuote hq)]
    simp
  have whole : opening :: lead ++ (quotation q contents ++ (follow ++ [closing])) =
      opening :: (lead ++ (quotation q contents ++ follow) ++ [closing]) := by simp
  rw [whole, listOfText?_of_pair pair some, split contents free, List.map_append, List.map_cons]

theorem condition_list {lead follow : List Char} {opening closing : Char}
    (pair : (opening, closing) ∈ [('(', ')'), ('[', ']')]) (place : ItemPlace lead follow)
    {q : Char} (hq : isQuote q = true) {s₁ s₂ : List Char} (free₁ : q ∉ s₁) (free₂ : q ∉ s₂)
    (field operator : String) :
    SameOutcome (fun c d : Condition => (Predicate.condition c).Replaced
        (.ofText (quotation q s₁)) (.ofText (quotation q s₂)) (.condition d))
      (Condition.ofTokens field operator
        (String.ofList (opening :: lead ++ (quotation q s₁ ++ (follow ++ [closing])))))
      (Condition.ofTokens field operator
        (String.ofList (opening :: lead ++ (quotation q s₂ ++ (follow ++ [closing]))))) := by
  obtain ⟨front, back, list⟩ := list_quotation pair place hq
  have bracketed (s : List Char) :
      isListText (opening :: lead ++ (quotation q s ++ (follow ++ [closing]))) = true := by
    have := isListText_of_pair pair (lead ++ (quotation q s ++ follow))
    simpa using this
  unfold Condition.ofTokens
  cases Operator.ofToken? operator with
  | none => exact .error _ _
  | some op =>
    by_cases takes : op.takesList = true
    · simp only [takes, if_true, String.toList_ofList, list s₁ free₁, list s₂ free₂]
      exact .ok (.value _ op (.item front back))
    · simp only [takes, String.toList_ofList, bracketed, Bool.false_eq_true, if_false, if_true]
      exact .error _ _

end DocQuery
