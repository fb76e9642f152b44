import DocQuery.Proofs.Query.Clauses
import DocQuery.Proofs.Query.QuotedValues
import DocQuery.Proofs.Query.Written

/-!
# Words and quotations

The smallest texts of a written query are words of plain characters and closed quotations. No
scanner cuts them, whatever brackets it respects, and none is taken for a keyword.
-/

namespace DocQuery

open Text

/-- A character that no scanner cuts at or counts. -/
def isPlain (c : Char) : Bool :=
  !isBlank c && !isQuote c && !"()[],;".toList.contains c

theorem isPlain_of_isNameChar {c : Char} (h : isNameChar c = true) : isPlain c = true := by
  have table : ∀ n < 128, isNameChar (Char.ofNat n) = true → isPlain (Char.ofNat n) = true := by
    decide +kernel
  have ascii : c.toNat < 128 := by
    simp only [isNameChar, isWordChar, Char.isAlphanum, Bool.or_eq_true, beq_iff_eq, isAlpha_iff,
      Char.isDigit_iff_toNat] at h
    have nine : '9'.toNat = 57 := rfl
    rcases h with ((h | h) | rfl) | rfl
    · omega
    · omega
    · decide
    · decide
  have known := table c.toNat ascii
  rw [Char.ofNat_toNat] at known
  exact known h

theorem isWordChar_of_isNameStart {c : Char} (h : isNameStart c = true) :
    isWordChar c = true := by
  simp only [isNameStart, Bool.or_eq_true] at h
  rcases h with letter | line
  · simp [isWordChar, Char.isAlphanum, letter]
  · rw [isWordChar, line, Bool.or_true]

theorem exists_of_isIdentifier {text : List Char} (h : FieldName.isIdentifier text = true) :
    ∃ c rest, text = c :: rest ∧ isNameStart c = true ∧ ∀ d ∈ text, isNameChar d = true := by
  cases text with
  | nil => cases h
  | cons c rest =>
    obtain ⟨start, later⟩ := Bool.and_eq_true_iff.mp h
    refine ⟨c, rest, rfl, start, List.forall_mem_cons.mpr ⟨?_, List.all_eq_true.mp later⟩⟩
    simp [isNameChar, isWordChar_of_isNameStart start]

theorem isNameChar_of_isIdentifier {text : List Char} (h : FieldName.isIdentifier text = true) :
    ∀ c ∈ text, isNameChar c = true := by
  obtain ⟨-, -, -, -, chars⟩ := exists_of_isIdentifier h
  exact chars

theorem bare_of_isIdentifier {text : List Char} (h : FieldName.isIdentifier text = true) :
    FieldName.bare text = text := by
  obtain ⟨c, rest, rfl, start, -⟩ := exists_of_isIdentifier h
  refine if_neg fun quoted => ?_
  rw [quoted.1] at start
  exact absurd start (by decide)

theorem isPlain_of_isDigit {c : Char} (h : c.isDigit = true) : isPlain c = true := by
  apply isPlain_of_isNameChar
  simp [isNameChar, isWordChar, Char.isAlphanum, h]

section Plain

variable {c : Char} (h : isPlain c = true)

include h

theorem not_isBlank_of_isPlain : isBlank c = false := by
  simp only [isPlain, Bool.and_eq_true, Bool.not_eq_true'] at h
  exact h.1.1

theorem not_isQuote_of_isPlain : isQuote c = false := by
  simp only [isPlain, Bool.and_eq_true, Bool.not_eq_true'] at h
  exact h.1.2

theorem not_isGap_of_isPlain : isGap c = false :=
  not_isGap_of_not_isBlank (not_isBlank_of_isPlain h)

theorem isPlain_ne {d : Char} (hd : isPlain d = false) : c ≠ d := by
  rintro rfl
  rw [h] at hd
  cases hd

end Plain

def Brackets.Spare (b : Brackets) : Prop := ∀ c, isPlain c = true → b.Ignore c

theorem spare_none : Brackets.Spare .none := fun c _ => Brackets.ignore_none c

theorem spare_round : Brackets.Spare .round := fun c h =>
  ⟨beq_eq_false_iff_ne.mpr (isPlain_ne h (by decide)),
    beq_eq_false_iff_ne.mpr (isPlain_ne h (by decide))⟩

theorem spare_roundOrSquare : Brackets.Spare .roundOrSquare := fun c h => by
  have round := spare_round c h
  constructor
  · show (c == '(' || c == '[') = false
    rw [Bool.or_eq_false_iff]
    exact ⟨round.1, beq_eq_false_iff_ne.mpr (isPlain_ne h (by decide))⟩
  · show (c == ')' || c == ']') = false
    rw [Bool.or_eq_false_iff]
    exact ⟨round.2, beq_eq_false_iff_ne.mpr (isPlain_ne h (by decide))⟩

/-- A word of plain characters. -/
structure IsPlainWord (text : List Char) : Prop where
  some : text ≠ []
  plain : ∀ c ∈ text, isPlain c = true

namespace IsPlainWord

variable {text : List Char} (h : IsPlainWord text)

include h

theorem solid : Solid text :=
  solid_of_no_blank h.some fun c m => not_isBlank_of_isPlain (h.plain c m)

theorem gapless : Gapless text :=
  uncut_of_forall fun c m => not_isGap_of_isPlain (h.plain c m)

theorem closed : markAfter none text = none :=
  markAfter_of_no_quote fun c m => not_isQuote_of_isPlain (h.plain c m)

theorem afterText {b : Brackets} (spare : Brackets.Spare b) (depth : Nat) :
    Nesting.afterText b ⟨none, depth⟩ text = ⟨none, depth⟩ :=
  Nesting.afterText_of_plain depth (fun c m => not_isQuote_of_isPlain (h.plain c m))
    fun c m => spare c (h.plain c m)

theorem piece : Token.Piece text :=
  ⟨h.some, uncut_of_forall fun c m => not_isBlank_of_isPlain (h.plain c m),
    h.afterText spare_roundOrSquare 0⟩

theorem isItem {b : Brackets} (spare : Brackets.Spare b) : IsItem b text :=
  ⟨h.solid, uncut_of_forall fun c m =>
    beq_eq_false_iff_ne.mpr (isPlain_ne (h.plain c m) (by decide)), h.afterText spare 0⟩

theorem finished : IsFinished text :=
  isFinished_of_forall h.some fun c m =>
    ⟨not_isBlank_of_isPlain (h.plain c m), isPlain_ne (h.plain c m) (by decide)⟩

end IsPlainWord

theorem unreserved_of_mem {text : List Char} {c : Char} (m : c ∈ text)
    (letter : c.isAlpha = false) : Unreserved text := by
  intro word reserved
  have letters : ∀ word ∈ reservedWords, ∀ d ∈ word.toList, d.isAlpha = true := by decide
  rw [← Bool.not_eq_true]
  intro same
  have alpha := isAlpha_of_sameLetters same (letters word reserved) c m
  rw [letter] at alpha
  cases alpha

theorem settled_of_unreserved {text : List Char} (gapless : Gapless text)
    (closed : markAfter none text = none) (other : Unreserved text) : Settled text := by
  apply settled_of_gapless gapless closed
  intro clause word first
  apply other
  revert first
  cases clause <;> revert word <;> decide

theorem settled_append_mark {text : List Char} (gapless : Gapless text)
    (closed : markAfter none text = none) {c : Char} (letter : c.isAlpha = false)
    (gap : isGap c = false) (quote : isQuote c = false) : Settled (text ++ [c]) := by
  apply settled_of_unreserved
  · refine uncut_append.mpr ⟨gapless, uncut_of_forall fun d m => ?_⟩
    rw [List.mem_singleton.mp m, gap]
  · rw [markAfter_append, closed]
    exact markAfter_of_no_quote fun d m => by rw [List.mem_singleton.mp m, quote]
  · exact unreserved_of_mem (List.mem_append_right _ (List.mem_singleton_self c)) letter

/-- A list is settled when each of its items is, before a comma and at the end of the list. -/
theorem settled_listed {texts : List (List Char)} (some : texts ≠ []) {last : List Char}
    (comma : ∀ text ∈ texts, Settled (text ++ [',']))
    (ends : ∀ text ∈ texts, Settled (text ++ last)) : Settled (listed texts ++ last) := by
  induction texts with
  | nil => exact absurd rfl some
  | cons first texts ih =>
    cases texts with
    | nil =>
      rw [listed_singleton]
      exact ends first (List.mem_cons_self ..)
    | cons second texts =>
      have whole : listed (first :: second :: texts) ++ last =
          (first ++ [',']) ++ ' ' :: (listed (second :: texts) ++ last) := by
        rw [listed_cons_cons]
        simp
      rw [whole]
      exact (comma first (List.mem_cons_self ..)).append
        (ih (by simp) (fun t m => comma t (List.mem_cons_of_mem _ m))
          fun t m => ends t (List.mem_cons_of_mem _ m))

/-- The text of a scalar: a closed quotation, or a word that no reader takes apart or for another
thing. -/
inductive IsScalarText : List Char → Prop where
  | quotation {q : Char} {contents : List Char} : isQuote q = true → q ∉ contents →
    IsScalarText (quotation q contents)
  | word {text : List Char} : IsPlainWord text → Token.unglue text = [text] → Unreserved text →
    IsScalarText text

namespace IsScalarText

variable {text : List Char} (h : IsScalarText text)

include h

theorem gapless : Gapless text := by
  cases h with
  | quotation hq free =>
    exact uncut_quotation hq (Brackets.ignore_none _) (not_isGap_of_isQuote hq) 0 free
  | word word => exact word.gapless

theorem closed : markAfter none text = none := by
  cases h with
  | quotation hq free => exact markAfter_quotation hq free
  | word word => exact word.closed

theorem settled : Settled text := by
  refine settled_of_unreserved h.gapless h.closed ?_
  cases h with
  | quotation hq free => exact unreserved_of_mem (List.mem_cons_self ..) (not_isAlpha_of_isQuote hq)
  | word _ _ other => exact other

theorem settled_append {c : Char} (letter : c.isAlpha = false) (gap : isGap c = false)
    (quote : isQuote c = false) : Settled (text ++ [c]) :=
  settled_append_mark h.gapless h.closed letter gap quote

theorem isItem : IsItem .none text := by
  cases h with
  | quotation hq free =>
    have comma : ∀ {q : Char}, isQuote q = true → (q == ',') = false := by
      intro q hq
      rw [beq_eq_false_iff_ne]
      rintro rfl
      exact absurd hq (by decide)
    exact ⟨solid_quotation hq _, uncut_quotation hq (Brackets.ignore_none _) (comma hq) 0 free,
      Nesting.afterText_quotation hq (Brackets.ignore_none _) 0 free⟩
  | word word => exact word.isItem spare_none

theorem within (depth : Nat) : Uncut .roundOrSquare isBlank ⟨none, depth⟩ text ∧
    Nesting.afterText .roundOrSquare ⟨none, depth⟩ text = ⟨none, depth⟩ := by
  cases h with
  | quotation hq free =>
    have plain := Brackets.roundOrSquare_ignore_quote hq
    exact ⟨uncut_quotation hq plain (not_isBlank_of_isQuote hq) depth free,
      Nesting.afterText_quotation hq plain depth free⟩
  | word word =>
    exact ⟨uncut_of_forall fun c m => not_isBlank_of_isPlain (word.plain c m),
      word.afterText spare_roundOrSquare depth⟩

theorem piece : Token.Piece text :=
  ⟨h.isItem.solid.some, (h.within 0).1, (h.within 0).2⟩

theorem not_isListText : isListText text = false := by
  cases h with
  | quotation hq free => exact not_isListText_quotation hq _
  | word word =>
    have apart {c : Char} (hc : isPlain c = false) : (text.head? == .some c) = false := by
      rw [beq_eq_false_iff_ne]
      intro first
      exact absurd (word.plain c (List.mem_of_mem_head? first)) (by simp [hc])
    unfold isListText
    rw [apart (by decide), apart (by decide)]
    rfl

end IsScalarText

theorem unglue_of_name {text : List Char} (names : ∀ c ∈ text, isNameChar c = true) :
    Token.unglue text = [text] := by
  have whole : text.dropWhile isNameChar = [] := List.dropWhile_eq_nil_iff.mpr names
  cases text with
  | nil => rfl
  | cons c rest =>
    unfold Token.unglue
    rw [whole]
    simp [Token.comparison?]

theorem isScalarText_of_name {text : List Char} (some : text ≠ [])
    (names : ∀ c ∈ text, isNameChar c = true) (other : Unreserved text) : IsScalarText text :=
  .word ⟨some, fun c m => isPlain_of_isNameChar (names c m)⟩ (unglue_of_name names) other

/-- A text that stands for a value in a filter: one token, no connective. -/
structure IsValueText (text : List Char) : Prop where
  settled : Settled text
  piece : Token.Piece text
  alone : Token.Alone text
  connective : Connective.ofToken? (String.ofList text) = none
  finished : IsFinished text

theorem IsScalarText.isValueText {text : List Char} (h : IsScalarText text) :
    IsValueText text := by
  have settled := h.settled
  have piece := h.piece
  cases h with
  | @quotation q contents hq free =>
    have opens : opensValue q = true := by simp [opensValue, hq]
    have token := valueToken_of_opensValue opens (contents ++ [q])
    refine ⟨settled, piece, token.alone, token.inert.connective, q :: contents, q, rfl,
      not_isBlank_of_isQuote hq, ?_⟩
    rintro rfl
    exact absurd hq (by decide)
  | word word unglue other =>
    have apart {w : String} (m : w ∈ reservedWords) :
        sameWord (String.ofList text) w = false := by
      rw [sameWord, String.toList_ofList]
      exact other w m
    refine ⟨settled, piece, ⟨unglue, apart (by decide), apart (by decide)⟩, ?_, word.finished⟩
    unfold Connective.ofToken?
    rw [apart (by decide), apart (by decide)]
    rfl

end DocQuery
