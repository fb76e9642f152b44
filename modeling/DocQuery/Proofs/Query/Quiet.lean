import DocQuery.Proofs.Query.Keywords

/-!
# Texts that hold no keyword

A keyword is a word of its own, so the search passes over every text whose blanks are all inside
quotations, unless that text is the keyword. Such texts with single blanks between them are passed
over one after the other.
-/

namespace DocQuery

open Text

/-- Every gap of the text is inside a quotation. -/
def Gapless (text : List Char) : Prop := Uncut .none isGap .outside text

/-- The search for a keyword passes over the text, wherever it stands between gaps. -/
def QuietFor (keyword : List String) (text : List Char) : Prop :=
  ∀ bounded rest, atGap rest = true →
    cutAt? keyword bounded none (text ++ rest) =
      (cutAt? keyword false none rest).map fun p => (text ++ p.1, p.2)

theorem dropWord?_cons_of_not_isAlpha {word : List Char} (some : word ≠ [])
    (letters : ∀ c ∈ word, c.isAlpha = true) {c : Char} (h : c.isAlpha = false)
    (text : List Char) : dropWord? word (c :: text) = none := by
  cases word with
  | nil => exact absurd rfl some
  | cons w word =>
    rw [dropWord?, if_neg]
    intro same
    rw [isAlpha_of_toLower_eq same (letters w (List.mem_cons_self ..))] at h
    cases h

section Search

variable {first : String} {words : List String} (spelled : Spelled (first :: words))

include spelled

theorem dropKeyword?_cons {text after : List Char}
    (h : dropKeyword? (first :: words) text = some after) :
    ∃ rest, dropWord? first.toList text = some rest ∧ atGap rest = true := by
  cases words with
  | nil =>
    rw [dropKeyword?, Option.bind_eq_some_iff] at h
    obtain ⟨rest, dropped, h⟩ := h
    split at h
    · next gap => exact ⟨rest, dropped, gap⟩
    · cases h
  | cons w words =>
    rw [dropKeyword?, Option.bind_eq_some_iff] at h
    · obtain ⟨rest, dropped, h⟩ := h
      split at h
      · next gap => exact ⟨rest, dropped, gap⟩
      · cases h
    · simp

theorem dropKeyword?_of_not_isAlpha {c : Char} (h : c.isAlpha = false) (text : List Char) :
    dropKeyword? (first :: words) (c :: text) = none := by
  cases found : dropKeyword? (first :: words) (c :: text) with
  | none => rfl
  | some after =>
    obtain ⟨rest, dropped, -⟩ := dropKeyword?_cons spelled found
    rw [dropWord?_cons_of_not_isAlpha (spelled.words first (List.mem_cons_self ..))
      (spelled.letters first (List.mem_cons_self ..)) h] at dropped
    cases dropped

theorem cutAt?_of_atGap {rest : List Char} (h : atGap rest = true) (bounded : Bool) :
    cutAt? (first :: words) bounded none rest = cutAt? (first :: words) false none rest := by
  cases rest with
  | nil => rfl
  | cons c rest =>
    have missing := dropKeyword?_of_not_isAlpha spelled (not_isAlpha_of_isGap h) rest
    rw [cutAt?_cons_of_not_found fun _ _ => missing, cutAt?_cons_of_not_found fun b => by cases b]

theorem dropKeyword?_of_gapless {text rest : List Char} (gapless : Gapless text)
    (other : sameLetters text first.toList = false) (stop : atGap rest = true) :
    dropKeyword? (first :: words) (text ++ rest) = none := by
  cases found : dropKeyword? (first :: words) (text ++ rest) with
  | none => rfl
  | some after =>
    obtain ⟨left, dropped, gap⟩ := dropKeyword?_cons spelled found
    obtain ⟨front, split, same⟩ := dropWord?_eq_some_iff.mp dropped
    have letters := isAlpha_of_sameLetters same (spelled.letters first (List.mem_cons_self ..))
    rcases List.append_eq_append_iff.mp split with ⟨more, rfl, rfl⟩ | ⟨more, rfl, rfl⟩
    · -- The word reaches beyond the text.
      cases more with
      | nil =>
        rw [List.append_nil] at same
        rw [same] at other
        cases other
      | cons d more =>
        have letter := letters d (by simp)
        rw [not_isAlpha_of_isGap stop] at letter
        cases letter
    · -- The word ends within the text.
      cases more with
      | nil =>
        rw [List.append_nil] at other
        rw [same] at other
        cases other
      | cons d more =>
        have closed : markAfter none front = none :=
          markAfter_of_no_quote fun c m => not_isQuote_of_isAlpha (letters c m)
        have kept := (uncut_append.mp gapless).2.1
        have outside : (Nesting.outside.afterText .none front).isOutside = true := by
          rw [outside_of_closed closed]
          rfl
        rw [outside, Bool.true_and] at kept
        have here : isGap d = true := gap
        rw [kept] at here
        cases here

end Search

theorem isQuote_of_quoteAfter {mark : Option Char} (quote : ∀ q ∈ mark, isQuote q = true)
    (c : Char) : ∀ q ∈ quoteAfter mark c, isQuote q = true := by
  intro q m
  cases mark with
  | none =>
    by_cases h : isQuote c = true
    · simp only [quoteAfter, h, if_true, Option.mem_def, Option.some.injEq] at m
      rw [← m]
      exact h
    · simp [quoteAfter, h] at m
  | some q' =>
    by_cases h : c = q'
    · simp [quoteAfter, h] at m
    · rw [quoteAfter_some_ne h, Option.mem_def, Option.some.injEq] at m
      rw [← m]
      exact quote q' rfl

theorem isQuote_of_markAfter {mark : Option Char} (quote : ∀ q ∈ mark, isQuote q = true)
    (text : List Char) : ∀ q ∈ markAfter mark text, isQuote q = true := by
  induction text generalizing mark with
  | nil => exact quote
  | cons c text ih =>
    rw [markAfter_cons]
    exact ih (isQuote_of_quoteAfter quote c)

theorem not_isGap_or_quoted {mark : Option Char} {c : Char} (quote : ∀ q ∈ mark, isQuote q = true)
    (kept : ((Nesting.mk mark 0).isOutside && isGap c) = false) :
    isGap c = false ∨ quoteAfter mark c ≠ none := by
  cases mark with
  | none =>
    left
    simpa [Nesting.isOutside] using kept
  | some q =>
    by_cases gap : isGap c = true
    · right
      have differ : c ≠ q := by
        rintro rfl
        rw [not_isGap_of_isQuote (quote c rfl)] at gap
        cases gap
      rw [quoteAfter_some_ne differ]
      simp
    · left
      simpa using gap

/-- Within a word no keyword may begin: what stands before it is no gap, or is in a quotation. -/
theorem cutAt?_within {keyword : List String} {text rest : List Char} {bounded : Bool}
    {mark : Option Char} (gapless : Uncut .none isGap ⟨mark, 0⟩ text)
    (within : bounded = false ∨ mark ≠ none) (quote : ∀ q ∈ mark, isQuote q = true) :
    cutAt? keyword bounded mark (text ++ rest) =
      (cutAt? keyword (boundedAfter bounded text) (markAfter mark text) rest).map
        fun p => (text ++ p.1, p.2) := by
  induction text generalizing bounded mark with
  | nil => simp [boundedAfter]
  | cons c text ih =>
    have no : bounded = true → mark = none →
        dropKeyword? keyword (c :: (text ++ rest)) = none := by
      rintro rfl rfl
      rcases within with within | within
      · cases within
      · exact absurd rfl within
    have next := gapless.2
    rw [Nesting.after_none] at next
    rw [List.cons_append, cutAt?_cons_of_not_found no,
      ih next (not_isGap_or_quoted quote gapless.1) (isQuote_of_quoteAfter quote c),
      Option.map_map, boundedAfter_cons, markAfter_cons]
    rfl

section Quiet

variable {first : String} {words : List String} (spelled : Spelled (first :: words))

include spelled

theorem cutAt?_append_of_gapless {text rest : List Char} (gapless : Gapless text)
    (closed : markAfter none text = none) (stop : atGap rest = true)
    (no : dropKeyword? (first :: words) (text ++ rest) = none) (bounded : Bool) :
    cutAt? (first :: words) bounded none (text ++ rest) =
      (cutAt? (first :: words) false none rest).map fun p => (text ++ p.1, p.2) := by
  cases text with
  | nil =>
    rw [List.nil_append, cutAt?_of_atGap spelled stop]
    simp
  | cons c text =>
    have next := gapless.2
    rw [Nesting.outside, Nesting.after_none] at next
    have gap : isGap c = false := by simpa [Nesting.isOutside, Nesting.outside] using gapless.1
    have unquoted : ∀ q ∈ (none : Option Char), isQuote q = true := by
      intro q m
      cases m
    have quote := isQuote_of_quoteAfter unquoted c
    rw [markAfter_cons] at closed
    rw [List.cons_append] at no
    rw [List.cons_append, cutAt?_cons_of_not_found fun _ _ => no, cutAt?_within next (.inl gap)
      quote, closed, cutAt?_of_atGap spelled stop, Option.map_map]
    rfl

/-- A gapless text other than the first word of a keyword is quiet for it. -/
theorem quietFor_of_gapless {text : List Char} (gapless : Gapless text)
    (closed : markAfter none text = none) (other : sameLetters text first.toList = false) :
    QuietFor (first :: words) text := by
  intro bounded rest stop
  have no := dropKeyword?_of_gapless spelled gapless other stop
  exact cutAt?_append_of_gapless spelled gapless closed stop no bounded

end Quiet

theorem QuietFor.append {keyword : List String} {x y : List Char} (hx : QuietFor keyword x)
    (hy : QuietFor keyword y) : QuietFor keyword (x ++ ' ' :: y) := by
  intro bounded rest stop
  rw [List.append_assoc, List.cons_append, hx bounded _ rfl, cutAt?_blank, hy true rest stop,
    Option.map_map, Option.map_map]
  congr 1
  funext p
  simp

end DocQuery
