import DocQuery.Proofs.Text.Letters
import DocQuery.Proofs.Text.Scanning
import DocQuery.Query.Clauses

/-!
# The search for keywords

A keyword is made of letters, so its place ends at the first character that is no letter, and no
place reaches into a quotation. What follows a closed quotation is therefore searched as if the
quotation were not there. A text is quiet for a clause when the search passes over all of it.
-/

namespace DocQuery

open Text

/-- Words of letters, one at least. -/
structure Spelled (keyword : List String) : Prop where
  some : keyword ≠ []
  letters : ∀ w ∈ keyword, ∀ c ∈ w.toList, c.isAlpha = true
  words : ∀ w ∈ keyword, w.toList ≠ []

theorem Clause.spelled (clause : Clause) : Spelled clause.keyword := by
  cases clause <;> exact ⟨by decide, by decide, by decide⟩

theorem not_isAlpha_of_isGap {c : Char} (h : isGap c = true) : c.isAlpha = false := by
  simp only [isGap, Bool.or_eq_true, beq_iff_eq] at h
  rcases h with (((h | h) | h) | h) | h <;> subst h <;> decide

theorem not_isAlpha_of_isQuote {c : Char} (h : isQuote c = true) : c.isAlpha = false := by
  simp only [isQuote, Bool.or_eq_true, beq_iff_eq] at h
  rcases h with rfl | rfl <;> decide

theorem not_isGap_of_isQuote {c : Char} (h : isQuote c = true) : isGap c = false := by
  simp only [isQuote, Bool.or_eq_true, beq_iff_eq] at h
  rcases h with rfl | rfl <;> decide

theorem not_isQuote_of_isAlpha {c : Char} (h : c.isAlpha = true) : isQuote c = false := by
  rw [← Bool.not_eq_true]
  intro quote
  rw [not_isAlpha_of_isQuote quote] at h
  cases h

theorem dropWord?_append_stop {word : List Char} (letters : ∀ c ∈ word, c.isAlpha = true)
    {c : Char} (hc : c.isAlpha = false) (text rest : List Char) :
    dropWord? word (text ++ c :: rest) = (dropWord? word text).map (· ++ c :: rest) := by
  induction word generalizing text with
  | nil => rfl
  | cons w word ih =>
    cases text with
    | nil =>
      have differ : c.toLower ≠ w.toLower := fun e => by
        rw [isAlpha_of_toLower_eq e (letters w (List.mem_cons_self ..))] at hc
        cases hc
      simp [dropWord?, differ]
    | cons d text =>
      rw [List.cons_append, dropWord?, dropWord?]
      by_cases same : d.toLower = w.toLower
      · rw [if_pos same, if_pos same]
        exact ih (fun x m => letters x (List.mem_cons_of_mem _ m)) text
      · rw [if_neg same, if_neg same]
        rfl

theorem dropKeyword?_nil {keyword : List String} (h : Spelled keyword) :
    dropKeyword? keyword [] = none := by
  have miss : ∀ w ∈ keyword, dropWord? w.toList [] = none := by
    intro w m
    cases e : w.toList with
    | nil => exact absurd e (h.words w m)
    | cons c rest => rfl
  match keyword, h with
  | [], h => exact absurd rfl h.some
  | [w], _ => simp [dropKeyword?, miss w]
  | w :: w' :: words, _ => simp [dropKeyword?, miss w]

theorem Spelled.tail {w w' : String} {words : List String} (h : Spelled (w :: w' :: words)) :
    Spelled (w' :: words) :=
  ⟨by simp, fun x m => h.letters x (List.mem_cons_of_mem _ m),
    fun x m => h.words x (List.mem_cons_of_mem _ m)⟩

/-- No keyword reaches beyond a character that is neither letter nor gap, and none ends right in
front of it. -/
theorem dropKeyword?_append_stop {keyword : List String} (h : Spelled keyword) {c : Char}
    (hc : c.isAlpha = false) (gap : isGap c = false) (text rest : List Char) :
    dropKeyword? keyword (text ++ c :: rest) =
      ((dropKeyword? keyword text).filter (!·.isEmpty)).map (· ++ c :: rest) := by
  induction keyword generalizing text with
  | nil => exact absurd rfl h.some
  | cons w words ih =>
    have drop := dropWord?_append_stop (h.letters w (List.mem_cons_self ..)) hc text rest
    cases words with
    | nil =>
      simp only [dropKeyword?, drop]
      cases dropWord? w.toList text with
      | none => rfl
      | some r =>
        cases r with
        | nil => simp [atGap, gap, Option.filter]
        | cons d r => by_cases hd : isGap d = true <;> simp [atGap, hd, Option.filter]
    | cons w' words =>
      simp only [dropKeyword?, drop]
      cases dropWord? w.toList text with
      | none => rfl
      | some r =>
        cases r with
        | nil => simp [atGap, gap, dropKeyword?_nil h.tail]
        | cons d r =>
          by_cases hd : isGap d = true
          · have next := ih h.tail ((d :: r).dropWhile isGap)
            rw [← dropWhile_append_stop gap] at next
            simpa [atGap, hd] using next
          · simp [atGap, hd]

theorem cutAt?_cons_of_found {keyword : List String} {c : Char} {text after : List Char}
    (h : dropKeyword? keyword (c :: text) = some after) :
    cutAt? keyword true none (c :: text) = some ([], after) := by
  simp [cutAt?, h]

theorem cutAt?_cons_of_not_found {keyword : List String} {bounded : Bool} {mark : Option Char}
    {c : Char} {text : List Char}
    (h : bounded = true → mark = none → dropKeyword? keyword (c :: text) = none) :
    cutAt? keyword bounded mark (c :: text) =
      (cutAt? keyword (isGap c) (quoteAfter mark c) text).map fun p => (c :: p.1, p.2) := by
  cases bounded with
  | false => simp [cutAt?]
  | true =>
    cases mark with
    | none => simp [cutAt?, h rfl rfl]
    | some q => simp [cutAt?]

theorem cutAt?_blank (keyword : List String) (text : List Char) :
    cutAt? keyword false none (' ' :: text) =
      (cutAt? keyword true none text).map fun p => (' ' :: p.1, p.2) :=
  cutAt?_cons_of_not_found nofun

theorem cutAt?_cons_cases (keyword : List String) (bounded : Bool) (mark : Option Char) (c : Char)
    (text : List Char) :
    (bounded = true ∧ mark = none ∧ ∃ after, dropKeyword? keyword (c :: text) = some after) ∨
      (bounded = true → mark = none → dropKeyword? keyword (c :: text) = none) := by
  by_cases start : bounded = true ∧ mark = none
  · cases here : dropKeyword? keyword (c :: text) with
    | some after => exact .inl ⟨start.1, start.2, after, rfl⟩
    | none => exact .inr fun _ _ => rfl
  · exact .inr fun b m => absurd ⟨b, m⟩ start

/-- Whether a keyword may start after a text. -/
def boundedAfter (bounded : Bool) (text : List Char) : Bool :=
  (text.getLast?.map isGap).getD bounded

theorem boundedAfter_cons (bounded : Bool) (c : Char) (text : List Char) :
    boundedAfter bounded (c :: text) = boundedAfter (isGap c) text := by
  cases h : text.getLast? with
  | none =>
    rw [List.getLast?_eq_none_iff] at h
    subst h
    rfl
  | some d => simp [boundedAfter, List.getLast?_cons, h]

section Stop

variable {keyword : List String} {stop : Char} (h : Spelled keyword)
  (letter : stop.isAlpha = false) (gap : isGap stop = false)

include h letter gap

/-- A place inside a text stays the first one when the text goes on with a stop. -/
theorem cutAt?_append_of_some {bounded : Bool} {mark : Option Char}
    {text before after : List Char} (found : cutAt? keyword bounded mark text = some (before, after))
    (more : after ≠ []) (rest : List Char) :
    cutAt? keyword bounded mark (text ++ stop :: rest) = some (before, after ++ stop :: rest) := by
  induction text generalizing bounded mark before with
  | nil => simp [cutAt?] at found
  | cons c text ih =>
    have drop := dropKeyword?_append_stop h letter gap (c :: text) rest
    rcases cutAt?_cons_cases keyword bounded mark c text with ⟨rfl, rfl, a, ha⟩ | no
    · rw [cutAt?_cons_of_found ha, Option.some.injEq, Prod.mk.injEq] at found
      obtain ⟨rfl, rfl⟩ := found
      rw [ha] at drop
      have kept : (!a.isEmpty) = true := by simpa using more
      simp only [Option.filter_some, kept, if_true, Option.map_some] at drop
      exact cutAt?_cons_of_found drop
    · have no' : bounded = true → mark = none →
          dropKeyword? keyword (c :: (text ++ stop :: rest)) = none := by
        intro hb hm
        rw [← List.cons_append, drop, no hb hm]
        rfl
      rw [cutAt?_cons_of_not_found no, Option.map_eq_some_iff] at found
      obtain ⟨⟨p, a⟩, found, e⟩ := found
      simp only [Prod.mk.injEq] at e
      obtain ⟨rfl, rfl⟩ := e
      rw [List.cons_append, cutAt?_cons_of_not_found no', ih found]
      rfl

theorem cutAt?_append_of_none {bounded : Bool} {mark : Option Char} {text : List Char}
    (none : cutAt? keyword bounded mark text = none) (rest : List Char) :
    cutAt? keyword bounded mark (text ++ stop :: rest) =
      (cutAt? keyword (boundedAfter bounded text) (markAfter mark text) (stop :: rest)).map
        fun p => (text ++ p.1, p.2) := by
  induction text generalizing bounded mark with
  | nil => simp [boundedAfter]
  | cons c text ih =>
    have drop := dropKeyword?_append_stop h letter gap (c :: text) rest
    have no : bounded = true → mark = .none → dropKeyword? keyword (c :: text) = .none := by
      rintro rfl rfl
      cases hd : dropKeyword? keyword (c :: text) with
      | none => rfl
      | some a =>
        rw [cutAt?_cons_of_found hd] at none
        cases none
    have no' : bounded = true → mark = .none →
        dropKeyword? keyword (c :: (text ++ stop :: rest)) = .none := by
      intro hb hm
      rw [← List.cons_append, drop, no hb hm]
      rfl
    rw [cutAt?_cons_of_not_found no, Option.map_eq_none_iff] at none
    rw [List.cons_append, cutAt?_cons_of_not_found no', ih none, Option.map_map,
      boundedAfter_cons, markAfter_cons]
    rfl

end Stop

theorem cutAt?_contents {keyword : List String} {q : Char} {contents : List Char}
    (h : q ∉ contents) (bounded : Bool) (rest : List Char) :
    cutAt? keyword bounded (some q) (contents ++ q :: rest) =
      (cutAt? keyword (isGap q) none rest).map fun p => (contents ++ q :: p.1, p.2) := by
  induction contents generalizing bounded with
  | nil =>
    rw [List.nil_append, cutAt?_cons_of_not_found (by simp)]
    simp [quoteAfter]
  | cons c contents ih =>
    rw [List.mem_cons, not_or] at h
    rw [List.cons_append, cutAt?_cons_of_not_found (by simp), quoteAfter_some_ne (Ne.symm h.1),
      ih h.2, Option.map_map]
    rfl

theorem cutAt?_quotation {keyword : List String} (spelled : Spelled keyword) {q : Char}
    {contents : List Char} (hq : isQuote q = true) (h : q ∉ contents) (bounded : Bool)
    (rest : List Char) :
    cutAt? keyword bounded none (quotation q contents ++ rest) =
      (cutAt? keyword false none rest).map fun p => (quotation q contents ++ p.1, p.2) := by
  have no : bounded = true → (none : Option Char) = none →
      dropKeyword? keyword (q :: (contents ++ q :: rest)) = none := by
    intro _ _
    have := dropKeyword?_append_stop spelled (not_isAlpha_of_isQuote hq) (not_isGap_of_isQuote hq)
      [] (contents ++ q :: rest)
    rw [dropKeyword?_nil spelled] at this
    exact this
  have opened : quoteAfter none q = some q := by simp [quoteAfter, hq]
  rw [quotation, List.append_assoc, List.cons_append, List.singleton_append,
    cutAt?_cons_of_not_found no, opened, cutAt?_contents h, not_isGap_of_isQuote hq,
    Option.map_map]
  congr 1
  funext p
  simp

section Quotations

variable {keyword : List String} {q : Char} {contents : List Char}

theorem cutAt?_append_quotation_of_some (spelled : Spelled keyword) (hq : isQuote q = true)
    {text before after : List Char} (found : cutAt? keyword false none text = some (before, after))
    (more : after ≠ []) (rest : List Char) :
    cutAt? keyword false none (text ++ (quotation q contents ++ rest)) =
      some (before, after ++ (quotation q contents ++ rest)) := by
  rw [quotation_append]
  exact cutAt?_append_of_some spelled (not_isAlpha_of_isQuote hq) (not_isGap_of_isQuote hq) found
    more _

theorem cutAt?_append_quotation_of_none (spelled : Spelled keyword) (hq : isQuote q = true)
    (h : q ∉ contents) {text : List Char} (missing : cutAt? keyword false none text = none)
    (closed : markAfter none text = none) (rest : List Char) :
    cutAt? keyword false none (text ++ (quotation q contents ++ rest)) =
      (cutAt? keyword false none rest).map fun p =>
        (text ++ (quotation q contents ++ p.1), p.2) := by
  have pass := cutAt?_quotation spelled hq h (boundedAfter false text) rest
  rw [quotation_append] at pass ⊢
  rw [cutAt?_append_of_none spelled (not_isAlpha_of_isQuote hq) (not_isGap_of_isQuote hq) missing,
    closed, pass, Option.map_map]
  rfl

end Quotations

theorem markAfter_of_dropWord? {word text rest : List Char}
    (letters : ∀ c ∈ word, c.isAlpha = true) (h : dropWord? word text = some rest) :
    markAfter none text = markAfter none rest := by
  obtain ⟨front, rfl, same⟩ := dropWord?_eq_some_iff.mp h
  have plain := markAfter_of_no_quote fun c m =>
    not_isQuote_of_isAlpha (isAlpha_of_sameLetters same letters c m)
  rw [markAfter_append, plain]

theorem markAfter_dropWhile_isGap (text : List Char) :
    markAfter none (text.dropWhile isGap) = markAfter none text := by
  have plain : markAfter none (text.takeWhile isGap) = none := by
    apply markAfter_of_no_quote
    intro c m
    rw [← Bool.not_eq_true]
    intro quote
    have gap : isGap c = true := List.all_eq_true.mp List.all_takeWhile c m
    rw [not_isGap_of_isQuote quote] at gap
    cases gap
  calc markAfter none (text.dropWhile isGap)
      = markAfter none (text.takeWhile isGap ++ text.dropWhile isGap) := by
        rw [markAfter_append, plain]
    _ = markAfter none text := by rw [List.takeWhile_append_dropWhile]

theorem markAfter_of_dropKeyword? {keyword : List String} (h : Spelled keyword)
    {text rest : List Char} (found : dropKeyword? keyword text = some rest) :
    markAfter none text = markAfter none rest := by
  induction keyword generalizing text with
  | nil => exact absurd rfl h.some
  | cons w words ih =>
    have letters := h.letters w (List.mem_cons_self ..)
    cases words with
    | nil =>
      simp only [dropKeyword?, Option.bind_eq_some_iff] at found
      obtain ⟨r, dropped, found⟩ := found
      split at found
      · rw [← Option.some.inj found]
        exact markAfter_of_dropWord? letters dropped
      · cases found
    | cons w' words =>
      simp only [dropKeyword?, Option.bind_eq_some_iff] at found
      obtain ⟨r, dropped, found⟩ := found
      split at found
      · rw [markAfter_of_dropWord? letters dropped, ← ih h.tail found,
          markAfter_dropWhile_isGap]
      · cases found

theorem markAfter_of_cutAt? {keyword : List String} (h : Spelled keyword) {bounded : Bool}
    {mark : Option Char} {text before after : List Char}
    (found : cutAt? keyword bounded mark text = some (before, after)) :
    markAfter mark text = markAfter none after := by
  induction text generalizing bounded mark before with
  | nil => simp [cutAt?] at found
  | cons c text ih =>
    rcases cutAt?_cons_cases keyword bounded mark c text with ⟨rfl, rfl, a, dropped⟩ | no
    · rw [cutAt?_cons_of_found dropped, Option.some.injEq, Prod.mk.injEq] at found
      rw [markAfter_of_dropKeyword? h dropped, found.2]
    · rw [cutAt?_cons_of_not_found no, Option.map_eq_some_iff] at found
      obtain ⟨⟨p, a⟩, found, e⟩ := found
      simp only [Prod.mk.injEq] at e
      rw [markAfter_cons, ← e.2]
      rw [← e.2] at ih
      exact ih found

end DocQuery
