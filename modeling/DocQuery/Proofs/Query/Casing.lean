import DocQuery.Proofs.Query.Cuts
import DocQuery.Proofs.Query.Quiet
import DocQuery.Proofs.Text.Spacing
import Mathlib

/-!
# Keywords in another case

The search for a keyword reads letters without their case, so texts that are the same in lower case
are cut at the same places. Where two texts differ in the case of one keyword alone, all clauses
are the same, since the keyword that opens a clause belongs to none.
-/

namespace DocQuery

namespace Text

def lower (text : List Char) : List Char := text.map Char.toLower

theorem not_isUpper_of_not_isAlpha {c : Char} (other : c.isAlpha = false) :
    ¬c.isUpper = true := by
  intro upper
  simp [Char.isAlpha, upper] at other

theorem toLower_eq_iff {c d : Char} (other : d.isAlpha = false) : c.toLower = d ↔ c = d := by
  by_cases letter : c.isAlpha = true
  · constructor
    · rintro rfl
      rw [Char.isAlpha_toLower_eq_isAlpha, letter] at other
      cases other
    · rintro rfl
      rw [letter] at other
      cases other
  · rw [Char.toLower_eq_of_not_isUpper (not_isUpper_of_not_isAlpha (eq_false_of_ne_true letter))]

theorem not_isBlank_of_isAlpha {c : Char} (letter : c.isAlpha = true) : isBlank c = false := by
  rw [isAlpha_iff] at letter
  simp only [isBlank, Bool.or_eq_false_iff, Bool.and_eq_false_iff, decide_eq_false_iff_not,
    beq_eq_false_iff_ne]
  omega

/-- A class without letters does not tell the cases of letters apart. -/
theorem class_toLower {p : Char → Bool} (others : ∀ c, c.isAlpha = true → p c = false) (c : Char) :
    p c.toLower = p c := by
  by_cases letter : c.isAlpha = true
  · rw [others c letter, others _ ((Char.isAlpha_toLower_eq_isAlpha c).trans letter)]
  · rw [Char.toLower_eq_of_not_isUpper (not_isUpper_of_not_isAlpha (eq_false_of_ne_true letter))]

theorem isBlank_toLower (c : Char) : isBlank c.toLower = isBlank c :=
  class_toLower (fun _ => not_isBlank_of_isAlpha) c

theorem isGap_toLower (c : Char) : isGap c.toLower = isGap c :=
  class_toLower (fun _ letter => not_isGap_of_not_isBlank (not_isBlank_of_isAlpha letter)) c

theorem quoteAfter_toLower {mark : Option Char} (quote : ∀ q ∈ mark, isQuote q = true) (c : Char) :
    quoteAfter mark c.toLower = quoteAfter mark c := by
  cases mark with
  | some q =>
    unfold quoteAfter
    simp only [toLower_eq_iff (not_isAlpha_of_isQuote (quote q rfl))]
  | none =>
    by_cases letter : c.isAlpha = true
    · have plain := not_isQuote_of_isAlpha letter
      have plain' := not_isQuote_of_isAlpha ((Char.isAlpha_toLower_eq_isAlpha c).trans letter)
      simp [quoteAfter, plain, plain']
    · rw [Char.toLower_eq_of_not_isUpper (not_isUpper_of_not_isAlpha (eq_false_of_ne_true letter))]

@[simp] theorem lower_cons (c : Char) (text : List Char) :
    lower (c :: text) = c.toLower :: lower text := rfl

@[simp] theorem lower_append (x y : List Char) : lower (x ++ y) = lower x ++ lower y :=
  List.map_append

theorem sameLetters_iff_lower {x y : List Char} : sameLetters x y = true ↔ lower x = lower y :=
  beq_iff_eq

theorem length_eq_of_lower {x y : List Char} (h : lower x = lower y) : x.length = y.length := by
  simpa [lower] using congrArg List.length h

theorem mem_lower_iff {c : Char} (other : c.isAlpha = false) {text : List Char} :
    c ∈ lower text ↔ c ∈ text := by
  constructor
  · intro m
    obtain ⟨d, m, e⟩ := List.mem_map.mp m
    rwa [(toLower_eq_iff other).mp e] at m
  · intro m
    exact List.mem_map.mpr
      ⟨c, m, Char.toLower_eq_of_not_isUpper (not_isUpper_of_not_isAlpha other)⟩

theorem markAfter_lower {mark : Option Char} (quote : ∀ q ∈ mark, isQuote q = true)
    (text : List Char) : markAfter mark (lower text) = markAfter mark text := by
  induction text generalizing mark with
  | nil => rfl
  | cons c text ih =>
    rw [lower_cons, markAfter_cons, markAfter_cons, quoteAfter_toLower quote,
      ih (isQuote_of_quoteAfter quote c)]

theorem markAfter_none_lower (text : List Char) :
    markAfter none (lower text) = markAfter none text := by
  apply markAfter_lower
  intro q m
  cases m

end Text

open Text

theorem atGap_lower (text : List Char) : atGap (lower text) = atGap text := by
  cases text with
  | nil => rfl
  | cons c text => exact isGap_toLower c

theorem dropWord?_lower (word text : List Char) :
    dropWord? word (lower text) = (dropWord? word text).map lower := by
  induction word generalizing text with
  | nil => rfl
  | cons w word ih =>
    cases text with
    | nil => rfl
    | cons c text =>
      rw [lower_cons, dropWord?, dropWord?, Char.toLower_toLower_eq_toLower]
      by_cases same : c.toLower = w.toLower
      · rw [if_pos same, if_pos same, ih]
      · rw [if_neg same, if_neg same]
        rfl

theorem dropWhile_lower {p : Char → Bool} (same : ∀ c, p c.toLower = p c) (text : List Char) :
    (lower text).dropWhile p = lower (text.dropWhile p) := by
  induction text with
  | nil => rfl
  | cons c text ih =>
    by_cases drop : p c = true
    · rw [lower_cons, List.dropWhile_cons_of_pos ((same c).trans drop),
        List.dropWhile_cons_of_pos drop, ih]
    · rw [lower_cons, List.dropWhile_cons_of_neg (by rwa [same]),
        List.dropWhile_cons_of_neg drop, lower_cons]

theorem dropKeyword?_lower (keyword : List String) (text : List Char) :
    dropKeyword? keyword (lower text) = (dropKeyword? keyword text).map lower := by
  induction keyword generalizing text with
  | nil =>
    rw [dropKeyword?, dropKeyword?, atGap_lower]
    split <;> rfl
  | cons w words ih =>
    cases words with
    | nil =>
      rw [dropKeyword?, dropKeyword?, dropWord?_lower]
      cases dropWord? w.toList text with
      | none => rfl
      | some rest =>
        rw [Option.map_some, Option.bind_some, Option.bind_some, atGap_lower]
        split <;> rfl
    | cons w' words =>
      rw [dropKeyword?, dropKeyword?, dropWord?_lower]
      · cases dropWord? w.toList text with
        | none => rfl
        | some rest =>
          rw [Option.map_some, Option.bind_some, Option.bind_some, atGap_lower,
            dropWhile_lower isGap_toLower, ih]
          split <;> rfl
      · simp
      · simp

theorem cutAt?_lower_of_mark (keyword : List String) (bounded : Bool) {mark : Option Char}
    (quote : ∀ q ∈ mark, isQuote q = true) (text : List Char) :
    cutAt? keyword bounded mark (lower text) =
      (cutAt? keyword bounded mark text).map fun p => (lower p.1, lower p.2) := by
  induction text generalizing bounded mark with
  | nil => rfl
  | cons c text ih =>
    have drop := dropKeyword?_lower keyword (c :: text)
    rw [lower_cons] at drop ⊢
    have next : cutAt? keyword (isGap c.toLower) (quoteAfter mark c.toLower) (lower text) =
        (cutAt? keyword (isGap c) (quoteAfter mark c) text).map
          fun p => (lower p.1, lower p.2) := by
      rw [isGap_toLower, quoteAfter_toLower quote, ih (isGap c) (isQuote_of_quoteAfter quote c)]
    rcases cutAt?_cons_cases keyword bounded mark c text with ⟨rfl, rfl, after, here⟩ | no
    · rw [here] at drop
      rw [cutAt?_cons_of_found here, cutAt?_cons_of_found drop]
      rfl
    · have no' : bounded = true → mark = none →
          dropKeyword? keyword (c.toLower :: lower text) = none := by
        intro b m
        rw [drop, no b m]
        rfl
      rw [cutAt?_cons_of_not_found no, cutAt?_cons_of_not_found no', next, Option.map_map,
        Option.map_map]
      rfl

theorem cutAt?_lower (keyword : List String) (bounded : Bool) (text : List Char) :
    cutAt? keyword bounded none (lower text) =
      (cutAt? keyword bounded none text).map fun p => (lower p.1, lower p.2) := by
  apply cutAt?_lower_of_mark
  intro q m
  cases m

def EndsInLetter (word : List Char) : Prop := ∃ front c, word = front ++ [c] ∧ c.isAlpha = true

theorem EndsInLetter.of_lower {word word' : List Char} (h : EndsInLetter word)
    (same : lower word = lower word') : EndsInLetter word' := by
  obtain ⟨front, c, rfl, letter⟩ := h
  rw [lower_append] at same
  obtain ⟨front', last, rfl, -, ends⟩ := List.map_eq_append_iff.mp same.symm
  obtain ⟨c', rfl, e⟩ := List.map_eq_singleton_iff.mp ends
  exact ⟨front', c', rfl, isAlpha_of_toLower_eq e letter⟩

theorem EndsInLetter.append {word : List Char} (h : EndsInLetter word) (front : List Char) :
    EndsInLetter (front ++ word) := by
  obtain ⟨middle, c, rfl, letter⟩ := h
  exact ⟨front ++ middle, c, (List.append_assoc ..).symm, letter⟩

/-- A keyword is written as its words in any case, with gaps between them. -/
def Spells : List String → List Char → Prop
  | [], text => text = []
  | [word], text => sameLetters text word.toList = true
  | word :: words, text => ∃ first gaps rest, text = first ++ (gaps ++ rest) ∧
      sameLetters first word.toList = true ∧ IsGaps gaps ∧ Spells words rest

theorem exists_spells_of_dropKeyword? {keyword : List String} (spelled : Spelled keyword)
    {text after : List Char} (found : dropKeyword? keyword text = some after) :
    ∃ word, Spells keyword word ∧ text = word ++ after := by
  induction keyword generalizing text with
  | nil => exact absurd rfl spelled.some
  | cons w words ih =>
    cases words with
    | nil =>
      rw [dropKeyword?, Option.bind_eq_some_iff] at found
      obtain ⟨rest, dropped, found⟩ := found
      obtain ⟨word, rfl, same⟩ := dropWord?_eq_some_iff.mp dropped
      split at found
      · exact ⟨word, same, by rw [Option.some.inj found]⟩
      · cases found
    | cons w' words =>
      rw [dropKeyword?, Option.bind_eq_some_iff] at found
      · obtain ⟨rest, dropped, found⟩ := found
        obtain ⟨first, rfl, same⟩ := dropWord?_eq_some_iff.mp dropped
        split at found
        · next gap =>
          obtain ⟨word, spells, parts⟩ := ih spelled.tail found
          have some : rest.takeWhile isGap ≠ [] := by
            cases rest with
            | nil =>
              rw [List.dropWhile_nil, dropKeyword?_nil spelled.tail] at found
              cases found
            | cons c rest =>
              have here : isGap c = true := gap
              rw [List.takeWhile_cons_of_pos here]
              exact List.cons_ne_nil _ _
          have gaps : IsGaps (rest.takeWhile isGap) :=
            ⟨some, fun c m => List.all_eq_true.mp List.all_takeWhile c m⟩
          refine ⟨first ++ (rest.takeWhile isGap ++ word),
            ⟨first, _, word, rfl, same, gaps, spells⟩, ?_⟩
          rw [List.append_assoc, List.append_assoc, ← parts, List.takeWhile_append_dropWhile]
        · cases found
      · simp

theorem Spells.not_isQuote {keyword : List String} (spelled : Spelled keyword) {word : List Char}
    (spells : Spells keyword word) : ∀ c ∈ word, isQuote c = false := by
  induction keyword generalizing word with
  | nil => exact absurd rfl spelled.some
  | cons w words ih =>
    have letters {text : List Char} (same : sameLetters text w.toList = true) :
        ∀ c ∈ text, isQuote c = false := fun c m =>
      not_isQuote_of_isAlpha
        (isAlpha_of_sameLetters same (spelled.letters w (List.mem_cons_self ..)) c m)
    cases words with
    | nil => exact letters spells
    | cons w' words =>
      obtain ⟨first, gaps, rest, rfl, same, blank, spells⟩ := spells
      intro c m
      rcases List.mem_append.mp m with m | m
      · exact letters same c m
      · rcases List.mem_append.mp m with m | m
        · exact not_isQuote_of_isBlank (isBlank_of_isGap (blank.gaps c m))
        · exact ih spelled.tail spells c m

theorem Spells.endsInLetter {keyword : List String} (spelled : Spelled keyword) {word : List Char}
    (spells : Spells keyword word) : EndsInLetter word := by
  induction keyword generalizing word with
  | nil => exact absurd rfl spelled.some
  | cons w words ih =>
    cases words with
    | nil =>
      have same : sameLetters word w.toList = true := spells
      have some : word ≠ [] := by
        rintro rfl
        rw [sameLetters_iff_lower] at same
        exact spelled.words w (List.mem_cons_self ..) (List.map_eq_nil_iff.mp same.symm)
      refine ⟨word.dropLast, word.getLast some, (List.dropLast_concat_getLast some).symm, ?_⟩
      exact isAlpha_of_sameLetters same (spelled.letters w (List.mem_cons_self ..)) _
        (List.getLast_mem some)
    | cons w' words =>
      obtain ⟨first, gaps, rest, rfl, -, -, spells⟩ := spells
      exact ((ih spelled.tail spells).append gaps).append first

theorem dropKeyword?_parts {keyword : List String} (spelled : Spelled keyword)
    {text after : List Char} (found : dropKeyword? keyword text = some after) :
    ∃ word, EndsInLetter word ∧ text = word ++ after := by
  obtain ⟨word, spells, parts⟩ := exists_spells_of_dropKeyword? spelled found
  exact ⟨word, spells.endsInLetter spelled, parts⟩

theorem exists_spells_of_cutAt? {keyword : List String} (spelled : Spelled keyword)
    {bounded : Bool} {mark : Option Char} {text before after : List Char}
    (found : cutAt? keyword bounded mark text = some (before, after)) :
    ∃ word, Spells keyword word ∧ text = before ++ (word ++ after) ∧
      markAfter mark before = none := by
  induction text generalizing bounded mark before with
  | nil => cases found
  | cons c text ih =>
    rcases cutAt?_cons_cases keyword bounded mark c text with ⟨rfl, rfl, a, dropped⟩ | no
    · rw [cutAt?_cons_of_found dropped] at found
      obtain ⟨rfl, rfl⟩ := Prod.mk.inj (Option.some.inj found)
      obtain ⟨word, spells, parts⟩ := exists_spells_of_dropKeyword? spelled dropped
      exact ⟨word, spells, parts, rfl⟩
    · rw [cutAt?_cons_of_not_found no, Option.map_eq_some_iff] at found
      obtain ⟨⟨front, rest⟩, found, e⟩ := found
      obtain ⟨rfl, rfl⟩ := Prod.mk.inj e
      obtain ⟨word, spells, rfl, closed⟩ := ih found
      exact ⟨word, spells, rfl, closed⟩

theorem cutAt?_parts {keyword : List String} (spelled : Spelled keyword) {bounded : Bool}
    {mark : Option Char} {text before after : List Char}
    (found : cutAt? keyword bounded mark text = some (before, after)) :
    ∃ word, EndsInLetter word ∧ text = before ++ (word ++ after) := by
  obtain ⟨word, spells, parts, -⟩ := exists_spells_of_cutAt? spelled found
  exact ⟨word, spells.endsInLetter spelled, parts⟩

/-- A keyword ends at the same place in a text that is the same in lower case. -/
theorem dropKeyword?_of_lower {clause : Clause} {x y after front after' : List Char}
    (same : lower x = lower y) (found : dropKeyword? clause.keyword x = some after)
    (parts : y = front ++ after') (length : after'.length = after.length) :
    dropKeyword? clause.keyword y = some after' := by
  have both : (dropKeyword? clause.keyword y).map lower = some (lower after) := by
    rw [← dropKeyword?_lower, ← same, dropKeyword?_lower, found]
    rfl
  obtain ⟨rest, found', e⟩ := Option.map_eq_some_iff.mp both
  obtain ⟨word, -, split⟩ := dropKeyword?_parts clause.spelled found'
  have ends := (List.append_inj' (parts.symm.trans split)
    (length.trans (length_eq_of_lower e).symm)).2
  rw [found', ends]

theorem cutAt?_of_lower {clause : Clause} {x y before after before' word' after' : List Char}
    (same : lower x = lower y)
    (found : cutAt? clause.keyword false none x = some (before, after))
    (parts : y = before' ++ (word' ++ after')) (starts : before'.length = before.length)
    (ends : after'.length = after.length) :
    cutAt? clause.keyword false none y = some (before', after') := by
  have both : (cutAt? clause.keyword false none y).map (fun p => (lower p.1, lower p.2)) =
      some (lower before, lower after) := by
    rw [← cutAt?_lower, ← same, cutAt?_lower, found]
    rfl
  obtain ⟨⟨front, rest⟩, found', e⟩ := Option.map_eq_some_iff.mp both
  obtain ⟨front', rest'⟩ := Prod.mk.inj e
  obtain ⟨word, -, split⟩ := cutAt?_parts clause.spelled found'
  have whole := parts.symm.trans split
  have first := List.append_inj whole (starts.trans (length_eq_of_lower front').symm)
  have last := (List.append_inj' first.2 (ends.trans (length_eq_of_lower rest').symm)).2
  rw [found', first.1, last]

theorem cutAt?_none_of_lower {keyword : List String} {bounded : Bool} {x y : List Char}
    (same : lower x = lower y) (missing : cutAt? keyword bounded none x = none) :
    cutAt? keyword bounded none y = none := by
  have both := cutAt?_lower keyword bounded y
  rw [← same, cutAt?_lower, missing] at both
  exact Option.map_eq_none_iff.mp both.symm

def afterSource? (text : List Char) : Option (List Char) :=
  (dropKeyword? Clause.select.keyword text).bind fun afterSelect =>
    (cutAt? Clause.source.keyword false none afterSelect).map Prod.snd

/-- The text behind the keyword of the filter, or behind that of the source when none is there. -/
def afterFilter? (text : List Char) : Option (List Char) :=
  (afterSource? text).map fun t => (cutClause .filter t).2.getD t

/-- The text of a query in which the keyword of a clause is looked for. -/
def Clause.searched? (text : List Char) : Clause → Option (List Char)
  | .select => some text
  | .source => dropKeyword? Clause.select.keyword text
  | .filter => afterSource? text
  | .order => afterFilter? text
  | .limit => (afterFilter? text).map fun t => (cutClause .order t).2.getD t

def Clause.place? : Clause → List Char → Option (List Char × List Char)
  | .select, text => (dropKeyword? Clause.select.keyword text).map fun after => ([], after)
  | clause, text => cutAt? clause.keyword false none text

/-- In the query `front ++ before ++ word ++ after`, which is searched from `before` on, the word
is found as the keyword of a clause. -/
structure KeywordAt (clause : Clause) (front before word after : List Char) : Prop where
  searched : clause.searched? (front ++ (before ++ (word ++ after))) =
    some (before ++ (word ++ after))
  place : clause.place? (before ++ (word ++ after)) = some (before, after)

theorem exists_of_afterSource? {text rest : List Char} (h : afterSource? text = some rest) :
    ∃ afterSelect select, dropKeyword? Clause.select.keyword text = some afterSelect ∧
      cutAt? Clause.source.keyword false none afterSelect = some (select, rest) := by
  obtain ⟨afterSelect, opens, from_⟩ := Option.bind_eq_some_iff.mp h
  obtain ⟨⟨select, after⟩, cut, rfl⟩ := Option.map_eq_some_iff.mp from_
  exact ⟨afterSelect, select, opens, cut⟩

theorem getD_cutClause {clause : Clause} {text rest : List Char}
    (h : (cutClause clause text).2.getD text = rest) :
    (∃ before, cutAt? clause.keyword false none text = some (before, rest)) ∨
      cutAt? clause.keyword false none text = none ∧ text = rest := by
  cases found : cutAt? clause.keyword false none text with
  | none =>
    rw [cutClause_of_none found] at h
    exact .inr ⟨rfl, h⟩
  | some p =>
    rw [cutClause_of_some found] at h
    obtain rfl : p.2 = rest := h
    exact .inl ⟨p.1, rfl⟩

theorem afterSource?_suffix {text rest : List Char} (h : afterSource? text = some rest) :
    ∃ front, text = front ++ rest := by
  obtain ⟨afterSelect, select, opens, from_⟩ := exists_of_afterSource? h
  obtain ⟨first, -, rfl⟩ := dropKeyword?_parts Clause.select.spelled opens
  obtain ⟨second, -, rfl⟩ := cutAt?_parts Clause.source.spelled from_
  exact ⟨first ++ (select ++ second), by simp⟩

theorem getD_cutClause_suffix {clause : Clause} {text rest : List Char}
    (h : (cutClause clause text).2.getD text = rest) : ∃ front, text = front ++ rest := by
  rcases getD_cutClause h with ⟨before, found⟩ | ⟨-, rfl⟩
  · obtain ⟨word, -, rfl⟩ := cutAt?_parts clause.spelled found
    exact ⟨before ++ word, by simp⟩
  · exact ⟨[], rfl⟩

theorem afterFilter?_suffix {text rest : List Char} (h : afterFilter? text = some rest) :
    ∃ front, text = front ++ rest := by
  obtain ⟨afterSource, found, ends⟩ := Option.map_eq_some_iff.mp h
  obtain ⟨first, rfl⟩ := afterSource?_suffix found
  obtain ⟨second, rfl⟩ := getD_cutClause_suffix ends
  exact ⟨first ++ second, by simp⟩

namespace Clause

theorem place?_parts {clause : Clause} {text before after : List Char}
    (h : clause.place? text = some (before, after)) :
    ∃ word, EndsInLetter word ∧ text = before ++ (word ++ after) := by
  cases clause with
  | select =>
    obtain ⟨rest, dropped, e⟩ := Option.map_eq_some_iff.mp h
    obtain ⟨rfl, rfl⟩ := Prod.mk.inj e
    exact dropKeyword?_parts Clause.select.spelled dropped
  | source => exact cutAt?_parts Clause.source.spelled h
  | filter => exact cutAt?_parts Clause.filter.spelled h
  | order => exact cutAt?_parts Clause.order.spelled h
  | limit => exact cutAt?_parts Clause.limit.spelled h

end Clause

theorem KeywordAt.endsInLetter {clause : Clause} {front before word after : List Char}
    (h : KeywordAt clause front before word after) : EndsInLetter word := by
  obtain ⟨written, ends, parts⟩ := Clause.place?_parts h.place
  rwa [List.append_cancel_right (List.append_cancel_left parts)]

/-- Two texts behind the source or the filter are cut alike, and no clause of them differs. -/
structure SameTail (x y : List Char) : Prop where
  rest : restOfClause x = restOfClause y
  order : orderText? x = orderText? y
  limit : limitText? x = limitText? y

section Cuts

variable {x y : List Char} (same : lower x = lower y)

include same

theorem cutSource_of_lower {front back select afterSelect : List Char}
    (opens : dropKeyword? Clause.select.keyword (front ++ x) = some afterSelect)
    (from_ : cutAt? Clause.source.keyword false none afterSelect = some (select, back ++ x)) :
    ∃ afterSelect', dropKeyword? Clause.select.keyword (front ++ y) = some afterSelect' ∧
      cutAt? Clause.source.keyword false none afterSelect' = some (select, back ++ y) := by
  have length := length_eq_of_lower same
  obtain ⟨word, -, rfl⟩ := cutAt?_parts Clause.source.spelled from_
  obtain ⟨first, -, whole⟩ := dropKeyword?_parts Clause.select.spelled opens
  have parts : front ++ x = (first ++ (select ++ (word ++ back))) ++ x := by simpa using whole
  obtain rfl := List.append_cancel_right parts
  have parts' : first ++ (select ++ (word ++ back)) ++ y =
      first ++ (select ++ (word ++ (back ++ y))) := by simp
  refine ⟨select ++ (word ++ (back ++ y)), ?_, ?_⟩
  · exact dropKeyword?_of_lower (by simp [same]) opens parts' (by simp [length])
  · exact cutAt?_of_lower (by simp [same]) from_ rfl rfl (by simp [length])

theorem clauseTexts_of_sameTail {front : List Char} (tail : SameTail x y)
    (searched : afterFilter? (front ++ x) = some x) :
    clauseTexts (front ++ y) = clauseTexts (front ++ x) := by
  obtain ⟨afterSource, found, ends⟩ := Option.map_eq_some_iff.mp searched
  obtain ⟨afterSelect, select, opens, from_⟩ := exists_of_afterSource? found
  rcases getD_cutClause ends with ⟨source, where_⟩ | ⟨where_, rfl⟩
  · obtain ⟨word, -, rfl⟩ := cutAt?_parts Clause.filter.spelled where_
    rw [← List.append_assoc] at from_ where_
    obtain ⟨afterSelect', opens', from'⟩ := cutSource_of_lower same opens from_
    have where' : cutAt? Clause.filter.keyword false none (source ++ word ++ y) =
        some (source, y) :=
      cutAt?_of_lower (by simp [same]) where_ (List.append_assoc ..) rfl
        (length_eq_of_lower same).symm
    rw [clauseTexts_of_filter opens' from' where', clauseTexts_of_filter opens from_ where_,
      tail.rest, tail.order, tail.limit]
  · rw [← List.nil_append afterSource] at from_
    obtain ⟨afterSelect', opens', from'⟩ := cutSource_of_lower same opens from_
    have where' := cutAt?_none_of_lower same where_
    rw [List.nil_append] at from_ from'
    rw [clauseTexts_of_no_filter opens' from' where', clauseTexts_of_no_filter opens from_ where_,
      tail.rest, tail.order, tail.limit]

end Cuts

theorem sameTail_of_order {x y before after : List Char}
    (hx : cutAt? Clause.order.keyword false none x = some (before, after))
    (hy : cutAt? Clause.order.keyword false none y = some (before, after)) : SameTail x y := by
  constructor
  · simp only [restOfClause, cutClause_of_some hx, cutClause_of_some hy, Option.isSome_some,
      if_true]
  · simp only [orderText?, cutClause_of_some hx, cutClause_of_some hy]
  · simp only [limitText?, cutClause_of_some hx, cutClause_of_some hy, Option.getD_some]

theorem sameTail_of_limit {x y before after : List Char}
    (missing : cutAt? Clause.order.keyword false none x = none)
    (missing' : cutAt? Clause.order.keyword false none y = none)
    (hx : cutAt? Clause.limit.keyword false none x = some (before, after))
    (hy : cutAt? Clause.limit.keyword false none y = some (before, after)) : SameTail x y := by
  constructor
  · simp only [restOfClause, cutClause_of_none missing, cutClause_of_none missing',
      cutClause_of_some hx, cutClause_of_some hy]
    rfl
  · simp only [orderText?, cutClause_of_none missing, cutClause_of_none missing', Option.map_none]
  · simp only [limitText?, cutClause_of_none missing, cutClause_of_none missing',
      cutClause_of_some hx, cutClause_of_some hy, Option.getD_none]

theorem sameTail_of_order_limit {x y order before after limitX limitY : List Char}
    (hx : cutAt? Clause.order.keyword false none x = some (order, limitX))
    (hy : cutAt? Clause.order.keyword false none y = some (order, limitY))
    (limit : cutAt? Clause.limit.keyword false none limitX = some (before, after))
    (limit' : cutAt? Clause.limit.keyword false none limitY = some (before, after)) :
    SameTail x y := by
  constructor
  · simp only [restOfClause, cutClause_of_some hx, cutClause_of_some hy]
    rfl
  · simp only [orderText?, cutClause_of_some hx, cutClause_of_some hy, Option.map_some,
      cutClause_of_some limit, cutClause_of_some limit']
  · simp only [limitText?, cutClause_of_some hx, cutClause_of_some hy, Option.getD_some,
      cutClause_of_some limit, cutClause_of_some limit']

section Keywords

variable {clause : Clause} {front before word word' after : List Char}

theorem Clause.place?_recased
    (place : clause.place? (before ++ (word ++ after)) = some (before, after))
    (same : lower word = lower word') :
    clause.place? (before ++ (word' ++ after)) = some (before, after) := by
  have texts : lower (before ++ (word ++ after)) = lower (before ++ (word' ++ after)) := by
    simp [same]
  have found {clause : Clause}
      (h : cutAt? clause.keyword false none (before ++ (word ++ after)) = some (before, after)) :
      cutAt? clause.keyword false none (before ++ (word' ++ after)) = some (before, after) :=
    cutAt?_of_lower texts h rfl rfl rfl
  cases clause with
  | select =>
    obtain ⟨rest, dropped, e⟩ := Option.map_eq_some_iff.mp place
    obtain ⟨rfl, rfl⟩ := Prod.mk.inj e
    have dropped' : dropKeyword? Clause.select.keyword (word' ++ rest) = some rest :=
      dropKeyword?_of_lower texts dropped rfl rfl
    show (dropKeyword? Clause.select.keyword (word' ++ rest)).map _ = _
    rw [dropped']
    rfl
  | source => exact found place
  | filter => exact found place
  | order => exact found place
  | limit => exact found place

/-- A query keeps its clauses when one of their keywords is written in another case. -/
theorem clauseTexts_recased (found : KeywordAt clause front before word after)
    (same : lower word = lower word') :
    clauseTexts (front ++ (before ++ (word' ++ after))) =
      clauseTexts (front ++ (before ++ (word ++ after))) := by
  obtain ⟨searched, place⟩ := found
  have place' := Clause.place?_recased place same
  have texts : lower (before ++ (word ++ after)) = lower (before ++ (word' ++ after)) := by
    simp [same]
  generalize before ++ (word ++ after) = x at searched place texts ⊢
  generalize before ++ (word' ++ after) = y at place' texts ⊢
  cases clause with
  | select =>
    obtain rfl : front = [] := List.append_left_eq_self.mp (Option.some.inj searched)
    obtain ⟨rest, opens, e⟩ := Option.map_eq_some_iff.mp place
    obtain ⟨rest', opens', e'⟩ := Option.map_eq_some_iff.mp place'
    obtain rfl : rest = rest' := (Prod.mk.inj (e.trans e'.symm)).2
    rw [List.nil_append, List.nil_append]
    simp only [clauseTexts, opens, opens']
  | source =>
    have opens' : dropKeyword? Clause.select.keyword (front ++ y) = some y :=
      dropKeyword?_of_lower (by simp [texts]) searched rfl (length_eq_of_lower texts).symm
    have from_ : cutAt? Clause.source.keyword false none x = some (before, after) := place
    have from' : cutAt? Clause.source.keyword false none y = some (before, after) := place'
    have opens : dropKeyword? Clause.select.keyword (front ++ x) = some x := searched
    simp only [clauseTexts, opens, opens', from_, from']
  | filter =>
    obtain ⟨afterSelect, select, opens, from_⟩ := exists_of_afterSource? searched
    rw [← List.nil_append x] at from_
    obtain ⟨afterSelect', opens', from'⟩ := cutSource_of_lower texts opens from_
    rw [clauseTexts_of_filter opens' from' place', clauseTexts_of_filter opens from_ place]
  | order => exact clauseTexts_of_sameTail texts (sameTail_of_order place place') searched
  | limit =>
    obtain ⟨tail, filtered, ends⟩ := Option.map_eq_some_iff.mp searched
    rcases getD_cutClause ends with ⟨order, ordered⟩ | ⟨missing, rfl⟩
    · obtain ⟨middle, -, rfl⟩ := cutAt?_parts Clause.order.spelled ordered
      obtain ⟨first, whole⟩ := afterFilter?_suffix filtered
      have parts : front ++ x = (first ++ (order ++ middle)) ++ x := by simpa using whole
      obtain rfl := List.append_cancel_right parts
      have ordered' : cutAt? Clause.order.keyword false none (order ++ (middle ++ y)) =
          some (order, y) :=
        cutAt?_of_lower (by simp [texts]) ordered rfl rfl (length_eq_of_lower texts).symm
      have tail := sameTail_of_order_limit ordered ordered' place place'
      have shift (z : List Char) : first ++ (order ++ middle) ++ z =
          first ++ (order ++ (middle ++ z)) := by simp
      rw [shift] at filtered
      rw [shift, shift]
      exact clauseTexts_of_sameTail (by simp [texts]) tail filtered
    · have missing' := cutAt?_none_of_lower texts missing
      exact clauseTexts_of_sameTail texts (sameTail_of_limit missing missing' place place') filtered

end Keywords

end DocQuery
