import DocQuery.Proofs.Query.ByteSearch
import DocQuery.Proofs.Query.Parts

/-!
# The clauses partition the query

The keywords of a query are spans of its bytes, and so is the text of each clause: it runs from
behind its keyword to the next keyword that is there, or to the end. The spans follow one another
without a gap, begin and end between characters, and read the parts of the query.
-/

namespace DocQuery

open Text

/-- The keywords of some clauses, each looked for behind the last one that is there. -/
def laterSpans (bytes : List UInt8) : List Clause → Nat → List (Clause × Span)
  | [], _ => []
  | clause :: clauses, position =>
    match clause.span? bytes position with
    | none => laterSpans bytes clauses position
    | some span => (clause, span) :: laterSpans bytes clauses span.stop

def keywordSpans (bytes : List UInt8) : Except ParseError (List (Clause × Span)) :=
  match (Clause.select.span? bytes 0).filter (·.start == 0) with
  | none => .error .missingSelect
  | some select =>
    match Clause.source.span? bytes select.stop with
    | none => .error .missingFrom
    | some source =>
      .ok ((.select, select) :: (.source, source) ::
        laterSpans bytes [.filter, .order, .limit] source.stop)

/-- The texts of the clauses: each from behind its keyword to the next one, or to the end. -/
def contentSpans (size : Nat) : List (Clause × Span) → List (Clause × Span)
  | [] => []
  | (clause, keyword) :: rest =>
    (clause, ⟨keyword.stop, (rest.head?.map fun next => next.2.start).getD size⟩) ::
      contentSpans size rest

def wordsAt : Nat → List Part → List (Clause × Span)
  | _, [] => []
  | position, p :: parts =>
    (p.clause, ⟨position, position + (utf8 p.word).length⟩) ::
      wordsAt (position + (utf8 p.text).length) parts

def contentsAt : Nat → List Part → List (Clause × Span)
  | _, [] => []
  | position, p :: parts =>
    (p.clause, ⟨position + (utf8 p.word).length, position + (utf8 p.text).length⟩) ::
      contentsAt (position + (utf8 p.text).length) parts

/-- The later keywords are found where the text is cut. The induction is on the cuts, with any front
that ends in a letter: no keyword begins right behind it. -/
theorem laterSpans_utf8 {clauses : List Clause} {text head : List Char} {parts : List Part}
    (h : CutInto clauses text head parts) {front : List Char} (ends : EndsInLetter front) :
    laterSpans (utf8 (front ++ text)) clauses (utf8 front).length =
      wordsAt (utf8 (front ++ head)).length parts := by
  induction h generalizing front with
  | done text => rfl
  | @skip clause _ _ _ _ missing _ ih =>
    have found := clause.span?_utf8 ends
    rw [laterSpans, found, missing]
    exact ih ends
  | @cut clause _ _ head word after contents _ found spells whole _ _ ih =>
    have ends' := ((spells.endsInLetter clause.spelled).append head).append front
    have next := ih ends'
    have place : front ++ (head ++ (word ++ after)) = (front ++ (head ++ word)) ++ after := by simp
    have size : (utf8 (front ++ (head ++ word))).length =
        (utf8 (front ++ head)).length + (utf8 word).length := by
      simp only [length_utf8_append]
      omega
    have size' : (utf8 (front ++ (head ++ word) ++ contents)).length =
        (utf8 (front ++ head)).length + (utf8 (word ++ contents)).length := by
      simp only [length_utf8_append]
      omega
    rw [laterSpans, clause.span?_utf8 ends, found, Option.map_some]
    subst whole
    simp only [spanBehind]
    rw [place, positionOf_append, next, size', wordsAt, size]
    rfl

theorem span?_select_utf8 (text : List Char) :
    (Clause.select.span? (utf8 text) 0).filter (·.start == 0) =
      (dropKeyword? Clause.select.keyword text).map fun after => ⟨0, positionOf text after⟩ := by
  have found : Clause.select.span? (utf8 text) 0 =
      (cutAt? Clause.select.keyword true none text).map (spanBehind text []) :=
    findKeyword?_utf8_of_closed Clause.select.spelled [] text
  rw [found]
  cases text with
  | nil =>
    rw [dropKeyword?_nil Clause.select.spelled]
    rfl
  | cons c text =>
    rcases cutAt?_cons_cases Clause.select.keyword true none c text with
      ⟨-, -, after, opens⟩ | missing
    · rw [cutAt?_cons_of_found opens, opens]
      rfl
    · rw [cutAt?_cons_of_not_found missing, missing rfl rfl, Option.map_map, Option.map_none,
        Option.filter_eq_none_iff]
      intro span m
      obtain ⟨place, -, rfl⟩ := Option.map_eq_some_iff.mp m
      have positive := c.utf8Size_pos
      simp only [Function.comp_apply, spanBehind, List.nil_append, length_utf8_cons, beq_iff_eq]
      omega

theorem keywordSpans_utf8 {text : List Char} {outcome : Except ParseError (List Part)}
    (h : QueryCut text outcome) : keywordSpans (utf8 text) = outcome.map (wordsAt 0) := by
  cases h with
  | noSelect missing =>
    rw [keywordSpans, span?_select_utf8, missing]
    rfl
  | @noSource afterSelect opens missing =>
    obtain ⟨word, spells, rfl⟩ := exists_spells_of_dropKeyword? Clause.select.spelled opens
    have next := Clause.source.span?_utf8 (spells.endsInLetter Clause.select.spelled) afterSelect
    rw [missing] at next
    rw [keywordSpans, span?_select_utf8, opens, Option.map_some, positionOf_append]
    simp only [next]
    rfl
  | @cut afterSelect word select afterSource word' source later opens spells whole from_ spells'
      whole' _ rest =>
    have ends := spells.endsInLetter Clause.select.spelled
    have next := Clause.source.span?_utf8 ends afterSelect
    have ends' := ((spells'.endsInLetter Clause.source.spelled).append select).append word
    have later := laterSpans_utf8 rest ends'
    have place : word ++ (select ++ (word' ++ afterSource)) =
        (word ++ (select ++ word')) ++ afterSource := by simp
    rw [from_, Option.map_some] at next
    rw [keywordSpans, span?_select_utf8, opens, Option.map_some]
    subst whole whole'
    rw [positionOf_append]
    simp only [next, spanBehind]
    rw [place, positionOf_append, later]
    simp [wordsAt, Part.text, Except.map, Nat.add_assoc]

theorem slice?_behind (front piece back : List Char) :
    slice? (front ++ (piece ++ back))
      ⟨(utf8 front).length, (utf8 front).length + (utf8 piece).length⟩ = some piece :=
  slice?_eq_some_iff.mpr ⟨front, back, rfl, by rw [length_utf8_append]⟩

theorem contentSpans_wordsAt {size position : Nat} {parts : List Part}
    (whole : position + (utf8 (wholeOf parts)).length = size) :
    contentSpans size (wordsAt position parts) = contentsAt position parts := by
  induction parts generalizing position with
  | nil => rfl
  | cons p parts ih =>
    have sizes : (utf8 (wholeOf (p :: parts))).length =
        (utf8 p.text).length + (utf8 (wholeOf parts)).length := length_utf8_append ..
    have stop : ((wordsAt (position + (utf8 p.text).length) parts).head?.map
        fun next => next.2.start).getD size = position + (utf8 p.text).length := by
      cases parts with
      | nil =>
        rw [← whole, sizes]
        rfl
      | cons p' parts => rfl
    rw [wordsAt, contentSpans, contentsAt, ih (by omega), stop]

section Slices

variable {text front : List Char} {p : Part} {parts : List Part}

theorem slice?_word (whole : text = front ++ wholeOf (p :: parts)) :
    slice? text ⟨(utf8 front).length, (utf8 front).length + (utf8 p.word).length⟩ =
      some p.word := by
  have place : text = front ++ (p.word ++ (p.contents ++ wholeOf parts)) := by
    simp [whole, wholeOf, Part.text]
  rw [place, slice?_behind]

theorem slice?_contents (whole : text = front ++ wholeOf (p :: parts)) :
    slice? text ⟨(utf8 front).length + (utf8 p.word).length,
      (utf8 front).length + (utf8 p.text).length⟩ = some p.contents := by
  have place : text = (front ++ p.word) ++ (p.contents ++ wholeOf parts) := by
    simp [whole, wholeOf, Part.text]
  rw [place, Part.text, length_utf8_append, ← Nat.add_assoc, ← length_utf8_append, slice?_behind]

theorem whole_tail (whole : text = front ++ wholeOf (p :: parts)) :
    text = (front ++ p.text) ++ wholeOf parts := by
  simp [whole, wholeOf]

theorem slice?_wordsAt (whole : text = front ++ wholeOf parts) :
    ((wordsAt (utf8 front).length parts).map fun k => (k.1, slice? text k.2)) =
      parts.map fun p => (p.clause, some p.word) := by
  induction parts generalizing front with
  | nil => rfl
  | cons p parts ih =>
    have next := ih (whole_tail whole)
    rw [length_utf8_append] at next
    rw [wordsAt, List.map_cons, List.map_cons, next, slice?_word whole]

theorem slice?_contentsAt (whole : text = front ++ wholeOf parts) :
    ((contentsAt (utf8 front).length parts).map fun k => (k.1, slice? text k.2)) =
      parts.map fun p => (p.clause, some p.contents) := by
  induction parts generalizing front with
  | nil => rfl
  | cons p parts ih =>
    have next := ih (whole_tail whole)
    rw [length_utf8_append] at next
    rw [contentsAt, List.map_cons, List.map_cons, next, slice?_contents whole]

/-- The quotations of a text are those of its clauses when every clause is closed. -/
theorem quotedSpans_wholeOf (whole : text = front ++ wholeOf parts)
    (plain : ∀ p ∈ parts, ∀ c ∈ p.word, isQuote c = false)
    (closed : ∀ p ∈ parts, markAfter none p.contents = none) :
    quotedSpans none (utf8 front).length (wholeOf parts) =
      (contentsAt (utf8 front).length parts).flatMap fun k =>
        quotedSpans none k.2.start ((slice? text k.2).getD []) := by
  induction parts generalizing front with
  | nil => rfl
  | cons p parts ih =>
    have next := ih (whole_tail whole) (fun x m => plain x (List.mem_cons_of_mem _ m))
      fun x m => closed x (List.mem_cons_of_mem _ m)
    have here := plain p (List.mem_cons_self ..)
    have behind := unclosedQuote?_of_closed (closed p (List.mem_cons_self ..))
      ((utf8 front).length + (utf8 p.word).length)
    have parted : wholeOf (p :: parts) = p.word ++ (p.contents ++ wholeOf parts) := by
      simp [wholeOf, Part.text]
    have size : (utf8 front).length + (utf8 p.word).length + (utf8 p.contents).length =
        (utf8 front).length + (utf8 p.text).length := by
      rw [Part.text, length_utf8_append, Nat.add_assoc]
    rw [length_utf8_append] at next
    rw [parted, quotedSpans_append, quotedSpans_of_no_quote here, List.nil_append,
      unclosedQuote?_of_closed (markAfter_of_no_quote here), quotedSpans_append, behind, size, next,
      contentsAt, List.flatMap_cons, slice?_contents whole, Option.getD_some]

end Slices

theorem start_of_mem_wordsAt {position : Nat} {parts : List Part} {k : Clause × Span}
    (m : k ∈ wordsAt position parts) : position ≤ k.2.start := by
  induction parts generalizing position with
  | nil => cases m
  | cons p parts ih =>
    rcases List.mem_cons.mp m with rfl | m
    · exact Nat.le_refl _
    · exact Nat.le_trans (Nat.le_add_right ..) (ih m)

theorem pairwise_wordsAt (position : Nat) (parts : List Part) :
    (wordsAt position parts).Pairwise fun k l => k.2.stop ≤ l.2.start := by
  induction parts generalizing position with
  | nil => exact .nil
  | cons p parts ih =>
    refine List.pairwise_cons.mpr ⟨fun l m => ?_, ih _⟩
    have behind := start_of_mem_wordsAt m
    rw [Part.text, length_utf8_append] at behind
    dsimp only
    omega

/-- The keywords found in a query and the texts of its clauses partition it, and every clause has
its quotations to itself. -/
structure Partition (text : List Char) (texts : ClauseTexts) (found : List (Clause × Span))
    (parts : List Part) : Prop where
  /-- The parts make the query, and the clauses read are the contents of the parts. -/
  whole : wholeOf parts = text
  clauses : texts.listed = parts.map fun p => (p.clause, p.contents)
  /-- The keywords come in order, do not overlap, and are spelled like those of their clauses. -/
  opens : [Clause.select, .source] <+: found.map Prod.fst
  order : (found.map Prod.fst).Sublist [.select, .source, .filter, .order, .limit]
  apart : found.Pairwise fun k l => k.2.stop ≤ l.2.start
  spelled : ∀ p ∈ parts, Spells p.clause.keyword p.word
  /-- Every slice can be taken: the keywords are the words of the parts, what lies between them
  are the clause texts. -/
  words : (found.map fun k => (k.1, slice? text k.2)) = parts.map fun p => (p.clause, some p.word)
  contents : ((contentSpans (utf8 text).length found).map fun k => (k.1, slice? text k.2)) =
    parts.map fun p => (p.clause, some p.contents)
  boundaries : ∀ k ∈ found ++ contentSpans (utf8 text).length found, k.2.start ≤ k.2.stop ∧
    String.Pos.Raw.IsValid (String.ofList text) ⟨k.2.start⟩ ∧
    String.Pos.Raw.IsValid (String.ofList text) ⟨k.2.stop⟩
  /-- No clause ends within a quotation, and the quotations of the query are those of its clauses,
  each read from its own beginning. -/
  closed : ∀ p ∈ parts, unclosedQuote? none 0 p.contents = none
  quotations : quotedSpans none 0 text = (contentSpans (utf8 text).length found).flatMap fun k =>
    quotedSpans none k.2.start ((slice? text k.2).getD [])
  /-- Anywhere in a clause every splitter has the mark open that is open there in the query. -/
  marks : ∀ before p after, parts = before ++ p :: after → ∀ read, read <+: p.contents →
    ∀ b : Brackets, (Nesting.outside.afterText b read).mark =
      markAfter none (wholeOf before ++ (p.word ++ read))

theorem boundaries_of_slice? {text piece : List Char} {span : Span}
    (h : slice? text span = some piece) : span.start ≤ span.stop ∧
      String.Pos.Raw.IsValid (String.ofList text) ⟨span.start⟩ ∧
      String.Pos.Raw.IsValid (String.ofList text) ⟨span.stop⟩ := by
  obtain ⟨front, back, rfl, rfl⟩ := slice?_eq_some_iff.mp h
  refine ⟨?_, isValid_length_utf8 front (piece ++ back), ?_⟩
  · rw [length_utf8_append]
    exact Nat.le_add_right ..
  · rw [← List.append_assoc]
    exact isValid_length_utf8 (front ++ piece) back

theorem boundaries_of_mem {text : List Char} {spans : List (Clause × Span)} {parts : List Part}
    {piece : Part → List Char}
    (read : (spans.map fun k => (k.1, slice? text k.2)) =
      parts.map fun p => (p.clause, some (piece p)))
    {k : Clause × Span} (m : k ∈ spans) : k.2.start ≤ k.2.stop ∧
      String.Pos.Raw.IsValid (String.ofList text) ⟨k.2.start⟩ ∧
      String.Pos.Raw.IsValid (String.ofList text) ⟨k.2.stop⟩ := by
  have m' := List.mem_map_of_mem (f := fun k : Clause × Span => (k.1, slice? text k.2)) m
  rw [read] at m'
  obtain ⟨p, -, e⟩ := List.mem_map.mp m'
  exact boundaries_of_slice? (Prod.mk.inj e).2.symm

theorem markAfter_wholeOf {parts : List Part}
    (plain : ∀ p ∈ parts, ∀ c ∈ p.word, isQuote c = false)
    (closed : ∀ p ∈ parts, markAfter none p.contents = none) :
    markAfter none (wholeOf parts) = none := by
  induction parts with
  | nil => rfl
  | cons p parts ih =>
    have parted : wholeOf (p :: parts) = p.word ++ (p.contents ++ wholeOf parts) := by
      simp [wholeOf, Part.text]
    rw [parted, markAfter_append, markAfter_of_no_quote (plain p (List.mem_cons_self ..)),
      markAfter_append, closed p (List.mem_cons_self ..)]
    exact ih (fun x m => plain x (List.mem_cons_of_mem _ m))
      fun x m => closed x (List.mem_cons_of_mem _ m)

/-- Behind closed parts a splitter that begins anew has the same mark open as a scan of the whole
text. -/
theorem mark_within_part {before : List Part} {p : Part}
    (plain : ∀ x ∈ before ++ [p], ∀ c ∈ x.word, isQuote c = false)
    (closed : ∀ x ∈ before, markAfter none x.contents = none) (b : Brackets) (read : List Char) :
    (Nesting.outside.afterText b read).mark =
      markAfter none (wholeOf before ++ (p.word ++ read)) := by
  have earlier := markAfter_wholeOf (fun x m => plain x (List.mem_append_left _ m)) closed
  have word := markAfter_of_no_quote (plain p (by simp))
  calc (Nesting.outside.afterText b read).mark
      = markAfter none read := Nesting.mark_afterText b .outside read
    _ = markAfter (markAfter none (wholeOf before)) (p.word ++ read) := by
        rw [earlier, markAfter_append, word]
    _ = markAfter none (wholeOf before ++ (p.word ++ read)) := (markAfter_append ..).symm

/-- The clauses of a closed query partition it, and no quotation crosses from one clause into
another. -/
theorem clauses_partition_query {text : List Char} {texts : ClauseTexts}
    (closed : unclosedQuote? none 0 text = none) (read : clauseTexts text = .ok texts) :
    ∃ found parts, keywordSpans (utf8 text) = .ok found ∧ Partition text texts found parts := by
  obtain ⟨outcome, cut⟩ := exists_queryCut text
  have listed := cut.listed
  have spans := keywordSpans_utf8 cut
  rw [read] at listed
  cases outcome with
  | error e => cases listed
  | ok parts =>
    have clauses : texts.listed = parts.map fun p => (p.clause, p.contents) := Except.ok.inj listed
    have whole : text = [] ++ wholeOf parts := cut.whole_eq.symm
    have size : 0 + (utf8 (wholeOf parts)).length = (utf8 text).length := by
      rw [cut.whole_eq, Nat.zero_add]
    have words := slice?_wordsAt whole
    have contents := slice?_contentsAt whole
    have plain : ∀ p ∈ parts, ∀ c ∈ p.word, isQuote c = false := fun p m =>
      (cut.spells p m).not_isQuote p.clause.spelled
    have ends := cut.closed ((unclosedQuote?_eq_none_iff text).mp closed)
    have quotations := quotedSpans_wholeOf whole plain ends
    have between := contentSpans_wordsAt size
    rw [utf8_nil, List.length_nil] at words contents quotations
    rw [cut.whole_eq] at quotations
    have keywords : (wordsAt 0 parts).map Prod.fst = texts.listed.map Prod.fst := by
      have same := congrArg (List.map Prod.fst) words
      rw [List.map_map, List.map_map] at same
      rw [clauses, List.map_map]
      exact same
    refine ⟨wordsAt 0 parts, parts, spans, ?_⟩
    constructor
    case whole => exact cut.whole_eq
    case clauses => exact clauses
    case opens => exact keywords ▸ ⟨_, rfl⟩
    case order => exact keywords ▸ texts.listed_sublist
    case apart => exact pairwise_wordsAt 0 parts
    case spelled => exact cut.spells
    case words => exact words
    case contents => rwa [between]
    case boundaries =>
      intro k m
      rw [between] at m
      rcases List.mem_append.mp m with m | m
      · exact boundaries_of_mem words m
      · exact boundaries_of_mem contents m
    case closed => exact fun p m => (unclosedQuote?_eq_none_iff _).mpr (ends p m)
    case quotations => rwa [between]
    case marks =>
      rintro before p after rfl read - b
      refine mark_within_part (fun x m => plain x ?_)
        (fun x m => ends x (List.mem_append_left _ m)) b read
      rw [List.append_cons]
      exact List.mem_append_left _ m

def cafeQuery : List Char :=
  "select name, \"from where\" From cafés WHERE naïve = 'é order by' limit 3".toList

def cafeTexts : ClauseTexts where
  select := " name, \"from where\" ".toList
  source := " cafés ".toList
  filter := some " naïve = 'é order by' ".toList
  order := none
  limit := some " 3".toList

def cafeSpans : List (Clause × Span) :=
  [(.select, ⟨0, 6⟩), (.source, ⟨26, 30⟩), (.filter, ⟨38, 43⟩), (.limit, ⟨67, 72⟩)]

theorem clauses_partition_query_of_cafes :
    unclosedQuote? none 0 cafeQuery = none ∧ clauseTexts cafeQuery = .ok cafeTexts ∧
      keywordSpans (utf8 cafeQuery) = .ok cafeSpans ∧
      ∃ parts, Partition cafeQuery cafeTexts cafeSpans parts := by
  have closed : unclosedQuote? none 0 cafeQuery = none := by decide
  have read : clauseTexts cafeQuery = .ok cafeTexts := by rfl
  have spans : keywordSpans (utf8 cafeQuery) = .ok cafeSpans := by rfl
  obtain ⟨found, parts, spans', partition⟩ := clauses_partition_query closed read
  obtain rfl := Except.ok.inj (spans'.symm.trans spans)
  exact ⟨closed, read, spans, parts, partition⟩

end DocQuery
