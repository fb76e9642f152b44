import DocQuery.Proofs.Query.Cuts
import DocQuery.Proofs.Query.Quiet
import DocQuery.Proofs.Query.Replacement
import DocQuery.Proofs.Query.Tokens
import DocQuery.Proofs.Text.Spacing

/-!
# Clauses of texts that differ in spacing

Keywords are found at the same places whatever the gaps are, so two texts that differ in spacing
are cut into clauses that differ in spacing. A filter then has the same tokens, and a source, an
order or a limit is read as the same or refused in both.
-/

namespace DocQuery

open Text

section Options

variable {α β α' β' : Type} {related : α → β → Prop} {related' : α' → β' → Prop} {x : Option α}
  {y : Option β} (h : Option.Rel related x y)

include h

theorem rel_cases : (x = none ∧ y = none) ∨ ∃ a b, x = some a ∧ y = some b ∧ related a b := by
  cases h with
  | none => exact .inl ⟨rfl, rfl⟩
  | some r => exact .inr ⟨_, _, rfl, rfl, r⟩

theorem rel_bind {f : α → Option α'} {g : β → Option β'}
    (step : ∀ a b, related a b → Option.Rel related' (f a) (g b)) :
    Option.Rel related' (x.bind f) (y.bind g) := by
  cases h with
  | none => exact .none
  | some r => exact step _ _ r

theorem rel_map {f : α → α'} {g : β → β'} (step : ∀ a b, related a b → related' (f a) (g b)) :
    Option.Rel related' (x.map f) (y.map g) := by
  cases h with
  | none => exact .none
  | some r => exact .some (step _ _ r)

end Options

theorem Text.Nesting.after_of_isAlpha {s : Nesting} (closed : s.mark = none) {c : Char}
    (letter : c.isAlpha = true) : s.after .roundOrSquare c = s := by
  have other {d : Char} (hd : d.isAlpha = false) : (c == d) = false := by
    rw [beq_eq_false_iff_ne]
    rintro rfl
    rw [letter] at hd
    cases hd
  have opens : Brackets.roundOrSquare.opens c = false :=
    Bool.or_eq_false_iff.mpr ⟨other (by decide), other (by decide)⟩
  have closes : Brackets.roundOrSquare.closes c = false :=
    Bool.or_eq_false_iff.mpr ⟨other (by decide), other (by decide)⟩
  obtain ⟨mark, depth⟩ := s
  cases closed
  simp [Nesting.after, quoteAfter, not_isQuote_of_isAlpha letter, opens, closes]

theorem cutAt?_append_gaps {first : String} {words : List String}
    (spelled : Spelled (first :: words)) {run : List Char} (h : IsGaps run) (bounded : Bool)
    (rest : List Char) :
    cutAt? (first :: words) bounded none (run ++ rest) =
      (cutAt? (first :: words) true none rest).map fun p => (run ++ p.1, p.2) := by
  obtain ⟨some, gaps⟩ := h
  induction run generalizing bounded with
  | nil => exact absurd rfl some
  | cons c run ih =>
    have gap := gaps c (List.mem_cons_self ..)
    have closed : quoteAfter none c = none := Token.quoteAfter_blank (isBlank_of_isGap gap)
    have missing := dropKeyword?_of_not_isAlpha spelled (not_isAlpha_of_isGap gap) (run ++ rest)
    rw [List.cons_append, cutAt?_cons_of_not_found fun _ _ => missing, gap, closed]
    by_cases last : run = []
    · rw [last]
      rfl
    · rw [ih true last fun d m => gaps d (List.mem_cons_of_mem _ m), Option.map_map]
      rfl

namespace Text.Respaced

variable {s : Nesting} {x y : List Char}

theorem atGap_eq (h : Respaced s x y) : atGap x = atGap y := by
  cases h with
  | nil => rfl
  | char c _ => rfl
  | gaps _ old new _ =>
    have start {run : List Char} (h : IsGaps run) (rest : List Char) :
        atGap (run ++ rest) = true := by
      obtain ⟨c, run, rfl, gap⟩ := h.exists_cons
      exact gap
    rw [start old, start new]

theorem dropWord? (h : Respaced s x y) (closed : s.mark = none) {word : List Char}
    (letters : ∀ c ∈ word, c.isAlpha = true) :
    Option.Rel (Respaced s) (dropWord? word x) (dropWord? word y) := by
  induction word generalizing x y with
  | nil => exact .some h
  | cons w word ih =>
    cases h with
    | nil => exact .none
    | char c next =>
      by_cases same : c.toLower = w.toLower
      · have letter := isAlpha_of_toLower_eq same (letters w (List.mem_cons_self ..))
        rw [Nesting.after_of_isAlpha closed letter] at next
        rw [Text.dropWord?, Text.dropWord?, if_pos same, if_pos same]
        exact ih next fun d m => letters d (List.mem_cons_of_mem _ m)
      · rw [Text.dropWord?, Text.dropWord?, if_neg same, if_neg same]
        exact .none
    | gaps _ old new _ =>
      have miss {run : List Char} (h : IsGaps run) (rest : List Char) :
          Text.dropWord? (w :: word) (run ++ rest) = none := by
        obtain ⟨c, run, rfl, gap⟩ := h.exists_cons
        exact dropWord?_cons_of_not_isAlpha (List.cons_ne_nil _ _) letters
          (not_isAlpha_of_isGap gap) _
      rw [miss old, miss new]
      exact .none

theorem dropKeyword? (h : Respaced s x y) (closed : s.mark = none) {keyword : List String}
    (spelled : Spelled keyword) :
    Option.Rel (Respaced s) (dropKeyword? keyword x) (dropKeyword? keyword y) := by
  induction keyword generalizing x y with
  | nil => exact absurd rfl spelled.some
  | cons w words ih =>
    have dropped := h.dropWord? closed (spelled.letters w (List.mem_cons_self ..))
    cases words with
    | nil =>
      rw [DocQuery.dropKeyword?, DocQuery.dropKeyword?]
      refine rel_bind dropped fun u v rest => ?_
      rw [rest.atGap_eq]
      split
      · exact .some rest
      · exact .none
    | cons w' words =>
      rw [DocQuery.dropKeyword?, DocQuery.dropKeyword?]
      · refine rel_bind dropped fun u v rest => ?_
        rw [rest.atGap_eq]
        split
        · have next := rest.dropWhile (fun _ gap => gap) (fun _ => isBlank_of_isGap) closed
          exact ih next spelled.tail
        · exact .none
      · simp
      · simp

theorem cutAt? (h : Respaced s x y) {first : String} {words : List String}
    (spelled : Spelled (first :: words)) (bounded : Bool) :
    Option.Rel (fun p q => Respaced s p.1 q.1 ∧ Respaced .outside p.2 q.2)
      (cutAt? (first :: words) bounded s.mark x) (cutAt? (first :: words) bounded s.mark y) := by
  induction h generalizing bounded with
  | nil s => exact .none
  | @char s c x y next ih =>
    have here (closed : s.mark = none) :=
      rel_cases ((Respaced.char c next).dropKeyword? closed spelled)
    rcases cutAt?_cons_cases (first :: words) bounded s.mark c x with
      ⟨rfl, closed, after, found⟩ | no
    · rcases here closed with ⟨missing, -⟩ | ⟨_, _, found, found', rest⟩
      · rw [missing] at found
        cases found
      · rw [closed, cutAt?_cons_of_found found, cutAt?_cons_of_found found']
        exact .some ⟨.nil s, rest.forget closed⟩
    · have no' : bounded = true → s.mark = none →
          DocQuery.dropKeyword? (first :: words) (c :: y) = none := by
        intro b closed
        rcases here closed with ⟨-, missing⟩ | ⟨_, _, found, -, -⟩
        · exact missing
        · rw [no b closed] at found
          cases found
      rw [cutAt?_cons_of_not_found no, cutAt?_cons_of_not_found no']
      exact rel_map (ih (isGap c)) fun p q parts => ⟨.char c parts.1, parts.2⟩
  | @gaps s run run' x y outside old new _ ih =>
    have closed : s.mark = none := congrArg Nesting.mark outside
    have rest := ih true
    rw [closed] at rest ⊢
    rw [cutAt?_append_gaps spelled old, cutAt?_append_gaps spelled new]
    exact rel_map rest fun p q parts => ⟨.gaps outside old new parts.1, parts.2⟩

end Text.Respaced

/-- Clauses that differ in spacing: both queries have them or none has. -/
structure ClauseTexts.Respaced (texts other : ClauseTexts) : Prop where
  select : Text.Respaced .outside texts.select other.select
  source : Text.Respaced .outside texts.source other.source
  filter : Option.Rel (Text.Respaced .outside) texts.filter other.filter
  order : Option.Rel (Text.Respaced .outside) texts.order other.order
  limit : Option.Rel (Text.Respaced .outside) texts.limit other.limit

section Clauses

variable {x y : List Char} (h : Respaced .outside x y)

include h

theorem cutAt?_respaced (clause : Clause) :
    Option.Rel (fun p q => Respaced .outside p.1 q.1 ∧ Respaced .outside p.2 q.2)
      (cutAt? clause.keyword false none x) (cutAt? clause.keyword false none y) := by
  have spelled := clause.spelled
  revert spelled
  cases clause.keyword with
  | nil => exact fun spelled => absurd rfl spelled.some
  | cons first words => exact fun spelled => h.cutAt? spelled false

theorem cutClause_respaced (clause : Clause) :
    Respaced .outside (cutClause clause x).1 (cutClause clause y).1 ∧
      Option.Rel (Respaced .outside) (cutClause clause x).2 (cutClause clause y).2 := by
  rcases rel_cases (cutAt?_respaced h clause) with ⟨hx, hy⟩ | ⟨p, q, hx, hy, parts⟩
  · rw [cutClause_of_none hx, cutClause_of_none hy]
    exact ⟨h, .none⟩
  · rw [cutClause_of_some hx, cutClause_of_some hy]
    exact ⟨parts.1, .some parts.2⟩

theorem restOfClause_respaced : Respaced .outside (restOfClause x) (restOfClause y) := by
  obtain ⟨front, back⟩ := cutClause_respaced h .order
  have limit := (cutClause_respaced h .limit).1
  unfold restOfClause
  rcases rel_cases back with ⟨hx, hy⟩ | ⟨_, _, hx, hy, -⟩
  · rw [hx, hy]
    exact limit
  · rw [hx, hy]
    exact front

theorem orderText?_respaced : Option.Rel (Respaced .outside) (orderText? x) (orderText? y) :=
  rel_map (cutClause_respaced h .order).2 fun _ _ after => (cutClause_respaced after .limit).1

theorem limitText?_respaced : Option.Rel (Respaced .outside) (limitText? x) (limitText? y) := by
  obtain ⟨-, back⟩ := cutClause_respaced h .order
  unfold limitText?
  rcases rel_cases back with ⟨hx, hy⟩ | ⟨_, _, hx, hy, after⟩
  · rw [hx, hy]
    exact (cutClause_respaced h .limit).2
  · rw [hx, hy]
    exact (cutClause_respaced after .limit).2

theorem clauseTexts_respaced :
    (∃ e, clauseTexts x = .error e ∧ clauseTexts y = .error e) ∨
      ∃ texts other, clauseTexts x = .ok texts ∧ clauseTexts y = .ok other ∧
        texts.Respaced other := by
  rcases rel_cases (h.dropKeyword? rfl Clause.select.spelled) with
    ⟨hx, hy⟩ | ⟨_, _, hx, hy, opens⟩
  · exact .inl ⟨.missingSelect, by simp only [clauseTexts, hx], by simp only [clauseTexts, hy]⟩
  rcases rel_cases (cutAt?_respaced opens .source) with
    ⟨fx, fy⟩ | ⟨⟨select, after⟩, ⟨select', after'⟩, fx, fy, from_⟩
  · exact .inl ⟨.missingFrom, by simp only [clauseTexts, hx, fx],
      by simp only [clauseTexts, hy, fy]⟩
  right
  rcases rel_cases (cutAt?_respaced from_.2 .filter) with
    ⟨wx, wy⟩ | ⟨⟨source, filter⟩, ⟨source', filter'⟩, wx, wy, where_⟩
  · exact ⟨_, _, clauseTexts_of_no_filter hx fx wx, clauseTexts_of_no_filter hy fy wy,
      { select := from_.1, source := restOfClause_respaced from_.2, filter := .none,
        order := orderText?_respaced from_.2, limit := limitText?_respaced from_.2 }⟩
  · exact ⟨_, _, clauseTexts_of_filter hx fx wx, clauseTexts_of_filter hy fy wy,
      { select := from_.1, source := where_.1, filter := .some (restOfClause_respaced where_.2),
        order := orderText?_respaced where_.2, limit := limitText?_respaced where_.2 }⟩

theorem queryText_respaced : Respaced .outside (queryText x) (queryText y) := by
  have ends {x y : List Char} (h : Respaced .outside x y) (last : x.getLast? = some ';') :
      y.getLast? = some ';' ∧ Respaced .outside x.dropLast y.dropLast := by
    obtain ⟨front, rfl⟩ := List.getLast?_eq_some_iff.mp last
    obtain ⟨front', back, rfl, same, none⟩ := h.cut (by decide)
    rw [none.eq_nil, List.getLast?_concat, List.dropLast_concat, List.dropLast_concat]
    exact ⟨rfl, same⟩
  have trimmed := h.trim rfl
  unfold queryText
  by_cases last : (trim x).getLast? = some ';'
  · obtain ⟨last', same⟩ := ends trimmed last
    simp only [last, last', if_true]
    exact same.trimEnd
  · have last' : (trim y).getLast? ≠ some ';' := fun e => last (ends trimmed.symm e).1
    simp only [last, last', if_false]
    exact trimmed

end Clauses

namespace Token

theorem pieces_append_blanks {run : List Char} (blanks : IsBlanks run) (text : List Char) :
    pieces (run ++ text) = pieces text := by
  induction run with
  | nil => rfl
  | cons c run ih =>
    rw [List.cons_append, pieces_cons_blank (blanks c (List.mem_cons_self ..))]
    exact ih fun d m => blanks d (List.mem_cons_of_mem _ m)

/-- The induction carries the piece that is being read. -/
theorem pieces_append_respaced {s : Nesting} {x y : List Char} (h : Respaced s x y)
    {piece : List Char} (uncut : Uncut .roundOrSquare isBlank .outside piece)
    (state : Nesting.outside.afterText .roundOrSquare piece = s) :
    pieces (piece ++ x) = pieces (piece ++ y) := by
  have ends {piece u v : List Char} (uncut : Uncut .roundOrSquare isBlank .outside piece)
      (state : Nesting.outside.afterText .roundOrSquare piece = .outside) (hu : AtBlank u)
      (hv : AtBlank v) (same : pieces u = pieces v) :
      pieces (piece ++ u) = pieces (piece ++ v) := by
    by_cases empty : piece = []
    · rw [empty]
      exact same
    · have whole : Piece piece := ⟨empty, uncut, state⟩
      rw [pieces_append_of_piece (whole.before hu), pieces_append_of_piece (whole.before hv), same]
  induction h generalizing piece with
  | nil s => rfl
  | @char s c x y _ ih =>
    by_cases cut : (s.isOutside && isBlank c) = true
    · obtain ⟨outside, blank⟩ := Bool.and_eq_true_iff.mp cut
      obtain rfl := Nesting.eq_outside outside
      refine ends uncut state (atBlank_cons blank x) (atBlank_cons blank y) ?_
      rw [pieces_cons_blank blank, pieces_cons_blank blank]
      exact @ih [] trivial (after_blank blank).symm
    · rw [List.append_cons piece c x, List.append_cons piece c y]
      refine ih ?_ ?_
      · rw [uncut_append, state]
        exact ⟨uncut, eq_false_of_ne_true cut, trivial⟩
      · rw [Nesting.afterText_append, state]
        rfl
  | @gaps s run run' x y outside old new _ ih =>
    rw [outside] at state
    have starts {run : List Char} (h : IsGaps run) (rest : List Char) : AtBlank (run ++ rest) :=
      fun c m => isBlank_of_isGap (h.head?_append rest c m)
    refine ends uncut state (starts old x) (starts new y) ?_
    rw [pieces_append_blanks old.isBlanks, pieces_append_blanks new.isBlanks]
    exact @ih [] trivial outside.symm

theorem tokens_respaced {x y : List Char} (h : Respaced .outside x y) :
    tokens x = tokens y := by
  have same : pieces ([] ++ x) = pieces ([] ++ y) := pieces_append_respaced h trivial rfl
  unfold tokens
  rw [List.nil_append, List.nil_append] at same
  rw [same]

end Token

theorem not_isDigit_of_isGap {c : Char} (h : isGap c = true) : c.isDigit = false := by
  simp only [isGap, Bool.or_eq_true, beq_iff_eq] at h
  rcases h with (((h | h) | h) | h) | h <;> subst h <;> decide

theorem not_isGap_of_readSigned? {text : List Char} {i : Int} (read : readSigned? text = some i) :
    ∀ c ∈ text, isGap c = false := by
  have solid {digits : List Char} {n : Nat} (read : readDigits? digits = some n) :
      ∀ c ∈ digits, isGap c = false := by
    intro c m
    rw [← Bool.not_eq_true]
    intro gap
    unfold readDigits? at read
    split at read
    · next shape =>
      have digit := List.all_eq_true.mp (Bool.and_eq_true_iff.mp shape).2 c m
      rw [not_isDigit_of_isGap gap] at digit
      cases digit
    · cases read
  obtain ⟨n, digits, -⟩ := Option.bind_eq_some_iff.mp read
  split at digits
  · intro c m
    rcases List.mem_cons.mp m with rfl | m
    · decide
    · exact solid digits c m
  · intro c m
    rcases List.mem_cons.mp m with rfl | m
    · decide
    · exact solid digits c m
  · exact solid digits

section Readers

variable {x y : List Char} (h : Respaced .outside x y)

include h

theorem Source.ofText_respaced : SameOutcome Eq (Source.ofText x) (Source.ofText y) := by
  unfold Source.ofText
  rw [h.words_eq]
  rcases words y with _ | ⟨first, _ | ⟨second, _ | ⟨third, rest⟩⟩⟩
  · exact .error _ _
  · exact .ok rfl
  · dsimp only
    split
    · exact .refl _
    · exact .error _ _
  · exact .error _ _

theorem OrderBy.ofText_respaced : SameOutcome Eq (OrderBy.ofText x) (OrderBy.ofText y) := by
  have comma := h.mem_iff (by decide : isGap ',' = false)
  unfold OrderBy.ofText
  by_cases several : ',' ∈ x
  · rw [if_pos several, if_pos (comma.mp several)]
    exact .error _ _
  · rw [if_neg several, if_neg (fun m => several (comma.mpr m)), h.words_eq]
    rcases words y with _ | ⟨first, _ | ⟨second, _ | ⟨third, rest⟩⟩⟩
    · exact .error _ _
    · exact .error _ _
    · exact .refl _
    · exact .error _ _

theorem limitOfText_respaced : SameOutcome Eq (limitOfText x) (limitOfText y) := by
  have trimmed := h.trim rfl
  have same : readSigned? (trim x) = readSigned? (trim y) := by
    have pass {x y : List Char} (h : Respaced .outside x y) {i : Int}
        (read : readSigned? x = some i) : readSigned? y = some i := by
      rwa [← h.eq_of_no_gap (not_isGap_of_readSigned? read)]
    ext i
    exact ⟨pass trimmed, pass trimmed.symm⟩
  unfold limitOfText
  rw [same]
  cases readSigned? (trim y) with
  | none => exact .error _ _
  | some i => exact .refl _

end Readers

end DocQuery
