import DocQuery.Proofs.Text.Items
import Mathlib.Data.List.Forall2

/-!
# Texts that differ in spacing

Two texts differ in spacing when gaps outside quotations and brackets stand in both at the same
places, as runs of any length. The relation is kept along a text with the state of the scan, so it
can be cut at any character that is no gap. A scan may forget the brackets before such a cut: with
fewer of them open, no more characters are protected.
-/

namespace DocQuery.Text

structure IsGaps (run : List Char) : Prop where
  some : run ≠ []
  gaps : ∀ c ∈ run, isGap c = true

theorem IsGaps.exists_cons {run : List Char} (h : IsGaps run) :
    ∃ c rest, run = c :: rest ∧ isGap c = true := by
  obtain ⟨c, rest, rfl⟩ := List.exists_cons_of_ne_nil h.some
  exact ⟨c, rest, rfl, h.gaps c (List.mem_cons_self ..)⟩

theorem IsGaps.head?_append {run : List Char} (h : IsGaps run) (rest : List Char) :
    ∀ c ∈ (run ++ rest).head?, isGap c = true := by
  obtain ⟨c, run, rfl, gap⟩ := h.exists_cons
  intro d m
  cases m
  exact gap

theorem IsGaps.isBlanks {run : List Char} (h : IsGaps run) : IsBlanks run :=
  fun c m => isBlank_of_isGap (h.gaps c m)

/-- The texts are the same from this state on, save that runs of gaps outside quotations and
brackets may be other runs. -/
inductive Respaced : Nesting → List Char → List Char → Prop where
  | nil (s : Nesting) : Respaced s [] []
  | char {s : Nesting} (c : Char) {x y : List Char} :
      Respaced (s.after .roundOrSquare c) x y → Respaced s (c :: x) (c :: y)
  | gaps {s : Nesting} {run run' x y : List Char} (outside : s = .outside) (old : IsGaps run)
      (new : IsGaps run') : Respaced s x y → Respaced s (run ++ x) (run' ++ y)

theorem Nesting.eq_outside {s : Nesting} (h : s.isOutside = true) : s = .outside := by
  obtain ⟨mark, depth⟩ := s
  simp only [Nesting.isOutside, Bool.and_eq_true, Option.isNone_iff_eq_none, beq_iff_eq] at h
  obtain ⟨rfl, rfl⟩ := h
  rfl

theorem Nesting.after_of_isBlank {s : Nesting} (closed : s.mark = none) {c : Char}
    (blank : isBlank c = true) : s.after .roundOrSquare c = s := by
  have plain := Brackets.roundOrSquare_ignore_blank blank
  obtain ⟨mark, depth⟩ := s
  cases closed
  simp [Nesting.after, quoteAfter, not_isQuote_of_isBlank blank, plain.1, plain.2]

theorem Nesting.afterText_of_isBlanks {s : Nesting} (closed : s.mark = none) {text : List Char}
    (blanks : IsBlanks text) : s.afterText .roundOrSquare text = s := by
  induction text with
  | nil => rfl
  | cons c text ih =>
    rw [Nesting.afterText_cons, Nesting.after_of_isBlank closed (blanks c (List.mem_cons_self ..))]
    exact ih fun d m => blanks d (List.mem_cons_of_mem _ m)

theorem Nesting.depth_after_le {s t : Nesting} (mark : t.mark = s.mark) (depth : t.depth ≤ s.depth)
    (b : Brackets) (c : Char) : (t.after b c).depth ≤ (s.after b c).depth := by
  unfold Nesting.after
  rw [mark]
  cases s.mark with
  | some q => exact depth
  | none =>
    dsimp only
    split
    · omega
    · split <;> omega

namespace Respaced

variable {s : Nesting} {x y : List Char}

theorem refl (s : Nesting) (x : List Char) : Respaced s x x := by
  induction x generalizing s with
  | nil => exact .nil s
  | cons c x ih => exact .char c (ih _)

theorem symm (h : Respaced s x y) : Respaced s y x := by
  induction h with
  | nil s => exact .nil s
  | char c _ ih => exact .char c ih
  | gaps outside old new _ ih => exact .gaps outside new old ih

/-- Other gaps lead a scan to the same state. -/
theorem afterText_eq (h : Respaced s x y) :
    s.afterText .roundOrSquare x = s.afterText .roundOrSquare y := by
  induction h with
  | nil s => rfl
  | char c _ ih => exact ih
  | @gaps s _ _ _ _ outside old new _ ih =>
    have closed : s.mark = none := congrArg Nesting.mark outside
    rw [Nesting.afterText_append, Nesting.afterText_append,
      Nesting.afterText_of_isBlanks closed old.isBlanks,
      Nesting.afterText_of_isBlanks closed new.isBlanks, ih]

theorem markAfter_eq (h : Respaced s x y) : markAfter s.mark x = markAfter s.mark y := by
  rw [← Nesting.mark_afterText .roundOrSquare, h.afterText_eq, Nesting.mark_afterText]

theorem append (h : Respaced s x y) {u v : List Char}
    (h' : Respaced (s.afterText .roundOrSquare x) u v) : Respaced s (x ++ u) (y ++ v) := by
  induction h with
  | nil s => exact h'
  | char c _ ih => exact .char c (ih h')
  | @gaps s _ _ _ _ outside old new _ ih =>
    have closed : s.mark = none := congrArg Nesting.mark outside
    rw [Nesting.afterText_append, Nesting.afterText_of_isBlanks closed old.isBlanks] at h'
    rw [List.append_assoc, List.append_assoc]
    exact .gaps outside old new (ih h')

theorem lower (h : Respaced s x y) {t : Nesting} (mark : t.mark = s.mark)
    (depth : t.depth ≤ s.depth) : Respaced t x y := by
  induction h generalizing t with
  | nil s => exact .nil t
  | char c _ ih =>
    refine .char c (ih ?_ (Nesting.depth_after_le mark depth _ c))
    show quoteAfter t.mark c = quoteAfter _ c
    rw [mark]
  | gaps outside old new _ ih =>
    have same : t = .outside := by
      obtain ⟨m, d⟩ := t
      rw [outside] at mark depth
      obtain rfl : m = none := mark
      obtain rfl : d = 0 := Nat.le_zero.mp depth
      rfl
    exact .gaps same old new (ih mark depth)

theorem forget (h : Respaced s x y) (closed : s.mark = none) : Respaced .outside x y :=
  h.lower closed.symm (Nat.zero_le _)

theorem eq_nil (h : Respaced s [] y) : y = [] := by
  generalize whole : ([] : List Char) = x at h
  cases h with
  | nil => rfl
  | char c _ => cases whole
  | gaps _ old _ _ => exact absurd (List.append_eq_nil_iff.mp whole.symm).1 old.some

theorem eq_nil_iff (h : Respaced s x y) : x = [] ↔ y = [] := by
  constructor
  · rintro rfl
    exact h.eq_nil
  · rintro rfl
    exact h.symm.eq_nil

/-- A character that is no gap stands in both texts, with texts on either side that differ in
spacing alone. -/
theorem cut {u v : List Char} {c : Char} (h : Respaced s (u ++ c :: v) y)
    (stop : isGap c = false) : ∃ u' v', y = u' ++ c :: v' ∧ Respaced s u u' ∧
      Respaced ((s.afterText .roundOrSquare u).after .roundOrSquare c) v v' := by
  generalize whole : u ++ c :: v = x at h
  induction h generalizing u with
  | nil s => simp at whole
  | @char s d x y next ih =>
    cases u with
    | nil =>
      obtain ⟨rfl, rfl⟩ := List.cons.inj whole
      exact ⟨[], y, rfl, .nil s, next⟩
    | cons e u =>
      obtain ⟨rfl, rest⟩ := List.cons.inj whole
      obtain ⟨u', v', rfl, front, back⟩ := ih rest
      exact ⟨e :: u', v', rfl, .char e front, back⟩
  | @gaps s run run' x y outside old new _ ih =>
    -- The character lies behind the run.
    obtain ⟨u₁, rfl, rest⟩ : ∃ u₁, u = run ++ u₁ ∧ x = u₁ ++ c :: v := by
      rcases List.append_eq_append_iff.mp whole with ⟨more, e, back⟩ | ⟨more, e, back⟩
      · cases more with
        | nil => exact ⟨[], by simpa using e.symm, back.symm⟩
        | cons d more =>
          obtain ⟨rfl, -⟩ := List.cons.inj back
          have gap := old.gaps c (by simp [e])
          rw [stop] at gap
          cases gap
      · exact ⟨more, e, back⟩
    obtain ⟨u', v', rfl, front, back⟩ := ih rest.symm
    have closed : s.mark = none := congrArg Nesting.mark outside
    refine ⟨run' ++ u', v', by simp, .gaps outside old new front, ?_⟩
    rwa [Nesting.afterText_append, Nesting.afterText_of_isBlanks closed old.isBlanks]

theorem eq_of_no_gap (h : Respaced s x y) (solid : ∀ c ∈ x, isGap c = false) : x = y := by
  induction h with
  | nil s => rfl
  | char c _ ih => rw [ih fun d m => solid d (List.mem_cons_of_mem _ m)]
  | gaps _ old _ _ _ =>
    obtain ⟨c, run, rfl, gap⟩ := old.exists_cons
    rw [solid c (by simp)] at gap
    cases gap

theorem of_append {word rest : List Char} (h : Respaced s (word ++ rest) y)
    (solid : ∀ c ∈ word, isGap c = false) :
    ∃ rest', y = word ++ rest' ∧ Respaced (s.afterText .roundOrSquare word) rest rest' := by
  induction word generalizing s y with
  | nil => exact ⟨y, rfl, h⟩
  | cons c word ih =>
    obtain ⟨none, back, rfl, front, next⟩ :=
      cut (u := []) h (solid c (List.mem_cons_self ..))
    obtain ⟨rest', rfl, same⟩ := ih next fun d m => solid d (List.mem_cons_of_mem _ m)
    exact ⟨rest', by rw [front.eq_nil]; rfl, same⟩

/-- Within brackets the spacing is the same. -/
theorem eq_of_within (h : Respaced s x y) (closed : s.mark = none) (within : s.depth ≠ 0)
    (quotes : ∀ c ∈ x, isQuote c = false)
    (brackets : ∀ c ∈ x, Brackets.roundOrSquare.Ignore c) : x = y := by
  induction h with
  | nil s => rfl
  | @char s c x y _ ih =>
    have stays : s.after .roundOrSquare c = s := by
      have plain : Nesting.afterText .roundOrSquare ⟨none, s.depth⟩ [c] = ⟨none, s.depth⟩ :=
        Nesting.afterText_of_plain _
          (List.forall_mem_singleton.mpr (quotes c (List.mem_cons_self ..)))
          (List.forall_mem_singleton.mpr (brackets c (List.mem_cons_self ..)))
      rw [Nesting.eq_mk_none closed]
      exact plain
    rw [stays] at ih
    rw [ih closed within (fun d m => quotes d (List.mem_cons_of_mem _ m))
      fun d m => brackets d (List.mem_cons_of_mem _ m)]
  | gaps outside _ _ _ _ =>
    rw [outside] at within
    exact absurd rfl within

theorem mem_iff (h : Respaced s x y) {c : Char} (stop : isGap c = false) : c ∈ x ↔ c ∈ y := by
  have pass {s : Nesting} {x y : List Char} (h : Respaced s x y) (m : c ∈ x) : c ∈ y := by
    obtain ⟨u, v, rfl⟩ := List.append_of_mem m
    obtain ⟨u', v', rfl, -, -⟩ := h.cut stop
    simp
  exact ⟨pass h, pass h.symm⟩

theorem dropWhile {p : Char → Bool} (gaps : ∀ c, isGap c = true → p c = true)
    (blanks : ∀ c, p c = true → isBlank c = true) (closed : s.mark = none) (h : Respaced s x y) :
    Respaced s (x.dropWhile p) (y.dropWhile p) := by
  induction h with
  | nil s => exact .nil s
  | @char s c x y next ih =>
    by_cases drop : p c = true
    · rw [Nesting.after_of_isBlank closed (blanks c drop)] at ih
      rw [List.dropWhile_cons_of_pos drop, List.dropWhile_cons_of_pos drop]
      exact ih closed
    · rw [List.dropWhile_cons_of_neg drop, List.dropWhile_cons_of_neg drop]
      exact .char c next
  | gaps outside old new _ ih =>
    rw [List.dropWhile_append_of_pos fun c m => gaps c (old.gaps c m),
      List.dropWhile_append_of_pos fun c m => gaps c (new.gaps c m)]
    exact ih closed

theorem isBlanks (h : Respaced s x y) (closed : s.mark = none) (blanks : IsBlanks x) :
    IsBlanks y := by
  have none := h.dropWhile (fun _ => isBlank_of_isGap) (fun _ blank => blank) closed
  rw [List.dropWhile_eq_nil_iff.mpr blanks] at none
  exact List.dropWhile_eq_nil_iff.mp none.eq_nil

end Respaced

theorem trimEnd_append (x y : List Char) :
    trimEnd (x ++ y) = if trimEnd y = [] then trimEnd x else x ++ trimEnd y := by
  unfold trimEnd
  rw [List.reverse_append, List.dropWhile_append]
  by_cases empty : y.reverse.dropWhile isBlank = [] <;> simp [empty]

theorem trimEnd_cons (c : Char) (x : List Char) :
    trimEnd (c :: x) = if trimEnd x = [] then trimEnd [c] else c :: trimEnd x :=
  trimEnd_append [c] x

theorem trim_blanks_append {run : List Char} (blanks : IsBlanks run) (text : List Char) :
    trim (run ++ text) = trim text := by
  rw [trim_eq, trim_eq, List.dropWhile_append_of_pos blanks]

theorem trim_append_blanks {run : List Char} (blanks : IsBlanks run) (text : List Char) :
    trim (text ++ run) = trim text := by
  rw [trim_eq, trim_eq, List.dropWhile_append]
  by_cases empty : text.dropWhile isBlank = []
  · rw [empty, List.dropWhile_eq_nil_iff.mpr blanks]
    rfl
  · rw [if_neg (by simpa using empty), trimEnd_append, if_pos (trimEnd_of_isBlanks blanks)]

theorem isBlank_or_mem_trim {text : List Char} {c : Char} (m : c ∈ text) :
    isBlank c = true ∨ c ∈ trim text := by
  have kept {text : List Char} (m : c ∈ text) : isBlank c = true ∨ c ∈ text.dropWhile isBlank := by
    rw [← List.takeWhile_append_dropWhile (p := isBlank) (l := text)] at m
    exact (List.mem_append.mp m).imp_left (List.all_eq_true.mp List.all_takeWhile c)
  rcases kept m with blank | m
  · exact .inl blank
  · exact (kept (List.mem_reverse.mpr m)).imp_right List.mem_reverse.mpr

theorem mem_of_mem_trimEnd {text : List Char} {c : Char} (m : c ∈ trimEnd text) : c ∈ text :=
  List.mem_reverse.mp ((List.dropWhile_sublist _).subset (List.mem_reverse.mp m))

theorem mem_of_mem_trim {text : List Char} {c : Char} (m : c ∈ trim text) : c ∈ text :=
  (List.dropWhile_sublist _).subset (mem_of_mem_trimEnd m)

namespace Respaced

variable {s : Nesting} {x y : List Char}

theorem trimEnd (h : Respaced s x y) : Respaced s (trimEnd x) (trimEnd y) := by
  induction h with
  | nil s => exact .nil s
  | @char s c x y _ ih =>
    rw [trimEnd_cons c x, trimEnd_cons c y]
    by_cases empty : Text.trimEnd x = []
    · rw [if_pos empty, if_pos (ih.eq_nil_iff.mp empty)]
      exact refl s _
    · rw [if_neg empty, if_neg fun e => empty (ih.eq_nil_iff.mpr e)]
      exact .char c ih
  | @gaps s _ _ x y outside old new _ ih =>
    rw [trimEnd_append, trimEnd_append]
    by_cases empty : Text.trimEnd x = []
    · rw [if_pos empty, if_pos (ih.eq_nil_iff.mp empty), trimEnd_of_isBlanks old.isBlanks,
        trimEnd_of_isBlanks new.isBlanks]
      exact .nil s
    · rw [if_neg empty, if_neg fun e => empty (ih.eq_nil_iff.mpr e)]
      exact .gaps outside old new ih

theorem trim (closed : s.mark = none) (h : Respaced s x y) : Respaced s (trim x) (trim y) :=
  (h.dropWhile (fun _ => isBlank_of_isGap) (fun _ blank => blank) closed).trimEnd

end Respaced

theorem words_append_blanks {run : List Char} (blanks : IsBlanks run) (text : List Char) :
    words (run ++ text) = words text := by
  induction run with
  | nil => rfl
  | cons c run ih =>
    rw [List.cons_append, words_cons_blank (blanks c (List.mem_cons_self ..))]
    exact ih fun d m => blanks d (List.mem_cons_of_mem _ m)

namespace Respaced

variable {s : Nesting} {x y : List Char}

/-- The induction carries the word that is being read. -/
theorem words_append_eq (h : Respaced s x y) {word : List Char}
    (plain : ∀ c ∈ word, isBlank c = false) : words (word ++ x) = words (word ++ y) := by
  have ends {word u v : List Char} (plain : ∀ c ∈ word, isBlank c = false)
      (hu : ∀ c ∈ u.head?, isBlank c = true) (hv : ∀ c ∈ v.head?, isBlank c = true)
      (same : words u = words v) : words (word ++ u) = words (word ++ v) := by
    by_cases empty : word = []
    · rw [empty]
      exact same
    · rw [words_append empty plain hu, words_append empty plain hv, same]
  induction h generalizing word with
  | nil s => rfl
  | @char s c x y _ ih =>
    by_cases blank : isBlank c = true
    · refine ends plain (fun d m => ?_) (fun d m => ?_) ?_
      · cases m
        exact blank
      · cases m
        exact blank
      · rw [words_cons_blank blank, words_cons_blank blank]
        exact @ih [] nofun
    · rw [List.append_cons word c x, List.append_cons word c y]
      refine ih fun d m => ?_
      rcases List.mem_append.mp m with m | m
      · exact plain d m
      · rw [List.mem_singleton.mp m]
        exact eq_false_of_ne_true blank
  | @gaps s run run' x y _ old new _ ih =>
    have start {run : List Char} (h : IsGaps run) (rest : List Char) :
        ∀ c ∈ (run ++ rest).head?, isBlank c = true :=
      fun c m => isBlank_of_isGap (h.head?_append rest c m)
    refine ends plain (start old x) (start new y) ?_
    rw [words_append_blanks old.isBlanks, words_append_blanks new.isBlanks]
    exact @ih [] nofun

theorem words_eq (h : Respaced s x y) : words x = words y :=
  @words_append_eq s x y h [] nofun

theorem splitOutside_round (h : Respaced s x y) {t : Nesting} (mark : t.mark = s.mark) :
    ∃ item item' rest rest', splitOutside .round (· == ',') t x = item :: rest ∧
      splitOutside .round (· == ',') t y = item' :: rest' ∧ Respaced s item item' ∧
      List.Forall₂ (Respaced .outside) rest rest' := by
  induction h generalizing t with
  | nil s => exact ⟨[], [], [], [], rfl, rfl, .nil s, .nil⟩
  | @char s c x y next ih =>
    have marks : (t.after .round c).mark = (s.after .roundOrSquare c).mark := by
      show quoteAfter t.mark c = quoteAfter s.mark c
      rw [mark]
    obtain ⟨item, item', rest, rest', split, split', first, more⟩ := ih marks
    by_cases here : (t.isOutside && c == ',') = true
    · have cut := @splitOutside_of_cut .round (· == ',') t c here
      rw [cut, cut, split, split']
      refine ⟨[], [], _, _, rfl, rfl, .nil s, .cons (first.forget ?_) more⟩
      obtain ⟨outside, comma⟩ := Bool.and_eq_true_iff.mp here
      rw [← marks, Nesting.eq_outside outside, eq_of_beq comma]
      rfl
    · have keep := @splitOutside_of_keep .round (· == ',') t c (eq_false_of_ne_true here)
      rw [keep, keep, split, split']
      exact ⟨c :: item, c :: item', rest, rest', rfl, rfl, .char c first, more⟩
  | @gaps s run run' x y outside old new _ ih =>
    have closed : t.mark = none := mark.trans (congrArg Nesting.mark outside)
    have pass {run : List Char} (h : IsGaps run) (text : List Char) :
        splitOutside .round (· == ',') t (run ++ text) =
          (splitOutside .round (· == ',') t text).modifyHead (run ++ ·) := by
      have uncut : Uncut .round (· == ',') t run :=
        uncut_of_forall fun c m => beq_of_isBlank (h.isBlanks c m) (by decide)
      have stays : t.afterText .round run = t := by
        rw [Nesting.eq_mk_none closed]
        exact Nesting.afterText_of_plain _ (fun c m => not_isQuote_of_isBlank (h.isBlanks c m))
          fun c m => Brackets.round_ignore_blank (h.isBlanks c m)
      rw [splitOutside_append, splitOutside_of_uncut uncut, stays]
      rfl
    obtain ⟨item, item', rest, rest', split, split', first, more⟩ := ih mark
    refine ⟨run ++ item, run' ++ item', rest, rest', ?_, ?_, .gaps outside old new first, more⟩
    · rw [pass old, split]
      rfl
    · rw [pass new, split']
      rfl

end Respaced

end DocQuery.Text
