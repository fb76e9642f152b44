import DocQuery.Proofs.Text.Ends

/-!
# Trimmed texts

Blanks are dropped up to the first character that is none, so a text that begins and ends with
such characters is what trimming leaves of it and any blanks around it.
-/

namespace DocQuery.Text

/-- A condition on the characters of a text is checked along the text, not over all characters. -/
instance (priority := high) decidableForallMem (p : Char → Prop) [DecidablePred p]
    (text : List Char) : Decidable (∀ c ∈ text, p c) :=
  List.decidableBAll p text

instance (priority := high) decidableForallMemOption (p : Char → Prop) [DecidablePred p]
    (c? : Option Char) : Decidable (∀ c ∈ c?, p c) :=
  Option.decidableForallMem c?

def IsBlanks (text : List Char) : Prop := ∀ c ∈ text, isBlank c = true

instance (text : List Char) : Decidable (IsBlanks text) :=
  inferInstanceAs (Decidable (∀ c ∈ text, _))

theorem not_isGap_of_not_isBlank {c : Char} (h : isBlank c = false) : isGap c = false := by
  rw [← Bool.not_eq_true]
  intro gap
  rw [isBlank_of_isGap gap] at h
  cases h

theorem dropWhile_append_stop {p : Char → Bool} {c : Char} (h : p c = false)
    (x y : List Char) : (x ++ c :: y).dropWhile p = x.dropWhile p ++ c :: y := by
  induction x with
  | nil => simp [h]
  | cons d x ih => by_cases hd : p d = true <;> simp [hd, ih]

theorem trimEnd_append_stop {c : Char} (h : isBlank c = false) (x y : List Char) :
    trimEnd (x ++ c :: y) = x ++ c :: trimEnd y := by
  have turned : (x ++ c :: y).reverse = y.reverse ++ c :: x.reverse := by simp
  unfold trimEnd
  rw [turned, dropWhile_append_stop h]
  simp

theorem trimEnd_of_isBlanks {text : List Char} (h : IsBlanks text) : trimEnd text = [] := by
  have turned : IsBlanks text.reverse := fun c m => h c (List.mem_reverse.mp m)
  unfold trimEnd
  rw [List.dropWhile_eq_nil_iff.mpr turned]
  rfl

theorem trim_eq (text : List Char) : trim text = trimEnd (text.dropWhile isBlank) := rfl

theorem trim_append_stop {c : Char} (h : isBlank c = false) (x y : List Char) :
    trim (x ++ c :: y) = x.dropWhile isBlank ++ c :: trimEnd y := by
  rw [trim_eq, dropWhile_append_stop h, trimEnd_append_stop h]

/-- A text that neither begins nor ends with a blank. -/
structure Solid (text : List Char) : Prop where
  some : text ≠ []
  first : ∀ c ∈ text.head?, isBlank c = false
  last : ∀ c ∈ text.getLast?, isBlank c = false

theorem solid_of_no_blank {text : List Char} (some : text ≠ [])
    (plain : ∀ c ∈ text, isBlank c = false) : Solid text :=
  ⟨some, fun c m => plain c (List.mem_of_mem_head? m),
    fun c m => plain c (List.mem_of_mem_getLast? m)⟩

theorem Solid.trim {text x y : List Char} (h : Solid text) (hx : IsBlanks x) (hy : IsBlanks y) :
    trim (x ++ (text ++ y)) = text := by
  have bare : Bare isBlank text := ⟨h.first, h.last⟩
  exact bare.strip_between hx hy

theorem words_cons_blank {c : Char} (h : isBlank c = true) (text : List Char) :
    words (c :: text) = words text := by
  have split := List.splitOnP_append_cons (p := isBlank) [] text h
  unfold words
  rw [List.nil_append, List.splitOnP_nil] at split
  rw [split]
  rfl

theorem words_append {word rest : List Char} (some : word ≠ [])
    (plain : ∀ c ∈ word, isBlank c = false) (stop : ∀ c ∈ rest.head?, isBlank c = true) :
    words (word ++ rest) = word :: words rest := by
  have alone : word.splitOnP isBlank = [word] := List.splitOnP_eq_singleton plain
  cases rest with
  | nil =>
    unfold words
    rw [List.append_nil, alone]
    simp [some]
  | cons c rest =>
    have blank : isBlank c = true := stop c rfl
    rw [words_cons_blank blank]
    unfold words
    rw [List.splitOnP_append_cons word rest blank, alone]
    simp [some]

theorem not_of_mem_splitOnP {p : Char → Bool} {text piece : List Char}
    (m : piece ∈ text.splitOnP p) : ∀ c ∈ piece, p c = false := by
  induction text generalizing piece with
  | nil =>
    rw [List.splitOnP_nil, List.mem_singleton] at m
    subst m
    exact nofun
  | cons d text ih =>
    rw [List.splitOnP_cons_eq_if_modifyHead] at m
    by_cases cut : p d = true
    · rw [if_pos cut] at m
      rcases List.mem_cons.mp m with rfl | m
      · exact nofun
      · exact ih m
    · rw [if_neg cut] at m
      cases pieces : text.splitOnP p with
      | nil =>
        rw [pieces] at m
        cases m
      | cons first rest =>
        rw [pieces] at ih m
        rcases List.mem_cons.mp m with rfl | m
        · intro c mc
          rcases List.mem_cons.mp mc with rfl | mc
          · exact eq_false_of_ne_true cut
          · exact ih (List.mem_cons_self ..) c mc
        · exact ih (List.mem_cons_of_mem _ m)

theorem of_mem_words {text word : List Char} (m : word ∈ words text) :
    word ≠ [] ∧ ∀ c ∈ word, isBlank c = false := by
  obtain ⟨piece, some⟩ := List.mem_filter.mp m
  exact ⟨by simpa using some, not_of_mem_splitOnP piece⟩

end DocQuery.Text
