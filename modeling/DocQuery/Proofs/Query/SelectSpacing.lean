import DocQuery.Proofs.Query.Atoms
import DocQuery.Proofs.Query.Spacing

/-!
# Select lists of texts that differ in spacing

Without backquotes an item that can be read is a star, a name, or a call: a name, blanks, and an
argument between parentheses. Gaps outside brackets stand in it between the name and the opening
parenthesis alone, so the item is read as the same whatever they are.
-/

namespace DocQuery

open Text

namespace SelectItem

/-- The text of a call: blanks may stand before the parentheses and inside of them. -/
def callText (name between inner : List Char) : List Char :=
  name ++ (between ++ '(' :: (inner ++ [')']))

structure IsFunctionName (name : List Char) : Prop where
  start : ∃ c rest, name = c :: rest ∧ isNameStart c = true
  words : ∀ c ∈ name, isWordChar c = true

theorem isPlain_of_isWordChar {c : Char} (h : isWordChar c = true) : isPlain c = true := by
  apply isPlain_of_isNameChar
  rw [isNameChar, h, Bool.true_or]

theorem not_isWordChar_of_isBlank {c : Char} (h : isBlank c = true) : isWordChar c = false := by
  rw [← Bool.not_eq_true]
  intro word
  rw [not_isBlank_of_isPlain (isPlain_of_isWordChar word)] at h
  cases h

section Calls

variable {item name between inner argument : List Char}

theorem callParts?_callText (called : IsFunctionName name) (blanks : IsBlanks between)
    (line : '\n' ∉ trim inner) :
    callParts? (callText name between inner) = some (name, trim inner) := by
  obtain ⟨d, rest, front, stop⟩ : ∃ d rest, between ++ '(' :: (inner ++ [')']) = d :: rest ∧
      ¬isWordChar d = true := by
    cases between with
    | nil => exact ⟨_, _, rfl, by decide⟩
    | cons d between =>
      have blank := not_isWordChar_of_isBlank (blanks d (List.mem_cons_self ..))
      exact ⟨d, _, rfl, by rw [blank]; decide⟩
  have taken : (callText name between inner).takeWhile isWordChar = name := by
    rw [callText, List.takeWhile_append_of_pos called.words, front, List.takeWhile_cons_of_neg stop,
      List.append_nil]
  have left : ((callText name between inner).dropWhile isWordChar).dropWhile isBlank =
      '(' :: (inner ++ [')']) := by
    rw [callText, List.dropWhile_append_of_pos called.words, front, List.dropWhile_cons_of_neg stop,
      ← front, List.dropWhile_append_of_pos blanks, List.dropWhile_cons_of_neg (by decide)]
  obtain ⟨c, more, rfl, start⟩ := called.start
  unfold callParts?
  rw [callText, List.cons_append] at taken left ⊢
  dsimp only
  rw [left, taken]
  show (if isNameStart c = true ∧ (inner ++ [')']).getLast? = some ')' ∧
    '\n' ∉ trim (inner ++ [')']).dropLast then _ else none) = _
  rw [List.dropLast_concat, List.getLast?_concat, if_pos ⟨start, rfl, line⟩]

theorem exists_callText (h : callParts? item = some (name, argument)) :
    ∃ between inner, item = callText name between inner ∧ IsFunctionName name ∧
      IsBlanks between ∧ argument = trim inner ∧ '\n' ∉ argument := by
  unfold callParts? at h
  split at h
  · next c more =>
    split at h
    · next rest opened =>
      dsimp only at h
      split at h
      · next shape =>
        obtain ⟨start, closing, line⟩ := shape
        obtain ⟨rfl, rfl⟩ := Prod.mk.inj (Option.some.inj h)
        have word := isWordChar_of_isNameStart start
        obtain ⟨inner, rfl⟩ := List.getLast?_eq_some_iff.mp closing
        rw [List.dropLast_concat] at line ⊢
        refine ⟨((c :: more).dropWhile isWordChar).takeWhile isBlank, inner, ?_,
          ⟨⟨c, more.takeWhile isWordChar, List.takeWhile_cons_of_pos word, start⟩,
            fun d m => List.all_eq_true.mp List.all_takeWhile d m⟩,
          fun d m => List.all_eq_true.mp List.all_takeWhile d m, rfl, line⟩
        rw [callText, ← opened, List.takeWhile_append_dropWhile, List.takeWhile_append_dropWhile]
      · cases h
    · cases h
  · cases h

/-- Only the blanks before the parentheses of a call can have another spacing. -/
theorem callText_respaced {y : List Char} (called : IsFunctionName name) (blanks : IsBlanks between)
    (plain : ∀ c ∈ inner, isBlank c = true ∨ isPlain c = true)
    (h : Respaced .outside (callText name between inner) y) :
    ∃ between', y = callText name between' inner ∧ IsBlanks between' := by
  have word : IsPlainWord name := by
    obtain ⟨c, rest, first, -⟩ := called.start
    exact ⟨first ▸ List.cons_ne_nil c rest, fun d m => isPlain_of_isWordChar (called.words d m)⟩
  obtain ⟨rest, rfl, arguments⟩ := h.of_append fun c m => not_isGap_of_isPlain (word.plain c m)
  have start : Nesting.outside.afterText .roundOrSquare name = .outside :=
    word.afterText spare_roundOrSquare 0
  rw [start] at arguments
  obtain ⟨between', back, rfl, blanks', arguments⟩ := arguments.cut (by decide)
  rw [Nesting.afterText_of_isBlanks rfl blanks] at arguments
  obtain ⟨inner', last, rfl, within, none⟩ := arguments.cut (by decide)
  have same : inner = inner' := by
    refine within.eq_of_within (by decide) (by decide) (fun c m => ?_) fun c m => ?_
    · exact (plain c m).elim not_isQuote_of_isBlank not_isQuote_of_isPlain
    · exact (plain c m).elim Brackets.roundOrSquare_ignore_blank (spare_roundOrSquare c)
  rw [none.eq_nil, ← same]
  exact ⟨between', rfl, blanks'.isBlanks rfl blanks⟩

end Calls

theorem isPlain_of_isName {text : List Char} (free : FieldName.backquote ∉ text)
    (name : FieldName.isName text = true) : ∀ c ∈ text, isPlain c = true := by
  cases text with
  | nil => exact nofun
  | cons c rest =>
    rw [FieldName.isName, Bool.or_eq_true] at name
    rcases name with identifier | quoted
    · intro d m
      exact isPlain_of_isNameChar (isNameChar_of_isIdentifier identifier d m)
    · simp only [FieldName.isBackquoted, Bool.and_eq_true, beq_iff_eq] at quoted
      exact absurd (quoted.1.1.1 ▸ List.mem_cons_self ..) free

theorem isPlain_of_ofCall {text name argument : List Char} {item : SelectItem}
    (free : FieldName.backquote ∉ argument) (read : ofCall text name argument = .ok item) :
    ∀ c ∈ argument, isPlain c = true := by
  have star : ∀ c ∈ ['*'], isPlain c = true := by decide
  unfold ofCall at read
  split at read
  · split at read
    · next all =>
      rw [all]
      exact star
    · cases read
  · split at read
    · cases read
    · split at read
      · next accepted =>
        rcases accepted with name | ⟨rfl, -⟩
        · exact isPlain_of_isName free name
        · exact star
      · cases read

theorem ofCall_congr {text name argument : List Char} {item : SelectItem}
    (read : ofCall text name argument = .ok item) (other : List Char) :
    ofCall other name argument = .ok item := by
  unfold ofCall at read ⊢
  split
  · next count =>
    rw [if_pos count] at read
    split
    · next all => rwa [if_pos all] at read
    · next all =>
      rw [if_neg all] at read
      cases read
  · next other =>
    rwa [if_neg other] at read

theorem ofText_of_callParts? {text name argument : List Char}
    (call : callParts? text = some (name, argument)) : ofText text = ofCall text name argument := by
  have some : text ≠ [] := by
    rintro rfl
    cases call
  have star : text ≠ ['*'] := by
    rintro rfl
    cases call
  unfold ofText
  rw [if_neg some, if_neg star, call]

theorem ofText_eq_ok_of_respaced {x y : List Char} (h : Respaced .outside x y)
    (free : FieldName.backquote ∉ x) {item : SelectItem} (read : ofText x = .ok item) :
    ofText y = .ok item := by
  by_cases solid : ∀ c ∈ x, isGap c = false
  · rwa [← h.eq_of_no_gap solid]
  have some : x ≠ [] := by
    rintro rfl
    exact solid nofun
  have star : x ≠ ['*'] := by
    rintro rfl
    exact solid (by decide)
  cases call : callParts? x with
  | none =>
    unfold ofText at read
    rw [if_neg some, if_neg star, call] at read
    dsimp only at read
    split at read
    · next name =>
      exact absurd (fun c m => not_isGap_of_isPlain (isPlain_of_isName free name c m)) solid
    · cases read
  | some parts =>
    rw [ofText_of_callParts? call] at read
    obtain ⟨between, inner, rfl, called, blanks, argument, line⟩ := exists_callText call
    rw [argument] at read line
    have inside : FieldName.backquote ∉ trim inner := by
      intro m
      apply free
      simp [callText, mem_of_mem_trim m]
    have plain : ∀ c ∈ inner, isBlank c = true ∨ isPlain c = true := fun c m =>
      (isBlank_or_mem_trim m).imp_right (isPlain_of_ofCall inside read c)
    obtain ⟨between', rfl, blanks'⟩ := callText_respaced called blanks plain h
    rw [ofText_of_callParts? (callParts?_callText called blanks' line)]
    exact ofCall_congr read _

/-- Without backquotes an item is read as the same or refused, whatever its spacing. -/
theorem ofText_respaced {x y : List Char} (h : Respaced .outside x y)
    (free : FieldName.backquote ∉ x) : SameOutcome Eq (ofText x) (ofText y) := by
  have free' : FieldName.backquote ∉ y := fun m => free ((h.mem_iff (by decide)).mpr m)
  cases hx : ofText x with
  | ok item =>
    rw [ofText_eq_ok_of_respaced h free hx]
    exact .ok rfl
  | error e =>
    cases hy : ofText y with
    | ok item =>
      rw [ofText_eq_ok_of_respaced h.symm free' hy] at hx
      cases hx
    | error e' => exact .error e e'

theorem mem_of_mem_splitOutside {b : Brackets} {cut : Char → Bool} {s : Nesting}
    {text piece : List Char} {c : Char} (m : piece ∈ splitOutside b cut s text) (mc : c ∈ piece) :
    c ∈ text := by
  induction text generalizing s piece with
  | nil =>
    rw [List.mem_singleton.mp m] at mc
    exact mc
  | cons d text ih =>
    by_cases here : (s.isOutside && cut d) = true
    · rw [splitOutside_of_cut here] at m
      rcases List.mem_cons.mp m with rfl | m
      · cases mc
      · exact List.mem_cons_of_mem d (ih m mc)
    · rw [splitOutside_of_keep (eq_false_of_ne_true here)] at m
      cases pieces : splitOutside b cut (s.after b d) text with
      | nil => exact absurd pieces (splitOutside_ne_nil b cut _ text)
      | cons first rest =>
        have inside {piece : List Char} := @ih (s.after b d) piece
        rw [pieces] at m inside
        rcases List.mem_cons.mp m with rfl | m
        · rcases List.mem_cons.mp mc with rfl | mc
          · exact List.mem_cons_self ..
          · exact List.mem_cons_of_mem d (inside (List.mem_cons_self ..) mc)
        · exact List.mem_cons_of_mem d (inside (List.mem_cons_of_mem _ m) mc)

theorem listOfText_respaced {x y : List Char} (h : Respaced .outside x y)
    (free : FieldName.backquote ∉ x) : SameOutcome Eq (listOfText x) (listOfText y) := by
  obtain ⟨item, item', rest, rest', split, split', first, more⟩ :=
    h.splitOutside_round (t := .outside) rfl
  have pieces : List.Forall₂ (Respaced .outside) (item :: rest) (item' :: rest') :=
    .cons first more
  rw [← split, ← split'] at pieces
  have plain : ∀ p ∈ splitOutside .round (· == ',') .outside x, FieldName.backquote ∉ p :=
    fun p m inside => free (mem_of_mem_splitOutside m inside)
  have empty : trim x = [] ↔ trim y = [] := (h.trim rfl).eq_nil_iff
  unfold listOfText
  by_cases none : trim x = []
  · rw [if_pos none, if_pos (empty.mp none)]
    exact .refl _
  · rw [if_neg none, if_neg fun e => none (empty.mpr e)]
    have items : SameOutcome Eq
        ((splitOutside .round (· == ',') .outside x).mapM fun item => ofText (trim item))
        ((splitOutside .round (· == ',') .outside y).mapM fun item => ofText (trim item)) := by
      refine SameOutcome.mapM ((List.forall₂_and_left _ _).mpr ⟨plain, pieces⟩) ?_
      intro p q ⟨free, same⟩
      exact ofText_respaced (same.trim rfl) fun m => free (mem_of_mem_trim m)
    exact SameOutcome.bind items fun _ _ same => same ▸ .refl _

end SelectItem

end DocQuery
