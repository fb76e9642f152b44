import DocQuery.Proofs.Text.Scanning

/-!
# Lists with commas

The commas outside quotations and brackets cut a list into items, and the blanks around an item do
not matter.
-/

namespace DocQuery.Text

def itemsOf (b : Brackets) (text : List Char) : List (List Char) :=
  (splitOutside b (· == ',') .outside text).map trim

theorem markAfter_of_isBlanks {text : List Char} (h : IsBlanks text) :
    markAfter none text = none :=
  markAfter_of_no_quote fun c m => not_isQuote_of_isBlank (h c m)

theorem Nesting.afterText_of_plain {b : Brackets} {text : List Char} (depth : Nat)
    (quotes : ∀ c ∈ text, isQuote c = false) (brackets : ∀ c ∈ text, b.Ignore c) :
    Nesting.afterText b ⟨none, depth⟩ text = ⟨none, depth⟩ := by
  induction text with
  | nil => rfl
  | cons c text ih =>
    have plain := brackets c (List.mem_cons_self ..)
    have step : Nesting.after b ⟨none, depth⟩ c = ⟨none, depth⟩ := by
      simp [Nesting.after, quoteAfter, quotes c (List.mem_cons_self ..), plain.1, plain.2]
    rw [Nesting.afterText_cons, step]
    exact ih (fun d m => quotes d (List.mem_cons_of_mem _ m))
      fun d m => brackets d (List.mem_cons_of_mem _ m)

section Items

variable {b : Brackets}

theorem itemsOf_append (plain : b.Ignore ',') {front : List Char}
    (outside : Nesting.outside.afterText b front = .outside) (back : List Char) :
    itemsOf b (front ++ ',' :: back) = itemsOf b front ++ itemsOf b back := by
  have comma : Nesting.outside.afterText b [','] = .outside :=
    Nesting.afterText_of_plain 0 (by decide) fun c m => by rwa [List.mem_singleton.mp m]
  have split : splitOutside b (· == ',') .outside (front ++ ',' :: back) =
      splitOutside b (· == ',') .outside front ++
        splitOutside b (· == ',') ((Nesting.outside.afterText b front).afterText b [',']) back :=
    splitOutside_append_cut (by rw [outside]; decide) back
  unfold itemsOf
  rw [split, outside, comma, List.map_append]

theorem itemsOf_of_uncut (blanks : ∀ c, isBlank c = true → b.Ignore c) {x text y : List Char}
    (hx : IsBlanks x) (uncut : Uncut b (· == ',') .outside text) (hy : IsBlanks y) :
    itemsOf b (x ++ (text ++ y)) = [trim (x ++ (text ++ y))] := by
  have apart {text : List Char} (h : IsBlanks text) : ∀ c ∈ text, (c == ',') = false := by
    intro c m
    exact beq_of_isBlank (h c m) (by decide)
  have start : Nesting.outside.afterText b x = .outside :=
    Nesting.afterText_of_plain 0 (fun c m => not_isQuote_of_isBlank (hx c m))
      fun c m => blanks c (hx c m)
  have whole : Uncut b (· == ',') .outside (x ++ (text ++ y)) := by
    rw [uncut_append, uncut_append, start]
    exact ⟨uncut_of_forall (apart hx), uncut, uncut_of_forall (apart hy)⟩
  unfold itemsOf
  rw [splitOutside_of_uncut whole, List.map_singleton]

end Items

theorem solid_quotation {q : Char} (hq : isQuote q = true) (contents : List Char) :
    Solid (quotation q contents) := by
  have stop := not_isBlank_of_isQuote hq
  refine ⟨by simp [quotation], ?_, ?_⟩
  · rintro c m
    cases m
    exact stop
  · intro c m
    rw [quotation, List.getLast?_concat] at m
    cases m
    exact stop

/-- A text that is an item as it stands. -/
structure IsItem (b : Brackets) (text : List Char) : Prop where
  solid : Solid text
  uncut : Uncut b (· == ',') .outside text
  outside : Nesting.outside.afterText b text = .outside

def listed (texts : List (List Char)) : List Char := [',', ' '].intercalate texts

theorem listed_singleton (text : List Char) : listed [text] = text := by simp [listed]

theorem listed_cons_cons (first second : List Char) (texts : List (List Char)) :
    listed (first :: second :: texts) = first ++ ',' :: ' ' :: listed (second :: texts) := by
  simp [listed, List.intercalate_cons_cons]

theorem intercalate_cons_eq_append {α : Type} (between first : List α) (texts : List (List α)) :
    between.intercalate (first :: texts) = first ++ texts.flatMap (between ++ ·) := by
  induction texts generalizing first with
  | nil => simp
  | cons second texts ih =>
    simp only [List.intercalate_cons_cons, ih, List.flatMap_cons, List.append_assoc]

theorem trim_listed_ne_nil {texts : List (List Char)} (some : texts ≠ [])
    (solid : ∀ text ∈ texts, Solid text) (x y : List Char) : trim (x ++ (listed texts ++ y)) ≠ [] := by
  obtain ⟨first, more, rfl⟩ := List.exists_cons_of_ne_nil some
  have starts := solid first (List.mem_cons_self ..)
  obtain ⟨c, rest, rfl⟩ := List.exists_cons_of_ne_nil starts.some
  have stop : isBlank c = false := starts.first c rfl
  obtain ⟨after, whole⟩ : ∃ after, listed ((c :: rest) :: more) = c :: after := by
    cases more with
    | nil => exact ⟨rest, listed_singleton _⟩
    | cons second more => exact ⟨_, listed_cons_cons ..⟩
  rw [whole, List.cons_append, trim_append_stop stop]
  simp

/-- A list that is written item by item is cut into these items. -/
theorem itemsOf_listed {b : Brackets} (plain : b.Ignore ',')
    (blanks : ∀ c, isBlank c = true → b.Ignore c) {texts : List (List Char)} (some : texts ≠ [])
    (items : ∀ text ∈ texts, IsItem b text) {x y : List Char} (hx : IsBlanks x)
    (hy : IsBlanks y) : itemsOf b (x ++ (listed texts ++ y)) = texts := by
  induction texts generalizing x with
  | nil => exact absurd rfl some
  | cons first texts ih =>
    have item := items first (List.mem_cons_self ..)
    cases texts with
    | nil =>
      rw [listed_singleton, itemsOf_of_uncut blanks hx item.uncut hy, item.solid.trim hx hy]
    | cons second texts =>
      have start : Nesting.outside.afterText b x = .outside :=
        Nesting.afterText_of_plain 0 (fun c m => not_isQuote_of_isBlank (hx c m))
          fun c m => blanks c (hx c m)
      have outside : Nesting.outside.afterText b (x ++ first) = .outside := by
        rw [Nesting.afterText_append, start, item.outside]
      have whole : x ++ (listed (first :: second :: texts) ++ y) =
          (x ++ first) ++ ',' :: ([' '] ++ (listed (second :: texts) ++ y)) := by
        rw [listed_cons_cons]
        simp
      have none : IsBlanks [] := by decide
      have alone := itemsOf_of_uncut blanks hx item.uncut none
      rw [item.solid.trim hx none, List.append_nil] at alone
      rw [whole, itemsOf_append plain outside, alone, List.singleton_append,
        ih (by simp) (fun t m => items t (List.mem_cons_of_mem _ m)) (by decide)]

theorem Brackets.ignore_none_blank (c : Char) (_ : isBlank c = true) : Brackets.none.Ignore c :=
  Brackets.ignore_none c

end DocQuery.Text
