import DocQuery.Proofs.Query.Filters

/-!
# Select lists of written queries

The labels of a select list, with commas between them, are read as the items again, with the
identity of documents under the name that its label shows.
-/

namespace DocQuery

open Text

/-- The text of an item that stands beside others: all brackets of it are closed, and no comma of
it is outside of them. -/
structure IsLabel (text : List Char) : Prop where
  isItem : IsItem .round text
  gapless : Gapless text
  closed : markAfter none text = none
  unreserved : Unreserved text
  finished : IsFinished text

theorem IsNameText.isLabel {text : List Char} (h : IsNameText text) : IsLabel text :=
  ⟨h.isPlainWord.isItem spare_round, h.isPlainWord.gapless, h.isPlainWord.closed, h.unreserved,
    h.isPlainWord.finished⟩

theorem isLabel_call {name argument : List Char} (plainName : IsPlainWord name)
    (plainArgument : IsPlainWord argument) : IsLabel (name ++ '(' :: (argument ++ [')'])) := by
  have every {p : Char → Bool} (plain : ∀ c, isPlain c = true → p c = false)
      (opening : p '(' = false) (closing : p ')' = false) :
      ∀ c ∈ name ++ '(' :: (argument ++ [')']), p c = false := by
    intro c m
    simp only [List.mem_append, List.mem_cons, List.not_mem_nil, or_false] at m
    rcases m with m | rfl | m | rfl
    · exact plain c (plainName.plain c m)
    · exact opening
    · exact plain c (plainArgument.plain c m)
    · exact closing
  have blanks := every (p := isBlank) (fun _ => not_isBlank_of_isPlain) (by decide) (by decide)
  have gaps := every (p := isGap) (fun _ => not_isGap_of_isPlain) (by decide) (by decide)
  have quotes := every (p := isQuote) (fun _ => not_isQuote_of_isPlain) (by decide) (by decide)
  have commas := every (p := (· == ','))
    (fun c h => beq_eq_false_iff_ne.mpr (isPlain_ne h (by decide))) (by decide) (by decide)
  have opened : Nesting.after .round ⟨none, 0⟩ '(' = ⟨none, 1⟩ := by decide
  have closed : Nesting.afterText .round ⟨none, 1⟩ [')'] = .outside := by decide
  refine ⟨⟨solid_of_no_blank (by simp) blanks, uncut_of_forall commas, ?_⟩, uncut_of_forall gaps,
    markAfter_of_no_quote quotes, unreserved_of_mem (c := '(') (by simp) (by decide), ?_⟩
  · rw [Nesting.outside, Nesting.afterText_append, plainName.afterText spare_round,
      Nesting.afterText_cons, opened, Nesting.afterText_append,
      plainArgument.afterText spare_round, closed]
    rfl
  · exact ⟨name ++ '(' :: argument, ')', by simp, by decide, by decide⟩

namespace SelectItem

theorem callParts?_of_isName {text : List Char} (name : FieldName.isName text = true) :
    callParts? text = none := by
  cases text with
  | nil => rfl
  | cons c rest =>
    have unopened (argument : List Char) :
        ((c :: rest).dropWhile isWordChar).dropWhile isBlank ≠ '(' :: argument := by
      intro opened
      simp only [FieldName.isName, Bool.or_eq_true] at name
      rcases name with identifier | quoted
      · have inside : '(' ∈ ((c :: rest).dropWhile isWordChar).dropWhile isBlank :=
          opened ▸ List.mem_cons_self ..
        have m := (List.dropWhile_sublist _).subset ((List.dropWhile_sublist _).subset inside)
        exact absurd (isNameChar_of_isIdentifier identifier _ m) (by decide)
      · simp only [FieldName.isBackquoted, Bool.and_eq_true, beq_iff_eq] at quoted
        obtain ⟨⟨⟨rfl, -⟩, -⟩, -⟩ := quoted
        have kept : ((FieldName.backquote :: rest).dropWhile isWordChar).dropWhile isBlank =
            FieldName.backquote :: rest := by
          rw [List.dropWhile_cons_of_neg (by decide), List.dropWhile_cons_of_neg (by decide)]
        exact absurd (List.cons.inj (kept.symm.trans opened)).1 (by decide)
    rw [callParts?]
    split
    · next found => exact absurd found (unopened _)
    · rfl

theorem ofCall_ne_field {item name argument : List Char} {field : String} :
    ofCall item name argument ≠ .ok (.field field) := by
  intro read
  unfold ofCall at read
  split at read
  · split at read <;> cases read
  · split at read
    · cases read
    · split at read <;> cases read

theorem ofText_eq_field_iff {text : List Char} {field : String} :
    ofText text = .ok (.field field) ↔
      FieldName.isName text = true ∧ field = String.ofList (FieldName.bare text) := by
  constructor
  · intro read
    unfold ofText at read
    split at read
    · cases read
    · split at read
      · cases read
      · split at read
        · exact absurd read ofCall_ne_field
        · split at read
          · next name =>
            cases read
            exact ⟨name, rfl⟩
          · cases read
  · rintro ⟨name, rfl⟩
    have some : text ≠ [] := by
      rintro rfl
      exact absurd name (by decide)
    have star : text ≠ ['*'] := by
      rintro rfl
      exact absurd name (by decide)
    simp only [ofText, some, star, callParts?_of_isName name, name, if_true, if_false]

theorem ofText_name {text : List Char} (h : IsNameText text) :
    ofText text = .ok (.field (String.ofList text)) :=
  ofText_eq_field_iff.mpr ⟨h.isName, congrArg String.ofList h.bare.symm⟩

theorem callParts?_call (function : SelectFunction) {argument : List Char}
    (plain : IsPlainWord argument) :
    callParts? (function.name.toList ++ '(' :: (argument ++ [')'])) =
      some (function.name.toList, argument) := by
  have words : ∀ c ∈ function.name.toList, isWordChar c = true := by cases function <;> decide
  have taken : (function.name.toList ++ '(' :: (argument ++ [')'])).takeWhile isWordChar =
      function.name.toList := by
    rw [List.takeWhile_append_of_pos words, List.takeWhile_cons_of_neg (by decide), List.append_nil]
  have left : ((function.name.toList ++ '(' :: (argument ++ [')'])).dropWhile isWordChar).dropWhile
      isBlank = '(' :: (argument ++ [')']) := by
    rw [List.dropWhile_append_of_pos words, List.dropWhile_cons_of_neg (by decide),
      List.dropWhile_cons_of_neg (by decide)]
  have trimmed : trim argument = argument := by
    have whole := plain.solid.trim (x := []) (y := []) (by decide) (by decide)
    rwa [List.nil_append, List.append_nil] at whole
  have line : '\n' ∉ argument := fun m => absurd (plain.plain _ m) (by decide)
  obtain ⟨c, rest, first, start⟩ : ∃ c rest, function.name.toList = c :: rest ∧
      isNameStart c = true := by
    cases function <;> exact ⟨_, _, rfl, by decide⟩
  unfold callParts?
  rw [first, List.cons_append] at taken left ⊢
  rw [left, taken]
  show (if isNameStart c = true ∧ (argument ++ [')']).getLast? = some ')' ∧
    '\n' ∉ trim (argument ++ [')']).dropLast then _ else none) = _
  rw [List.dropLast_concat, List.getLast?_concat, trimmed, if_pos ⟨start, rfl, line⟩]

/-- What a function of a select list is called on: a field, or all fields. -/
def Accepts (function : SelectFunction) (argument : List Char) : Prop :=
  IsNameText argument ∨ (argument = ['*'] ∧ function = .prettyJson)

theorem Accepts.isPlainWord {function : SelectFunction} {argument : List Char}
    (h : Accepts function argument) : IsPlainWord argument := by
  rcases h with name | ⟨rfl, -⟩
  · exact name.isPlainWord
  · exact ⟨by decide, by decide⟩

theorem ofText_call {function : SelectFunction} {argument : List Char}
    (h : Accepts function argument) :
    ofText (function.name.toList ++ '(' :: (argument ++ [')'])) =
      .ok (.call function (String.ofList argument)) := by
  have some : function.name.toList ++ '(' :: (argument ++ [')']) ≠ [] := by simp
  have star : function.name.toList ++ '(' :: (argument ++ [')']) ≠ ['*'] := by
    cases function <;> simp [SelectFunction.name]
  have count : sameLetters function.name.toList "COUNT".toList = false := by
    cases function <;> decide
  have named : SelectFunction.ofName? (String.ofList function.name.toList) = .some function := by
    cases function <;> decide
  have accepted : FieldName.isName argument = true ∨
      (argument = ['*'] ∧ function = .prettyJson) := h.imp_left IsNameText.isName
  have bare : FieldName.bare argument = argument := by
    rcases h with name | ⟨rfl, -⟩
    · exact name.bare
    · rfl
  unfold ofText
  rw [if_neg some, if_neg star, callParts?_call function h.isPlainWord]
  dsimp only
  unfold ofCall
  rw [count, named]
  dsimp only
  rw [if_pos accepted, bare]
  rfl

theorem label_call (function : SelectFunction) (argument : String) :
    (SelectItem.call function argument).label.toList =
      function.name.toList ++ '(' :: ((FieldName.display argument).toList ++ [')']) := by
  have opening : "(".toList = ['('] := rfl
  have closing : ")".toList = [')'] := rfl
  simp [label, opening, closing]

section Listed

variable {item : SelectItem} (h : item.IsListed)

include h

theorem accepts_of_isListed {function : SelectFunction} {argument : String}
    (call : item = .call function argument) :
    Accepts function (FieldName.display argument).toList := by
  rw [call] at h
  rcases h with name | ⟨rfl, rfl⟩
  · exact .inl name.display
  · exact .inr ⟨rfl, rfl⟩

theorem isLabel_label : IsLabel item.label.toList := by
  cases item with
  | field name =>
    have written : FieldName.IsWritable name := h
    exact written.display.isLabel
  | call function argument =>
    have name : IsPlainWord function.name.toList := by
      cases function <;> exact ⟨by decide, by decide⟩
    rw [label_call]
    exact isLabel_call name (accepts_of_isListed h rfl).isPlainWord
  | countAll => exact h.elim
  | wildcard => exact h.elim

/-- The label of an item is read as the item, under the names that labels show. -/
theorem ofText_label : ofText item.label.toList = .ok (item.mapField FieldName.display) := by
  cases item with
  | field name =>
    have written : FieldName.IsWritable name := h
    have reads := ofText_name written.display
    rwa [String.ofList_toList] at reads
  | call function argument =>
    have reads := ofText_call (accepts_of_isListed h rfl)
    rwa [String.ofList_toList, ← label_call] at reads
  | countAll => exact h.elim
  | wildcard => exact h.elim

theorem mapField_ne (f : String → String) :
    item.mapField f ≠ .countAll ∧ item.mapField f ≠ .wildcard := by
  cases item with
  | field name => exact ⟨nofun, nofun⟩
  | call function argument => exact ⟨nofun, nofun⟩
  | countAll => exact h.elim
  | wildcard => exact h.elim

theorem resolve_mapField : (item.mapField FieldName.display).mapField FieldName.resolve = item := by
  cases item with
  | field name =>
    have written : FieldName.IsWritable name := h
    simp only [mapField, FieldName.resolve_display written]
  | call function argument =>
    have same : FieldName.resolve (FieldName.display argument) = argument := by
      rcases h with name | ⟨-, rfl⟩
      · exact FieldName.resolve_display name
      · rfl
    simp only [mapField, same]
  | countAll => exact h.elim
  | wildcard => exact h.elim

end Listed

def listText (items : List SelectItem) : List Char := listed (items.map (·.label.toList))

section List

variable {items : List SelectItem} (some : items ≠ []) (h : ∀ item ∈ items, item.IsListed)

include h

theorem isLabel_of_mem : ∀ text ∈ items.map (·.label.toList), IsLabel text := by
  intro text m
  obtain ⟨item, mi, rfl⟩ := List.mem_map.mp m
  exact isLabel_label (h item mi)

theorem mapM_ofText :
    (items.map (·.label.toList)).mapM ofText = .ok (items.map (·.mapField FieldName.display)) := by
  induction items with
  | nil => rfl
  | cons item items ih =>
    rw [List.map_cons, List.mapM_cons, ofText_label (h item (List.mem_cons_self ..)),
      ih fun i m => h i (List.mem_cons_of_mem _ m)]
    rfl

include some

theorem settled_listText : Settled (listText items) := by
  have labels := isLabel_of_mem h
  have comma : ∀ text ∈ items.map (·.label.toList), Settled (text ++ [',']) := fun t m =>
    settled_append_mark (labels t m).gapless (labels t m).closed (by decide) (by decide) (by decide)
  have alone : ∀ text ∈ items.map (·.label.toList), Settled (text ++ []) := by
    intro text m
    rw [List.append_nil]
    exact settled_of_unreserved (labels text m).gapless (labels text m).closed
      (labels text m).unreserved
  have whole := settled_listed (by simpa using some) comma alone
  rwa [List.append_nil] at whole

theorem listOfText_listed :
    listOfText (ended [listText items] true) = .ok (items.map (·.mapField FieldName.display)) := by
  have someTexts : items.map (·.label.toList) ≠ [] := by simpa using some
  have labels := isLabel_of_mem h
  have blank : IsBlanks [' '] := by decide
  have plain : Brackets.round.Ignore ',' := ⟨rfl, rfl⟩
  have whole : ended [listText items] true = [' '] ++ (listText items ++ [' ']) := by
    simp [ended]
  have shown : trim ([' '] ++ (listText items ++ [' '])) ≠ [] :=
    trim_listed_ne_nil someTexts (fun t m => (labels t m).isItem.solid) _ _
  have cut := itemsOf_listed plain (fun _ => Brackets.round_ignore_blank) someTexts (fun t m => (labels t m).isItem)
    blank blank
  have read : (splitOutside .round (· == ',') .outside ([' '] ++ (listText items ++ [' ']))).mapM
      (fun item => ofText (trim item)) = .ok (items.map (·.mapField FieldName.display)) := by
    have mapped := mapM_ofText h
    rw [← cut, itemsOf, List.mapM_map] at mapped
    exact mapped
  have alone {other : SelectItem} (differ : ∀ item ∈ items, item.mapField FieldName.display ≠ other) :
      other ∉ items.map (·.mapField FieldName.display) := by
    intro m
    obtain ⟨item, mi, same⟩ := List.mem_map.mp m
    exact differ item mi same
  have count := alone fun item mi => (mapField_ne (h item mi) FieldName.display).1
  have wildcard := alone fun item mi => (mapField_ne (h item mi) FieldName.display).2
  unfold listOfText
  rw [whole, if_neg shown, read]
  show (if _ ∧ _ then _ else if _ ∧ _ then _ else _) = _
  rw [if_neg fun both => count both.2, if_neg fun both => wildcard both.2]

end List

end SelectItem

end DocQuery
