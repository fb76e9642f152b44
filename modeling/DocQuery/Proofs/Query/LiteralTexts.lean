import DocQuery.Proofs.Store.OwnForm
import DocQuery.Proofs.Text.Escaped

/-!
# Texts that show literals

The text that shows a literal tells the literal and where it ends, if something stands behind it
that no literal goes on with. Zero has one text for both of its signs. A string is told by its
quotation mark, a list by its bracket; all else begins with a plain word.
-/

namespace DocQuery

open Text

/-- The number, or the positive zero for the negative one. -/
def Binary64.plainZero (x : Binary64) : Binary64 :=
  if x.units = 0 then .zero false else x

namespace Literal

mutual

def plainZeros : Literal → Literal
  | .number x => .number x.plainZero
  | .list items => .list (plainZerosItems items)
  | v => v

def plainZerosItems : List Literal → List Literal
  | [] => []
  | v :: rest => plainZeros v :: plainZerosItems rest

end

theorem plainZerosItems_eq_map (items : List Literal) :
    plainZerosItems items = items.map plainZeros := by
  induction items with
  | nil => rfl
  | cons v rest ih => rw [plainZerosItems, ih, List.map_cons]

theorem toInt?_of_zero {x : Binary64} (none : x.units = 0) : x.toInt? = some 0 := by
  simp only [Binary64.toInt?, none, Nat.zero_mod, Nat.zero_div, if_true]
  cases x.negative <;> rfl

theorem numberToJson_plainZero (x : Binary64) : numberToJson x.plainZero = numberToJson x := by
  by_cases none : x.units = 0
  · have plain : x.plainZero = .zero false := if_pos none
    have zero : (Binary64.zero false).toInt? = some 0 := toInt?_of_zero rfl
    simp only [numberToJson, plain, zero, toInt?_of_zero none, Int.natAbs_zero,
      show 0 < Binary64.exactEnd by decide, if_true]
  · simp only [Binary64.plainZero, none, if_false]

theorem read?_compact (x : Binary64) : Numeral.IsText (numberToJson x).compact.toList ∧
    Numeral.read? (numberToJson x).compact.toList = some x.plainZero := by
  have signed : x.plainZero.negative = true → x.plainZero.units ≠ 0 := by
    unfold Binary64.plainZero
    split
    · nofun
    · next some => exact fun _ => some
  rw [← numberToJson_plainZero x]
  exact read?_numberToJson signed

/-- A scalar whose text shows all of it: if it is an instant, it has no part that its text
leaves out. -/
structure IsShownScalar (v : Literal) : Prop where
  scalar : v.isList = false
  instant : ∀ t, v = .instant t → t.IsShown

/-- What a plain word at the front of a text shows, and the text behind it. -/
def readBare (text : List Char) : Literal × List Char :=
  let word := text.takeWhile isPlain
  let rest := text.dropWhile isPlain
  if word = "timestamp".toList then
    (.ofBareText (rest.tail.takeWhile isPlain), (rest.tail.dropWhile isPlain).tail)
  else (.ofBareText word, rest)

section Scalars

variable {v : Literal} {rest : List Char} (stop : ∀ c ∈ rest.head?, isPlain c = false)

include stop

theorem readBare_word (word : List Char) (plain : ∀ c ∈ word, isPlain c = true)
    (other : word ≠ "timestamp".toList) : readBare (word ++ rest) = (.ofBareText word, rest) := by
  simp only [readBare, takeWhile_append_of_stop plain stop, dropWhile_append_of_stop plain stop,
    other, if_false]

theorem readBare_display (shown : v.IsShownScalar) (bare : ∀ s, v ≠ .string s) :
    readBare (v.display.toList ++ rest) = (v.plainZeros, rest) := by
  cases v with
  | string s => exact absurd rfl (bare s)
  | number x =>
    obtain ⟨text, reads⟩ := read?_compact x
    obtain ⟨d, numeral⟩ := text.unsigned?
    have other : (numberToJson x).compact.toList ≠ "timestamp".toList := by
      intro same
      obtain ⟨c, more, first, start⟩ := text.head
      rw [same] at first
      obtain ⟨rfl, -⟩ := List.cons.inj first
      exact absurd start (by decide)
    rw [display, readBare_word stop _ text.isPlain other,
      ofBareText_of_number (Stamp.literal?_of_numeral numeral) reads, plainZeros]
  | boolean b =>
    cases b with
    | false => exact readBare_word stop "false".toList (by decide) (by decide)
    | true => exact readBare_word stop "true".toList (by decide) (by decide)
  | null => exact readBare_word stop "null".toList (by decide) (by decide)
  | instant t =>
    have date := shown.instant t rfl
    have mark : ∀ c ∈ ('(' :: (t.text.toList ++ ')' :: rest)).head?, isPlain c = false := by
      simp
      decide
    have closing : ∀ c ∈ (')' :: rest).head?, isPlain c = false := by
      simp
      decide
    have keyword : ∀ c ∈ "timestamp".toList, isPlain c = true := by decide
    have shape : (Literal.instant t).display.toList ++ rest =
        "timestamp".toList ++ '(' :: (t.text.toList ++ ')' :: rest) := by
      simp [display]
    rw [shape, readBare, takeWhile_append_of_stop keyword mark,
      dropWhile_append_of_stop keyword mark]
    simp only [if_true, List.tail_cons, takeWhile_append_of_stop date.isPlain_text closing,
      dropWhile_append_of_stop date.isPlain_text closing,
      ofBareText_of_instant (Instant.literal?_text date), plainZeros]
  | list items => cases shown.scalar

end Scalars

theorem exists_head_display {v : Literal} (shown : v.IsShownScalar) :
    ∃ c more, v.display.toList = c :: more ∧
      (c = '"' ∧ (∃ s, v = .string s) ∨ isPlain c = true ∧ ∀ s, v ≠ .string s) := by
  cases v with
  | string s => exact ⟨'"', _, String.toList_ofList, .inl ⟨rfl, s, rfl⟩⟩
  | number x =>
    have text := (read?_compact x).1
    obtain ⟨c, more, first, -⟩ := text.head
    have plain := text.isPlain
    rw [first] at plain
    exact ⟨c, more, first, .inr ⟨plain c (List.mem_cons_self ..), nofun⟩⟩
  | boolean b => cases b <;> exact ⟨_, _, rfl, .inr ⟨by decide, nofun⟩⟩
  | null => exact ⟨_, _, rfl, .inr ⟨by decide, nofun⟩⟩
  | instant t =>
    have shape : (Literal.instant t).display.toList =
        't' :: ("imestamp(".toList ++ (t.text.toList ++ [')'])) := by simp [display]
    exact ⟨_, _, shape, .inr ⟨by decide, nofun⟩⟩
  | list items => cases shown.scalar

theorem cons_ne_display {v : Literal} (shown : v.IsShownScalar) {c : Char} (mark : c ≠ '"')
    (other : isPlain c = false) (text rest : List Char) : c :: text ≠ v.display.toList ++ rest := by
  intro same
  obtain ⟨d, front, first, start⟩ := exists_head_display shown
  rw [first] at same
  obtain ⟨rfl, -⟩ := List.cons.inj same
  rcases start with ⟨quoted, -⟩ | ⟨plain, -⟩
  · exact mark quoted
  · exact absurd (plain.symm.trans other) (by decide)

/-- The text of a scalar tells it, and the text behind it. -/
theorem display_append_inj {v w : Literal} (shown : v.IsShownScalar) (shown' : w.IsShownScalar)
    {rest more : List Char} (stop : ∀ c ∈ rest.head?, isPlain c = false)
    (stop' : ∀ c ∈ more.head?, isPlain c = false)
    (same : v.display.toList ++ rest = w.display.toList ++ more) :
    v.plainZeros = w.plainZeros ∧ rest = more := by
  obtain ⟨c, front, first, start⟩ := exists_head_display shown
  obtain ⟨d, back, first', start'⟩ := exists_head_display shown'
  have heads : c = d := by
    rw [first, first'] at same
    exact (List.cons.inj same).1
  subst heads
  have mark : isPlain '"' = false := by decide
  rcases start with ⟨rfl, s, rfl⟩ | ⟨plain, bare⟩
  · rcases start' with ⟨-, t, rfl⟩ | ⟨plain', -⟩
    · obtain ⟨rfl, behind⟩ := quoted_append_inj same
      exact ⟨rfl, behind⟩
    · exact absurd (plain'.symm.trans mark) (by decide)
  · rcases start' with ⟨rfl, -⟩ | ⟨-, bare'⟩
    · exact absurd (plain.symm.trans mark) (by decide)
    · have read := congrArg readBare same
      rw [readBare_display stop shown bare, readBare_display stop' shown' bare'] at read
      exact Prod.mk.inj read

def displayTail (items : List Literal) : List Char :=
  items.flatMap fun v => ',' :: ' ' :: v.display.toList

theorem displayItems_eq_intercalate (items : List Literal) :
    displayItems items = ", ".intercalate (items.map display) := by
  induction items with
  | nil => rfl
  | cons v items ih =>
    cases items with
    | nil => simp [displayItems]
    | cons w items =>
      simp only [displayItems, ih, List.map_cons, String.intercalate_cons_cons]

theorem toList_displayItems_cons (v : Literal) (items : List Literal) :
    (displayItems (v :: items)).toList = v.display.toList ++ displayTail items := by
  have comma : ", ".toList = [',', ' '] := rfl
  simp [displayItems_eq_intercalate, String.toList_intercalate, intercalate_cons_eq_append, comma,
    displayTail, List.flatMap_map]

theorem stop_displayTail (items : List Literal) (rest : List Char) :
    ∀ c ∈ (displayTail items ++ ']' :: rest).head?, isPlain c = false := by
  cases items with
  | nil => exact fun c m => (Option.some.inj m) ▸ (by decide)
  | cons v items => exact fun c m => (Option.some.inj m) ▸ (by decide)

theorem displayTail_append_inj {items others : List Literal}
    (shown : ∀ v ∈ items, v.IsShownScalar) (shown' : ∀ v ∈ others, v.IsShownScalar)
    {rest more : List Char}
    (same : displayTail items ++ ']' :: rest = displayTail others ++ ']' :: more) :
    items.map plainZeros = others.map plainZeros ∧ rest = more := by
  induction items generalizing others with
  | nil =>
    cases others with
    | nil => exact ⟨rfl, List.tail_eq_of_cons_eq same⟩
    | cons w others => cases same
  | cons v items ih =>
    cases others with
    | nil => cases same
    | cons w others =>
      obtain ⟨one, rest'⟩ := List.forall_mem_cons.mp shown
      obtain ⟨other, more'⟩ := List.forall_mem_cons.mp shown'
      simp only [displayTail, List.flatMap_cons, List.cons_append, List.append_assoc,
        List.cons.injEq, true_and] at same
      obtain ⟨first, behind⟩ := display_append_inj one other (stop_displayTail items rest)
        (stop_displayTail others more) same
      obtain ⟨others, behind⟩ := ih rest' more' behind
      exact ⟨by simp only [List.map_cons, first, others], behind⟩

/-- The value of a condition as a query gives it: a scalar or a list of scalars, all shown in
full. -/
inductive IsShownValue : Literal → Prop
  | scalar {v : Literal} (shown : v.IsShownScalar) : v.IsShownValue
  | list {items : List Literal} (shown : ∀ v ∈ items, v.IsShownScalar) : IsShownValue (.list items)

theorem isShownScalar_ofText (text : List Char) : (ofText text).IsShownScalar :=
  ⟨isList_ofText text, fun _ => isShown_of_ofText⟩

theorem toList_display_list (items : List Literal) (rest : List Char) :
    (Literal.list items).display.toList ++ rest =
      '[' :: ((displayItems items).toList ++ ']' :: rest) := by
  simp [display]

theorem display_list_append_inj {items others : List Literal}
    (shown : ∀ v ∈ items, v.IsShownScalar) (shown' : ∀ v ∈ others, v.IsShownScalar)
    {rest more : List Char} (same : (Literal.list items).display.toList ++ rest =
      (Literal.list others).display.toList ++ more) :
    items.map plainZeros = others.map plainZeros ∧ rest = more := by
  rw [toList_display_list, toList_display_list] at same
  have same := List.tail_eq_of_cons_eq same
  cases items with
  | nil =>
    cases others with
    | nil => exact ⟨rfl, List.tail_eq_of_cons_eq same⟩
    | cons w others =>
      rw [toList_displayItems_cons, List.append_assoc] at same
      have other := shown' w (List.mem_cons_self ..)
      exact absurd same (cons_ne_display other (by decide) (by decide) _ _)
  | cons v items =>
    obtain ⟨one, several⟩ := List.forall_mem_cons.mp shown
    rw [toList_displayItems_cons, List.append_assoc] at same
    cases others with
    | nil => exact absurd same.symm (cons_ne_display one (by decide) (by decide) _ _)
    | cons w others =>
      obtain ⟨other, several'⟩ := List.forall_mem_cons.mp shown'
      rw [toList_displayItems_cons, List.append_assoc] at same
      obtain ⟨first, behind⟩ := display_append_inj one other (stop_displayTail items rest)
        (stop_displayTail others more) same
      obtain ⟨others, behind⟩ := displayTail_append_inj several several' behind
      exact ⟨by simp only [List.map_cons, first, others], behind⟩

theorem display_value_append_inj {v w : Literal} (shown : v.IsShownValue)
    (shown' : w.IsShownValue) {rest more : List Char}
    (stop : ∀ c ∈ rest.head?, isPlain c = false) (stop' : ∀ c ∈ more.head?, isPlain c = false)
    (same : v.display.toList ++ rest = w.display.toList ++ more) :
    v.plainZeros = w.plainZeros ∧ rest = more := by
  -- The bracket of a list opens no scalar.
  have apart {u : Literal} (one : u.IsShownScalar) (items : List Literal) (text after : List Char) :
      (Literal.list items).display.toList ++ text ≠ u.display.toList ++ after := by
    rw [toList_display_list]
    exact cons_ne_display one (by decide) (by decide) _ _
  cases shown with
  | scalar one =>
    cases shown' with
    | scalar other => exact display_append_inj one other stop stop' same
    | list several => exact absurd same.symm (apart one _ _ _)
  | list several =>
    cases shown' with
    | scalar other => exact absurd same (apart other _ _ _)
    | list several' =>
      obtain ⟨items, behind⟩ := display_list_append_inj several several' same
      simp only [plainZeros, plainZerosItems_eq_map, items]
      exact ⟨trivial, behind⟩

theorem display_plainZeros {v : Literal} (shown : v.IsShownValue) :
    v.plainZeros.display = v.display := by
  have one {u : Literal} (scalar : u.isList = false) : u.plainZeros.display = u.display := by
    cases u with
    | number x => simp only [plainZeros, display, numberToJson_plainZero]
    | list items => cases scalar
    | _ => rfl
  cases shown with
  | scalar shown => exact one shown.scalar
  | @list items shown =>
    have same : (items.map plainZeros).map display = items.map display := by
      rw [List.map_map]
      exact List.map_congr_left fun u m => one (shown u m).scalar
    simp only [plainZeros, plainZerosItems_eq_map, display, displayItems_eq_intercalate, same]

end Literal

theorem Condition.isShownValue_of_ofTokens {field operator value : String} {c : Condition}
    (read : ofTokens field operator value = .ok c) : c.value.IsShownValue := by
  unfold ofTokens at read
  split at read
  · cases read
  · dsimp only at read
    split at read
    · split at read
      · next list found =>
        obtain rfl := Except.ok.inj read
        obtain ⟨texts, rfl⟩ := Literal.exists_texts_of_listOfText? found
        refine .list fun v m => ?_
        obtain ⟨text, -, rfl⟩ := List.mem_map.mp m
        exact Literal.isShownScalar_ofText text
      · cases read
    · split at read
      · cases read
      · obtain rfl := Except.ok.inj read
        exact .scalar (Literal.isShownScalar_ofText _)

end DocQuery
