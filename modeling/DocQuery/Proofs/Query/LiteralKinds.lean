import DocQuery.Proofs.Number.Spellings
import DocQuery.Proofs.Query.Values
import DocQuery.Proofs.Query.WellFormed
import DocQuery.Proofs.Time.Spelling

/-!
# The kinds of literals

No text is read as two kinds of literal. Instants and numbers have a digit, which no word has, and
a numeral names no instant. So the order in which the kinds are tried decides nothing, and a string
is the text that is of no other kind.
-/

namespace DocQuery

open Text

theorem Stamp.exists_isDigit_of_literal? {text : List Char} {t : Instant}
    (named : Stamp.literal? text = some t) : ∃ c ∈ text, c.isDigit = true := by
  obtain ⟨civil, spelled, -, -⟩ := Stamp.literal?_eq_some_iff.mp named
  have first {year : Nat} {y : List Char} (years : Stamp.IsNumber 4 year y) :
      ∃ c ∈ y, c.isDigit = true := by
    cases y with
    | nil => exact absurd years.length (by decide)
    | cons c y => exact ⟨c, List.mem_cons_self .., years.digits c (List.mem_cons_self ..)⟩
  cases spelled with
  | yearFirst years =>
    obtain ⟨c, m, digit⟩ := first years
    exact ⟨c, List.mem_append_left _ m, digit⟩
  | monthFirst _ _ years =>
    obtain ⟨c, m, digit⟩ := first years
    exact ⟨c, by simp [m], digit⟩
  | named _ _ _ years =>
    obtain ⟨c, m, digit⟩ := first years
    exact ⟨c, by simp [m], digit⟩

theorem Numeral.Spelling.exists_isDigit (s : Spelling) : ∃ c ∈ s.text, c.isDigit = true := by
  obtain ⟨c, digits, same⟩ := List.exists_cons_of_ne_nil s.some
  have m : c ∈ s.whole ++ s.fraction.getD [] := by
    rw [same]
    exact List.mem_cons_self ..
  refine ⟨c, ?_, s.digits c m⟩
  unfold text unsignedText rest
  cases fraction : s.fraction with
  | none =>
    rw [fraction] at m
    simpa using .inr (.inl (by simpa using m))
  | some behind =>
    rw [fraction] at m
    rcases List.mem_append.mp m with m | m
    · simp [m]
    · have m : c ∈ behind := m
      simp [m]

namespace Literal

def readInstant (text : List Char) : Option Literal := (Stamp.literal? text).map instant

def readNumber (text : List Char) : Option Literal := (Numeral.read? text).map number

def readWord (word : String) (v : Literal) (text : List Char) : Option Literal :=
  if sameLetters text word.toList then some v else none

/-- The readers of the kinds that a text tells, in the order in which they are tried. -/
def readers : List (List Char → Option Literal) :=
  [readInstant, readNumber, readWord "true" (boolean true), readWord "false" (boolean false),
    readWord "null" null]

def Excludes (p q : List Char → Option Literal) : Prop :=
  ∀ text, p text = none ∨ q text = none

theorem Excludes.symm {p q : List Char → Option Literal} (h : Excludes p q) : Excludes q p :=
  fun text => (h text).symm

theorem ofBareText_eq (text : List Char) : ofBareText text =
    (readers.findSome? (· text)).getD (.string (String.ofList text)) := by
  unfold ofBareText readers readInstant readNumber readWord
  simp only [List.findSome?_cons, List.findSome?_nil]
  cases Stamp.literal? text with
  | some t => rfl
  | none =>
    cases Numeral.read? text with
    | some x => rfl
    | none =>
      dsimp only [Option.map_none]
      split_ifs <;> rfl

section Words

variable {word : String} (letters : ∀ c ∈ word.toList, c.isAlpha = true) (v : Literal)

include letters

theorem readWord_of_digit {text : List Char} (digit : ∃ c ∈ text, c.isDigit = true) :
    readWord word v text = none := by
  apply if_neg
  intro same
  obtain ⟨c, m, digit⟩ := digit
  have letter := isAlpha_of_sameLetters same letters c m
  rw [not_isAlpha_of_isDigit digit] at letter
  cases letter

theorem instant_excludes_word : Excludes readInstant (readWord word v) := by
  intro text
  unfold readInstant
  cases named : Stamp.literal? text with
  | none => exact .inl rfl
  | some t => exact .inr (readWord_of_digit letters v (Stamp.exists_isDigit_of_literal? named))

theorem number_excludes_word : Excludes readNumber (readWord word v) := by
  intro text
  unfold readNumber
  cases read : Numeral.read? text with
  | none => exact .inl rfl
  | some x =>
    obtain ⟨s, rfl, -⟩ := Numeral.Spelling.read?_eq_some_iff.mp ⟨x, read⟩
    exact .inr (readWord_of_digit letters v s.exists_isDigit)

end Words

theorem instant_excludes_number : Excludes readInstant readNumber := by
  intro text
  unfold readInstant readNumber
  cases read : Numeral.read? text with
  | none => exact .inr rfl
  | some x =>
    obtain ⟨d, unsigned, -⟩ := Option.bind_eq_some_iff.mp read
    left
    rw [Stamp.literal?_of_numeral unsigned]
    rfl

theorem word_excludes_word {word other : String}
    (differ : word.toList.map Char.toLower ≠ other.toList.map Char.toLower) (v w : Literal) :
    Excludes (readWord word v) (readWord other w) := by
  intro text
  by_cases same : sameLetters text word.toList = true
  · right
    apply if_neg
    intro same'
    exact differ ((Stamp.sameLetters_iff.mp same).symm.trans (Stamp.sameLetters_iff.mp same'))
  · exact .inl (if_neg same)

theorem readers_exclude : readers.Pairwise Excludes := by
  have yes : ∀ c ∈ "true".toList, c.isAlpha = true := by decide
  have no : ∀ c ∈ "false".toList, c.isAlpha = true := by decide
  have nothing : ∀ c ∈ "null".toList, c.isAlpha = true := by decide
  simp only [readers, List.pairwise_cons, List.forall_mem_cons, List.not_mem_nil, false_imp_iff,
    implies_true, List.Pairwise.nil, and_true]
  refine ⟨⟨instant_excludes_number, ?_, ?_, ?_⟩, ⟨?_, ?_, ?_⟩, ⟨?_, ?_⟩, ?_⟩
  · exact instant_excludes_word yes _
  · exact instant_excludes_word no _
  · exact instant_excludes_word nothing _
  · exact number_excludes_word yes _
  · exact number_excludes_word no _
  · exact number_excludes_word nothing _
  · exact word_excludes_word (by decide) _ _
  · exact word_excludes_word (by decide) _ _
  · exact word_excludes_word (by decide) _ _

section Order

variable {order : List (List Char → Option Literal)} {text : List Char}

/-- Where no text is read twice, the first that reads is the only one. -/
theorem findSome?_eq_some_iff (exclude : order.Pairwise Excludes) {v : Literal} :
    order.findSome? (· text) = some v ↔ ∃ reader ∈ order, reader text = some v := by
  induction order with
  | nil => simp
  | cons first rest ih =>
    obtain ⟨others, exclude⟩ := List.pairwise_cons.mp exclude
    rw [List.findSome?_cons, List.exists_mem_cons_iff, ← ih exclude]
    cases here : first text with
    | none => simp
    | some w =>
      have silent : rest.findSome? (· text) = none := by
        rw [List.findSome?_eq_none_iff]
        intro reader m
        rcases others reader m text with none | none
        · rw [here] at none
          cases none
        · exact none
      simp [silent]

theorem findSome?_eq_of_perm (perm : order.Perm readers) :
    order.findSome? (· text) = readers.findSome? (· text) := by
  have exclude := (perm.pairwise_iff Excludes.symm).mpr readers_exclude
  apply Option.ext
  intro v
  rw [findSome?_eq_some_iff exclude, findSome?_eq_some_iff readers_exclude]
  exact exists_congr fun reader => and_congr_left' perm.mem_iff

end Order

theorem not_string_of_reader {reader : List Char → Option Literal} (h : reader ∈ readers)
    {text : List Char} {v : Literal} (read : reader text = some v) (s : String) :
    v ≠ .string s := by
  rintro rfl
  simp only [readers, List.mem_cons, List.not_mem_nil, or_false] at h
  rcases h with rfl | rfl | rfl | rfl | rfl
  · simp [readInstant] at read
  · simp [readNumber] at read
  all_goals
    simp [readWord] at read

theorem ofText_eq_string_iff {text : List Char} {s : String} : ofText text = .string s ↔
    s = String.ofList (unquote text) ∧ ∀ reader ∈ readers, reader (unquote text) = none := by
  unfold ofText
  rw [ofBareText_eq, ← List.findSome?_eq_none_iff]
  cases read : readers.findSome? (· (unquote text)) with
  | none => simp [eq_comm]
  | some v =>
    obtain ⟨reader, m, reads⟩ := List.exists_of_findSome?_eq_some read
    simp [not_string_of_reader m reads s]

/-- No text is read by two readers, so they may be tried in any order. Numbers are the numerals
below the overflow, strings the texts that no reader takes. -/
theorem kinds_exclude_each_other :
    readers.Pairwise Excludes ∧
    (∀ order : List (List Char → Option Literal), order.Perm readers → ∀ text,
      ofBareText text = (order.findSome? (· text)).getD (.string (String.ofList text))) ∧
    (∀ text, (∃ x, Numeral.read? text = some x) ↔
      ∃ s : Numeral.Spelling, s.text = text ∧ |s.toRat| < Binary64.overflow) ∧
    (∀ (s : Numeral.Spelling) (x : Binary64), Numeral.read? s.text = some x →
      x.negative = s.sign.getD false ∧
        ∀ y : Binary64, |x.toRat - s.toRat| ≤ |y.toRat - s.toRat|) ∧
    (∃ top : Binary64, (∀ x : Binary64, x.toRat ≤ top.toRat) ∧
      2 * Binary64.overflow = top.toRat + 2 ^ 1024) ∧
    ∀ text, (ofText text).isList = false ∧ ∀ s, ofText text = .string s ↔
      s = String.ofList (unquote text) ∧ ∀ reader ∈ readers, reader (unquote text) = none := by
  refine ⟨readers_exclude, ?_, fun text => Numeral.Spelling.read?_eq_some_iff, ?_,
    Binary64.exists_greatest, ?_⟩
  · intro order perm text
    rw [findSome?_eq_of_perm perm]
    exact ofBareText_eq text
  · intro s x read
    exact s.nearest_of_read? read
  · intro text
    exact ⟨isList_ofText text, fun s => ofText_eq_string_iff⟩

theorem kinds_of_reversed_readers :
    let s : Numeral.Spelling := ⟨some true, ['2'], some ['5'],
      some ⟨'E', none, ['1'], .inr rfl, by simp, by decide⟩, by simp, by decide⟩
    s.text = "-2.5E1".toList ∧
    (∀ text, ofBareText text =
      (readers.reverse.findSome? (· text)).getD (.string (String.ofList text))) ∧
    ∃ x, Numeral.read? s.text = some x ∧ x.toInt? = some (-25) ∧ x.negative = true ∧
      ∀ y : Binary64, |x.toRat - s.toRat| ≤ |y.toRat - s.toRat| := by
  intro s
  obtain ⟨-, anyOrder, -, nearest, -⟩ := kinds_exclude_each_other
  have read : ((Numeral.read? s.text).bind Binary64.toInt?) = some (-25) := by decide +kernel
  obtain ⟨x, read, whole⟩ := Option.bind_eq_some_iff.mp read
  obtain ⟨sign, closest⟩ := nearest s x read
  exact ⟨rfl, anyOrder readers.reverse (List.reverse_perm readers), x, read, whole, sign, closest⟩

end Literal

end DocQuery
