import DocQuery.Proofs.Query.Glued

/-!
# Operators that are words

A token is an operator if its capitals are the symbol of one. Outside of ASCII, two letters have a
capital in ASCII, so a word with one of them is read as an operator although it is not the symbol
up to the case of ASCII letters. Tokens are joined by that case: `NOT` and such a word stay two.
-/

namespace DocQuery

namespace Text

/-- A letter outside of ASCII, the dotless i or the long s, as the small letter that has the same
capital. -/
def plainLetter (c : Char) : Char :=
  if c = 'ı' then 'i' else if c = 'ſ' then 's' else c

def IsPlainlyLettered (text : List Char) : Prop := ∀ c ∈ text, c ≠ 'ı' ∧ c ≠ 'ſ'

theorem plainLetter_of_ne {c : Char} (h : c ≠ 'ı' ∧ c ≠ 'ſ') : plainLetter c = c := by
  simp only [plainLetter, h.1, h.2, if_false]

theorem IsPlainlyLettered.map_plainLetter {text : List Char} (h : IsPlainlyLettered text) :
    text.map plainLetter = text := by
  have same := List.map_congr_left fun c m => plainLetter_of_ne (h c m)
  exact same.trans (List.map_id' text)

def IsCapital (c : Char) : Prop := c.toNat < 97 ∨ 122 < c.toNat ∧ c.toNat < 128

instance (c : Char) : Decidable (IsCapital c) := inferInstanceAs (Decidable (_ ∨ _))

/-- Up to case, a capital is the same as the letters whose capital it is. -/
theorem toUpper_eq_iff {c d : Char} (capital : IsCapital d) :
    c.toUpper = d ↔ c.toLower = d.toLower := by
  simp only [IsCapital] at capital
  simp only [← Char.toNat_inj, toNat_toUpper, toNat_toLower]
  split <;> split <;> split <;> omega

theorem capital_eq_iff {c d : Char} (isCapital : IsCapital d) :
    capital c = d ↔ (plainLetter c).toLower = d.toLower := by
  by_cases dotless : c = 'ı'
  · subst dotless
    exact toUpper_eq_iff (c := 'i') isCapital
  · by_cases long : c = 'ſ'
    · subst long
      exact toUpper_eq_iff (c := 's') isCapital
    · simp only [capital, plainLetter, dotless, long, if_false]
      exact toUpper_eq_iff isCapital

theorem eq_of_capital_eq {c d : Char} (same : capital c = d) :
    c = d ∨ c = d.toLower ∨ c = 'ı' ∨ c = 'ſ' := by
  by_cases dotless : c = 'ı'
  · exact .inr (.inr (.inl dotless))
  · by_cases long : c = 'ſ'
    · exact .inr (.inr (.inr long))
    · simp only [capital, dotless, long, if_false] at same
      subst same
      simp only [← Char.toNat_inj, toNat_toLower, toNat_toUpper]
      split <;> split <;> omega

theorem map_capital_eq_iff {s t : List Char} (capitals : ∀ d ∈ t, IsCapital d) :
    s.map capital = t ↔ sameLetters (s.map plainLetter) t = true := by
  induction s generalizing t with
  | nil => cases t <;> simp [sameLetters]
  | cons c s ih =>
    cases t with
    | nil => simp [sameLetters]
    | cons d t =>
      obtain ⟨first, others⟩ := List.forall_mem_cons.mp capitals
      simp only [List.map_cons, List.cons.injEq, capital_eq_iff first, ih others, sameLetters_cons]

theorem isPlainlyLettered_of_sameLetters {s t : List Char} (capitals : ∀ d ∈ t, IsCapital d)
    (same : sameLetters s t = true) : IsPlainlyLettered s := by
  induction s generalizing t with
  | nil => exact nofun
  | cons c s ih =>
    cases t with
    | nil => cases same
    | cons d t =>
      obtain ⟨first, others⟩ := List.forall_mem_cons.mp capitals
      rw [sameLetters_cons, ← toUpper_eq_iff first] at same
      refine List.forall_mem_cons.mpr ⟨?_, ih others same.2⟩
      have code := congrArg Char.toNat same.1
      simp only [toNat_toUpper, IsCapital] at code first
      have ascii : c.toNat < 128 := by split at code <;> omega
      constructor
      · rintro rfl
        exact absurd ascii (by decide)
      · rintro rfl
        exact absurd ascii (by decide)

end Text

open Text

namespace Operator

theorem isCapital_of_mem_symbol (op : Operator) : ∀ c ∈ op.symbol.toList, IsCapital c := by
  cases op <;> decide

theorem ofToken?_eq_some_iff_capitals {token : String} {op : Operator} :
    ofToken? token = some op ↔ token.toList.map capital = op.symbol.toList := by
  constructor
  · intro read
    exact beq_iff_eq.mp (List.find?_some read :)
  · intro same
    simp only [ofToken?, same]
    cases op <;> rfl

theorem ofToken?_eq_some_iff {token : String} {op : Operator} : ofToken? token = some op ↔
    sameLetters (token.toList.map plainLetter) op.symbol.toList = true :=
  ofToken?_eq_some_iff_capitals.trans (map_capital_eq_iff op.isCapital_of_mem_symbol)

/-- Up to the case of ASCII letters, a token that is an operator is its symbol exactly if no letter
of it is outside of ASCII. -/
theorem sameWord_symbol_iff {token : String} {op : Operator} :
    sameWord token op.symbol = true ↔
      ofToken? token = some op ∧ IsPlainlyLettered token.toList := by
  constructor
  · intro same
    have plain := isPlainlyLettered_of_sameLetters op.isCapital_of_mem_symbol same
    refine ⟨ofToken?_eq_some_iff.mpr ?_, plain⟩
    simpa only [plain.map_plainLetter, sameWord] using same
  · rintro ⟨read, plain⟩
    have same := ofToken?_eq_some_iff.mp read
    simpa only [plain.map_plainLetter, sameWord] using same

theorem mem_of_isIn {word : String} (isIn : ofToken? word = some .isIn) :
    word ∈ ["IN", "In", "iN", "in", "ıN", "ın"] := by
  have capitals := ofToken?_eq_some_iff_capitals.mp isIn
  obtain ⟨c, rest, letters, first, behind⟩ := List.map_eq_cons_iff.mp capitals
  obtain ⟨d, none, rfl, second, nil⟩ := List.map_eq_cons_iff.mp behind
  obtain rfl := List.map_eq_nil_iff.mp nil
  obtain rfl : word = String.ofList [c, d] := by simp [← letters]
  rcases eq_of_capital_eq first with rfl | rfl | rfl | rfl <;>
    rcases eq_of_capital_eq second with rfl | rfl | rfl | rfl
  all_goals revert first second
  all_goals decide

theorem sameWord_of_isIn {word : String} (isIn : ofToken? word = some .isIn) :
    sameWord word "IN" = true ↔ 'ı' ∉ word.toList := by
  have each : ∀ w ∈ ["IN", "In", "iN", "in", "ıN", "ın"],
      sameWord w "IN" = true ↔ 'ı' ∉ w.toList := by decide
  exact each word (mem_of_isIn isIn)

theorem isPlainWord_of_isIn {word : String} (isIn : ofToken? word = some .isIn) :
    IsPlainWord word.toList ∧ Token.unglue word.toList = [word.toList] ∧
      sameWord word "NOT" = false := by
  have each : ∀ w ∈ ["IN", "In", "iN", "in", "ıN", "ın"],
      (w.toList ≠ [] ∧ ∀ c ∈ w.toList, isPlain c = true) ∧ Token.unglue w.toList = [w.toList] ∧
        sameWord w "NOT" = false := by decide
  obtain ⟨⟨some, plain⟩, whole, apart⟩ := each word (mem_of_isIn isIn)
  exact ⟨⟨some, plain⟩, whole, apart⟩

end Operator

namespace Token

def negated (field : List Char) (word : String) (list : List Char) : List Char :=
  field ++ ' ' :: ("NOT".toList ++ ' ' :: (word.toList ++ ' ' :: list))

section Negated

variable {field : List Char} (list : List Char) {word : String}
  (outside : Nesting.outside.afterText .roundOrSquare field = .outside)
  (isIn : Operator.ofToken? word = some .isIn)

include outside isIn

theorem parts_negated : parts (negated field word list) =
    parts field ++ "NOT".toList :: word.toList :: parts list := by
  have blank : isBlank ' ' = true := by decide
  have denial : IsPlainWord "NOT".toList := ⟨by decide, by decide⟩
  have denialWhole : unglue "NOT".toList = ["NOT".toList] := by decide
  obtain ⟨plain, whole, -⟩ := Operator.isPlainWord_of_isIn isIn
  simp only [negated, parts_append_blank blank outside,
    parts_append_of_piece (denial.piece.before (atBlank_cons blank _)), denialWhole,
    parts_cons_blank blank, parts_append_of_piece (plain.piece.before (atBlank_cons blank _)), whole,
    List.singleton_append]

theorem tokens_negated : tokens (negated field word list) =
    tokens field ++ (if sameWord word "IN" then ["NOT IN"] else ["NOT", word]) ++ tokens list := by
  have denial : sameWord "NOT" "NOT" = true := by decide
  obtain ⟨-, -, apart⟩ := Operator.isPlainWord_of_isIn isIn
  have second (rest : List String) : joinNotIn (word :: rest) = word :: joinNotIn rest := by
    cases rest with
    | nil => rfl
    | cons _ _ => simp only [joinNotIn, apart, Bool.false_and, Bool.false_eq_true, if_false]
  simp only [tokens_eq_joinNotIn, parts_negated list outside isIn, List.map_append, List.map_cons,
    String.ofList_toList]
  rw [joinNotIn_append (by decide)]
  cases same : sameWord word "IN" with
  | true => simp [joinNotIn, denial, same]
  | false => simp [joinNotIn, denial, same, second]

theorem tokens_negated_eq_iff :
    tokens (negated field word list) = tokens field ++ "NOT IN" :: tokens list ↔
      'ı' ∉ word.toList := by
  rw [← Operator.sameWord_of_isIn isIn, tokens_negated list outside isIn]
  cases sameWord word "IN" with
  | true => simp
  | false => simp

end Negated

/-- A token is an operator exactly if it is the symbol of one up to case, where the dotless i and
the long s count as letters of ASCII. -/
theorem operators_are_words (token : String) (op : Operator) (field list : List Char) :
    (Operator.ofToken? token = some op ↔
      sameLetters (token.toList.map plainLetter) op.symbol.toList = true) ∧
    (sameWord token op.symbol = true ↔
      Operator.ofToken? token = some op ∧ IsPlainlyLettered token.toList) ∧
    (Nesting.outside.afterText .roundOrSquare field = .outside →
      Operator.ofToken? token = some .isIn →
      (tokens (negated field token list) = tokens field ++ "NOT IN" :: tokens list ↔
        'ı' ∉ token.toList) ∧
      ('ı' ∈ token.toList →
        tokens (negated field token list) = tokens field ++ "NOT" :: token :: tokens list)) := by
  refine ⟨Operator.ofToken?_eq_some_iff, Operator.sameWord_symbol_iff, fun outside isIn => ?_⟩
  refine ⟨tokens_negated_eq_iff list outside isIn, fun dotless => ?_⟩
  have other := mt (Operator.sameWord_of_isIn isIn).mp (not_not.mpr dotless)
  simpa [other] using tokens_negated list outside isIn

theorem operators_are_words_of_not_in :
    Operator.ofToken? "Array_Contains" = some .arrayContains ∧
    Operator.ofToken? "in" = some .isIn ∧
    tokens "age NOT in (1, 2)".toList = ["age", "NOT IN", "(1, 2)"] := by
  obtain ⟨-, contains, -⟩ := operators_are_words "Array_Contains" .arrayContains [] []
  obtain ⟨-, -, joined⟩ := operators_are_words "in" .isIn "age".toList "(1, 2)".toList
  have isIn : Operator.ofToken? "in" = some .isIn := by decide
  exact ⟨(contains.mp (by decide)).1, isIn, (joined (by decide) isIn).1.mpr (by decide)⟩

theorem dotless_word_is_operator :
    Operator.ofToken? "ın" = some .isIn ∧ sameWord "ın" "IN" = false ∧
    tokens "f NOT ın ('a')".toList = ["f", "NOT", "ın", "('a')"] ∧
    ¬∀ token op, Operator.ofToken? token = some op → sameWord token op.symbol = true := by
  have isIn : Operator.ofToken? "ın" = some .isIn := by decide
  have other : sameWord "ın" "IN" = false := by decide
  refine ⟨isIn, other, by decide, fun same => ?_⟩
  exact absurd (same "ın" .isIn isIn) (by decide)

end Token

end DocQuery
