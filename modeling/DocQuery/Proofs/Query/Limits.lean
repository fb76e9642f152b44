import DocQuery.Proofs.Number.Spellings
import DocQuery.Proofs.Query.Conditions

/-!
# Limits

A limit is an integer, a sign or none and ASCII digits, and nothing else is taken for one. Of the
integers those are accepted that are not negative and fit a signed word: only the lower half of the
limits that an unsigned word can carry.
-/

namespace DocQuery

open Text

/-- An integer as it may be written: a sign or none, and ASCII digits. -/
structure IntegerText where
  sign : Option Bool
  digits : List Char
  some : digits ≠ []
  all : ∀ c ∈ digits, c.isDigit = true

namespace IntegerText

def text (s : IntegerText) : List Char := Numeral.signText s.sign ++ s.digits

def value (s : IntegerText) : Int :=
  if s.sign.getD false then -(digitsValue s.digits : Int) else digitsValue s.digits

theorem exists_of_toDigits (sign : Option Bool) (n : Nat) : ∃ s : IntegerText,
    s.text = Numeral.signText sign ++ Nat.toDigits 10 n ∧
      s.value = if sign.getD false then -(n : Int) else n := by
  refine ⟨⟨sign, Nat.toDigits 10 n, Nat.toDigits_ne_nil, isDigit_of_mem_toDigits⟩, rfl, ?_⟩
  unfold value
  dsimp only
  rw [digitsValue_toDigits]

theorem isLiteralChar_of_mem {s : IntegerText} : ∀ c ∈ s.text, isLiteralChar c = true := by
  have marks : ∀ c ∈ ['+', '-'], isLiteralChar c = true := by decide
  intro c m
  rcases List.mem_append.mp m with sign | digit
  · apply marks
    rcases h : s.sign with _ | _ | _
    all_goals
      rw [h] at sign
      simp_all [Numeral.signText]
  · have alphanumeric : c.isAlphanum = true := by simp [Char.isAlphanum, s.all c digit]
    simp [isLiteralChar, alphanumeric]

theorem isScalarText (s : IntegerText) : IsScalarText s.text := by
  obtain ⟨c, m⟩ := List.exists_mem_of_ne_nil s.digits s.some
  have inside : c ∈ s.text := List.mem_append_right _ m
  have other := unreserved_of_mem inside (not_isAlpha_of_isDigit (s.all c m))
  exact (IsLiteralText.word (List.ne_nil_of_mem inside) isLiteralChar_of_mem other).isScalarText

theorem isClause (s : IntegerText) : IsClause [s.text] := by
  have value := s.isScalarText.isValueText
  exact isClause_of_texts (List.cons_ne_nil _ _) (List.forall_mem_singleton.mpr value.settled)
    (List.forall_mem_singleton.mpr value.finished)

theorem trim_text (s : IntegerText) : trim s.text = s.text := by
  have whole := s.isScalarText.isItem.solid.trim (x := []) (y := []) nofun nofun
  rwa [List.nil_append, List.append_nil] at whole

theorem readSigned?_text (s : IntegerText) :
    readSigned? s.text = if Word.IsSigned s.value then .some s.value else none := by
  have sign : Numeral.sign s.text = (s.sign.getD false, s.digits) :=
    Numeral.sign_signText s.sign fun c m =>
      Numeral.no_sign_of_isDigit (s.all c (List.mem_of_mem_head? m))
  unfold readSigned?
  rw [sign]
  dsimp only
  rw [readDigits?_of_digits s.some s.all]
  rfl

end IntegerText

/-- A text is read as an integer when it writes one that fits a signed word. -/
theorem readSigned?_eq_some_iff {text : List Char} {i : Int} : readSigned? text = some i ↔
    ∃ s : IntegerText, s.text = text ∧ s.value = i ∧ Word.IsSigned i := by
  constructor
  · intro read
    obtain ⟨sign, rest, rfl, taken⟩ := Numeral.exists_signText text
    unfold readSigned? at read
    rw [taken] at read
    obtain ⟨n, digits, fits⟩ := Option.bind_eq_some_iff.mp read
    obtain ⟨some, all, rfl⟩ := readDigits?_eq_some_iff.mp digits
    let s : IntegerText := ⟨sign, rest, some, all⟩
    have fits : (if Word.IsSigned s.value then Option.some s.value else none) = .some i := fits
    obtain ⟨signed, same⟩ := Option.ite_none_right_eq_some.mp fits
    obtain rfl := Option.some.inj same
    exact ⟨s, rfl, rfl, signed⟩
  · rintro ⟨s, rfl, rfl, fits⟩
    rw [s.readSigned?_text, if_pos fits]

theorem limitOfText_eq_ok_iff {text : List Char} {n : Nat} : limitOfText text = .ok n ↔
    ∃ s : IntegerText, s.text = trim text ∧ s.value = n ∧ (n : Int) < Word.signedEnd := by
  have signed : Word.IsSigned (n : Int) ↔ (n : Int) < Word.signedEnd :=
    and_iff_right (by unfold Word.signedEnd; omega)
  have read : limitOfText text = .ok n ↔ readSigned? (trim text) = some (n : Int) := by
    unfold limitOfText
    cases readSigned? (trim text) with
    | none => simp
    | some i =>
      dsimp only
      split
      · next negative => simp; omega
      · next positive => simp; omega
  rw [read, readSigned?_eq_some_iff, signed]

theorem limitOfText_text (s : IntegerText) : limitOfText s.text =
    if Word.IsSigned s.value then
      if s.value < 0 then .error (.negative s.value) else .ok s.value.toNat
    else .error (.noInteger (String.ofList s.text)) := by
  unfold limitOfText
  rw [s.trim_text, s.readSigned?_text]
  by_cases signed : Word.IsSigned s.value
  · simp only [if_pos signed]
  · simp only [if_neg signed]

theorem limitOfText_blank (text : List Char) : limitOfText (' ' :: text) = limitOfText text := by
  have trimmed : trim (' ' :: text) = trim text := rfl
  unfold limitOfText
  rw [trimmed]

def Plan.limited (path : String) (limit : Nat) : Plan where
  select := [.wildcard]
  source := .collection path
  filter := none
  order := none
  limit := some limit

def limitQuery (path text : String) : String :=
  "SELECT * FROM " ++ path ++ " LIMIT " ++ text

theorem toList_limitQuery (path text : String) : (limitQuery path text).toList =
    queryOf [['*']] [path.toList] none none (some [text.toList]) := by
  have front : "SELECT * FROM ".toList =
      Clause.select.text ++ ' ' :: '*' :: ' ' :: (Clause.source.text ++ [' ']) := rfl
  have keyword : " LIMIT ".toList = ' ' :: (Clause.limit.text ++ [' ']) := rfl
  unfold limitQuery
  simp only [String.toList_append, front, keyword]
  simp [queryOf, tailText, opened]

theorem Plan.parse_limitQuery {path : String} (word : IsSourceWord path.toList) {text : String}
    (clause : IsClause [text.toList]) : Plan.parse (limitQuery path text) =
      ((limitOfText text.toList).mapError ParseError.limit).map (Plan.limited path) := by
  have source : Source.IsWritable (.collection path) := word
  have selects : ∀ text ∈ [['*']], Settled text :=
    List.forall_mem_singleton.mpr (SelectItem.AreWritable.settled (.inr (.inr rfl)))
  have sources : IsClause [path.toList] := Source.isClause_pieces source
  have absent : ∀ texts ∈ (none : Option (List (List Char))), IsClause texts := nofun
  have limits : ∀ texts ∈ some [text.toList], IsClause texts := by
    intro texts m
    cases m
    exact clause
  have columns : SelectItem.listOfText (ended [['*']] true) = .ok [.wildcard] := by rfl
  have named : Source.ofText (ended [path.toList] true) = .ok (.collection path) :=
    Source.ofText_ended source true
  have limit : limitOfText (spaced [text.toList]) = limitOfText text.toList := by
    rw [spaced_cons, spaced_nil, List.append_nil, limitOfText_blank]
  have read : ofClauses (clausesOf [['*']] [path.toList] none none (some [text.toList])) =
      ((limitOfText text.toList).mapError ParseError.limit).map (Plan.limited path) := by
    unfold ofClauses
    show (SelectItem.listOfText (ended [['*']] true)).mapError _ >>= _ = _
    rw [columns]
    show (Source.ofText (ended [path.toList] true)).mapError _ >>= _ = _
    rw [named]
    show (((limitOfText (spaced [text.toList])).mapError ParseError.limit).map some).bind _ = _
    rw [limit]
    cases limitOfText text.toList <;> rfl
  rw [parse_queryOf selects sources absent absent limits (toList_limitQuery path text), read]
  cases limitOfText text.toList <;> rfl

section Queries

variable {path : String} (word : IsSourceWord path.toList)

include word

theorem Plan.parse_integer (s : IntegerText) :
    Plan.parse (limitQuery path (String.ofList s.text)) =
      if Word.IsSigned s.value then
        if s.value < 0 then .error (.limit (.negative s.value))
        else .ok (.limited path s.value.toNat)
      else .error (.limit (.noInteger (String.ofList s.text))) := by
  have clause : IsClause [(String.ofList s.text).toList] := by
    rw [String.toList_ofList]
    exact s.isClause
  rw [parse_limitQuery word clause, String.toList_ofList, limitOfText_text]
  by_cases signed : Word.IsSigned s.value
  · by_cases negative : s.value < 0
    · simp only [if_pos signed, if_pos negative, Except.mapError, Except.map]
    · simp only [if_pos signed, if_neg negative, Except.mapError, Except.map]
  · simp only [if_neg signed, Except.mapError, Except.map]

theorem Plan.parse_number (n : Nat) : Plan.parse (limitQuery path (toString n)) =
    if (n : Int) < Word.signedEnd then .ok (.limited path n)
    else .error (.limit (.noInteger (toString n))) := by
  obtain ⟨s, written, value⟩ := IntegerText.exists_of_toDigits none n
  have text : String.ofList s.text = toString n := by
    rw [← String.toList_inj, written]
    simp [Numeral.signText]
  have value : s.value = n := value
  have signed : Word.IsSigned (n : Int) ↔ (n : Int) < Word.signedEnd :=
    and_iff_right (by unfold Word.signedEnd; omega)
  have read := parse_integer word s
  have positive : ¬(n : Int) < 0 := by omega
  rw [text, value, if_neg positive, Int.toNat_natCast] at read
  simpa only [signed] using read

theorem Plan.parse_negative {n : Nat} (positive : 0 < n) :
    ∃ e, Plan.parse (limitQuery path ("-" ++ toString n)) = .error (.limit e) := by
  obtain ⟨s, written, value⟩ := IntegerText.exists_of_toDigits (some true) n
  have text : String.ofList s.text = "-" ++ toString n := by
    have sign : "-".toList = ['-'] := rfl
    rw [← String.toList_inj, written]
    simp [Numeral.signText, sign]
  have value : s.value = -n := value
  have read := parse_integer word s
  have negative : -(n : Int) < 0 := by omega
  rw [text, value, if_pos negative] at read
  split at read
  · exact ⟨_, read⟩
  · exact ⟨_, read⟩

end Queries

theorem Plan.limit_of_parse {query : String} {texts : ClauseTexts} {text : List Char} {plan : Plan}
    (cut : clauseTexts (queryText query.toList) = .ok texts) (limit : texts.limit = some text)
    (parsed : Plan.parse query = .ok plan) :
    ∃ s : IntegerText, s.text = trim text ∧ 0 ≤ s.value ∧ s.value < Word.signedEnd ∧
      plan.limit = some s.value.toNat := by
  obtain ⟨-, texts', shown, cut', read, -, rfl⟩ := (parse_eq_ok_iff rfl).mp parsed
  obtain rfl : texts' = texts := Except.ok.inj (cut'.symm.trans cut)
  have given := read.limit
  rw [limit, Option.mapM_some] at given
  obtain ⟨n, read, same⟩ := exists_of_bind_eq_ok given
  obtain ⟨s, written, value, fits⟩ := limitOfText_eq_ok_iff.mp (eq_ok_of_mapError_eq_ok read)
  refine ⟨s, written, by omega, by omega, ?_⟩
  rw [value, Int.toNat_natCast]
  exact (Except.ok.inj same).symm

/-- A number is accepted as a limit exactly when it fits a signed word; a larger one is refused as
if it were no integer. -/
theorem limits_are_signed_words {path : String} (word : IsSourceWord path.toList) :
    (∀ n : Nat, (∃ plan, Plan.parse (limitQuery path (toString n)) = .ok plan ∧
      plan.limit = some n) ↔ (n : Int) < Word.signedEnd) ∧
    (∀ n : Nat, Word.signedEnd ≤ n → Plan.parse (limitQuery path (toString n)) =
      .error (.limit (.noInteger (toString n)))) ∧
    (∀ n : Nat, 0 < n → ∃ e, Plan.parse (limitQuery path ("-" ++ toString n)) =
      .error (.limit e)) ∧
    ∀ query texts text plan, clauseTexts (queryText query.toList) = .ok texts →
      texts.limit = some text → Plan.parse query = .ok plan →
      ∃ s : IntegerText, s.text = trim text ∧ 0 ≤ s.value ∧ s.value < Word.signedEnd ∧
        plan.limit = some s.value.toNat := by
  refine ⟨?_, ?_, fun n positive => Plan.parse_negative word positive, ?_⟩
  · intro n
    rw [Plan.parse_number word]
    constructor
    · rintro ⟨plan, parsed, -⟩
      by_contra large
      rw [if_neg large] at parsed
      cases parsed
    · intro small
      rw [if_pos small]
      exact ⟨_, rfl, rfl⟩
  · intro n large
    rw [Plan.parse_number word, if_neg (Int.not_lt.mpr large)]
  · intro query texts text plan cut limit parsed
    exact Plan.limit_of_parse cut limit parsed

theorem limits_are_signed_words_of_ends :
    IsSourceWord "c".toList ∧
    (∃ plan, Plan.parse "SELECT * FROM c LIMIT 9223372036854775807" = .ok plan ∧
      plan.limit = some 0x7fffffffffffffff) ∧
    Plan.parse "SELECT * FROM c LIMIT 9223372036854775808" =
      .error (.limit (.noInteger "9223372036854775808")) ∧
    (∃ e, Plan.parse "SELECT * FROM c LIMIT -1" = .error (.limit e)) ∧
    clauseTexts (queryText "SELECT * FROM c LIMIT +007".toList) =
      .ok ⟨" * ".toList, " c ".toList, none, none, some " +007".toList⟩ ∧
    Plan.parse "SELECT * FROM c LIMIT +007" = .ok (.limited "c" 7) ∧
    ∃ s : IntegerText, s.text = "+007".toList ∧ 0 ≤ s.value ∧ s.value < Word.signedEnd ∧
      (Plan.limited "c" 7).limit = some s.value.toNat := by
  have word : IsSourceWord "c".toList := ⟨by decide, by decide, by decide⟩
  have cut : clauseTexts (queryText "SELECT * FROM c LIMIT +007".toList) =
      .ok ⟨" * ".toList, " c ".toList, none, none, some " +007".toList⟩ := by rfl
  have parsed : Plan.parse "SELECT * FROM c LIMIT +007" = .ok (.limited "c" 7) := by rfl
  obtain ⟨numbers, larger, negative, accepted⟩ := limits_are_signed_words word
  exact ⟨word, (numbers 0x7fffffffffffffff).mpr (by decide), larger 0x8000000000000000 (by decide),
    negative 1 (by decide), cut, parsed, accepted _ _ _ _ cut rfl parsed⟩

theorem upper_half_is_refused :
    Plan.parse "SELECT * FROM c LIMIT 9223372036854775808" =
      .error (.limit (.noInteger "9223372036854775808")) ∧
    ¬∀ n : Nat, n < Word.unsignedEnd →
      ∃ plan, Plan.parse (limitQuery "c" (toString n)) = .ok plan ∧ plan.limit = some n := by
  have refused : Plan.parse "SELECT * FROM c LIMIT 9223372036854775808" =
      .error (.limit (.noInteger "9223372036854775808")) := by rfl
  refine ⟨refused, ?_⟩
  intro accepted
  obtain ⟨plan, parsed, -⟩ := accepted 0x8000000000000000 (by decide)
  have other : Plan.parse (limitQuery "c" (toString 0x8000000000000000)) =
      .error (.limit (.noInteger "9223372036854775808")) := refused
  rw [other] at parsed
  cases parsed

end DocQuery
