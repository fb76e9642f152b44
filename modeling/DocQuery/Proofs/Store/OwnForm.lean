import DocQuery.Proofs.Number.Rounding
import DocQuery.Proofs.Query.Values
import DocQuery.Proofs.Query.WellFormed
import DocQuery.Proofs.Store.Comparability
import DocQuery.Proofs.Store.Order

/-!
# Literals in documents

A document holds a literal in the form of its kind: an instant as its text, a number as an integer
where it is a small one. The text of an instant is read as the instant again, wherever it stands,
and every literal is compared as equal with its own form.
-/

namespace DocQuery

namespace Literal

theorem ofBareText_eq_instant_iff {text : List Char} {t : Instant} :
    ofBareText text = .instant t ↔ Stamp.literal? text = some t := by
  refine ⟨fun stands => ?_, ofBareText_of_instant⟩
  unfold ofBareText at stands
  split at stands
  · next named => rw [named, Literal.instant.inj stands]
  · split at stands
    · cases stands
    · split_ifs at stands

theorem isShown_of_ofText {text : List Char} {t : Instant} (stands : ofText text = .instant t) :
    t.IsShown :=
  Instant.isShown_of_literal? (ofBareText_eq_instant_iff.mp stands)

end Literal

theorem Json.instant?_text {t : Instant} (h : t.IsShown) :
    (Json.string t.text).instant? = some t := by
  rw [Json.instant?, Instant.literal?_text h, Option.some_or]

/-- The text of an instant spells the day and time of the text that it was read from, and names the
same instant in a query and in a document. -/
theorem instants_survive_their_texts :
    (∀ (text : List Char) (t : Instant), Stamp.literal? text = some t →
      (∃ c, Stamp.Spells Stamp.CountsAs text c ∧
        Stamp.Spells (Stamp.IsNumber 2) t.text.toList c ∧ t.Shows c) ∧
      Stamp.literal? t.text.toList = some t ∧ (Json.string t.text).instant? = some t) ∧
    (∀ (text : List Char) (t : Instant), Literal.ofText text = .instant t →
      ∃ form, (Literal.ofText text).toJson = .string form ∧
        Literal.ofText form.toList = Literal.ofText text) ∧
    ∀ (text other : List Char) (c : CivilTime), c.IsValid →
      Stamp.Spells Stamp.CountsAs (Text.unquote text) c →
      Stamp.Spells Stamp.CountsAs (Text.unquote other) c →
      ∃ t : Instant, t.Shows c ∧ (Literal.ofText text).toJson = .string t.text ∧
        (Literal.ofText other).toJson = .string t.text := by
  refine ⟨?_, ?_, ?_⟩
  · intro text t named
    obtain ⟨c, spelled, -, shows⟩ := Stamp.literal?_eq_some_iff.mp named
    have shown := Instant.isShown_of_literal? named
    obtain rfl : t.civilTime = c := shown.shows_civilTime.2.unique shows
    exact ⟨⟨t.civilTime, spelled, shown.spells_text, shows⟩, Instant.literal?_text shown,
      Json.instant?_text shown⟩
  · intro text t stands
    rw [stands]
    exact ⟨t.text, rfl, Literal.ofText_text (Literal.isShown_of_ofText stands)⟩
  · intro text other c valid spelled alike
    have shows := Instant.shows_ofDay valid
    refine ⟨_, shows, ?_, ?_⟩
    · rw [Literal.ofText, Literal.ofBareText_of_instant
        (Stamp.literal?_of_spells spelled valid shows), Literal.toJson]
    · rw [Literal.ofText, Literal.ofBareText_of_instant
        (Stamp.literal?_of_spells alike valid shows), Literal.toJson]

def leapDay : CivilTime := ⟨⟨1904, 2, 29⟩, .midnight⟩

theorem instants_survive_their_texts_of_leapDay :
    let late := "1904-02-29T23:59:59.5".toList
    let t : Instant := ⟨-2077660801, 500000000⟩
    let numbers := "'02-29-1904'".toList
    let name := "FEBRUARY 29, 1904".toList
    Stamp.literal? late = some t ∧ t.text = "1904-02-29T23:59:59.500Z" ∧
    Stamp.literal? t.text.toList = some t ∧ (Json.string t.text).instant? = some t ∧
    Literal.ofText numbers = .instant ⟨-2077747200, 0⟩ ∧
    (∃ form, (Literal.ofText numbers).toJson = .string form ∧
      Literal.ofText form.toList = Literal.ofText numbers) ∧
    leapDay.IsValid ∧ ∃ form, (Literal.ofText numbers).toJson = .string form ∧
      (Literal.ofText name).toJson = .string form := by
  obtain ⟨texts, literals, shapes⟩ := instants_survive_their_texts
  have late : Stamp.literal? "1904-02-29T23:59:59.5".toList =
      some ⟨-2077660801, 500000000⟩ := by decide
  have stands : Literal.ofText "'02-29-1904'".toList = .instant ⟨-2077747200, 0⟩ := by rfl
  have valid : leapDay.IsValid :=
    ⟨⟨by decide, by decide⟩, by decide, by decide, by decide, by decide⟩
  have year : Stamp.IsNumber 4 1904 "1904".toList := ⟨rfl, by decide, rfl⟩
  have day : Stamp.IsNumber 2 29 "29".toList := ⟨rfl, by decide, rfl⟩
  have numbers : Stamp.Spells Stamp.CountsAs
      ("02".toList ++ '-' :: ("29".toList ++ '-' :: "1904".toList)) leapDay :=
    .monthFirst ⟨rfl, by decide, rfl⟩ day year
  have february : Stamp.monthNames[1]? = some "february" := rfl
  have name : Stamp.Spells Stamp.CountsAs
      ("FEBRUARY".toList ++ ' ' :: ("29".toList ++ ',' :: ' ' :: "1904".toList)) leapDay :=
    .named february (by decide) (.inr day) year
  obtain ⟨-, again, inDocument⟩ := texts _ _ late
  obtain ⟨t, -, first, second⟩ := shapes "'02-29-1904'".toList "FEBRUARY 29, 1904".toList leapDay valid
    numbers name
  exact ⟨late, by decide, again, inDocument, stands, literals _ _ stands, valid, t.text, first,
    second⟩

theorem Binary64.value_of_toInt? {x : Binary64} {i : Int} (h : x.toInt? = some i) :
    x.value = i * unitsPerOne := by
  unfold toInt? at h
  split at h
  · next whole =>
    have units : x.units / unitsPerOne * unitsPerOne = x.units :=
      Nat.div_mul_cancel (Nat.dvd_of_mod_eq_zero whole)
    obtain rfl := Option.some.inj h
    unfold value
    split_ifs
    · rw [Int.neg_mul, ← Nat.cast_mul, units]
    · rw [← Nat.cast_mul, units]
  · cases h

namespace Literal

theorem exists_numberToJson (x : Binary64) : ∃ n y, numberToJson x = .number n ∧
    n.toBinary64? = some y ∧ y.value = x.value := by
  unfold numberToJson
  cases whole : x.toInt? with
  | none => exact ⟨.float x, x, rfl, rfl, rfl⟩
  | some i =>
    dsimp only
    split
    · next small =>
      have word : Word.IsSigned i := by
        unfold Word.IsSigned Word.signedEnd
        unfold Binary64.exactEnd at small
        omega
      obtain ⟨y, nearest, value⟩ := Binary64.exists_ofInt? (.inl word)
      refine ⟨.integer i, y, rfl, nearest, ?_⟩
      rw [value, Binary64.rounded_of_le (Nat.le_of_lt small), Binary64.value_of_toInt? whole]
    · exact ⟨.float x, x, rfl, rfl, rfl⟩

/-- The form of a literal in documents is equal to the literal, if it is no list and no instant
that its text shows in part only. -/
theorem compareLiteral?_toJson {v : Literal} (scalar : v.isList = false)
    (shown : ∀ t, v = .instant t → t.IsShown) : v.toJson.compareLiteral? v = some .eq := by
  cases v with
  | string s =>
    rw [toJson, Json.compareLiteral?, (Json.compareString_eq_eq_iff s s).mpr rfl]
  | number x =>
    obtain ⟨n, y, form, number, value⟩ := exists_numberToJson x
    rw [toJson, form, Json.compareLiteral?, number, Option.map_some, Binary64.compare, value,
      compare_eq_iff_eq.mpr rfl]
  | boolean b => cases b <;> rfl
  | null => rfl
  | instant t =>
    have named := Json.instant?_text (shown t rfl)
    rw [toJson, Json.compareLiteral?, named, Option.map_some,
      (Instant.compare_eq_eq_iff t t).mpr rfl]
  | list items => cases scalar

end Literal

/-- A field that holds the document form of a literal is equal to that literal, neither less nor
greater, and a member of every list with the literal in it. -/
theorem literals_match_their_forms (text : List Char) {field : String} {d : Document}
    (there : d.get? field = some (Literal.ofText text).toJson) :
    let v := Literal.ofText text
    (∀ op ∈ [.equal, .lessOrEqual, .greaterOrEqual], (Condition.mk field op v).accepts d = true) ∧
    (∀ op ∈ [.notEqual, .less, .greater], (Condition.mk field op v).accepts d = false) ∧
    ∀ items, v ∈ items → (Condition.mk field .isIn (.list items)).accepts d = true ∧
      (Condition.mk field .notIn (.list items)).accepts d = false := by
  have same := Literal.compareLiteral?_toJson (Literal.isList_ofText text)
    fun _ => Literal.isShown_of_ofText
  have single {op : Operator} (comparison : op ∈ Operator.comparisons) :
      (Condition.mk field op (.ofText text)).accepts d = op.admits .eq := by
    rw [Condition.accepts, there, Option.any_some]
    exact Condition.holdsFor_of_comparable comparison same
  refine ⟨?_, ?_, ?_⟩
  · intro op m
    rw [single (by revert op; decide)]
    revert op
    decide
  · intro op m
    rw [single (by revert op; decide)]
    revert op
    decide
  · intro items m
    have found : items.any (Condition.equals (Literal.ofText text).toJson) = true :=
      List.any_eq_true.mpr ⟨_, m, by rw [Condition.equals, same]; rfl⟩
    rw [Condition.accepts, Condition.accepts, there, Option.any_some, Option.any_some]
    exact ⟨found, by simp [Condition.holdsFor, Literal.members, found]⟩

def leapNote : Document := ⟨"n1", .ofPairs [("day", .string "1904-02-29T00:00:00.000Z")]⟩

theorem literals_match_their_forms_of_leapNote :
    let v := Literal.ofText "'02-29-1904'".toList
    leapNote.get? "day" = some v.toJson ∧
    (Condition.mk "day" .lessOrEqual v).accepts leapNote = true ∧
    (Condition.mk "day" .less v).accepts leapNote = false ∧
    v ∈ [.null, v] ∧ (Condition.mk "day" .isIn (.list [.null, v])).accepts leapNote = true ∧
    (Condition.mk "day" .notIn (.list [.null, v])).accepts leapNote = false := by
  have there : leapNote.get? "day" = some (Literal.ofText "'02-29-1904'".toList).toJson := by rfl
  have member : Literal.ofText "'02-29-1904'".toList ∈
      [.null, Literal.ofText "'02-29-1904'".toList] := by simp
  obtain ⟨matching, failing, lists⟩ := literals_match_their_forms _ there
  obtain ⟨among, apart⟩ := lists _ member
  exact ⟨there, matching _ (by decide), failing _ (by decide), member, among, apart⟩

end DocQuery
