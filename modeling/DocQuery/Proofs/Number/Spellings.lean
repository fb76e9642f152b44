import DocQuery.Proofs.Number.Texts
import DocQuery.Proofs.Number.Values

/-!
# Which texts are numbers

A text is read as a number exactly if it spells a numeral whose value is below the overflow. The
number has the sign that is spelled, and no other number is nearer to the value.
-/

namespace DocQuery

open Text

namespace Numeral

theorem exists_signText (text : List Char) : ∃ s rest,
    text = signText s ++ rest ∧ sign text = (s.getD false, rest) := by
  unfold sign
  split
  · exact ⟨some true, _, rfl, rfl⟩
  · exact ⟨some false, _, rfl, rfl⟩
  · exact ⟨none, _, rfl, rfl⟩

theorem exists_exponent {text : List Char} {n : Int} (h : exponent? text = some n) :
    ∃ e : Option Exponent, (e.map Exponent.text).getD [] = text ∧
      (e.map Exponent.value).getD 0 = n := by
  cases text with
  | nil => exact ⟨none, rfl, Option.some.inj h⟩
  | cons mark text =>
    obtain ⟨s, digits, rfl, taken⟩ := exists_signText text
    unfold exponent? at h
    dsimp only at h
    by_cases isMark : mark = 'e' ∨ mark = 'E'
    · rw [if_pos isMark, taken] at h
      cases read : readDigits? digits with
      | none =>
        rw [read] at h
        cases h
      | some m =>
        rw [read] at h
        obtain ⟨some, all, rfl⟩ := readDigits?_eq_some_iff.mp read
        exact ⟨Option.some ⟨mark, s, digits, isMark, some, all⟩, rfl, Option.some.inj h⟩
    · rw [if_neg isMark] at h
      cases h

theorem exists_spelling (s : Option Bool) {rest : List Char} {d : Decimal}
    (h : unsigned? rest = some d) :
    ∃ spelling : Spelling, spelling.sign = s ∧ spelling.unsignedText = rest ∧
      spelling.value = d := by
  have digits (text : List Char) : ∀ c ∈ text.takeWhile Char.isDigit, c.isDigit = true :=
    fun c m => List.all_eq_true.mp List.all_takeWhile c m
  have parts (text : List Char) :
      text.takeWhile Char.isDigit ++ text.dropWhile Char.isDigit = text :=
    List.takeWhile_append_dropWhile
  have whole := parts rest
  unfold unsigned? at h
  dsimp only at h
  split at h
  · next behind point =>
    obtain ⟨some, h⟩ := Option.ite_none_left_eq_some.mp h
    obtain ⟨n, read, rfl⟩ := Option.map_eq_some_iff.mp h
    obtain ⟨e, written, rfl⟩ := exists_exponent read
    refine ⟨⟨s, rest.takeWhile Char.isDigit, Option.some (behind.takeWhile Char.isDigit), e, ?_,
      ?_⟩, rfl, ?_, rfl⟩
    · intro none
      exact some (List.append_eq_nil_iff.mp none)
    · intro c m
      rcases List.mem_append.mp m with m | m
      · exact digits rest c m
      · exact digits behind c m
    · calc rest.takeWhile Char.isDigit ++
            ('.' :: behind.takeWhile Char.isDigit ++ (e.map Exponent.text).getD [])
          = rest.takeWhile Char.isDigit ++ '.' :: behind := by
            rw [written, List.cons_append, parts behind]
        _ = rest := by rw [← point, whole]
  · obtain ⟨some, h⟩ := Option.ite_none_left_eq_some.mp h
    obtain ⟨n, read, rfl⟩ := Option.map_eq_some_iff.mp h
    obtain ⟨e, written, rfl⟩ := exists_exponent read
    refine ⟨⟨s, rest.takeWhile Char.isDigit, none, e, ?_, ?_⟩, rfl, ?_, ?_⟩
    · rw [Option.getD_none, List.append_nil]
      exact some
    · rw [Option.getD_none, List.append_nil]
      exact digits rest
    · show rest.takeWhile Char.isDigit ++ (e.map Exponent.text).getD [] = rest
      rw [written, whole]
    · simp [Spelling.value]

namespace Spelling

def toRat (s : Spelling) : ℚ := signed (s.sign.getD false) s.value.toRat

theorem abs_toRat (s : Spelling) : |s.toRat| = s.value.toRat := by
  unfold toRat signed
  split
  · rw [abs_neg, abs_of_nonneg s.value.toRat_nonneg]
  · exact abs_of_nonneg s.value.toRat_nonneg

/-- The texts that are read as numbers: those that spell a numeral below the overflow. -/
theorem read?_eq_some_iff {text : List Char} : (∃ x, read? text = Option.some x) ↔
    ∃ s : Spelling, s.text = text ∧ |s.toRat| < Binary64.overflow := by
  constructor
  · rintro ⟨x, h⟩
    obtain ⟨sign, rest, rfl, taken⟩ := exists_signText text
    unfold read? at h
    rw [taken] at h
    obtain ⟨d, unsigned, read⟩ := Option.bind_eq_some_iff.mp h
    obtain ⟨s, rfl, rfl, rfl⟩ := exists_spelling sign unsigned
    refine ⟨s, rfl, ?_⟩
    rw [abs_toRat]
    exact Decimal.toBinary64?_isSome_iff.mp (Option.isSome_of_mem read)
  · rintro ⟨s, rfl, finite⟩
    rw [abs_toRat] at finite
    rw [s.read?_text]
    exact Option.isSome_iff_exists.mp (Decimal.toBinary64?_isSome_iff.mpr finite)

theorem nearest_of_read? {s : Spelling} {x : Binary64} (h : read? s.text = Option.some x) :
    x.negative = s.sign.getD false ∧ ∀ y : Binary64, |x.toRat - s.toRat| ≤ |y.toRat - s.toRat| := by
  rw [s.read?_text] at h
  exact Decimal.toBinary64?_nearest h

end Spelling

end Numeral

end DocQuery
