import DocQuery.Proofs.Number.Texts
import DocQuery.Query.Literal

/-!
# Numbers and their texts

The text of a finite number reads back as the number, be it written as an integer or not; only the
integer form has no negative zero.
-/

namespace DocQuery

open Text

namespace Numeral

def minus (negative : Bool) : List Char := if negative then ['-'] else []

def IsText (text : List Char) : Prop :=
  ∃ (negative : Bool) (p : Parts), text = minus negative ++ p.text

theorem Parts.isDigit_whole (p : Parts) : ∀ c ∈ p.whole, c.isDigit = true :=
  fun c m => p.digits c (List.mem_append_left _ m)

theorem Parts.text_eq_cons (p : Parts) :
    ∃ c rest, p.text = c :: rest ∧ c.isDigit = true := by
  cases h : p.whole with
  | nil => exact absurd h p.some
  | cons c whole =>
    refine ⟨c, whole ++ p.rest, by rw [Parts.text, h]; rfl, p.isDigit_whole c ?_⟩
    rw [h]
    exact List.mem_cons_self ..

def Parts.ofNat (n : Nat) : Parts where
  whole := Nat.toDigits 10 n
  fraction := none
  exponent := none
  some := Nat.toDigits_ne_nil
  digits := by
    rw [Option.getD_none, List.append_nil]
    exact isDigit_of_mem_toDigits

theorem Parts.text_ofNat (n : Nat) : (ofNat n).text = Nat.toDigits 10 n := by
  simp [ofNat, text, rest]

theorem Parts.value_ofNat (n : Nat) : (ofNat n).value = ⟨n, 0⟩ := by
  simp [ofNat, value, digitsValue_toDigits]

theorem isText_toDigits (n : Nat) : IsText (Nat.toDigits 10 n) :=
  ⟨false, .ofNat n, (Parts.text_ofNat n).symm⟩

theorem sign_of_digit {c : Char} (h : c.isDigit = true) (text : List Char) :
    sign (c :: text) = (false, c :: text) := by
  unfold sign
  split
  · next e =>
    rw [(List.cons.inj e).1] at h
    exact absurd h (by decide)
  · next e =>
    rw [(List.cons.inj e).1] at h
    exact absurd h (by decide)
  · rfl

theorem sign_minus (negative : Bool) (p : Parts) :
    sign (minus negative ++ p.text) = (negative, p.text) := by
  cases negative with
  | true => rfl
  | false =>
    obtain ⟨c, rest, text, digit⟩ := p.text_eq_cons
    rw [text]
    exact sign_of_digit digit rest

theorem IsText.unsigned? {text : List Char} (h : IsText text) :
    ∃ d, Numeral.unsigned? (sign text).2 = some d := by
  obtain ⟨negative, p, rfl⟩ := h
  rw [sign_minus]
  exact ⟨p.value, p.unsigned?_text⟩

theorem read?_minus (negative : Bool) (p : Parts) :
    read? (minus negative ++ p.text) = p.value.toBinary64? negative := by
  unfold read?
  rw [sign_minus]
  dsimp only
  rw [p.unsigned?_text, Option.bind_some]

end Numeral

namespace Binary64

theorem read?_text {x : Binary64} (some : x.units ≠ 0) :
    Numeral.IsText x.text.toList ∧ Numeral.read? x.text.toList = .some x := by
  have reads := Decimal.readsAs_shortest x.representable some
  obtain ⟨zeros, split⟩ := Decimal.toDigits_eq_significant (reads.digits_ne_zero some)
  obtain ⟨p, written, more, value⟩ :=
    Decimal.exists_parts_write (reads.digits_ne_zero some) numeralFormat split
  have text : x.text.toList = Numeral.minus x.negative ++ p.text := by
    unfold Binary64.text
    dsimp only
    rw [String.toList_ofList, if_neg some, written]
    rfl
  refine ⟨⟨x.negative, p, text⟩, ?_⟩
  generalize Decimal.shortest x.units = d at reads split value
  have digits : d.digits = digitsValue d.significant * 10 ^ zeros := by
    rw [← digitsValue_append_zeros, ← split, digitsValue_toDigits]
  have whole : d = ⟨digitsValue d.significant * 10 ^ zeros, d.exponent + zeros - zeros⟩ := by
    rw [← digits, Int.add_sub_cancel]
  rw [whole, Decimal.readsAs_shift, ← Decimal.readsAs_shift (k := more), ← value] at reads
  rw [text, Numeral.read?_minus, Decimal.toBinary64?_of_readsAs reads x.representable]

theorem toBinary64?_whole {x : Binary64} {n : Nat} (units : n * unitsPerOne = x.units) :
    (⟨n, 0⟩ : Decimal).toBinary64? x.negative = some x := by
  have reads : Decimal.ReadsAs ⟨n, 0⟩ x.units := by
    have above : Decimal.stepOver 0 = unitsPerOne := by
      rw [Decimal.stepOver, Int.toNat_zero, Nat.pow_zero, Nat.one_mul]
    have below : Decimal.stepUnder 0 = 1 := rfl
    rw [Decimal.ReadsAs, Decimal.inUnits_eq, above, below, units]
    exact x.representable.nearestUnits
  exact Decimal.toBinary64?_of_readsAs reads x.representable x.negative

theorem read?_integer {x : Binary64} {i : Int} (h : x.toInt? = some i)
    (zero : x.negative = true → x.units ≠ 0) :
    Numeral.IsText (toString i).toList ∧ Numeral.read? (toString i).toList = some x := by
  unfold toInt? at h
  split at h
  · next whole =>
    have value := Option.some.inj h
    have units : x.units / unitsPerOne * unitsPerOne = x.units :=
      Nat.div_mul_cancel (Nat.dvd_of_mod_eq_zero whole)
    generalize count : x.units / unitsPerOne = n at value units
    have text : (toString i).toList = Numeral.minus x.negative ++ Nat.toDigits 10 n := by
      rw [Int.toString_eq_repr, Int.repr_eq_if]
      cases sign : x.negative with
      | false =>
        rw [sign] at value
        have : i = n := value.symm
        subst this
        simp [Numeral.minus]
      | true =>
        rw [sign] at value
        have : i = -(n : Int) := value.symm
        have positive : n ≠ 0 := by
          rintro rfl
          exact zero sign (by rw [← units, Nat.zero_mul])
        subst this
        rw [if_neg (by omega)]
        simp [Numeral.minus]
    rw [← Numeral.Parts.text_ofNat n] at text
    refine ⟨⟨x.negative, .ofNat n, text⟩, ?_⟩
    rw [text, Numeral.read?_minus, Numeral.Parts.value_ofNat]
    exact toBinary64?_whole units
  · cases h

end Binary64

theorem Literal.read?_numberToJson {x : Binary64} (zero : x.negative = true → x.units ≠ 0) :
    Numeral.IsText (numberToJson x).compact.toList ∧
      Numeral.read? (numberToJson x).compact.toList = some x := by
  unfold numberToJson
  cases whole : x.toInt? with
  | some i =>
    dsimp only
    split
    · exact Binary64.read?_integer whole zero
    · next large =>
      apply Binary64.read?_text
      intro none
      have : i = 0 := by
        unfold Binary64.toInt? at whole
        rw [none] at whole
        simpa using whole.symm
      rw [this] at large
      exact large (by decide)
  | none =>
    apply Binary64.read?_text
    intro none
    unfold Binary64.toInt? at whole
    rw [none] at whole
    simp at whole

end DocQuery
