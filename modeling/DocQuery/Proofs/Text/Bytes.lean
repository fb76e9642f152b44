import DocQuery.Proofs.Text.Letters
import DocQuery.Proofs.Text.Scanning

/-!
# Bytes of a text

Positions in a text count the bytes of its encoding. A character below 128 is one byte, every
other is a run of bytes from 128 on. Blanks, quotation marks and letters are below 128, so a scan
of the bytes meets each of them where a scan of the characters does and passes over the bytes of
all other characters.
-/

namespace DocQuery.Text

def utf8 (text : List Char) : List UInt8 := text.flatMap String.utf8EncodeChar

@[simp] theorem utf8_nil : utf8 [] = [] := rfl

theorem utf8_cons (c : Char) (text : List Char) :
    utf8 (c :: text) = String.utf8EncodeChar c ++ utf8 text := rfl

@[simp] theorem utf8_append (x y : List Char) : utf8 (x ++ y) = utf8 x ++ utf8 y :=
  List.flatMap_append

theorem utf8EncodeChar_ne_nil (c : Char) : String.utf8EncodeChar c ≠ [] := by
  intro none
  have size := String.length_utf8EncodeChar c
  have positive := c.utf8Size_pos
  rw [none, List.length_nil] at size
  omega

theorem length_utf8_append (x y : List Char) :
    (utf8 (x ++ y)).length = (utf8 x).length + (utf8 y).length := by
  rw [utf8_append, List.length_append]

theorem length_utf8_cons (c : Char) (text : List Char) :
    (utf8 (c :: text)).length = c.utf8Size + (utf8 text).length := by
  rw [utf8_cons, List.length_append, String.length_utf8EncodeChar]

theorem utf8EncodeChar_of_ascii {c : Char} (ascii : c.toNat < 128) :
    String.utf8EncodeChar c = [c.toUInt8] := by
  have low : c.val ≤ 127 := by
    rw [UInt32.le_iff_toNat_le]
    exact Nat.le_of_lt_succ ascii
  exact String.utf8EncodeChar_eq_singleton (Char.utf8Size_eq_one_iff.mpr low)

theorem toNat_toUInt8 {c : Char} (ascii : c.toNat < 128) : c.toUInt8.toNat = c.toNat := by
  show c.val.toUInt8.toNat = c.val.toNat
  have low : c.val.toNat < 128 := ascii
  rw [UInt32.toNat_toUInt8]
  omega

theorem utf8_cons_of_ascii {c : Char} (ascii : c.toNat < 128) (text : List Char) :
    utf8 (c :: text) = c.toUInt8 :: utf8 text := by
  rw [utf8_cons, utf8EncodeChar_of_ascii ascii]
  rfl

theorem length_utf8_of_ascii {text : List Char} (ascii : ∀ c ∈ text, c.toNat < 128) :
    (utf8 text).length = text.length := by
  induction text with
  | nil => rfl
  | cons c text ih =>
    rw [utf8_cons_of_ascii (ascii c (List.mem_cons_self ..)), List.length_cons, List.length_cons,
      ih fun d m => ascii d (List.mem_cons_of_mem _ m)]

theorem wide_of_mem_utf8EncodeChar {c : Char} (wide : 128 ≤ c.toNat) {b : UInt8}
    (m : b ∈ String.utf8EncodeChar c) : 128 ≤ b.toNat := by
  have long : ¬c.val.toNat ≤ 127 := Nat.not_le.mpr wide
  simp only [String.utf8EncodeChar, if_neg long] at m
  split at m
  · simp only [List.mem_cons, List.not_mem_nil, or_false] at m
    rcases m with rfl | rfl <;> rw [UInt8.toNat_ofNat'] <;> omega
  · split at m
    · simp only [List.mem_cons, List.not_mem_nil, or_false] at m
      rcases m with rfl | rfl | rfl <;> rw [UInt8.toNat_ofNat'] <;> omega
    · simp only [List.mem_cons, List.not_mem_nil, or_false] at m
      rcases m with rfl | rfl | rfl | rfl <;> rw [UInt8.toNat_ofNat'] <;> omega

/-- A character is one byte below 128 or begins with a byte from 128 on and has only such bytes. -/
theorem utf8EncodeChar_cases (c : Char) :
    (c.toNat < 128 ∧ String.utf8EncodeChar c = [c.toUInt8]) ∨
      128 ≤ c.toNat ∧ ∃ b bytes, String.utf8EncodeChar c = b :: bytes ∧
        ∀ x ∈ b :: bytes, 128 ≤ x.toNat := by
  by_cases ascii : c.toNat < 128
  · exact .inl ⟨ascii, utf8EncodeChar_of_ascii ascii⟩
  · have wide : 128 ≤ c.toNat := Nat.le_of_not_lt ascii
    obtain ⟨b, bytes, e⟩ := List.exists_cons_of_ne_nil (utf8EncodeChar_ne_nil c)
    exact .inr ⟨wide, b, bytes, e, fun x m => wide_of_mem_utf8EncodeChar wide (by rwa [e])⟩

def isGapByte (b : UInt8) : Bool :=
  b == 0x20 || b == 0x09 || b == 0x0A || b == 0x0C || b == 0x0D

def isQuoteByte (b : UInt8) : Bool :=
  b == 0x27 || b == 0x22

def lowerByte (b : UInt8) : UInt8 :=
  if 65 ≤ b.toNat ∧ b.toNat ≤ 90 then b + 32 else b

def sameBytes (x y : List UInt8) : Bool :=
  x.map lowerByte == y.map lowerByte

def byteQuoteAfter : Option UInt8 → UInt8 → Option UInt8
  | some q, b => if b = q then none else some q
  | none, b => if isQuoteByte b then some b else none

theorem toUInt8_inj {c d : Char} (hc : c.toNat < 128) (hd : d.toNat < 128) :
    c.toUInt8 = d.toUInt8 ↔ c = d := by
  rw [← UInt8.toNat_inj, toNat_toUInt8 hc, toNat_toUInt8 hd, Char.toNat_inj]

theorem beq_toUInt8 {c d : Char} (hc : c.toNat < 128) (hd : d.toNat < 128) :
    (c.toUInt8 == d.toUInt8) = (c == d) := by
  rw [Bool.eq_iff_iff, beq_iff_eq, beq_iff_eq, toUInt8_inj hc hd]

theorem ascii_of_isGap {c : Char} (gap : isGap c = true) : c.toNat < 128 := by
  simp only [isGap, Bool.or_eq_true, beq_iff_eq] at gap
  rcases gap with (((rfl | rfl) | rfl) | rfl) | rfl <;> decide

theorem ascii_of_isQuote {c : Char} (quote : isQuote c = true) : c.toNat < 128 := by
  simp only [isQuote, Bool.or_eq_true, beq_iff_eq] at quote
  rcases quote with rfl | rfl <;> decide

theorem ascii_of_isAlpha {c : Char} (letter : c.isAlpha = true) : c.toNat < 128 := by
  rw [isAlpha_iff] at letter
  omega

section Ascii

variable {c : Char} (ascii : c.toNat < 128)

include ascii

theorem isGapByte_toUInt8 : isGapByte c.toUInt8 = isGap c := by
  unfold isGap
  rw [← beq_toUInt8 ascii (d := ' ') (by decide), ← beq_toUInt8 ascii (d := '\t') (by decide),
    ← beq_toUInt8 ascii (d := '\n') (by decide), ← beq_toUInt8 ascii (d := '\x0c') (by decide),
    ← beq_toUInt8 ascii (d := '\r') (by decide)]
  rfl

theorem isQuoteByte_toUInt8 : isQuoteByte c.toUInt8 = isQuote c := by
  unfold isQuote
  rw [← beq_toUInt8 ascii (d := '\'') (by decide), ← beq_toUInt8 ascii (d := '"') (by decide)]
  rfl

theorem toNat_lowerByte_toUInt8 : (lowerByte c.toUInt8).toNat = c.toLower.toNat := by
  rw [lowerByte, toNat_toUInt8 ascii, toNat_toLower]
  split
  · rw [UInt8.toNat_add, toNat_toUInt8 ascii]
    simp only [UInt8.reduceToNat]
    omega
  · exact toNat_toUInt8 ascii

theorem byteQuoteAfter_toUInt8 {mark : Option Char} (quote : ∀ q ∈ mark, isQuote q = true) :
    byteQuoteAfter (mark.map Char.toUInt8) c.toUInt8 = (quoteAfter mark c).map Char.toUInt8 := by
  cases mark with
  | none =>
    rw [Option.map_none, byteQuoteAfter, quoteAfter, isQuoteByte_toUInt8 ascii]
    split <;> rfl
  | some q =>
    rw [Option.map_some, byteQuoteAfter, quoteAfter]
    simp only [toUInt8_inj ascii (ascii_of_isQuote (quote q rfl))]
    split <;> rfl

end Ascii

theorem not_isGap_of_wide {c : Char} (wide : 128 ≤ c.toNat) : isGap c = false :=
  eq_false_of_ne_true fun gap => Nat.not_lt.mpr wide (ascii_of_isGap gap)

theorem not_isAlpha_of_wide {c : Char} (wide : 128 ≤ c.toNat) : c.isAlpha = false :=
  eq_false_of_ne_true fun letter => Nat.not_lt.mpr wide (ascii_of_isAlpha letter)

theorem quoteAfter_of_wide {mark : Option Char} (quote : ∀ q ∈ mark, isQuote q = true) {c : Char}
    (wide : 128 ≤ c.toNat) : quoteAfter mark c = mark := by
  have plain : isQuote c = false :=
    eq_false_of_ne_true fun h => Nat.not_lt.mpr wide (ascii_of_isQuote h)
  cases mark with
  | none => simp [quoteAfter, plain]
  | some q =>
    apply quoteAfter_some_ne
    rintro rfl
    rw [quote c rfl] at plain
    cases plain

section Wide

variable {b : UInt8} (wide : 128 ≤ b.toNat)

include wide

theorem toUInt8_ne_of_wide {c : Char} (ascii : c.toNat < 128) : b ≠ c.toUInt8 := by
  rintro rfl
  rw [toNat_toUInt8 ascii] at wide
  omega

theorem not_isGapByte_of_wide : isGapByte b = false := by
  simp only [isGapByte, Bool.or_eq_false_iff, beq_eq_false_iff_ne]
  refine ⟨⟨⟨⟨?_, ?_⟩, ?_⟩, ?_⟩, ?_⟩ <;> rintro rfl <;> exact absurd wide (by decide)

theorem not_isQuoteByte_of_wide : isQuoteByte b = false := by
  simp only [isQuoteByte, Bool.or_eq_false_iff, beq_eq_false_iff_ne]
  refine ⟨?_, ?_⟩ <;> rintro rfl <;> exact absurd wide (by decide)

theorem lowerByte_of_wide : lowerByte b = b := by
  rw [lowerByte, if_neg (by omega)]

theorem byteQuoteAfter_of_wide {mark : Option Char} (quote : ∀ q ∈ mark, isQuote q = true) :
    byteQuoteAfter (mark.map Char.toUInt8) b = mark.map Char.toUInt8 := by
  cases mark with
  | none => simp [byteQuoteAfter, not_isQuoteByte_of_wide wide]
  | some q =>
    have other := toUInt8_ne_of_wide wide (ascii_of_isQuote (quote q rfl))
    simp [byteQuoteAfter, other]

end Wide

theorem takeWhile_utf8 (text : List Char) :
    (utf8 text).takeWhile isGapByte = utf8 (text.takeWhile isGap) := by
  induction text with
  | nil => rfl
  | cons c text ih =>
    rw [utf8_cons]
    rcases utf8EncodeChar_cases c with ⟨ascii, e⟩ | ⟨wide, b, bytes, e, all⟩
    · have same := isGapByte_toUInt8 ascii
      rw [e, List.singleton_append]
      by_cases gap : isGap c = true
      · rw [List.takeWhile_cons_of_pos (same.trans gap), ih, List.takeWhile_cons_of_pos gap,
          utf8_cons_of_ascii ascii]
      · rw [List.takeWhile_cons_of_neg (by rwa [same]), List.takeWhile_cons_of_neg gap, utf8_nil]
    · have other := not_isGapByte_of_wide (all b (List.mem_cons_self ..))
      rw [e, List.cons_append, List.takeWhile_cons_of_neg (by simp [other]),
        List.takeWhile_cons_of_neg (by simp [not_isGap_of_wide wide]), utf8_nil]

theorem head?_utf8_map_isGapByte (text : List Char) :
    (utf8 text).head?.map isGapByte = text.head?.map isGap := by
  cases text with
  | nil => rfl
  | cons c text =>
    rw [utf8_cons]
    rcases utf8EncodeChar_cases c with ⟨ascii, e⟩ | ⟨wide, b, bytes, e, all⟩
    · rw [e]
      exact congrArg some (isGapByte_toUInt8 ascii)
    · have other := not_isGapByte_of_wide (all b (List.mem_cons_self ..))
      rw [e]
      exact congrArg some (other.trans (not_isGap_of_wide wide).symm)

theorem getLast?_utf8_map_isGapByte (text : List Char) :
    (utf8 text).getLast?.map isGapByte = text.getLast?.map isGap := by
  rcases List.eq_nil_or_concat text with rfl | ⟨front, c, rfl⟩
  · rfl
  · have last : utf8 [c] = String.utf8EncodeChar c := List.append_nil _
    rw [List.concat_eq_append, utf8_append, last, List.getLast?_append, List.getLast?_concat]
    rcases utf8EncodeChar_cases c with ⟨ascii, e⟩ | ⟨wide, b, bytes, e, all⟩
    · rw [e]
      exact congrArg some (isGapByte_toUInt8 ascii)
    · have other := not_isGapByte_of_wide (all _ (List.getLast_mem (List.cons_ne_nil b bytes)))
      rw [e, List.getLast?_eq_some_getLast (List.cons_ne_nil b bytes)]
      exact congrArg some (other.trans (not_isGap_of_wide wide).symm)

theorem sameBytes_cons (a b : UInt8) (x y : List UInt8) :
    sameBytes (a :: x) (b :: y) = (lowerByte a == lowerByte b && sameBytes x y) := rfl

theorem lowerByte_beq {c w : Char} (hc : c.toNat < 128) (hw : w.toNat < 128) :
    (lowerByte c.toUInt8 == lowerByte w.toUInt8) = decide (c.toLower = w.toLower) := by
  rw [Bool.eq_iff_iff, beq_iff_eq, decide_eq_true_iff, ← UInt8.toNat_inj,
    toNat_lowerByte_toUInt8 hc, toNat_lowerByte_toUInt8 hw, Char.toNat_inj]

theorem lowerByte_ne_of_wide {b : UInt8} (wide : 128 ≤ b.toNat) {w : Char} (hw : w.toNat < 128) :
    lowerByte b ≠ lowerByte w.toUInt8 := by
  intro same
  have codes := congrArg UInt8.toNat same
  rw [lowerByte_of_wide wide, toNat_lowerByte_toUInt8 hw, toNat_toLower] at codes
  split at codes <;> omega

/-- The bytes of a text begin with those of a word where the text begins with the word. -/
theorem sameBytes_take {word : List Char} (letters : ∀ c ∈ word, c.isAlpha = true)
    (text : List Char) :
    sameBytes ((utf8 text).take word.length) (utf8 word) = (dropWord? word text).isSome := by
  induction word generalizing text with
  | nil => rfl
  | cons w word ih =>
    have letter := letters w (List.mem_cons_self ..)
    have asciiWord := ascii_of_isAlpha letter
    rw [utf8_cons_of_ascii asciiWord, List.length_cons]
    cases text with
    | nil => rfl
    | cons c text =>
      rw [dropWord?, utf8_cons]
      rcases utf8EncodeChar_cases c with ⟨ascii, e⟩ | ⟨wide, b, bytes, e, all⟩
      · rw [e, List.singleton_append, List.take_succ_cons, sameBytes_cons,
          lowerByte_beq ascii asciiWord, ih fun d m => letters d (List.mem_cons_of_mem _ m)]
        by_cases same : c.toLower = w.toLower <;> simp [same]
      · have other : c.toLower ≠ w.toLower := by
          intro same
          have letter' := isAlpha_of_toLower_eq same letter
          rw [not_isAlpha_of_wide wide] at letter'
          cases letter'
        have differ := lowerByte_ne_of_wide (all b (List.mem_cons_self ..)) asciiWord
        rw [e, List.cons_append, List.take_succ_cons, sameBytes_cons, if_neg other,
          beq_eq_false_iff_ne.mpr differ]
        rfl

structure Span where
  start : Nat
  stop : Nat
deriving DecidableEq, Repr

/-- Cuts a text at a byte position where a character begins or the text ends. -/
def splitBytes? : Nat → List Char → Option (List Char × List Char)
  | 0, text => some ([], text)
  | _ + 1, [] => none
  | n + 1, c :: text =>
    if c.utf8Size ≤ n + 1 then
      (splitBytes? (n + 1 - c.utf8Size) text).map fun p => (c :: p.1, p.2)
    else none

/-- The part of a text between two byte positions. There is none when one of them is out of range
or inside a character, or when they are not in order. -/
def slice? (text : List Char) (span : Span) : Option (List Char) :=
  (splitBytes? span.stop text).bind fun p => (splitBytes? span.start p.1).map Prod.snd

theorem splitBytes?_append (x y : List Char) :
    splitBytes? (utf8 x).length (x ++ y) = some (x, y) := by
  induction x with
  | nil => cases y <;> rfl
  | cons c x ih =>
    have fits := length_utf8_cons c x
    have positive := c.utf8Size_pos
    obtain ⟨n, size⟩ : ∃ n, (utf8 (c :: x)).length = n + 1 :=
      Nat.exists_eq_succ_of_ne_zero (by omega)
    have rest : n + 1 - c.utf8Size = (utf8 x).length := by omega
    rw [List.cons_append, size, splitBytes?, if_pos (by omega), rest, ih]
    rfl

theorem parts_of_splitBytes? {position : Nat} {text x y : List Char}
    (h : splitBytes? position text = some (x, y)) :
    text = x ++ y ∧ position = (utf8 x).length := by
  induction position, text using splitBytes?.induct generalizing x with
  | case1 text =>
    rw [splitBytes?] at h
    obtain ⟨rfl, rfl⟩ := Prod.mk.inj (Option.some.inj h)
    exact ⟨rfl, rfl⟩
  | case2 n => cases h
  | case3 n c text fits ih =>
    rw [splitBytes?, if_pos fits] at h
    obtain ⟨⟨front, rest⟩, cut, e⟩ := Option.map_eq_some_iff.mp h
    obtain ⟨rfl, rfl⟩ := Prod.mk.inj e
    obtain ⟨rfl, left⟩ := ih cut
    refine ⟨rfl, ?_⟩
    dsimp only
    rw [length_utf8_cons]
    omega
  | case4 n c text long =>
    rw [splitBytes?, if_neg long] at h
    cases h

theorem slice?_eq_some_iff {text piece : List Char} {span : Span} :
    slice? text span = some piece ↔ ∃ front back, text = front ++ (piece ++ back) ∧
      span = ⟨(utf8 front).length, (utf8 (front ++ piece)).length⟩ := by
  obtain ⟨start, stop⟩ := span
  unfold slice?
  constructor
  · intro h
    obtain ⟨⟨upto, back⟩, cut, h⟩ := Option.bind_eq_some_iff.mp h
    obtain ⟨⟨front, piece'⟩, cut', rfl⟩ := Option.map_eq_some_iff.mp h
    obtain ⟨rfl, rfl⟩ := parts_of_splitBytes? cut
    obtain ⟨rfl, rfl⟩ := parts_of_splitBytes? cut'
    exact ⟨front, back, List.append_assoc .., rfl⟩
  · rintro ⟨front, back, rfl, e⟩
    obtain ⟨rfl, rfl⟩ := Span.mk.inj e
    rw [← List.append_assoc, splitBytes?_append, Option.bind_some, splitBytes?_append]
    rfl

theorem isValid_length_utf8 (x y : List Char) :
    String.Pos.Raw.IsValid (String.ofList (x ++ y)) ⟨(utf8 x).length⟩ := by
  rw [String.Pos.Raw.isValid_iff_exists_append]
  refine ⟨String.ofList x, String.ofList y, String.ofList_append, ?_⟩
  rw [String.Pos.Raw.ext_iff]
  show _ = (String.ofList x).toByteArray.size
  rw [String.toByteArray_ofList, List.utf8Encode, List.size_toByteArray, utf8]

/-- The closed quotations of a text that is read from a byte position on, marks included. -/
def quotedSpans (at? : Option (Char × Nat)) (position : Nat) : List Char → List Span
  | [] => []
  | c :: text =>
    match at? with
    | some (q, start) =>
      if c = q then
        ⟨start, position + c.utf8Size⟩ :: quotedSpans none (position + c.utf8Size) text
      else quotedSpans (some (q, start)) (position + c.utf8Size) text
    | none =>
      quotedSpans (if isQuote c then some (c, position) else none) (position + c.utf8Size) text

theorem quotedSpans_append (at? : Option (Char × Nat)) (position : Nat) (x y : List Char) :
    quotedSpans at? position (x ++ y) = quotedSpans at? position x ++
      quotedSpans (unclosedQuote? at? position x) (position + (utf8 x).length) y := by
  induction x generalizing at? position with
  | nil => rfl
  | cons c x ih =>
    rw [length_utf8_cons, ← Nat.add_assoc, List.cons_append]
    cases at? with
    | none => exact ih _ _
    | some open_ =>
      obtain ⟨q, start⟩ := open_
      simp only [quotedSpans, unclosedQuote?]
      split
      · rw [ih, List.cons_append]
      · rw [ih]

theorem unclosedQuote?_of_closed {text : List Char} (closed : markAfter none text = none)
    (position : Nat) : unclosedQuote? none position text = none := by
  have mark := unclosedQuote?_mark none position text
  rw [Option.map_none, closed] at mark
  exact Option.map_eq_none_iff.mp mark

theorem quotedSpans_of_no_quote {text : List Char} (plain : ∀ c ∈ text, isQuote c = false)
    (position : Nat) : quotedSpans none position text = [] := by
  induction text generalizing position with
  | nil => rfl
  | cons c text ih =>
    rw [quotedSpans, plain c (List.mem_cons_self ..)]
    exact ih (fun d m => plain d (List.mem_cons_of_mem _ m)) _

end DocQuery.Text
