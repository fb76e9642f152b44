import DocQuery.Proofs.Query.Casing
import DocQuery.Proofs.Text.Bytes

/-!
# The search for keywords among bytes

A keyword is looked for from a byte position on, outside quotations, and its place is a span of
bytes. A search that starts at the first byte of a character meets what the search of the
characters meets: the spans found are the places found, counted in bytes.
-/

namespace DocQuery

open Text

def wordEnd? (bytes word : List UInt8) (position : Nat) : Option Nat :=
  if sameBytes ((bytes.drop position).take word.length) word then some (position + word.length)
  else none

/-- A blank stands at the position, or the bytes end there. -/
def gapAt (bytes : List UInt8) (position : Nat) : Bool :=
  (bytes[position]?.map isGapByte).getD true

def gapBefore (bytes : List UInt8) (position : Nat) : Bool :=
  position == 0 || (bytes[position - 1]?.map isGapByte).getD false

/-- The position behind a sequence of words, with blanks between them and a gap after the last. -/
def keywordEnd? (bytes : List UInt8) : List (List UInt8) → Nat → Option Nat
  | [], position => if gapAt bytes position then some position else none
  | [word], position =>
    (wordEnd? bytes word position).bind fun stop => if gapAt bytes stop then some stop else none
  | word :: words, position =>
    (wordEnd? bytes word position).bind fun stop =>
      let blanks := ((bytes.drop stop).takeWhile isGapByte).length
      if blanks = 0 then none else keywordEnd? bytes words (stop + blanks)

/-- The first place of a keyword outside quotations. The search is at a position; the last argument
is what it has not read yet. -/
def findKeyword? (bytes : List UInt8) (keyword : List (List UInt8)) :
    Option UInt8 → Nat → List UInt8 → Option Span
  | _, _, [] => none
  | mark, position, b :: rest =>
    let found :=
      if mark.isNone && !isQuoteByte b && gapBefore bytes position then
        keywordEnd? bytes keyword position
      else none
    match found with
    | some stop => some ⟨position, stop⟩
    | none => findKeyword? bytes keyword (byteQuoteAfter mark b) (position + 1) rest

def keywordBytes (keyword : List String) : List (List UInt8) :=
  keyword.map fun word => utf8 word.toList

def Clause.span? (clause : Clause) (bytes : List UInt8) (position : Nat) : Option Span :=
  findKeyword? bytes (keywordBytes clause.keyword) none position (bytes.drop position)

def positionOf (whole rest : List Char) : Nat :=
  (utf8 whole).length - (utf8 rest).length

theorem positionOf_append (front rest : List Char) :
    positionOf (front ++ rest) rest = (utf8 front).length := by
  rw [positionOf, utf8_append, List.length_append, Nat.add_sub_cancel]

theorem drop_utf8 (front rest : List Char) :
    (utf8 (front ++ rest)).drop (utf8 front).length = utf8 rest := by
  rw [utf8_append, List.drop_left]

theorem wordEnd?_utf8 {word : List Char} (letters : ∀ c ∈ word, c.isAlpha = true)
    (front text : List Char) :
    wordEnd? (utf8 (front ++ text)) (utf8 word) (utf8 front).length =
      (dropWord? word text).map (positionOf (front ++ text)) := by
  have size := length_utf8_of_ascii fun c m => ascii_of_isAlpha (letters c m)
  rw [wordEnd?, drop_utf8, size, sameBytes_take letters]
  cases dropped : dropWord? word text with
  | none => rfl
  | some rest =>
    obtain ⟨written, rfl, same⟩ := dropWord?_eq_some_iff.mp dropped
    have ascii := isAlpha_of_sameLetters same letters
    have place : (utf8 written).length = word.length := by
      rw [length_utf8_of_ascii fun c m => ascii_of_isAlpha (ascii c m),
        length_eq_of_lower (sameLetters_iff_lower.mp same)]
    rw [Option.isSome_some, if_pos rfl, Option.map_some, ← List.append_assoc, positionOf_append,
      utf8_append, List.length_append, place]

theorem gapAt_utf8 (front text : List Char) :
    gapAt (utf8 (front ++ text)) (utf8 front).length = atGap text := by
  rw [gapAt, utf8_append, List.getElem?_append_right (Nat.le_refl _), Nat.sub_self,
    ← List.head?_eq_getElem?, head?_utf8_map_isGapByte]
  cases text <;> rfl

theorem gapBefore_utf8 (front text : List Char) :
    gapBefore (utf8 (front ++ text)) (utf8 front).length = boundedAfter true front := by
  rw [gapBefore, utf8_append, boundedAfter, ← getLast?_utf8_map_isGapByte,
    List.getLast?_eq_getElem?]
  cases utf8 front with
  | nil => rfl
  | cons b bytes => rw [List.getElem?_append_left (by simp)]; simp

theorem keywordEnd?_behind_gap {words : List String} (spelled : Spelled words)
    (next : ∀ front text,
      keywordEnd? (utf8 (front ++ text)) (keywordBytes words) (utf8 front).length =
        (dropKeyword? words text).map (positionOf (front ++ text))) (front text : List Char) :
    (if (utf8 (text.takeWhile isGap)).length = 0 then none
      else keywordEnd? (utf8 (front ++ text)) (keywordBytes words)
        ((utf8 front).length + (utf8 (text.takeWhile isGap)).length)) =
      (if atGap text then dropKeyword? words (text.dropWhile isGap) else none).map
        (positionOf (front ++ text)) := by
  cases text with
  | nil =>
    rw [List.dropWhile_nil, dropKeyword?_nil spelled]
    rfl
  | cons c text =>
    by_cases gap : isGap c = true
    · have some : (utf8 ((c :: text).takeWhile isGap)).length ≠ 0 := by
        rw [List.takeWhile_cons_of_pos gap, length_utf8_cons]
        have positive := c.utf8Size_pos
        omega
      have behind := next (front ++ (c :: text).takeWhile isGap) ((c :: text).dropWhile isGap)
      rw [List.append_assoc, List.takeWhile_append_dropWhile, length_utf8_append] at behind
      rw [if_neg some, atGap, if_pos gap, behind]
    · rw [List.takeWhile_cons_of_neg gap, atGap, if_neg gap]
      rfl

theorem keywordEnd?_utf8 {keyword : List String} (spelled : Spelled keyword)
    (front text : List Char) :
    keywordEnd? (utf8 (front ++ text)) (keywordBytes keyword) (utf8 front).length =
      (dropKeyword? keyword text).map (positionOf (front ++ text)) := by
  induction keyword generalizing front text with
  | nil => exact absurd rfl spelled.some
  | cons w words ih =>
    have first := wordEnd?_utf8 (spelled.letters w (List.mem_cons_self ..)) front text
    cases words with
    | nil =>
      rw [keywordBytes, List.map_singleton, keywordEnd?, dropKeyword?, first]
      cases dropped : dropWord? w.toList text with
      | none => rfl
      | some rest =>
        obtain ⟨written, rfl, -⟩ := dropWord?_eq_some_iff.mp dropped
        have gap := gapAt_utf8 (front ++ written) rest
        rw [Option.map_some, Option.bind_some, Option.bind_some, ← List.append_assoc,
          positionOf_append, gap]
        split
        · rw [Option.map_some, positionOf_append]
        · rfl
    | cons w' words =>
      rw [keywordBytes, List.map_cons, List.map_cons, keywordEnd?, dropKeyword?, first]
      · cases dropped : dropWord? w.toList text with
        | none => rfl
        | some rest =>
          obtain ⟨written, rfl, -⟩ := dropWord?_eq_some_iff.mp dropped
          rw [Option.map_some, Option.bind_some, Option.bind_some, ← List.append_assoc,
            positionOf_append, drop_utf8, takeWhile_utf8]
          exact keywordEnd?_behind_gap spelled.tail (ih spelled.tail) (front ++ written) rest
      · simp
      · simp

theorem findKeyword?_cons_of_not_found {bytes : List UInt8} {keyword : List (List UInt8)}
    {mark : Option UInt8} {position : Nat} {b : UInt8}
    (h : mark = none → gapBefore bytes position = true → keywordEnd? bytes keyword position = none)
    (rest : List UInt8) :
    findKeyword? bytes keyword mark position (b :: rest) =
      findKeyword? bytes keyword (byteQuoteAfter mark b) (position + 1) rest := by
  have missing : (if mark.isNone && !isQuoteByte b && gapBefore bytes position then
      keywordEnd? bytes keyword position else none) = none := by
    split
    · next start =>
      simp only [Bool.and_eq_true, Option.isNone_iff_eq_none] at start
      exact h start.1.1 start.2
    · rfl
  rw [findKeyword?, missing]

theorem findKeyword?_cons_of_found {bytes : List UInt8} {keyword : List (List UInt8)}
    {position stop : Nat} {b : UInt8} (plain : isQuoteByte b = false)
    (gap : gapBefore bytes position = true)
    (h : keywordEnd? bytes keyword position = some stop) (rest : List UInt8) :
    findKeyword? bytes keyword none position (b :: rest) = some ⟨position, stop⟩ := by
  simp [findKeyword?, plain, gap, h]

theorem keywordEnd?_of_wide {keyword : List String} (spelled : Spelled keyword)
    {bytes rest : List UInt8} {position : Nat} {b : UInt8} (wide : 128 ≤ b.toNat)
    (here : bytes.drop position = b :: rest) :
    keywordEnd? bytes (keywordBytes keyword) position = none := by
  have miss : ∀ w ∈ keyword, wordEnd? bytes (utf8 w.toList) position = none := by
    intro w m
    obtain ⟨c, word, e⟩ := List.exists_cons_of_ne_nil (spelled.words w m)
    have ascii : c.toNat < 128 := ascii_of_isAlpha (spelled.letters w m c (by simp [e]))
    have differ := lowerByte_ne_of_wide wide ascii
    rw [wordEnd?, here, e, utf8_cons_of_ascii ascii, List.length_cons, List.take_succ_cons,
      sameBytes_cons, beq_eq_false_iff_ne.mpr differ]
    rfl
  match keyword, spelled with
  | [], spelled => exact absurd rfl spelled.some
  | [w], _ => simp [keywordBytes, keywordEnd?, miss w]
  | w :: w' :: words, _ => simp [keywordBytes, keywordEnd?, miss w]

def spanBehind (whole front : List Char) (place : List Char × List Char) : Span :=
  ⟨(utf8 (front ++ place.1)).length, positionOf whole place.2⟩

section Search

variable {keyword : List String} (spelled : Spelled keyword)

include spelled

/-- The search passes over the bytes of a character that is more than one. -/
theorem findKeyword?_append_of_wide {mark : Option Char} (quote : ∀ q ∈ mark, isQuote q = true)
    {bytes run rest : List UInt8} (wide : ∀ b ∈ run, 128 ≤ b.toNat) {position : Nat}
    (here : bytes.drop position = run ++ rest) :
    findKeyword? bytes (keywordBytes keyword) (mark.map Char.toUInt8) position (run ++ rest) =
      findKeyword? bytes (keywordBytes keyword) (mark.map Char.toUInt8) (position + run.length)
        rest := by
  induction run generalizing position with
  | nil => rfl
  | cons b run ih =>
    have first := wide b (List.mem_cons_self ..)
    have missing := keywordEnd?_of_wide spelled first here
    have behind : bytes.drop (position + 1) = run ++ rest := by
      rw [← List.drop_drop, here]
      rfl
    rw [List.cons_append, findKeyword?_cons_of_not_found fun _ _ => missing,
      byteQuoteAfter_of_wide first quote, ih (fun x m => wide x (List.mem_cons_of_mem _ m)) behind,
      List.length_cons]
    congr 1
    omega

theorem isAlpha_of_dropKeyword? {c : Char} {text after : List Char}
    (found : dropKeyword? keyword (c :: text) = some after) : c.isAlpha = true := by
  obtain ⟨first, words, rfl⟩ := List.exists_cons_of_ne_nil spelled.some
  by_contra other
  rw [dropKeyword?_of_not_isAlpha spelled (eq_false_of_ne_true other)] at found
  cases found

theorem findKeyword?_of_found {front text after : List Char} {c : Char}
    (gap : boundedAfter true front = true)
    (found : dropKeyword? keyword (c :: text) = some after) :
    findKeyword? (utf8 (front ++ c :: text)) (keywordBytes keyword) none (utf8 front).length
        (utf8 (c :: text)) =
      some ⟨(utf8 front).length, positionOf (front ++ c :: text) after⟩ := by
  have letter := isAlpha_of_dropKeyword? spelled found
  have ascii := ascii_of_isAlpha letter
  have plain := (isQuoteByte_toUInt8 ascii).trans (not_isQuote_of_isAlpha letter)
  have starts := (gapBefore_utf8 front (c :: text)).trans gap
  have ends := keywordEnd?_utf8 spelled front (c :: text)
  rw [found] at ends
  rw [utf8_cons_of_ascii ascii]
  exact findKeyword?_cons_of_found plain starts ends (utf8 text)

theorem findKeyword?_of_not_found {mark : Option Char} (quote : ∀ q ∈ mark, isQuote q = true)
    {front text : List Char} {c : Char}
    (missing : boundedAfter true front = true → mark = none →
      dropKeyword? keyword (c :: text) = none) :
    findKeyword? (utf8 (front ++ c :: text)) (keywordBytes keyword) (mark.map Char.toUInt8)
        (utf8 front).length (utf8 (c :: text)) =
      findKeyword? (utf8 (front ++ c :: text)) (keywordBytes keyword)
        ((quoteAfter mark c).map Char.toUInt8) (utf8 (front ++ [c])).length (utf8 text) := by
  have here := drop_utf8 front (c :: text)
  have size : (utf8 [c]).length = (String.utf8EncodeChar c).length := by simp [utf8_cons]
  rw [length_utf8_append, size]
  rw [utf8_cons] at here ⊢
  rcases utf8EncodeChar_cases c with ⟨ascii, e⟩ | ⟨wide, b, bytes, e, all⟩
  · have missing' : mark.map Char.toUInt8 = none →
        gapBefore (utf8 (front ++ c :: text)) (utf8 front).length = true →
          keywordEnd? (utf8 (front ++ c :: text)) (keywordBytes keyword) (utf8 front).length =
            none := by
      intro outside gap
      rw [gapBefore_utf8] at gap
      rw [keywordEnd?_utf8 spelled, missing gap (Option.map_eq_none_iff.mp outside)]
      rfl
    rw [e, List.singleton_append, findKeyword?_cons_of_not_found missing',
      byteQuoteAfter_toUInt8 ascii quote]
    rfl
  · rw [e] at here ⊢
    rw [findKeyword?_append_of_wide spelled quote all here, quoteAfter_of_wide quote wide]

/-- The search of the bytes finds the places that the search of the characters finds. The induction
is on the text that is left, with any front that was read before it. -/
theorem findKeyword?_utf8 {mark : Option Char} (quote : ∀ q ∈ mark, isQuote q = true)
    (front text : List Char) :
    findKeyword? (utf8 (front ++ text)) (keywordBytes keyword) (mark.map Char.toUInt8)
        (utf8 front).length (utf8 text) =
      (cutAt? keyword (boundedAfter true front) mark text).map
        (spanBehind (front ++ text) front) := by
  induction text generalizing front mark with
  | nil => rfl
  | cons c text ih =>
    rcases cutAt?_cons_cases keyword (boundedAfter true front) mark c text with
      ⟨gap, rfl, after, found⟩ | missing
    · rw [gap, cutAt?_cons_of_found found, Option.map_none, findKeyword?_of_found spelled gap found]
      simp [spanBehind]
    · have next := ih (isQuote_of_quoteAfter quote c) (front ++ [c])
      have bounded : boundedAfter true (front ++ [c]) = isGap c := by simp [boundedAfter]
      have shift : spanBehind (front ++ c :: text) (front ++ [c]) =
          spanBehind (front ++ c :: text) front ∘ fun p => (c :: p.1, p.2) := by
        funext p
        simp [spanBehind]
      rw [List.append_assoc, List.singleton_append, bounded, shift] at next
      rw [cutAt?_cons_of_not_found missing, Option.map_map, ← next,
        findKeyword?_of_not_found spelled quote missing]

theorem findKeyword?_utf8_of_closed (front text : List Char) :
    findKeyword? (utf8 (front ++ text)) (keywordBytes keyword) none (utf8 front).length
        (utf8 text) =
      (cutAt? keyword (boundedAfter true front) none text).map
        (spanBehind (front ++ text) front) := by
  have closed : ∀ q ∈ (none : Option Char), isQuote q = true := by simp
  exact findKeyword?_utf8 spelled closed front text

end Search

theorem Clause.span?_utf8 (clause : Clause) {front : List Char} (ends : EndsInLetter front)
    (text : List Char) :
    clause.span? (utf8 (front ++ text)) (utf8 front).length =
      (cutAt? clause.keyword false none text).map (spanBehind (front ++ text) front) := by
  obtain ⟨word, c, rfl, letter⟩ := ends
  have bounded : boundedAfter true (word ++ [c]) = false := by
    simp [boundedAfter, not_isGap_of_not_isBlank (not_isBlank_of_isAlpha letter)]
  have found := findKeyword?_utf8_of_closed clause.spelled (word ++ [c]) text
  rw [bounded] at found
  rw [Clause.span?, drop_utf8]
  exact found

end DocQuery
