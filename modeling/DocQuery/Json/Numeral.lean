import DocQuery.Json.Basic
import DocQuery.Text.Digit

/-!
# Reading numbers of documents

A number without fraction and exponent that fits a 64-bit word stays an integer. Any other number
is gathered as a 64-bit significand and a power of ten: digits enter the significand as long as it
fits a word, those of the whole part that no longer fit raise the exponent, those of the fraction
that no longer fit are ignored. The power of ten is then applied by one rounded multiplication or
division of binary64 numbers, so the result may differ from the nearest number in the last bits.
-/

namespace DocQuery

namespace Binary64

def powerOfTen? (n : Nat) : Option Binary64 :=
  nearest? false (Nat.pow 10 n * unitsPerOne) 1

/-- A number times a power of ten. The largest power with a binary64 number of its own is the
308th; a smaller exponent than -308 is applied in steps, until the number is zero. -/
def scale? (x : Binary64) (exponent : Int) : Option Binary64 :=
  if exponent.natAbs ≤ 308 then
    (powerOfTen? exponent.natAbs).bind fun power =>
      if 0 ≤ exponent then x.mul? power else x.div? power
  else if x.units = 0 then some x
  else if 0 ≤ exponent then none
  else
    (powerOfTen? 308).bind fun power =>
      (x.div? power).bind fun y => y.scale? (exponent + 308)
termination_by exponent.natAbs
decreasing_by omega

end Binary64

namespace Json

/-- Gathers digits into a significand while it stays below 2^64; gives the significand and the
rest of the text. -/
def gatherWord (significand : Nat) : List Char → Nat × List Char
  | [] => (significand, [])
  | c :: text =>
    let next := 10 * significand + (c.toNat - '0'.toNat)
    if c.isDigit && next < Word.unsignedEnd then gatherWord next text else (significand, c :: text)

def wholePart? : List Char → Option (Nat × List Char)
  | '0' :: text => if (text.head?.map Char.isDigit).getD false then none else some (0, text)
  | c :: text => if c.isDigit then some (gatherWord 0 (c :: text)) else none
  | [] => none

def exponentPart? : List Char → Option (Option Int × List Char)
  | [] => some (none, [])
  | c :: text =>
    if c = 'e' ∨ c = 'E' then
      let (negative, text) := match text with
        | '-' :: text => (true, text)
        | '+' :: text => (false, text)
        | text => (false, text)
      (Text.readDigits? (text.takeWhile Char.isDigit)).map fun n =>
        (some (if negative then -(n : Int) else n), text.dropWhile Char.isDigit)
    else some (none, c :: text)

def ofParts? (negative : Bool) (significand : Nat) (exponent : Int) : Option Number :=
  ((Binary64.nearest? negative (significand * Binary64.unitsPerOne) 1).bind
    (·.scale? exponent)).map .float

/-- The number of an integer text whose digits fit a word. A negative one below the signed range,
and the negative zero, are binary64 numbers. -/
def ofWord? (negative : Bool) (significand : Nat) : Option Number :=
  if !negative then some (.integer significand)
  else if 0 < significand ∧ Word.IsSigned (-significand) then some (.integer (-significand))
  else ofParts? true significand 0

def readNumber? (text : List Char) : Option (Number × List Char) := do
  let (negative, text) := match text with
    | '-' :: text => (true, text)
    | text => (false, text)
  let (significand, text) ← wholePart? text
  let dropped := (text.takeWhile Char.isDigit).length
  match text.dropWhile Char.isDigit with
  | '.' :: text =>
    if !(text.head?.map Char.isDigit).getD false then none
    else
      let (significand, rest) := gatherWord significand text
      let places := text.length - rest.length
      let (exponent, rest) ← exponentPart? (rest.dropWhile Char.isDigit)
      let n ← ofParts? negative significand (dropped - places + exponent.getD 0)
      some (n, rest)
  | text =>
    let (exponent, rest) ← exponentPart? text
    let n ← match dropped, exponent with
      | 0, none => ofWord? negative significand
      | _, _ => ofParts? negative significand (dropped + exponent.getD 0)
    some (n, rest)

end Json

end DocQuery
