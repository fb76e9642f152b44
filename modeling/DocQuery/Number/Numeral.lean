import DocQuery.Number.Decimal
import DocQuery.Text.Digit

/-!
# Numerals

The text of a number that is not written as an integer, and the numerals that a query accepts as
number literals: an optional sign, digits with an optional point, an optional exponent, all ASCII.
-/

namespace DocQuery

structure NumeralFormat where
  least : Int
  greatest : Int

/-- Leading digits from the fifth place after the point to the sixteenth before it are written
positionally, with at least one digit after the point; all others with a signed exponent. -/
def numeralFormat : NumeralFormat := ⟨-5, 15⟩

namespace Decimal

def significant (d : Decimal) : List Char :=
  if d.digits = 0 then ['0']
  else ((Nat.toDigits 10 d.digits).reverse.dropWhile (· == '0')).reverse

def write (format : NumeralFormat) (d : Decimal) : List Char :=
  let digits := d.significant
  let leading : Int :=
    if d.digits = 0 then 0 else (Nat.toDigits 10 d.digits).length - 1 + d.exponent
  if leading < format.least ∨ format.greatest < leading then
    let fraction := match digits with
      | d₁ :: d₂ :: rest => d₁ :: '.' :: d₂ :: rest
      | _ => digits
    fraction ++ 'e' :: (if leading < 0 then '-' else '+') :: Nat.toDigits 10 leading.natAbs
  else if leading < 0 then
    ['0', '.'] ++ List.replicate (leading.natAbs - 1) '0' ++ digits
  else
    let place := leading.toNat + 1
    if digits.length ≤ place then
      digits ++ List.replicate (place - digits.length) '0' ++ ['.', '0']
    else digits.take place ++ '.' :: digits.drop place

end Decimal

namespace Binary64

def text (x : Binary64) : String :=
  let magnitude :=
    if x.units = 0 then (⟨0, 0⟩ : Decimal) else Decimal.shortest x.units
  String.ofList ((if x.negative then ['-'] else []) ++ magnitude.write numeralFormat)

end Binary64

namespace Numeral

def sign : List Char → Bool × List Char
  | '-' :: text => (true, text)
  | '+' :: text => (false, text)
  | text => (false, text)

def exponent? : List Char → Option Int
  | [] => some 0
  | mark :: text =>
    if mark = 'e' ∨ mark = 'E' then
      let (negative, digits) := sign text
      (Text.readDigits? digits).map fun n => if negative then -(n : Int) else n
    else none

def unsigned? (text : List Char) : Option Decimal :=
  let whole := text.takeWhile Char.isDigit
  match text.dropWhile Char.isDigit with
  | '.' :: rest =>
    let fraction := rest.takeWhile Char.isDigit
    if whole = [] ∧ fraction = [] then none
    else (exponent? (rest.dropWhile Char.isDigit)).map fun e =>
      ⟨Text.digitsValue (whole ++ fraction), e - fraction.length⟩
  | rest =>
    if whole = [] then none
    else (exponent? rest).map fun e => ⟨Text.digitsValue whole, e⟩

def read? (text : List Char) : Option Binary64 :=
  let (negative, rest) := sign text
  (unsigned? rest).bind (Decimal.toBinary64? negative)

end Numeral

end DocQuery
