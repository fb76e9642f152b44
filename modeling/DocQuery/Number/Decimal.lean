import DocQuery.Number.Binary64

/-!
# Decimal scientific numbers

A decimal number is a whole number times a power of ten. Reading takes it to the nearest binary64
number in one exact rounding. Writing picks the fewest digits that read back as the same number,
the nearest of those, and the even last digit of two that are equally near.
-/

namespace DocQuery

/-- The number `digits * 10 ^ exponent`. -/
structure Decimal where
  digits : Nat
  exponent : Int
deriving DecidableEq, Repr

namespace Decimal

def inUnits (d : Decimal) : Nat × Nat :=
  if 0 ≤ d.exponent then (d.digits * Nat.pow 10 d.exponent.toNat * Binary64.unitsPerOne, 1)
  else (d.digits * Binary64.unitsPerOne, Nat.pow 10 (-d.exponent).toNat)

/-- The nearest binary64 number, none when it would not be finite. As 10 > 2^3, the leading bit
of the digits already tells a number far beyond the largest, or far below half the finest step,
without its power of ten. -/
def toBinary64? (negative : Bool) (d : Decimal) : Option Binary64 :=
  if d.digits = 0 then some (.zero negative)
  else if 0 ≤ d.exponent ∧ 1025 ≤ d.digits.log2 + 3 * d.exponent.toNat then none
  else if d.exponent < 0 ∧ d.digits.log2 + 1077 ≤ 3 * (-d.exponent).toNat then some (.zero negative)
  else Binary64.nearest? negative d.inUnits.1 d.inUnits.2

/-- The exponent of the leading decimal digit of a magnitude in units of 2^-1074. The first guess
is the leading bit times the logarithm of two, and is off by one at most. -/
def leadingExponent (units : Nat) : Int :=
  let guess : Int := (((units.log2 : Int) - 1074) * 30103).fdiv 100000
  let reached (e : Int) : Bool :=
    if 0 ≤ e then Nat.pow 10 e.toNat * Binary64.unitsPerOne ≤ units
    else Binary64.unitsPerOne ≤ units * Nat.pow 10 (-e).toNat
  if !reached guess then guess - 1
  else if reached (guess + 1) then guess + 1
  else guess

/-- The two multiples of `10 ^ exponent` around a magnitude, as counts: the lower one, and the
remainder of the magnitude over the step. -/
def gridBelow (units : Nat) (exponent : Int) : Nat × Nat × Nat :=
  let (num, den) :=
    if 0 ≤ exponent then (units, Nat.pow 10 exponent.toNat * Binary64.unitsPerOne)
    else (units * Nat.pow 10 (-exponent).toNat, Binary64.unitsPerOne)
  (num / den, num % den, den)

/-- The decimal with `count` digits nearest to a magnitude among those that read back as it. -/
def atPrecision? (units : Nat) (count : Nat) : Option Decimal :=
  let exponent := leadingExponent units - ((count : Int) - 1)
  let (below, rest, step) := gridBelow units exponent
  let reads (n : Nat) : Bool :=
    let (num, den) := inUnits ⟨n, exponent⟩
    Binary64.nearestUnits num den == units
  let lower := reads below
  let upper := reads (below + 1)
  let takeLower :=
    lower && (!upper || 2 * rest < step || (2 * rest == step && below % 2 == 0))
  if takeLower then some ⟨below, exponent⟩
  else if upper then some ⟨below + 1, exponent⟩
  else none

/-- The shortest decimal that reads back as a magnitude; seventeen digits always suffice. -/
def shortest (units : Nat) : Decimal :=
  ((List.range 17).findSome? fun n => atPrecision? units (n + 1)).getD
    ⟨(gridBelow units (leadingExponent units - 16)).1, leadingExponent units - 16⟩

end Decimal

end DocQuery
