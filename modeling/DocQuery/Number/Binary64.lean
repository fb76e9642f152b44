/-!
# Finite binary64 numbers

Every number a query or a document can hold is a finite binary64 number. Its magnitude is kept
exactly, as a whole number of units of 2^-1074, the finest step of the format, so that comparing
and rounding are arithmetic on natural numbers. The sign is kept apart: zero has two signs.
-/

namespace DocQuery

/-- At most fifty-three significant bits, and below 2^1024 in value. -/
def Representable (units : Nat) : Prop :=
  units.log2 < 2098 ∧ units % Nat.pow 2 (units.log2 - 52) = 0

instance (units : Nat) : Decidable (Representable units) :=
  inferInstanceAs (Decidable (_ ∧ _))

/-- A finite binary64 number: its sign and its magnitude in units of 2^-1074. -/
structure Binary64 where
  negative : Bool
  units : Nat
  representable : Representable units
deriving DecidableEq

namespace Binary64

def unitsPerOne : Nat := Nat.pow 2 1074

/-- The first positive integer that shares its binary64 number with another integer; below it
integers and numbers agree. -/
def exactEnd : Nat := 0x20000000000000

/-- A quotient rounded to a whole number; a half goes to the even neighbour. -/
def roundHalfEven (num den : Nat) : Nat :=
  let whole := num / den
  let rest := num % den
  if 2 * rest < den then whole
  else if den < 2 * rest then whole + 1
  else whole + whole % 2

/-- The whole number with at most fifty-three significant bits that is nearest to a quotient. -/
def nearestUnits (num den : Nat) : Nat :=
  let grain := Nat.pow 2 ((num / den).log2 - 52)
  roundHalfEven num (den * grain) * grain

def ofUnits? (negative : Bool) (units : Nat) : Option Binary64 :=
  if h : Representable units then some ⟨negative, units, h⟩ else none

def nearest? (negative : Bool) (num den : Nat) : Option Binary64 :=
  ofUnits? negative (nearestUnits num den)

def zero (negative : Bool) : Binary64 :=
  ⟨negative, 0, by decide⟩

def ofInt? (i : Int) : Option Binary64 :=
  nearest? (i < 0) (i.natAbs * unitsPerOne) 1

/-- The value in units of 2^-1074, where both zeros agree. -/
def value (x : Binary64) : Int :=
  if x.negative then -(x.units : Int) else x.units

def compare (x y : Binary64) : Ordering :=
  Ord.compare x.value y.value

def toInt? (x : Binary64) : Option Int :=
  if x.units % unitsPerOne = 0 then
    let whole : Int := (x.units / unitsPerOne : Nat)
    some (if x.negative then -whole else whole)
  else none

def mul? (x y : Binary64) : Option Binary64 :=
  nearest? (x.negative != y.negative) (x.units * y.units) unitsPerOne

def div? (x y : Binary64) : Option Binary64 :=
  nearest? (x.negative != y.negative) (x.units * unitsPerOne) y.units

end Binary64

end DocQuery
