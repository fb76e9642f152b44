import DocQuery.Number.Binary64
import DocQuery.Number.Word

/-!
# Document values

The values a document is made of. Numbers keep the form they were written in: an integer of a
64-bit word, signed or unsigned, stays an integer; every other number is a binary64 number. The
members of an object keep their order.
-/

namespace DocQuery

/-- A number as a document holds it. -/
inductive Number where
  | integer (i : Int)
  | float (x : Binary64)
deriving DecidableEq

namespace Number

def toBinary64? : Number → Option Binary64
  | .integer i => Binary64.ofInt? i
  | .float x => some x

def toSigned? : Number → Option Int
  | .integer i => if Word.IsSigned i then some i else none
  | .float _ => none

def toUnsigned? : Number → Option Nat
  | .integer i => if Word.IsUnsigned i then some i.toNat else none
  | .float _ => none

end Number

inductive Json where
  | null
  | boolean (b : Bool)
  | number (n : Number)
  | string (s : String)
  | array (items : List Json)
  | object (members : List (String × Json))

namespace Json

def isNull : Json → Bool
  | .null => true
  | _ => false

def items? : Json → Option (List Json)
  | .array items => some items
  | _ => none

def member? (key : String) : Json → Option Json
  | .object members => members.lookup key
  | _ => none

def string? : Json → Option String
  | .string s => some s
  | _ => none

def signed? : Json → Option Int
  | .number n => n.toSigned?
  | _ => none

def unsigned? : Json → Option Nat
  | .number n => n.toUnsigned?
  | _ => none

end Json

end DocQuery
