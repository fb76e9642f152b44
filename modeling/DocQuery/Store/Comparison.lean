import DocQuery.Query.Predicate
import DocQuery.Store.Document

/-!
# Comparing stored values

Two comparisons. A stored value is compared with a literal of its own kind only; with an instant it
is compared when it names one itself. Stored values are compared with one another by kind, then by
value, where all values that name an instant are one kind.
-/

namespace DocQuery

def compareBool (a b : Bool) : Ordering :=
  Ord.compare a.toNat b.toNat

def compareString (a b : String) : Ordering :=
  if a < b then .lt else if a = b then .eq else .gt

namespace Json

/-- The instant that an object of seconds and nanoseconds names. Of each part the first key that
is there counts; nanoseconds that are no whole number count as zero. -/
def instantOfCounts? (v : Json) : Option Instant := do
  let seconds ← ((v.member? "_seconds").or (v.member? "seconds")).bind Json.signed?
  let nanos := (((v.member? "_nanoseconds").or (v.member? "nanos")).or
    (v.member? "nanoseconds")).bind Json.unsigned?
  Instant.ofCounts? seconds (nanos.getD 0)

/-- The instant that a stored value names: a string in a literal's shape or the internet shape, or
an object of seconds and nanoseconds. -/
def instant? : Json → Option Instant
  | .string s => (Stamp.literal? s.toList).or (Stamp.internet? s.toList)
  | .object members => instantOfCounts? (.object members)
  | _ => none

/-- A stored value against a literal; none when they are of different kinds. -/
def compareLiteral? (stored : Json) (literal : Literal) : Option Ordering :=
  match stored, literal with
  | .number n, .number x => n.toBinary64?.map (·.compare x)
  | .string s, .string t => some (compareString s t)
  | .boolean a, .boolean b => some (compareBool a b)
  | .null, .null => some .eq
  | stored, .instant t => stored.instant?.map (·.compare t)
  | _, _ => none

def kindRank (v : Json) : Nat :=
  if v.instant?.isSome then 3
  else
    match v with
    | .null => 0
    | .boolean _ => 1
    | .number _ => 2
    | .string _ => 4
    | .array _ => 5
    | .object _ => 6

/-- Order of two stored values that name no instant and are of one kind. Arrays are ordered by
length, objects not at all. -/
def compareAlike : Json → Json → Ordering
  | .boolean a, .boolean b => compareBool a b
  | .number m, .number n =>
    (m.toBinary64?.getD (.zero false)).compare (n.toBinary64?.getD (.zero false))
  | .string s, .string t => compareString s t
  | .array xs, .array ys => Ord.compare xs.length ys.length
  | _, _ => .eq

/-- Order of stored values: instants by time, other values by kind and then by value. -/
def compareStored (a b : Json) : Ordering :=
  match a.instant?, b.instant? with
  | some s, some t => s.compare t
  | _, _ => (Ord.compare a.kindRank b.kindRank).then (compareAlike a b)

end Json

namespace Condition

def equals (stored : Json) (literal : Literal) : Bool :=
  stored.compareLiteral? literal == some .eq

def holdsFor (c : Condition) (stored : Json) : Bool :=
  let order := stored.compareLiteral? c.value
  match c.operator with
  | .equal => equals stored c.value
  | .notEqual => !stored.isNull && !equals stored c.value
  | .less => order == some .lt
  | .lessOrEqual => order == some .lt || order == some .eq
  | .greater => order == some .gt
  | .greaterOrEqual => order == some .gt || order == some .eq
  | .isIn => c.value.members.any (equals stored)
  | .notIn => !stored.isNull && !c.value.members.any (equals stored)
  | .arrayContains => (stored.items?.getD []).any fun item => equals item c.value
  | .arrayContainsAny =>
    (stored.items?.getD []).any fun item => c.value.members.any (equals item)

/-- Whether a document matches a condition; one without the field never does. -/
def accepts (c : Condition) (d : Document) : Bool :=
  (d.get? c.field).any c.holdsFor

end Condition

end DocQuery
