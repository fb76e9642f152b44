import DocQuery.Time.Instant
import DocQuery.Text.Letters

/-!
# Texts that name an instant

Query literals name instants in three shapes: `YYYY-MM-DD` with an optional time and an optional
`Z`, `MM-DD-YYYY`, and `Month D, YYYY`. Documents may also hold the internet shape with an offset
from universal time. A text of a shape that names no date or time names no instant.
-/

namespace DocQuery.Stamp

open Text

def takeDigits? (count : Nat) (text : List Char) : Option (List Char × List Char) :=
  let digits := text.take count
  if digits.length = count ∧ digits.all isDecimalDigit then some (digits, text.drop count)
  else none

def dropOne? (p : Char → Bool) : List Char → Option (List Char)
  | c :: text => if p c then some text else none
  | [] => none

/-- The clock part of a literal: hour, minute, second, and the digits after the point. -/
structure ClockPart where
  hour : List Char
  minute : List Char
  second : List Char
  fraction : Option (List Char)

/-- Reads `THH:MM:SS` with an optional point and one to three digits. -/
def takeClock? (text : List Char) : Option (ClockPart × List Char) := do
  let text ← dropOne? (· == 'T') text
  let (hour, text) ← takeDigits? 2 text
  let text ← dropOne? (· == ':') text
  let (minute, text) ← takeDigits? 2 text
  let text ← dropOne? (· == ':') text
  let (second, text) ← takeDigits? 2 text
  match text with
  | '.' :: text =>
    let fraction := text.takeWhile isDecimalDigit
    if 1 ≤ fraction.length ∧ fraction.length ≤ 3 then
      some (⟨hour, minute, second, some fraction⟩, text.dropWhile isDecimalDigit)
    else none
  | text => some (⟨hour, minute, second, none⟩, text)

/-- The parts of `YYYY-MM-DD`, with an optional clock part and an optional `Z`. -/
def dayShape? (text : List Char) :
    Option (List Char × List Char × List Char × Option ClockPart) := do
  let (year, text) ← takeDigits? 4 text
  let text ← dropOne? (· == '-') text
  let (month, text) ← takeDigits? 2 text
  let text ← dropOne? (· == '-') text
  let (day, text) ← takeDigits? 2 text
  let (clock, text) := match takeClock? text with
    | some (clock, text) => (some clock, text)
    | none => (none, text)
  if text = [] ∨ text = ['Z'] then some (year, month, day, clock) else none

def monthFirstShape? (text : List Char) : Option (List Char × List Char × List Char) := do
  let (month, text) ← takeDigits? 2 text
  let text ← dropOne? (· == '-') text
  let (day, text) ← takeDigits? 2 text
  let text ← dropOne? (· == '-') text
  let (year, text) ← takeDigits? 4 text
  if text = [] then some (year, month, day) else none

/-- The parts of `Month D, YYYY`: a word, one or two digits, four digits. -/
def longShape? (text : List Char) : Option (List Char × List Char × List Char) := do
  let month := text.takeWhile Char.isAlpha
  let text ← dropOne? (· == ' ') (text.dropWhile Char.isAlpha)
  let day := text.takeWhile isDecimalDigit
  let text ← dropOne? (· == ',') (text.dropWhile isDecimalDigit)
  let text ← dropOne? (· == ' ') text
  let (year, text) ← takeDigits? 4 text
  if month ≠ [] ∧ 1 ≤ day.length ∧ day.length ≤ 2 ∧ text = [] then some (year, month, day)
  else none

def monthNames : List String :=
  ["january", "february", "march", "april", "may", "june", "july", "august", "september",
    "october", "november", "december"]

def monthNumber? (name : List Char) : Option Nat :=
  (monthNames.findIdx? fun month => sameLetters month.toList name).map (· + 1)

/-- Milliseconds of the digits after the point: one digit counts tenths, two hundredths. -/
def millis? (fraction : List Char) : Option Nat :=
  readDigits? (fraction ++ List.replicate (3 - fraction.length) '0')

/-- The instant of a day and an optional clock part. Clock digits outside the ASCII decade count
as zero; every other number has to be written in ASCII digits. -/
def ofDayParts? (year month day : List Char) (clock : Option ClockPart) : Option Instant := do
  let year ← readDigits? year
  let millis ← match clock.bind (·.fraction) with
    | some fraction => millis? fraction
    | none => some 0
  let month ← readDigits? month
  let day ← readDigits? day
  let part (digits : ClockPart → List Char) : Nat :=
    ((clock.map digits).bind readDigits?).getD 0
  Instant.ofNumbers? year month day (part (·.hour)) (part (·.minute)) (part (·.second))
    (millis * 1000000)

/-- The instant that a query literal names. -/
def literal? (text : List Char) : Option Instant :=
  match dayShape? text with
  | some (year, month, day, clock) => ofDayParts? year month day clock
  | none =>
    match monthFirstShape? text with
    | some (year, month, day) => ofDayParts? year month day none
    | none => do
      let (year, name, day) ← longShape? text
      let month ← monthNumber? name
      let day ← readDigits? day
      let year ← readDigits? year
      Instant.ofNumbers? year month day 0 0 0 0

def takeNumber? (count : Nat) (text : List Char) : Option (Nat × List Char) :=
  if (text.take count).length = count then
    (readDigits? (text.take count)).map (·, text.drop count)
  else none

def nanosOf (fraction : List Char) : Nat :=
  let digits := fraction.take 9
  digitsValue digits * Nat.pow 10 (9 - digits.length)

def offset? (text : List Char) : Option Int :=
  match text with
  | ['Z'] => some 0
  | ['z'] => some 0
  | sign :: text => do
    let negative ←
      if sign = '+' then some false else if sign = '-' ∨ sign = '−' then some true else none
    let (hours, text) ← takeNumber? 2 text
    let text ← dropOne? (· == ':') text
    let (minutes, text) ← takeNumber? 2 text
    if text = [] ∧ hours < 24 ∧ minutes < 60 then
      let seconds : Int := (hours * 3600 + minutes * 60 : Nat)
      some (if negative then -seconds else seconds)
    else none
  | [] => none

/-- The instant that a text of the internet shape names: date, clock with an optional fraction,
and offset. A sixtieth second is a leap second after the fifty-ninth. -/
def internet? (text : List Char) : Option Instant := do
  let (year, text) ← takeNumber? 4 text
  let text ← dropOne? (· == '-') text
  let (month, text) ← takeNumber? 2 text
  let text ← dropOne? (· == '-') text
  let (day, text) ← takeNumber? 2 text
  let text ← dropOne? (fun c => c == 'T' || c == 't' || c == ' ') text
  let (hour, text) ← takeNumber? 2 text
  let text ← dropOne? (· == ':') text
  let (minute, text) ← takeNumber? 2 text
  let text ← dropOne? (· == ':') text
  let (second, text) ← takeNumber? 2 text
  let (nanos, text) ← match text with
    | '.' :: text =>
      let fraction := text.takeWhile Char.isDigit
      if fraction = [] then none else some (nanosOf fraction, text.dropWhile Char.isDigit)
    | text => some (0, text)
  let offset ← offset? text
  let leap := if second = 60 then nanosPerSecond else 0
  let second := if second = 60 then 59 else second
  let shown ← Instant.ofNumbers? year month day hour minute second (nanos + leap)
  some ⟨shown.seconds - offset, shown.nanos⟩

end DocQuery.Stamp
