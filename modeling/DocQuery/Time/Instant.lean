import DocQuery.Time.Calendar
import DocQuery.Text.Digit

/-!
# Instants

A point in time is a number of seconds since the start of 1970 in universal time and a number of
nanoseconds. Within a leap second, which extends the last second of a minute, the nanoseconds run
from one to two thousand million. Instants are ordered by seconds, then nanoseconds.
-/

namespace DocQuery

structure Instant where
  seconds : Int
  nanos : Nat
deriving DecidableEq, Repr

def secondsPerDay : Int := 86400

def nanosPerSecond : Nat := 1000000000

namespace Instant

def compare (a b : Instant) : Ordering :=
  (Ord.compare a.seconds b.seconds).then (Ord.compare a.nanos b.nanos)

def ofDay (day : Int) (second nanos : Nat) : Instant :=
  ⟨day * secondsPerDay + second, nanos⟩

def ofNumbers? (year : Int) (month day hour minute second nanos : Nat) : Option Instant :=
  if hour < 24 ∧ minute < 60 ∧ second < 60 then
    (Date.ofNumbers? year month day).map fun date =>
      ofDay date.dayNumber (hour * 3600 + minute * 60 + second) nanos
  else none

/-- The instant of a count of seconds and nanoseconds. A leap second is admitted only at the end
of a minute, and the year lies between -262143 and 262142. -/
def ofCounts? (seconds : Int) (nanos : Nat) : Option Instant :=
  let inRange := yearStart (-262143) * secondsPerDay ≤ seconds ∧
    seconds < yearStart 262143 * secondsPerDay
  let leap := nanosPerSecond ≤ nanos
  if inRange ∧ nanos < 2 * nanosPerSecond ∧ (¬leap ∨ seconds % 60 = 59) then
    some ⟨seconds, nanos⟩
  else none

def date (t : Instant) : Date :=
  Date.ofDayNumber (t.seconds / secondsPerDay)

def secondOfDay (t : Instant) : Nat :=
  (t.seconds % secondsPerDay).toNat

/-- Hour, minute and second as a clock shows them; a leap second is shown as the sixtieth. -/
def clock (t : Instant) : Nat × Nat × Nat :=
  let s := t.secondOfDay
  (s / 3600, s / 60 % 60, s % 60 + if nanosPerSecond ≤ t.nanos then 1 else 0)

def clockText (t : Instant) : List Char :=
  let (hour, minute, second) := t.clock
  Text.padZeros 2 hour ++ ':' :: Text.padZeros 2 minute ++ ':' :: Text.padZeros 2 second

/-- A year of four digits; one outside 0 to 9999 has a sign. -/
def yearText (year : Int) : List Char :=
  if 0 ≤ year ∧ year ≤ 9999 then Text.padZeros 4 year.toNat
  else (if year < 0 then '-' else '+') :: Text.padZeros 4 year.natAbs

/-- The text `YYYY-MM-DDTHH:MM:SS.mmmZ` of an instant, milliseconds cut off. -/
def text (t : Instant) : String :=
  let date := t.date
  String.ofList <|
    yearText date.year ++ '-' :: Text.padZeros 2 date.month ++ '-' :: Text.padZeros 2 date.day ++
      'T' :: t.clockText ++ '.' :: Text.padZeros 3 (t.nanos % nanosPerSecond / 1000000) ++ ['Z']

def shortText (t : Instant) (ahead : Int) : String :=
  let shown : Instant := ⟨t.seconds + ahead, t.nanos⟩
  let date := shown.date
  String.ofList <|
    Text.padZeros 2 date.month ++ '/' :: Text.padZeros 2 date.day ++
      '/' :: Text.padZeros 2 (date.year % 100).toNat ++ ' ' :: shown.clockText

end Instant

end DocQuery
