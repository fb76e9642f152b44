/-!
# The Gregorian calendar

Dates of the proleptic Gregorian calendar, with a year zero, and their day numbers. Day zero is
the first day of 1970. The year of a day is found from a first guess that is off by one at most,
so day numbers and dates are inverse to each other (`year_bounds`).
-/

namespace DocQuery

def isLeapYear (year : Int) : Bool :=
  year % 4 == 0 && (year % 100 != 0 || year % 400 == 0)

def yearStart (year : Int) : Int :=
  let before := year - 1
  365 * before + before / 4 - before / 100 + before / 400 - 719162

def monthLengths (year : Int) : List Nat :=
  [31, if isLeapYear year then 29 else 28, 31, 30, 31, 30, 31, 31, 30, 31, 30, 31]

/-- A first guess at the year of a day, from the 146097 days of four hundred years. -/
def yearGuess (day : Int) : Int :=
  (day + 719162) * 400 / 146097 + 1

theorem yearGuess_bounds (day : Int) :
    yearStart (yearGuess day - 1) ≤ day ∧ day < yearStart (yearGuess day + 1 + 1) := by
  simp only [yearGuess, yearStart]
  omega

def yearOf (day : Int) : Int :=
  if day < yearStart (yearGuess day) then yearGuess day - 1
  else if yearStart (yearGuess day + 1) ≤ day then yearGuess day + 1
  else yearGuess day

theorem year_bounds (day : Int) :
    yearStart (yearOf day) ≤ day ∧ day < yearStart (yearOf day + 1) := by
  have guess := yearGuess_bounds day
  unfold yearOf
  by_cases early : day < yearStart (yearGuess day)
  · rw [if_pos early, Int.sub_add_cancel]
    exact ⟨guess.1, early⟩
  by_cases late : yearStart (yearGuess day + 1) ≤ day
  · rw [if_neg early, if_pos late]
    exact ⟨late, guess.2⟩
  · rw [if_neg early, if_neg late]
    exact ⟨Int.not_lt.mp early, Int.not_le.mp late⟩

/-- A date: month and day of the month count from one. -/
structure Date where
  year : Int
  month : Nat
  day : Nat
deriving DecidableEq, Repr

namespace Date

def ofNumbers? (year : Int) (month day : Nat) : Option Date :=
  match month with
  | 0 => none
  | m + 1 =>
    match (monthLengths year)[m]? with
    | some length => if 1 ≤ day ∧ day ≤ length then some ⟨year, month, day⟩ else none
    | none => none

def dayNumber (d : Date) : Int :=
  let before : Nat := ((monthLengths d.year).take (d.month - 1)).foldl (· + ·) 0
  yearStart d.year + before + ((d.day : Int) - 1)

def monthAndDay (month dayOfYear : Nat) : List Nat → Nat × Nat
  | [] => (month, dayOfYear + 1)
  | [_] => (month, dayOfYear + 1)
  | length :: rest =>
    if dayOfYear < length then (month, dayOfYear + 1)
    else monthAndDay (month + 1) (dayOfYear - length) rest

def ofDayNumber (n : Int) : Date :=
  let year := yearOf n
  let (month, day) := monthAndDay 1 (n - yearStart year).toNat (monthLengths year)
  ⟨year, month, day⟩

end Date

end DocQuery
