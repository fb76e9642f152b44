import DocQuery.Time.Calendar
import Mathlib.Algebra.GroupWithZero.Nat

/-!
# Day numbers and dates

The date of a day number is a date of the calendar, and its day number is the one it came from. The
day number of a date of the calendar is that of no other date.
-/

namespace DocQuery

theorem isLeapYear_iff (year : Int) :
    isLeapYear year = true ↔ year % 4 = 0 ∧ (year % 100 ≠ 0 ∨ year % 400 = 0) := by
  simp [isLeapYear]

theorem sum_monthLengths (year : Int) :
    ((monthLengths year).sum : Int) = yearStart (year + 1) - yearStart year := by
  have leap := isLeapYear_iff year
  unfold monthLengths yearStart
  cases h : isLeapYear year with
  | true =>
    rw [h] at leap
    have := leap.mp rfl
    simp only [if_true, List.sum_cons, List.sum_nil]
    omega
  | false =>
    rw [h] at leap
    have : ¬(year % 4 = 0 ∧ (year % 100 ≠ 0 ∨ year % 400 = 0)) := fun m => by
      cases leap.mpr m
    simp only [Bool.false_eq_true, if_false, List.sum_cons, List.sum_nil]
    omega

theorem Date.monthAndDay_eq {lengths : List Nat} {day : Nat} (month : Nat)
    (h : day < lengths.sum) : ∃ i length, lengths[i]? = some length ∧
      (lengths.take i).sum ≤ day ∧ day - (lengths.take i).sum < length ∧
      monthAndDay month day lengths = (month + i, day - (lengths.take i).sum + 1) := by
  induction lengths generalizing month day with
  | nil => simp at h
  | cons first rest ih =>
    rw [List.sum_cons] at h
    cases rest with
    | nil =>
      rw [List.sum_nil, Nat.add_zero] at h
      exact ⟨0, first, rfl, Nat.zero_le _, h, rfl⟩
    | cons second rest =>
      have step : monthAndDay month day (first :: second :: rest) =
          if day < first then (month, day + 1)
          else monthAndDay (month + 1) (day - first) (second :: rest) := rfl
      by_cases early : day < first
      · refine ⟨0, first, rfl, Nat.zero_le _, early, ?_⟩
        rw [step, if_pos early]
        rfl
      · obtain ⟨i, length, found, le, lt, e⟩ := ih (month + 1) (by omega : day - first < _)
        refine ⟨i + 1, length, found, ?_, ?_, ?_⟩
        · rw [List.take_succ_cons, List.sum_cons]
          omega
        · rw [List.take_succ_cons, List.sum_cons]
          omega
        · rw [step, if_neg early, e, List.take_succ_cons, List.sum_cons, Prod.mk.injEq]
          omega

theorem Date.ofNumbers?_ofDayNumber (n : Int) :
    ofNumbers? (ofDayNumber n).year (ofDayNumber n).month (ofDayNumber n).day =
        some (ofDayNumber n) ∧ (ofDayNumber n).dayNumber = n := by
  obtain ⟨start, stop⟩ := year_bounds n
  have length := sum_monthLengths (yearOf n)
  have inYear : (n - yearStart (yearOf n)).toNat < (monthLengths (yearOf n)).sum := by omega
  obtain ⟨i, days, found, le, lt, e⟩ := monthAndDay_eq 1 inYear
  have date : ofDayNumber n = ⟨yearOf n, 1 + i, (n - yearStart (yearOf n)).toNat -
      ((monthLengths (yearOf n)).take i).sum + 1⟩ := by
    unfold ofDayNumber
    simp only [e]
  rw [date]
  constructor
  · unfold ofNumbers?
    rw [Nat.add_comm 1 i]
    simp only [found]
    rw [if_pos ⟨by omega, by omega⟩]
  · unfold dayNumber
    have before : ((monthLengths (yearOf n)).take (1 + i - 1)).foldl (· + ·) 0 =
        ((monthLengths (yearOf n)).take i).sum := by
      rw [Nat.add_sub_cancel_left, List.sum_eq_foldl]
    simp only [before]
    omega

theorem yearStart_le {a b : Int} (h : a ≤ b) : yearStart a ≤ yearStart b := by
  simp only [yearStart]
  omega

theorem yearOf_eq {year day : Int} (start : yearStart year ≤ day)
    (stop : day < yearStart (year + 1)) : yearOf day = year := by
  obtain ⟨start', stop'⟩ := year_bounds day
  apply Int.le_antisymm
  · apply Int.not_lt.mp
    intro later
    have := yearStart_le (Int.add_one_le_of_lt later)
    omega
  · apply Int.not_lt.mp
    intro earlier
    have := yearStart_le (Int.add_one_le_of_lt earlier)
    omega

/-- A day of a month is found after the lengths of the months before it. -/
theorem Date.monthAndDay_of_month {lengths : List Nat} {i length day : Nat} (month : Nat)
    (found : lengths[i]? = some length) (inside : day < length) :
    monthAndDay month ((lengths.take i).sum + day) lengths = (month + i, day + 1) := by
  induction lengths generalizing month i with
  | nil => cases found
  | cons first rest ih =>
    cases rest with
    | nil =>
      cases i with
      | zero => simp [monthAndDay]
      | succ i => simp at found
    | cons second rest =>
      have step (n : Nat) : monthAndDay month n (first :: second :: rest) =
          if n < first then (month, n + 1)
          else monthAndDay (month + 1) (n - first) (second :: rest) := rfl
      cases i with
      | zero =>
        obtain rfl : first = length := Option.some.inj found
        rw [step, if_pos (by simpa using inside)]
        simp
      | succ i =>
        rw [List.take_succ_cons, List.sum_cons, step, if_neg (by omega), Nat.add_assoc,
          Nat.add_sub_cancel_left, ih (month + 1) found]
        simp only [Prod.mk.injEq, and_true]
        omega

namespace Date

/-- A date of the calendar: a month from one to twelve, and a day of that month. -/
structure IsValid (d : Date) : Prop where
  month : 1 ≤ d.month ∧ d.month ≤ 12
  day : 1 ≤ d.day ∧ d.day ≤ (monthLengths d.year).getD (d.month - 1) 0

theorem getElem?_monthLengths (year : Int) {m : Nat} (h : m < 12) :
    (monthLengths year)[m]? = some ((monthLengths year).getD m 0) := by
  have months : (monthLengths year).length = 12 := rfl
  rw [List.getD_eq_getElem?_getD, List.getElem?_eq_getElem (months ▸ h), Option.getD_some]

theorem ofNumbers?_eq_some_iff {year : Int} {month day : Nat} {d : Date} :
    ofNumbers? year month day = some d ↔ d = ⟨year, month, day⟩ ∧ d.IsValid := by
  constructor
  · intro h
    unfold ofNumbers? at h
    split at h
    · cases h
    · next m =>
      split at h
      · next length found =>
        split at h
        · next inMonth =>
          obtain rfl := Option.some.inj h
          have index : m < 12 := (List.getElem?_eq_some_iff.mp found).1
          rw [getElem?_monthLengths year index] at found
          obtain rfl := Option.some.inj found
          exact ⟨rfl, ⟨Nat.le_add_left 1 m, index⟩, inMonth⟩
        · cases h
      · cases h
  · rintro ⟨rfl, ⟨first, last⟩, inMonth⟩
    obtain ⟨m, rfl⟩ := Nat.exists_eq_add_of_le' first
    have index : m < 12 := last
    have inMonth : 1 ≤ day ∧ day ≤ (monthLengths year).getD m 0 := inMonth
    simp only [ofNumbers?, getElem?_monthLengths year index]
    rw [if_pos inMonth]

theorem ofDayNumber_dayNumber {d : Date} (valid : d.IsValid) : ofDayNumber d.dayNumber = d := by
  obtain ⟨year, month, day⟩ := d
  obtain ⟨⟨first, last⟩, some, inMonth⟩ := valid
  obtain ⟨m, rfl⟩ := Nat.exists_eq_add_of_le' first
  obtain ⟨n, rfl⟩ := Nat.exists_eq_add_of_le' some
  have index : m < 12 := last
  have found := getElem?_monthLengths year index
  have inside : n < (monthLengths year).getD m 0 := inMonth
  generalize (monthLengths year).getD m 0 = length at found inside
  -- The month ends with the year or before.
  have within : ((monthLengths year).take m).sum + length ≤ (monthLengths year).sum := by
    have split := congrArg List.sum (List.take_append_drop (m + 1) (monthLengths year))
    rw [List.sum_append, List.take_add_one, found, List.sum_append] at split
    simp only [Option.toList_some, List.sum_singleton] at split
    omega
  have number : dayNumber ⟨year, m + 1, n + 1⟩ =
      yearStart year + (((monthLengths year).take m).sum + n : Nat) := by
    unfold dayNumber
    simp only [Nat.add_sub_cancel, List.sum_eq_foldl]
    omega
  have whole := sum_monthLengths year
  have inYear : yearOf (dayNumber ⟨year, m + 1, n + 1⟩) = year := by
    rw [number]
    exact yearOf_eq (by omega) (by omega)
  have rest : dayNumber ⟨year, m + 1, n + 1⟩ - yearStart year =
      (((monthLengths year).take m).sum + n : Nat) := by
    rw [number]
    omega
  unfold ofDayNumber
  simp only [inYear, rest, Int.toNat_natCast, monthAndDay_of_month 1 found inside,
    Nat.add_comm 1 m]

theorem ofDayNumber_bounds (n : Int) : (ofDayNumber n).month < 100 ∧ (ofDayNumber n).day < 100 := by
  obtain ⟨⟨-, last⟩, -, inMonth⟩ := (ofNumbers?_eq_some_iff.mp (ofNumbers?_ofDayNumber n).1).2
  generalize (ofDayNumber n).month = month at last inMonth
  have short : ∀ m < 12, (monthLengths (ofDayNumber n).year).getD m 0 ≤ 31 := by
    unfold monthLengths
    cases isLeapYear (ofDayNumber n).year <;> decide
  have := short (month - 1) (by omega)
  omega

end Date

end DocQuery
