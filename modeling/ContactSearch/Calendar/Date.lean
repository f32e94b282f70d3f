/-!
# Dates

Dates of the Gregorian calendar, carried back to year 1. Dates are counted in days from
0001-01-01, which is day 0, to 9999-12-31.
-/

namespace ContactSearch.Calendar

/-- Every fourth year is a leap year, but of the full centuries only every fourth. -/
def isLeap (year : Nat) : Bool :=
  year % 4 == 0 && (year % 100 != 0 || year % 400 == 0)

/-- The length of a month. -/
def daysInMonth (year month : Nat) : Nat :=
  if month == 2 then (if isLeap year then 29 else 28)
  else if [4, 6, 9, 11].contains month then 30
  else 31

/-- The year, the month and the day name a date of the calendar. -/
def IsDate (year month day : Nat) : Prop :=
  1 ≤ year ∧ year ≤ 9999 ∧ 1 ≤ month ∧ month ≤ 12 ∧ 1 ≤ day ∧ day ≤ daysInMonth year month

instance (year month day : Nat) : Decidable (IsDate year month day) :=
  inferInstanceAs (Decidable (_ ∧ _))

/-- A date of the years 1 to 9999. -/
structure Date where
  year : Nat
  month : Nat
  day : Nat
  isDate : IsDate year month day
deriving DecidableEq

namespace Date

/-- The date of a year, a month and a day. -/
def make? (year month day : Nat) : Option Date :=
  if h : IsDate year month day then some ⟨year, month, day, h⟩ else none

theorem make?_self (d : Date) : make? d.year d.month d.day = some d := by
  simp [make?, d.isDate]

end Date

/-- The number of days before a year. -/
def daysBeforeYear (year : Nat) : Nat :=
  let past := year - 1
  365 * past + past / 4 - past / 100 + past / 400

/-- The number of days of a year before a month. -/
def daysBeforeMonth (year month : Nat) : Nat :=
  (List.range' 1 (month - 1)).foldl (fun days m => days + daysInMonth year m) 0

/-- The number of days from 0001-01-01 to a date. -/
def Date.number (d : Date) : Nat :=
  daysBeforeYear d.year + daysBeforeMonth d.year d.month + (d.day - 1)

/-- The number of days in the calendar. -/
def dayCount : Nat := 3652059

/-- The year that a day lies in and the number of days before it in that year. The last day of a
leap year belongs to no further whole year, and neither does that of a leap century. -/
def yearOfDay (n : Nat) : Nat × Nat :=
  let r := n % 146097
  let centuries := min (r / 36524) 3
  let r := r - 36524 * centuries
  let fours := r / 1461
  let r := r % 1461
  let ones := min (r / 365) 3
  (400 * (n / 146097) + 100 * centuries + 4 * fours + ones + 1, r - 365 * ones)

/-- The month and the day of a day of the year, looked for among these months. -/
def monthOfDay (year : Nat) : List Nat → Nat → Nat × Nat
  | [], n => (12, n + 1)
  | m :: more, n =>
    if n < daysInMonth year m then (m, n + 1) else monthOfDay year more (n - daysInMonth year m)

/-- The date of a day number. -/
def Date.ofNumber? (n : Nat) : Option Date :=
  let (year, n) := yearOfDay n
  let (month, day) := monthOfDay year (List.range' 1 12) n
  Date.make? year month day

end ContactSearch.Calendar
