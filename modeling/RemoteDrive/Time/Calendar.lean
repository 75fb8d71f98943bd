/-!
# The proleptic Gregorian calendar

Dates are converted to day numbers and back, day zero being the first of January 1970. The leap
rule is extended to all years, before 1582 and before year 1 (which follows year 0).

Both directions rest on one count, `daysBeforeYear`: the days from the start of year 0 to the start
of a year, negative for the years before it. Going back, the year is guessed from the mean length of
a year, 146097 days in 400 years; the guess is off by at most one, because the count never strays
from that mean by more than two days, so `yearOf` looks at the neighbours of the guess. Month
and day are then found by taking whole months off.
-/

set_option autoImplicit false

namespace RemoteDrive

/-- A day of the calendar. -/
structure Date where
  year : Int
  month : Nat
  day : Nat
deriving DecidableEq

namespace Date

/-- Every fourth year has a leap day, but of the full centuries only every fourth. -/
def isLeap (year : Int) : Bool := year % 4 = 0 ∧ (year % 100 ≠ 0 ∨ year % 400 = 0)

/-- The lengths of the months of a year. -/
def monthLengths (leap : Bool) : List Nat :=
  [31, if leap then 29 else 28, 31, 30, 31, 30, 31, 31, 30, 31, 30, 31]

/-- The length of a month, zero for a month that no year has. -/
def monthLength (leap : Bool) (month : Nat) : Nat :=
  if month = 0 then 0 else (monthLengths leap).getD (month - 1) 0

/-- A day that the calendar has. -/
def isValid (d : Date) : Bool :=
  1 ≤ d.month ∧ d.month ≤ 12 ∧ 1 ≤ d.day ∧ d.day ≤ monthLength (isLeap d.year) d.month

/-- The days from the start of year 0 to the start of `year`. -/
def daysBeforeYear (year : Int) : Int :=
  365 * year + (year + 3) / 4 - (year + 99) / 100 + (year + 399) / 400

/-- The days from the start of a year to the start of a month in it. -/
def daysBeforeMonth (leap : Bool) (month : Nat) : Nat :=
  ((monthLengths leap).take (month - 1)).foldr (· + ·) 0

/-- The days from the start of year 0 to the first of January 1970. -/
def epochDays : Int := 719528

/-- The number of a day, counted from the first of January 1970. -/
def dayNumber (d : Date) : Int :=
  daysBeforeYear d.year + daysBeforeMonth (isLeap d.year) d.month + d.day - 1 - epochDays

/-- The year in which the `n`-th day after the start of year 0 lies. -/
def yearOf (n : Int) : Int :=
  let guess := 400 * n / 146097
  if daysBeforeYear (guess + 1) ≤ n then guess + 1
  else if daysBeforeYear guess ≤ n then guess
  else guess - 1

/-- The month and day of the `n`-th day after the start of the first of the months whose lengths are
given, that month being number `month`. -/
def monthAndDay (month n : Nat) : List Nat → Nat × Nat
  | [] => (month, n + 1)
  | length :: rest =>
    if n < length then (month, n + 1) else monthAndDay (month + 1) (n - length) rest

/-- The day with a given number. -/
def ofDayNumber (number : Int) : Date :=
  let n := number + epochDays
  let year := yearOf n
  let (month, day) := monthAndDay 1 (n - daysBeforeYear year).toNat (monthLengths (isLeap year))
  ⟨year, month, day⟩

end Date

end RemoteDrive
