/-!
# Dates of the Gregorian calendar

The Gregorian calendar extended to all years, with a year zero and negative years. A date is
turned into a day number, counted from 1 January 1970, and back. The years are laid out by
`daysBeforeYear`, which counts the days of all years since year one, and a day's year is found
from the mean length of a year and one comparison with each neighbour.
-/

namespace FileQuery.Calendar

/-- Every fourth year is a leap year, except the centuries that 400 does not divide. -/
def isLeapYear (year : Int) : Bool :=
  year % 4 = 0 ∧ (year % 100 ≠ 0 ∨ year % 400 = 0)

def daysInMonth (year : Int) (month : Nat) : Nat :=
  match month with
  | 2 => if isLeapYear year then 29 else 28
  | 4 | 6 | 9 | 11 => 30
  | _ => 31

/-- The number of days from the start of year one to the start of a year. -/
def daysBeforeYear (year : Int) : Int :=
  let past := year - 1
  365 * past + past / 4 - past / 100 + past / 400

/-- The number of days from the start of the year to the start of a month. -/
def daysBeforeMonth (year : Int) (month : Nat) : Nat :=
  (List.range' 1 (month - 1)).foldl (fun days past => days + daysInMonth year past) 0

/-- The number of days from the start of year one to 1 January 1970. -/
def daysBeforeEpoch : Int := 719162

structure Date where
  year : Int
  month : Nat
  day : Nat
  deriving DecidableEq, Repr

namespace Date

def minYear : Int := -262143

def maxYear : Int := 262142

/-- Whether the calendar has the date, within the years that a timestamp can have. -/
def isValid (date : Date) : Bool :=
  minYear ≤ date.year ∧ date.year ≤ maxYear ∧
    1 ≤ date.month ∧ date.month ≤ 12 ∧
    1 ≤ date.day ∧ date.day ≤ daysInMonth date.year date.month

def toDays (date : Date) : Int :=
  daysBeforeYear date.year + daysBeforeMonth date.year date.month + (date.day - 1) -
    daysBeforeEpoch

/-- The year of a day that is counted from the start of year one. -/
def yearOfDay (day : Int) : Int :=
  let guess := 400 * day / 146097 + 1
  if day < daysBeforeYear guess then guess - 1
  else if daysBeforeYear (guess + 1) ≤ day then guess + 1
  else guess

/-- The month of a day that is counted from the start of its year: the number of months that
have started by then. -/
def monthOfDay (year : Int) (day : Int) : Nat :=
  (List.range' 1 12).countP fun month => (daysBeforeMonth year month : Int) ≤ day

def ofDays (days : Int) : Date :=
  let sinceYearOne := days + daysBeforeEpoch
  let year := yearOfDay sinceYearOne
  let inYear := sinceYearOne - daysBeforeYear year
  let month := monthOfDay year inYear
  { year, month, day := (inYear - daysBeforeMonth year month).toNat + 1 }

/-- The day of the week, counted from Sunday; 1 January 1970 was a Thursday. -/
def weekday (days : Int) : Nat :=
  ((days + 4) % 7).toNat

end Date

def secondsPerDay : Int := 86400

structure WallTime where
  date : Date
  hour : Nat := 0
  minute : Nat := 0
  second : Nat := 0
  deriving DecidableEq, Repr

namespace WallTime

/-- The seconds from the start of 1970 to the wall time, as if no clock were ever changed. -/
def toSeconds (wall : WallTime) : Int :=
  wall.date.toDays * secondsPerDay + (wall.hour * 3600 + wall.minute * 60 + wall.second : Nat)

def ofSeconds (seconds : Int) : WallTime :=
  let inDay := (seconds % secondsPerDay).toNat
  { date := Date.ofDays (seconds / secondsPerDay),
    hour := inDay / 3600, minute := inDay % 3600 / 60, second := inDay % 60 }

end WallTime

end FileQuery.Calendar
