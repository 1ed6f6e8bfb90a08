import FileQuery.Calendar.Date

/-!
# Time zones

A zone has a standard offset from universal time and, if its clocks change, a second offset with
the two rules of the year that say when it starts and when it ends. A rule names a weekday in a
week of a month and a wall time on it, and the rules hold in every year.

Going from an instant to wall time is a function (`Zone.wallSeconds`). The way back
(`Zone.instant?`) has no answer inside the gap after clocks go forward, and takes standard time
where clocks that go back show a time twice. No instant shows the first second of the gap either,
but it is read as standard time if clocks go forward before they go back in its year.

Wall time is counted in seconds like instants are: from the start of 1970 on the wall.
-/

namespace FileQuery.Calendar

/-- A day of every year, by week and weekday of a month, and a wall time on it in seconds. Week
five is the last of the month, and weekday zero is Sunday. -/
structure YearlyRule where
  month : Nat
  week : Nat
  weekday : Nat
  time : Int := 7200
  deriving DecidableEq, Repr

namespace YearlyRule

/-- The day of a year on which the rule falls, counted from 1 January 1970. -/
def day (rule : YearlyRule) (year : Int) : Int :=
  let first := Date.toDays { year, month := rule.month, day := 1 }
  let sameWeekday := first + ((rule.weekday : Int) - Date.weekday first) % 7
  let candidate := sameWeekday + 7 * ((rule.week : Int) - 1)
  if first + daysInMonth year rule.month ≤ candidate then candidate - 7 else candidate

def wall (rule : YearlyRule) (year : Int) : Int :=
  rule.day year * secondsPerDay + rule.time

end YearlyRule

/-- A second offset with the rules of its start and of its end. -/
structure Daylight where
  offset : Int
  start : YearlyRule
  finish : YearlyRule
  deriving DecidableEq, Repr

/-- A time zone: its standard offset from universal time in seconds, east positive, and its
daylight saving time if it has one. -/
structure Zone where
  standard : Int
  daylight : Option Daylight := none
  deriving DecidableEq, Repr

namespace Zone

def universal : Zone where
  standard := 0

def yearOf (wall : Int) : Int :=
  (WallTime.ofSeconds wall).date.year

/-- Whether daylight saving time is in force at an instant: from the instant at which clocks go
forward up to the one at which they go back. -/
def isDaylight (standard : Int) (daylight : Daylight) (instant : Int) : Bool :=
  let year := yearOf (instant + standard)
  let start := daylight.start.wall year - standard
  let finish := daylight.finish.wall year - daylight.offset
  if daylight.start.wall year < daylight.finish.wall year then
    start ≤ instant ∧ instant < finish
  else
    instant < finish ∨ start ≤ instant

def offsetAt (zone : Zone) (instant : Int) : Int :=
  match zone.daylight with
  | none => zone.standard
  | some daylight =>
      if isDaylight zone.standard daylight instant then daylight.offset else zone.standard

def wallSeconds (zone : Zone) (instant : Int) : Int :=
  instant + zone.offsetAt instant

/-- The offset that a wall time is read with, or none in the gap after clocks go forward. -/
def offsetOfWall? (zone : Zone) (wall : Int) : Option Int :=
  match zone.daylight with
  | none => some zone.standard
  | some daylight =>
      let start := daylight.start.wall (yearOf wall)
      let finish := daylight.finish.wall (yearOf wall)
      let shift := daylight.offset - zone.standard
      if start < finish then
        if wall ≤ start then some zone.standard
        else if wall < start + shift then none
        else if wall < finish - shift then some daylight.offset
        else some zone.standard
      else
        if wall < finish - shift then some daylight.offset
        else if wall < start then some zone.standard
        else if wall < start + shift then none
        else some daylight.offset

def instant? (zone : Zone) (wall : Int) : Option Int :=
  (zone.offsetOfWall? wall).map fun offset => wall - offset

end Zone

end FileQuery.Calendar
