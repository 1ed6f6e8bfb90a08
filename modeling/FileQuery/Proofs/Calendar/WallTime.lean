import FileQuery.Calendar.Zone
import FileQuery.Proofs.Calendar.Date

/-!
# Wall times and seconds

A wall time on the clock and its number of seconds determine each other. The year of a number of
seconds is the one in which it falls between the first second and the first second of the next
year.
-/

namespace FileQuery.Calendar

namespace WallTime

/-- The calendar has the date and the clock shows the time. -/
structure OnClock (wall : WallTime) : Prop where
  date : wall.date.OnCalendar
  hour_le : wall.hour ≤ 23
  minute_le : wall.minute ≤ 59
  second_le : wall.second ≤ 59

theorem toSeconds_eq (wall : WallTime) :
    wall.toSeconds = wall.date.toDays * 86400 +
      ((wall.hour : Int) * 3600 + wall.minute * 60 + wall.second) := by
  simp [toSeconds, secondsPerDay]

/-- A wall time is found back from its number of seconds. -/
theorem ofSeconds_toSeconds {wall : WallTime} (onClock : wall.OnClock) :
    ofSeconds wall.toSeconds = wall := by
  rcases onClock with ⟨date, hour_le, minute_le, second_le⟩
  have days : wall.toSeconds / secondsPerDay = wall.date.toDays := by
    rw [toSeconds_eq, secondsPerDay]
    omega
  have inDay : (wall.toSeconds % secondsPerDay).toNat =
      wall.hour * 3600 + wall.minute * 60 + wall.second := by
    rw [toSeconds_eq, secondsPerDay]
    omega
  have hour : (wall.hour * 3600 + wall.minute * 60 + wall.second) / 3600 = wall.hour := by omega
  have minute : (wall.hour * 3600 + wall.minute * 60 + wall.second) % 3600 / 60 =
      wall.minute := by omega
  have second : (wall.hour * 3600 + wall.minute * 60 + wall.second) % 60 = wall.second := by omega
  simp only [ofSeconds, days, inDay, Date.ofDays_toDays date, hour, minute, second]

/-- Every second has a wall time, which is found by its number. -/
theorem ofSeconds_spec (seconds : Int) :
    (ofSeconds seconds).OnClock ∧ (ofSeconds seconds).toSeconds = seconds := by
  rcases Date.ofDays_spec (seconds / secondsPerDay) with ⟨onCalendar, days⟩
  have inDay_lt : (seconds % secondsPerDay).toNat < 86400 := by
    rw [secondsPerDay]
    omega
  constructor
  · refine ⟨onCalendar, ?_, ?_, ?_⟩
    · simp only [ofSeconds]
      omega
    · simp only [ofSeconds]
      omega
    · simp only [ofSeconds]
      omega
  · rw [toSeconds_eq]
    simp only [ofSeconds, days]
    rw [secondsPerDay] at *
    omega

end WallTime

/-- The first second of a month of a year. -/
def monthStart (year : Int) (month : Nat) : Int :=
  (daysBeforeYear year + daysBeforeMonth year month - daysBeforeEpoch) * 86400

/-- The first second of a year. -/
def yearStart (year : Int) : Int :=
  monthStart year 1

theorem monthStart_thirteen (year : Int) : monthStart year 13 = yearStart (year + 1) := by
  simp only [yearStart, monthStart, daysBeforeMonth_one, daysBeforeMonth_thirteen,
    daysBeforeYear_add_one]
  omega

/-- A month has at least 28 days. -/
theorem monthStart_add_one_ge (year : Int) {month : Nat} (started : 1 ≤ month) :
    monthStart year month + 28 * 86400 ≤ monthStart year (month + 1) := by
  have bounds := daysInMonth_bounds year month
  simp only [monthStart, daysBeforeMonth_add_one year started]
  omega

theorem monthStart_mono (year : Int) {month month' : Nat} (started : 1 ≤ month)
    (le : month ≤ month') : monthStart year month ≤ monthStart year month' := by
  have := daysBeforeMonth_mono year started le
  simp only [monthStart]
  omega

theorem yearStart_mono {year year' : Int} (le : year ≤ year') :
    yearStart year ≤ yearStart year' := by
  have := daysBeforeYear_mono le
  simp only [yearStart, monthStart, daysBeforeMonth_one]
  omega

/-- A year has at least 365 days. -/
theorem yearStart_add_one_ge (year : Int) :
    yearStart year + 365 * 86400 ≤ yearStart (year + 1) := by
  have bounds := daysInYear_bounds year
  simp only [yearStart, monthStart, daysBeforeMonth_one, daysBeforeYear_add_one]
  omega

theorem Zone.yearStart_yearOf (wall : Int) :
    yearStart (yearOf wall) ≤ wall ∧ wall < yearStart (yearOf wall + 1) := by
  have year : yearOf wall = Date.yearOfDay (wall / 86400 + daysBeforeEpoch) := rfl
  have bounds := daysBeforeYear_yearOfDay (wall / 86400 + daysBeforeEpoch)
  rw [← year] at bounds
  simp only [yearStart, monthStart, daysBeforeMonth_one]
  omega

/-- A second falls in a year if it is between the starts of that year and of the next. -/
theorem Zone.yearOf_eq {wall year : Int} (starts : yearStart year ≤ wall)
    (ends : wall < yearStart (year + 1)) : yearOf wall = year := by
  have year_eq : yearOf wall = Date.yearOfDay (wall / 86400 + daysBeforeEpoch) := rfl
  rw [year_eq]
  simp only [yearStart, monthStart, daysBeforeMonth_one] at starts ends
  apply yearOfDay_eq
  · omega
  · omega

theorem WallTime.OnClock.yearOf_toSeconds {wall : WallTime} (onClock : wall.OnClock) :
    Zone.yearOf wall.toSeconds = wall.date.year := by
  rw [Zone.yearOf, ofSeconds_toSeconds onClock]

end FileQuery.Calendar
