import FileQuery.Calendar.Date
import Mathlib

/-!
# Dates and days

A date of the calendar and its day number determine each other. The year of a day is the one
whose first day is not after it and whose next year's first day is, and the month within the year
likewise, so that both are found from bounds without following how they are computed.
-/

namespace FileQuery.Calendar

/-- The number of days from the start of a year to the start of the next. -/
def daysInYear (year : Int) : Nat :=
  if isLeapYear year then 366 else 365

theorem daysBeforeYear_eq (year : Int) :
    daysBeforeYear year =
      365 * (year - 1) + (year - 1) / 4 - (year - 1) / 100 + (year - 1) / 400 := rfl

theorem isLeapYear_iff {year : Int} :
    isLeapYear year = true ↔ year % 4 = 0 ∧ (year % 100 ≠ 0 ∨ year % 400 = 0) := by
  simp [isLeapYear]

theorem daysBeforeYear_add_one (year : Int) :
    daysBeforeYear (year + 1) = daysBeforeYear year + daysInYear year := by
  simp only [daysBeforeYear_eq, daysInYear, isLeapYear_iff]
  split
  · push_cast
    omega
  · push_cast
    omega

theorem daysInYear_bounds (year : Int) : 365 ≤ daysInYear year ∧ daysInYear year ≤ 366 := by
  unfold daysInYear
  split <;> simp

theorem daysBeforeYear_mono {year year' : Int} (le : year ≤ year') :
    daysBeforeYear year ≤ daysBeforeYear year' := by
  simp only [daysBeforeYear_eq]
  omega

theorem daysBeforeYear_yearOfDay (day : Int) :
    daysBeforeYear (Date.yearOfDay day) ≤ day ∧
      day < daysBeforeYear (Date.yearOfDay day + 1) := by
  simp only [Date.yearOfDay]
  split
  · rename_i below
    simp only [daysBeforeYear_eq] at *
    constructor
    · omega
    · omega
  · split
    · simp only [daysBeforeYear_eq] at *
      omega
    · omega

theorem yearOfDay_eq {year day : Int} (starts : daysBeforeYear year ≤ day)
    (ends : day < daysBeforeYear (year + 1)) : Date.yearOfDay day = year := by
  rcases daysBeforeYear_yearOfDay day with ⟨starts', ends'⟩
  rcases lt_trichotomy (Date.yearOfDay day) year with less | equal | greater
  · have := daysBeforeYear_mono (Int.add_one_le_iff.2 less)
    omega
  · exact equal
  · have := daysBeforeYear_mono (Int.add_one_le_iff.2 greater)
    omega

@[simp]
theorem daysBeforeMonth_one (year : Int) : daysBeforeMonth year 1 = 0 := rfl

theorem daysBeforeMonth_add_one (year : Int) {month : Nat} (started : 1 ≤ month) :
    daysBeforeMonth year (month + 1) = daysBeforeMonth year month + daysInMonth year month := by
  rcases Nat.exists_eq_add_of_le started with ⟨past, rfl⟩
  simp [daysBeforeMonth, Nat.add_comm 1 past, List.range'_concat]

theorem daysInMonth_bounds (year : Int) (month : Nat) :
    28 ≤ daysInMonth year month ∧ daysInMonth year month ≤ 31 := by
  unfold daysInMonth
  split
  · split <;> simp
  · simp
  · simp
  · simp
  · simp
  · simp

theorem daysBeforeMonth_mono (year : Int) {month month' : Nat} (started : 1 ≤ month)
    (le : month ≤ month') : daysBeforeMonth year month ≤ daysBeforeMonth year month' := by
  induction month', le using Nat.le_induction with
  | base => exact le_rfl
  | succ month' le ih =>
      rw [daysBeforeMonth_add_one year (started.trans le)]
      omega

/-- Twelve months are a year. -/
theorem daysBeforeMonth_thirteen (year : Int) : daysBeforeMonth year 13 = daysInYear year := by
  cases leap : isLeapYear year <;>
    simp [daysBeforeMonth, List.range', daysInMonth, daysInYear, leap]

/-- The months that have started by a day of a month are those up to it. -/
theorem monthOfDay_eq {year day : Int} {month : Nat} (started : 1 ≤ month) (atMost : month ≤ 12)
    (starts : (daysBeforeMonth year month : Int) ≤ day)
    (ends : day < daysBeforeMonth year (month + 1)) : Date.monthOfDay year day = month := by
  have upTo : ∀ other ∈ List.range' 1 12,
      decide ((daysBeforeMonth year other : Int) ≤ day) = decide (other ≤ month) := by
    intro other member
    have otherStarted : 1 ≤ other := by simp at member; omega
    rw [decide_eq_decide]
    constructor
    · intro before
      by_contra later
      have := daysBeforeMonth_mono year (by omega) (show month + 1 ≤ other by omega)
      omega
    · intro le
      have := daysBeforeMonth_mono year otherStarted le
      omega
  rw [Date.monthOfDay, List.countP_congr (fun other member => by rw [upTo other member])]
  interval_cases month <;> rfl

theorem exists_month {year day : Int} (nonneg : 0 ≤ day) (ends : day < daysInYear year) :
    ∃ month, 1 ≤ month ∧ month ≤ 12 ∧ (daysBeforeMonth year month : Int) ≤ day ∧
      day < daysBeforeMonth year (month + 1) := by
  classical
  have last : day < daysBeforeMonth year (12 + 1) := by
    rw [daysBeforeMonth_thirteen]
    exact ends
  have exists_later : ∃ month, day < daysBeforeMonth year (month + 1) := ⟨12, last⟩
  have found := Nat.find_spec exists_later
  have atMost : Nat.find exists_later ≤ 12 := Nat.find_min' exists_later last
  have earlier : ∀ past < Nat.find exists_later, ¬day < daysBeforeMonth year (past + 1) :=
    fun _ => Nat.find_min exists_later
  cases month : Nat.find exists_later with
  | zero =>
      rw [month] at found
      simp at found
      omega
  | succ past =>
      rw [month] at found atMost
      exact ⟨past + 1, by omega, atMost, not_lt.1 (earlier past (by omega)), found⟩

namespace Date

/-- The calendar has the date. -/
structure OnCalendar (date : Date) : Prop where
  month_pos : 1 ≤ date.month
  month_le : date.month ≤ 12
  day_pos : 1 ≤ date.day
  day_le : date.day ≤ daysInMonth date.year date.month

theorem isValid_iff {date : Date} :
    date.isValid = true ↔ minYear ≤ date.year ∧ date.year ≤ maxYear ∧ date.OnCalendar := by
  simp only [isValid, decide_eq_true_eq]
  constructor
  · rintro ⟨lower, upper, month_pos, month_le, day_pos, day_le⟩
    exact ⟨lower, upper, month_pos, month_le, day_pos, day_le⟩
  · rintro ⟨lower, upper, month_pos, month_le, day_pos, day_le⟩
    exact ⟨lower, upper, month_pos, month_le, day_pos, day_le⟩

theorem toDays_eq (date : Date) :
    date.toDays = daysBeforeYear date.year + daysBeforeMonth date.year date.month +
      (date.day - 1) - daysBeforeEpoch := rfl

/-- The day of the year that a date is, from zero. -/
theorem OnCalendar.dayOfYear_bounds {date : Date} (onCalendar : date.OnCalendar) :
    0 ≤ (daysBeforeMonth date.year date.month : Int) + (date.day - 1) ∧
      (daysBeforeMonth date.year date.month : Int) + (date.day - 1) < daysInYear date.year := by
  have month_le := daysBeforeMonth_mono date.year (by omega)
    (show date.month + 1 ≤ 13 from Nat.succ_le_succ onCalendar.month_le)
  rw [daysBeforeMonth_thirteen, daysBeforeMonth_add_one date.year onCalendar.month_pos] at month_le
  have day_pos := onCalendar.day_pos
  have day_le := onCalendar.day_le
  omega

/-- A date is found back from its day number. -/
theorem ofDays_toDays {date : Date} (onCalendar : date.OnCalendar) : ofDays date.toDays = date := by
  have bounds := onCalendar.dayOfYear_bounds
  have day_pos := onCalendar.day_pos
  have day_le := onCalendar.day_le
  have sinceYearOne : date.toDays + daysBeforeEpoch = daysBeforeYear date.year +
      (daysBeforeMonth date.year date.month + (date.day - 1)) := by
    rw [toDays_eq]
    omega
  have year : yearOfDay (date.toDays + daysBeforeEpoch) = date.year := by
    apply yearOfDay_eq
    · omega
    · rw [daysBeforeYear_add_one]
      omega
  have inYear : date.toDays + daysBeforeEpoch - daysBeforeYear date.year =
      daysBeforeMonth date.year date.month + (date.day - 1) := by omega
  have month : monthOfDay date.year (daysBeforeMonth date.year date.month + (date.day - 1)) =
      date.month := by
    apply monthOfDay_eq onCalendar.month_pos onCalendar.month_le
    · omega
    · rw [daysBeforeMonth_add_one date.year onCalendar.month_pos]
      omega
  have day : ((daysBeforeMonth date.year date.month : Int) + (date.day - 1) -
      daysBeforeMonth date.year date.month).toNat + 1 = date.day := by omega
  simp only [ofDays, year, inYear, month, day]

/-- Every day has a date, which is found by its number. -/
theorem ofDays_spec (days : Int) : (ofDays days).OnCalendar ∧ (ofDays days).toDays = days := by
  rcases daysBeforeYear_yearOfDay (days + daysBeforeEpoch) with ⟨starts, ends⟩
  generalize year_eq : yearOfDay (days + daysBeforeEpoch) = year at starts ends
  generalize day_eq : days + daysBeforeEpoch - daysBeforeYear year = day
  rw [daysBeforeYear_add_one] at ends
  rcases exists_month (show 0 ≤ day by omega) (show day < daysInYear year by omega) with
    ⟨month, month_pos, month_le, monthStarts, monthEnds⟩
  have month_eq : monthOfDay year day = month :=
    monthOfDay_eq month_pos month_le monthStarts monthEnds
  have date_eq : ofDays days =
      { year, month, day := (day - daysBeforeMonth year month).toNat + 1 } := by
    simp only [ofDays, year_eq, day_eq, month_eq]
  rw [daysBeforeMonth_add_one year month_pos] at monthEnds
  rw [date_eq]
  constructor
  · refine ⟨month_pos, month_le, ?_, ?_⟩
    · simp
    · simp only
      omega
  · rw [toDays_eq]
    simp only
    omega

end Date

end FileQuery.Calendar
