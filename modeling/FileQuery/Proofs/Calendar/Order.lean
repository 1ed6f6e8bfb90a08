import FileQuery.Proofs.Calendar.Timestamp

/-!
# The order of wall times

Wall times are compared by their numbers, from the year down to the second, and their seconds are
in the same order. Reading them in a zone keeps that order within a year and from one year to the
next: after the gap in which clocks go forward the instants go on where they stopped before it,
and where clocks go back they jump ahead.

A sixtieth second that a literal is written with comes after the second before it, although both
are read as one. The literals are therefore compared as they are written.
-/

namespace FileQuery.Calendar

/-- The numbers of a date, which are compared from the year down. -/
def Date.numbers (date : Date) : ℤ ×ₗ ℕ ×ₗ ℕ :=
  toLex (date.year, toLex (date.month, date.day))

theorem Date.numbers_inj {date date' : Date} : date.numbers = date'.numbers ↔ date = date' := by
  rcases date with ⟨year, month, day⟩
  rcases date' with ⟨year', month', day'⟩
  simp [numbers]

theorem Date.OnCalendar.toDays_lt {date date' : Date} (onCalendar : date.OnCalendar)
    (onCalendar' : date'.OnCalendar) (before : date.numbers < date'.numbers) :
    date.toDays < date'.toDays := by
  have inYear := onCalendar.dayOfYear_bounds
  have inYear' := onCalendar'.dayOfYear_bounds
  have next := daysBeforeYear_add_one date.year
  simp only [numbers, Prod.Lex.toLex_lt_toLex] at before
  simp only [toDays_eq]
  rcases before with earlier | ⟨year, earlier | ⟨month, earlier⟩⟩
  · have := daysBeforeYear_mono (Int.add_one_le_iff.2 earlier)
    omega
  · rw [← year]
    have month_ends := daysBeforeMonth_add_one date.year onCalendar.month_pos
    have := daysBeforeMonth_mono date.year (by omega)
      (show date.month + 1 ≤ date'.month from earlier)
    have day_le := onCalendar.day_le
    have day_pos' := onCalendar'.day_pos
    omega
  · rw [← year, ← month]
    omega

namespace WallTime

/-- The numbers of a wall time, which are compared from the year down to the second. -/
def numbers (wall : WallTime) : (ℤ ×ₗ ℕ ×ₗ ℕ) ×ₗ ℕ ×ₗ ℕ ×ₗ ℕ :=
  toLex (wall.date.numbers, toLex (wall.hour, toLex (wall.minute, wall.second)))

/-- The wall time with the last second of its minute in place of a sixtieth. -/
def clamped (wall : WallTime) : WallTime :=
  { wall with second := min wall.second 59 }

theorem toSeconds_clamped_le {wall wall' : WallTime} (onClock : wall.clamped.OnClock)
    (onClock' : wall'.clamped.OnClock) (notAfter : wall.numbers ≤ wall'.numbers) :
    wall.clamped.toSeconds ≤ wall'.clamped.toSeconds := by
  rcases onClock with ⟨onCalendar, hour_le, minute_le, second_le⟩
  rcases onClock' with ⟨onCalendar', hour_le', minute_le', second_le'⟩
  simp only [numbers, Prod.Lex.toLex_le_toLex] at notAfter
  simp only [clamped] at *
  simp only [toSeconds_eq]
  rcases notAfter with earlier | ⟨same, clock⟩
  · have := onCalendar.toDays_lt onCalendar' earlier
    omega
  · rw [Date.numbers_inj.1 same]
    omega

end WallTime

namespace Zone

theorem yearOf_mono {wall wall' : Int} (le : wall ≤ wall') : yearOf wall ≤ yearOf wall' := by
  by_contra! later
  have ends' := (yearStart_yearOf wall').2
  have starts := (yearStart_yearOf wall).1
  have between := yearStart_mono (Int.add_one_le_iff.2 later)
  omega

section Changes

variable {zone : Zone} {daylight : Daylight} {wall wall' instant instant' : Int}

theorem instant?_le_of_yearOf_eq (changes : zone.daylight = some daylight)
    (regular : daylight.Regular zone.standard) (same : yearOf wall = yearOf wall')
    (le : wall ≤ wall') (reads : zone.instant? wall = some instant)
    (reads' : zone.instant? wall' = some instant') : instant ≤ instant' := by
  have ahead := regular.ahead
  have season := regular.season (yearOf wall)
  rw [instant?_eq changes regular] at reads reads'
  rw [← same] at reads'
  grind

/-- The changes keep weeks away from the ends of their years, and at the end of a year and at the
start of the next the same offset is in force. -/
theorem instant?_le_of_yearOf_lt (changes : zone.daylight = some daylight)
    (regular : daylight.Regular zone.standard) (earlier : yearOf wall < yearOf wall')
    (reads : zone.instant? wall = some instant) (reads' : zone.instant? wall' = some instant') :
    instant ≤ instant' := by
  have ahead := regular.ahead
  have lt_day := regular.lt_day
  have ends := (yearStart_yearOf wall).2
  have starts' := (yearStart_yearOf wall').1
  have between := yearStart_mono (Int.add_one_le_iff.2 earlier)
  rw [instant?_eq changes regular] at reads reads'
  rcases regular.apart with northern | southern
  · have season := regular.start.wall_apart regular.finish northern (yearOf wall)
    have season' := regular.start.wall_apart regular.finish northern (yearOf wall')
    rw [if_pos (by omega)] at reads reads'
    grind
  · have season := regular.finish.wall_apart regular.start southern (yearOf wall)
    have season' := regular.finish.wall_apart regular.start southern (yearOf wall')
    rw [if_neg (by omega)] at reads reads'
    grind

end Changes

/-- A wall time that is not after another is not read as a later instant. -/
theorem Regular.instant?_mono {zone : Zone} (regular : zone.Regular)
    {wall wall' instant instant' : Int} (le : wall ≤ wall')
    (reads : zone.instant? wall = some instant) (reads' : zone.instant? wall' = some instant') :
    instant ≤ instant' := by
  cases changes : zone.daylight with
  | none =>
      rw [instant?_of_unchanged changes] at reads reads'
      cases reads
      cases reads'
      exact Int.sub_le_sub_right le zone.standard
  | some daylight =>
      have regularDaylight := (regular.daylight daylight changes).1
      rcases (yearOf_mono le).lt_or_eq with earlier | same
      · exact instant?_le_of_yearOf_lt changes regularDaylight earlier reads reads'
      · exact instant?_le_of_yearOf_eq changes regularDaylight same le reads reads'

end Zone

namespace DateLiteral

/-- The date and the time that a literal is written with, a sixtieth second included. -/
def writtenDateTime? (text : List Char) : Option WallTime := do
  let (date, text) ← takeDate? text
  let (hour, text) ← takePart? text
  let (minute, text) ← takeNextPart? ':' text
  let (second, text) ← takeNextPart? ':' text
  if text.isEmpty ∧ hour ≤ 23 ∧ minute ≤ 59 ∧ second ≤ 60 then
    some { date, hour, minute, second }
  else
    none

/-- The wall time that a literal is written with: a date with a time, or a date alone, which stands
for its midnight. -/
def written? (text : List Char) : Option WallTime :=
  (writtenDateTime? text).or (readDate? text)

theorem isValid_of_takeDate?_eq_some {text rest : List Char} {date : Date}
    (taken : takeDate? text = some (date, rest)) : date.isValid = true := by
  simp only [takeDate?, Option.bind_eq_bind, Option.bind_eq_some_iff, Prod.exists,
    Option.ite_none_right_eq_some, Option.some.injEq, Prod.mk.injEq] at taken
  rcases taken with ⟨year, _, -, month, _, -, day, _, -, valid, rfl, -⟩
  exact valid

theorem readDateTime?_eq (text : List Char) :
    readDateTime? text = (writtenDateTime? text).map WallTime.clamped := by
  simp only [readDateTime?, writtenDateTime?, Option.bind_eq_bind, Option.map_bind,
    Function.comp_def, apply_ite (Option.map WallTime.clamped), Option.map_some, Option.map_none,
    WallTime.clamped]

theorem writtenDateTime?_eq_some {text : List Char} {wall : WallTime}
    (written : writtenDateTime? text = some wall) : wall.clamped.OnClock := by
  simp only [writtenDateTime?, Option.bind_eq_bind, Option.bind_eq_some_iff, Prod.exists,
    Option.ite_none_right_eq_some, Option.some.injEq] at written
  rcases written with ⟨date, _, dateTaken, hour, _, -, minute, _, -, second, _, -,
    ⟨-, hour_le, minute_le, -⟩, rfl⟩
  have onCalendar := (Date.isValid_iff.1 (isValid_of_takeDate?_eq_some dateTaken)).2.2
  exact ⟨onCalendar, hour_le, minute_le, min_le_right second 59⟩

theorem readDate?_eq_some {text : List Char} {wall : WallTime}
    (read : readDate? text = some wall) : wall.clamped = wall ∧ wall.OnClock := by
  simp only [readDate?, Option.bind_eq_bind, Option.bind_eq_some_iff, Prod.exists,
    Option.ite_none_right_eq_some, Option.some.injEq] at read
  rcases read with ⟨date, rest, taken, -, rfl⟩
  have onCalendar := (Date.isValid_iff.1 (isValid_of_takeDate?_eq_some taken)).2.2
  exact ⟨rfl, onCalendar, by simp, by simp, by simp⟩

theorem onClock_of_written?_eq_some {text : List Char} {wall : WallTime}
    (written : written? text = some wall) : wall.clamped.OnClock := by
  rcases Option.or_eq_some_iff.1 written with dateTime | ⟨-, date⟩
  · exact writtenDateTime?_eq_some dateTime
  · rcases readDate?_eq_some date with ⟨same, onClock⟩
    rw [same]
    exact onClock

/-- The literals that are read as wall times are those that are written with one. -/
theorem ofChars?_eq (text : List Char) :
    ofChars? text = ((written? text).map fun wall => DateLiteral.wall wall.clamped).or
      ((Decimal.readInt64? text).map .instant) := by
  rw [ofChars?, readDateTime?_eq, written?]
  cases writtenDateTime? text with
  | some wall => rfl
  | none =>
      cases read : readDate? text with
      | none => rfl
      | some wall => simp [(readDate?_eq_some read).1]

/-- Of two literals with wall times that a zone accepts, the one that is not written with a later
time does not denote a later instant. -/
theorem instant_le_of_written {zone : Zone} (regular : zone.Regular) {text text' : List Char}
    {wall wall' : WallTime} {instant instant' : Int} (written : written? text = some wall)
    (written' : written? text' = some wall') (notAfter : wall.numbers ≤ wall'.numbers)
    (denotes : (ofChars? text).bind (instant? zone) = some instant)
    (denotes' : (ofChars? text').bind (instant? zone) = some instant') : instant ≤ instant' := by
  simp only [ofChars?_eq, written, written', Option.map_some, Option.some_or,
    Option.bind_some, instant?, Option.filter_eq_some_iff] at denotes denotes'
  have le := WallTime.toSeconds_clamped_le (onClock_of_written?_eq_some written)
    (onClock_of_written?_eq_some written') notAfter
  exact regular.instant?_mono le denotes.1 denotes'.1

end DateLiteral

end FileQuery.Calendar
