import FileQuery.Calendar.ZoneText
import FileQuery.Proofs.Calendar.WallTime

/-!
# Instants and wall times of a zone

An instant shows one wall time, and a wall time is shown by at most two instants, its readings
with the two offsets of the zone. Which of them show it, and which of them is taken for it, are
compared by the rules of one year, that of the wall time. This needs rules that keep away from
each other and from the ends of the year, where an instant and its wall time may lie in different
years.
-/

namespace FileQuery.Calendar

namespace YearlyRule

/-- The rule names a week of a month in the middle of the year and a time of the day. -/
@[mk_iff]
structure InYear (rule : YearlyRule) : Prop where
  month_ge : 2 ≤ rule.month
  month_le : rule.month ≤ 11
  week_pos : 1 ≤ rule.week
  week_le : rule.week ≤ 5
  time_nonneg : 0 ≤ rule.time
  time_lt : rule.time < 86400

instance (rule : YearlyRule) : Decidable rule.InYear :=
  decidable_of_iff' _ (inYear_iff rule)

/-- A rule falls in its month. -/
theorem InYear.wall_bounds {rule : YearlyRule} (inYear : rule.InYear) (year : Int) :
    monthStart year rule.month ≤ rule.wall year ∧
      rule.wall year < monthStart year (rule.month + 1) := by
  rcases inYear with ⟨month_ge, -, week_pos, week_le, time_nonneg, time_lt⟩
  have first : Date.toDays { year, month := rule.month, day := 1 } =
      daysBeforeYear year + daysBeforeMonth year rule.month - daysBeforeEpoch := by
    simp [Date.toDays_eq]
  have month_ends := daysInMonth_bounds year rule.month
  simp only [wall, day, secondsPerDay, monthStart, first,
    daysBeforeMonth_add_one year (show 1 ≤ rule.month by omega)]
  split
  · omega
  · omega

/-- Two rules whose months are not neighbours fall weeks apart and weeks from the ends of the
year. -/
theorem InYear.wall_apart {rule rule' : YearlyRule} (inYear : rule.InYear)
    (inYear' : rule'.InYear) (apart : rule.month + 1 < rule'.month) (year : Int) :
    yearStart year + 28 * 86400 ≤ rule.wall year ∧
      rule.wall year + 28 * 86400 ≤ rule'.wall year ∧
      rule'.wall year + 28 * 86400 ≤ yearStart (year + 1) := by
  have bounds := inYear.wall_bounds year
  have bounds' := inYear'.wall_bounds year
  have month_ge := inYear.month_ge
  have month_le' := inYear'.month_le
  have second := monthStart_mono year (by omega) month_ge
  have january : yearStart year + 28 * 86400 ≤ monthStart year 2 :=
    monthStart_add_one_ge year le_rfl
  have between := monthStart_add_one_ge year (show 1 ≤ rule.month + 1 by omega)
  have later := monthStart_mono year (by omega) (show rule.month + 1 + 1 ≤ rule'.month by omega)
  have last := monthStart_mono year (by omega) (show rule'.month + 1 ≤ 12 by omega)
  have december := monthStart_add_one_ge year (show 1 ≤ 12 by omega)
  rw [monthStart_thirteen] at december
  omega

end YearlyRule

/-- Daylight saving time that is ahead of the standard offset by less than a day and starts and
ends in months that are not neighbours. -/
@[mk_iff]
structure Daylight.Regular (standard : Int) (daylight : Daylight) : Prop where
  start : daylight.start.InYear
  finish : daylight.finish.InYear
  apart : daylight.start.month + 1 < daylight.finish.month ∨
    daylight.finish.month + 1 < daylight.start.month
  ahead : standard < daylight.offset
  lt_day : daylight.offset - standard < 86400

instance (standard : Int) (daylight : Daylight) : Decidable (daylight.Regular standard) :=
  decidable_of_iff' _ (Daylight.regular_iff standard daylight)

/-- A zone in which the two ways between instants and wall time fit together: its offsets are less
than a day and its daylight saving time is regular. -/
structure Zone.Regular (zone : Zone) : Prop where
  standard_gt : -86400 < zone.standard
  standard_lt : zone.standard < 86400
  daylight : ∀ daylight, zone.daylight = some daylight →
    daylight.Regular zone.standard ∧ daylight.offset < 86400

namespace Daylight

variable {standard : Int} {daylight : Daylight}

/-- What the rules of a year say: daylight saving time lies inside the year or around its ends. -/
theorem Regular.season (regular : daylight.Regular standard) (year : Int) :
    (yearStart year + 28 * 86400 ≤ daylight.start.wall year ∧
        daylight.start.wall year + 28 * 86400 ≤ daylight.finish.wall year ∧
        daylight.finish.wall year + 28 * 86400 ≤ yearStart (year + 1)) ∨
      (yearStart year + 28 * 86400 ≤ daylight.finish.wall year ∧
        daylight.finish.wall year + 28 * 86400 ≤ daylight.start.wall year ∧
        daylight.start.wall year + 28 * 86400 ≤ yearStart (year + 1)) := by
  rcases regular.apart with northern | southern
  · exact Or.inl (regular.start.wall_apart regular.finish northern year)
  · exact Or.inr (regular.finish.wall_apart regular.start southern year)

end Daylight

namespace Zone

theorem isDaylight_iff {standard : Int} {daylight : Daylight} {instant year : Int}
    (inYear : yearOf (instant + standard) = year) :
    isDaylight standard daylight instant = true ↔
      if daylight.start.wall year < daylight.finish.wall year then
        daylight.start.wall year ≤ instant + standard ∧
          instant + daylight.offset < daylight.finish.wall year
      else
        instant + daylight.offset < daylight.finish.wall year ∨
          daylight.start.wall year ≤ instant + standard := by
  simp only [isDaylight, inYear]
  split
  · simp only [decide_eq_true_eq]
    omega
  · simp only [decide_eq_true_eq]
    omega

/-- An instant that is read with the standard offset is in daylight saving time by the rules of
the wall time's year, moved by the shift at the end. -/
theorem isDaylight_sub_standard_iff {standard : Int} {daylight : Daylight} {wall : Int} :
    isDaylight standard daylight (wall - standard) = true ↔
      if daylight.start.wall (yearOf wall) < daylight.finish.wall (yearOf wall) then
        daylight.start.wall (yearOf wall) ≤ wall ∧
          wall + (daylight.offset - standard) < daylight.finish.wall (yearOf wall)
      else
        wall + (daylight.offset - standard) < daylight.finish.wall (yearOf wall) ∨
          daylight.start.wall (yearOf wall) ≤ wall := by
  rw [isDaylight_iff (by rw [Int.sub_add_cancel])]
  split
  · omega
  · omega

/-- An instant that is read with the daylight offset is in daylight saving time by the rules of
the wall time's year, moved by the shift at the start. The rules of the year before say the same
in the first hours of a year. -/
theorem isDaylight_sub_offset_iff {standard : Int} {daylight : Daylight}
    (regular : daylight.Regular standard) {wall : Int} :
    isDaylight standard daylight (wall - daylight.offset) = true ↔
      if daylight.start.wall (yearOf wall) < daylight.finish.wall (yearOf wall) then
        daylight.start.wall (yearOf wall) + (daylight.offset - standard) ≤ wall ∧
          wall < daylight.finish.wall (yearOf wall)
      else
        wall < daylight.finish.wall (yearOf wall) ∨
          daylight.start.wall (yearOf wall) + (daylight.offset - standard) ≤ wall := by
  have season := regular.season (yearOf wall)
  have ahead := regular.ahead
  have lt_day := regular.lt_day
  rcases yearStart_yearOf wall with ⟨starts, ends⟩
  by_cases same : yearStart (yearOf wall) ≤ wall - daylight.offset + standard
  · rw [isDaylight_iff (yearOf_eq same (by omega))]
    split
    · omega
    · omega
  · have before := yearStart_add_one_ge (yearOf wall - 1)
    rw [Int.sub_add_cancel] at before
    rw [isDaylight_iff (show yearOf (wall - daylight.offset + standard) = yearOf wall - 1 from
      yearOf_eq (by omega) (by rw [Int.sub_add_cancel]; omega))]
    rcases regular.apart with northern | southern
    · have now := regular.start.wall_apart regular.finish northern (yearOf wall)
      have past := regular.start.wall_apart regular.finish northern (yearOf wall - 1)
      rw [Int.sub_add_cancel] at past
      rw [if_pos (by omega), if_pos (by omega)]
      omega
    · have now := regular.finish.wall_apart regular.start southern (yearOf wall)
      have past := regular.finish.wall_apart regular.start southern (yearOf wall - 1)
      rw [Int.sub_add_cancel] at past
      rw [if_neg (by omega), if_neg (by omega)]
      omega

/-- The instants that show a wall time are its readings with the two offsets, as far as the rules
of its year allow them. Near the end of daylight saving time both are allowed, and in the gap at
its start none is. -/
theorem wallSeconds_eq_iff {zone : Zone} {daylight : Daylight}
    (changes : zone.daylight = some daylight) (regular : daylight.Regular zone.standard)
    {instant wall : Int} :
    zone.wallSeconds instant = wall ↔
      if daylight.start.wall (yearOf wall) < daylight.finish.wall (yearOf wall) then
        (instant = wall - zone.standard ∧ (wall < daylight.start.wall (yearOf wall) ∨
          daylight.finish.wall (yearOf wall) ≤ wall + (daylight.offset - zone.standard))) ∨
        (instant = wall - daylight.offset ∧
          daylight.start.wall (yearOf wall) + (daylight.offset - zone.standard) ≤ wall ∧
          wall < daylight.finish.wall (yearOf wall))
      else
        (instant = wall - zone.standard ∧ wall < daylight.start.wall (yearOf wall) ∧
          daylight.finish.wall (yearOf wall) ≤ wall + (daylight.offset - zone.standard)) ∨
        (instant = wall - daylight.offset ∧ (wall < daylight.finish.wall (yearOf wall) ∨
          daylight.start.wall (yearOf wall) + (daylight.offset - zone.standard) ≤ wall)) := by
  have readings : zone.wallSeconds instant = wall ↔
      (instant = wall - zone.standard ∧
          ¬isDaylight zone.standard daylight (wall - zone.standard) = true) ∨
        (instant = wall - daylight.offset ∧
          isDaylight zone.standard daylight (wall - daylight.offset) = true) := by
    simp only [wallSeconds, offsetAt, changes]
    constructor
    · rintro rfl
      by_cases inForce : isDaylight zone.standard daylight instant = true
      · exact Or.inr (by simp [inForce])
      · exact Or.inl (by simp [inForce])
    · rintro (⟨rfl, notInForce⟩ | ⟨rfl, inForce⟩)
      · simp [notInForce]
      · simp [inForce]
  rw [readings, isDaylight_sub_standard_iff, isDaylight_sub_offset_iff regular]
  split
  · simp only [not_and_or, not_le, not_lt]
  · simp only [not_or, not_le, not_lt]
    exact or_congr_left (and_congr_right fun _ => and_comm)

theorem wallSeconds_of_unchanged {zone : Zone} (unchanged : zone.daylight = none) (instant : Int) :
    zone.wallSeconds instant = instant + zone.standard := by
  simp [wallSeconds, offsetAt, unchanged]

theorem instant?_of_unchanged {zone : Zone} (unchanged : zone.daylight = none) (wall : Int) :
    zone.instant? wall = some (wall - zone.standard) := by
  simp [instant?, offsetOfWall?, unchanged]

/-- Clocks go forward at the wall time, in a year in which they do so before they go back. -/
def goesForwardAt (zone : Zone) (wall : Int) : Bool :=
  zone.daylight.any fun daylight =>
    daylight.start.wall (yearOf wall) = wall ∧ wall < daylight.finish.wall (yearOf wall)

section Reading

variable {zone : Zone} {daylight : Daylight} {wall : Int}

/-- How a wall time is read, by the rules of its year. -/
theorem instant?_eq (changes : zone.daylight = some daylight)
    (regular : daylight.Regular zone.standard) :
    zone.instant? wall =
      if daylight.start.wall (yearOf wall) < daylight.finish.wall (yearOf wall) then
        if wall ≤ daylight.start.wall (yearOf wall) ∨
            daylight.finish.wall (yearOf wall) ≤ wall + (daylight.offset - zone.standard) then
          some (wall - zone.standard)
        else if wall < daylight.start.wall (yearOf wall) + (daylight.offset - zone.standard) then
          none
        else some (wall - daylight.offset)
      else
        if wall < daylight.start.wall (yearOf wall) ∧
            daylight.finish.wall (yearOf wall) ≤ wall + (daylight.offset - zone.standard) then
          some (wall - zone.standard)
        else if daylight.start.wall (yearOf wall) ≤ wall ∧
            wall < daylight.start.wall (yearOf wall) + (daylight.offset - zone.standard) then
          none
        else some (wall - daylight.offset) := by
  have season := regular.season (yearOf wall)
  have ahead := regular.ahead
  have lt_day := regular.lt_day
  simp only [instant?, offsetOfWall?, changes]
  grind

/-- A wall time that is shown is read as the latest instant that shows it: of its two readings the
one with the standard offset is the later one. -/
theorem exists_instant?_eq_some (regular : zone.Regular) {instant : Int}
    (shown : zone.wallSeconds instant = wall) :
    ∃ latest, zone.instant? wall = some latest ∧ zone.wallSeconds latest = wall ∧
      ∀ other, zone.wallSeconds other = wall → other ≤ latest := by
  cases changes : zone.daylight with
  | none =>
      refine ⟨wall - zone.standard, instant?_of_unchanged changes wall, ?_, ?_⟩
      · rw [wallSeconds_of_unchanged changes, Int.sub_add_cancel]
      · intro other
        rw [wallSeconds_of_unchanged changes]
        omega
  | some daylight =>
      have regularDaylight := (regular.daylight daylight changes).1
      have season := regularDaylight.season (yearOf wall)
      have ahead := regularDaylight.ahead
      have lt_day := regularDaylight.lt_day
      by_cases shownStandard : zone.wallSeconds (wall - zone.standard) = wall
      · refine ⟨wall - zone.standard, ?_, shownStandard, ?_⟩
        · rw [instant?_eq changes regularDaylight]
          rw [wallSeconds_eq_iff changes regularDaylight] at shownStandard
          grind
        · intro other shownOther
          rw [wallSeconds_eq_iff changes regularDaylight] at shownOther
          grind
      · rw [wallSeconds_eq_iff changes regularDaylight] at shown shownStandard
        refine ⟨wall - daylight.offset, ?_, ?_, ?_⟩
        · rw [instant?_eq changes regularDaylight]
          grind
        · rw [wallSeconds_eq_iff changes regularDaylight]
          grind
        · intro other shownOther
          rw [wallSeconds_eq_iff changes regularDaylight] at shownOther
          grind

theorem instant?_of_not_shown (regular : zone.Regular)
    (notShown : ∀ instant, zone.wallSeconds instant ≠ wall) :
    zone.instant? wall =
      if zone.goesForwardAt wall then some (wall - zone.standard) else none := by
  cases changes : zone.daylight with
  | none =>
      refine absurd ?_ (notShown (wall - zone.standard))
      rw [wallSeconds_of_unchanged changes, Int.sub_add_cancel]
  | some daylight =>
      have regularDaylight := (regular.daylight daylight changes).1
      have season := regularDaylight.season (yearOf wall)
      have ahead := regularDaylight.ahead
      have lt_day := regularDaylight.lt_day
      have notStandard := notShown (wall - zone.standard)
      have notDaylight := notShown (wall - daylight.offset)
      rw [ne_eq, wallSeconds_eq_iff changes regularDaylight] at notStandard notDaylight
      simp only [goesForwardAt, changes, Option.any_some, decide_eq_true_eq,
        instant?_eq changes regularDaylight]
      grind

theorem not_shown_of_goesForwardAt (regular : zone.Regular)
    (goesForward : zone.goesForwardAt wall = true) (instant : Int) :
    zone.wallSeconds instant ≠ wall := by
  simp only [goesForwardAt, Option.any_eq_true, decide_eq_true_eq] at goesForward
  rcases goesForward with ⟨daylight, changes, starts, finishes⟩
  have regularDaylight := (regular.daylight daylight changes).1
  have season := regularDaylight.season (yearOf wall)
  have ahead := regularDaylight.ahead
  have lt_day := regularDaylight.lt_day
  rw [ne_eq, wallSeconds_eq_iff changes regularDaylight, if_pos (starts.trans_lt finishes)]
  omega

/-- A wall time is read with an offset of the zone. -/
theorem offsetOfWall?_eq_some {offset : Int} (reads : zone.offsetOfWall? wall = some offset) :
    offset = zone.standard ∨
      ∃ daylight, zone.daylight = some daylight ∧ offset = daylight.offset := by
  simp only [offsetOfWall?] at reads
  cases changes : zone.daylight with
  | none => simp_all
  | some daylight =>
      simp only [changes] at reads
      have offset_eq : offset = zone.standard ∨ offset = daylight.offset := by grind
      exact offset_eq.imp_right fun eq => ⟨daylight, rfl, eq⟩

/-- A wall time is read as an instant less than a day away. -/
theorem Regular.instant?_bounds (regular : zone.Regular) {instant : Int}
    (reads : zone.instant? wall = some instant) :
    wall - 86400 < instant ∧ instant < wall + 86400 := by
  rcases Option.map_eq_some_iff.1 reads with ⟨offset, offset_reads, rfl⟩
  have standard_gt := regular.standard_gt
  have standard_lt := regular.standard_lt
  rcases offsetOfWall?_eq_some offset_reads with rfl | ⟨daylight, changes, rfl⟩
  · omega
  · rcases regular.daylight daylight changes with ⟨regularDaylight, offset_lt⟩
    have ahead := regularDaylight.ahead
    omega

end Reading

/-- Zones east and west of universal time, with and without daylight saving time, with changes in
either order within the year and with offsets and shifts of half hours. -/
def commonTexts : List String :=
  ["UTC0", "EST5EDT,M3.2.0,M11.1.0", "CET-1CEST,M3.5.0,M10.5.0/3", "AEST-10AEDT,M10.1.0,M4.1.0/3",
    "<+1030>-10:30<+11>-11,M10.1.0,M4.1.0", "IST-5:30", "<-0330>3:30"]

/-- The zone is written by one of the texts above. -/
def IsCommon (zone : Zone) : Prop :=
  ∃ text ∈ commonTexts, ofText? text.toList = some zone

theorem regular_of_unchanged {standard : Int} (gt : -86400 < standard) (lt : standard < 86400) :
    Regular { standard } :=
  ⟨gt, lt, by simp⟩

theorem regular_of_daylight {standard : Int} {daylight : Daylight} (gt : -86400 < standard)
    (lt : daylight.offset < 86400) (regular : daylight.Regular standard) :
    Regular { standard, daylight } := by
  refine ⟨gt, regular.ahead.trans lt, ?_⟩
  rintro _ ⟨rfl⟩
  exact ⟨regular, lt⟩

theorem IsCommon.regular {zone : Zone} (common : zone.IsCommon) : zone.Regular := by
  rcases common with ⟨text, member, read⟩
  have texts : commonTexts.map (fun text => ofText? text.toList) =
      [some ⟨0, none⟩,
        some ⟨-18000, some ⟨-14400, ⟨3, 2, 0, 7200⟩, ⟨11, 1, 0, 7200⟩⟩⟩,
        some ⟨3600, some ⟨7200, ⟨3, 5, 0, 7200⟩, ⟨10, 5, 0, 10800⟩⟩⟩,
        some ⟨36000, some ⟨39600, ⟨10, 1, 0, 7200⟩, ⟨4, 1, 0, 10800⟩⟩⟩,
        some ⟨37800, some ⟨39600, ⟨10, 1, 0, 7200⟩, ⟨4, 1, 0, 7200⟩⟩⟩,
        some ⟨19800, none⟩,
        some ⟨-12600, none⟩] := by
    cbv
  have zones := List.mem_map_of_mem (f := fun text => ofText? text.toList) member
  simp only [texts, read, List.mem_cons, Option.some.injEq, List.not_mem_nil, or_false] at zones
  rcases zones with rfl | rfl | rfl | rfl | rfl | rfl | rfl
  · exact regular_of_unchanged (by decide) (by decide)
  · exact regular_of_daylight (by decide) (by decide) (by decide)
  · exact regular_of_daylight (by decide) (by decide) (by decide)
  · exact regular_of_daylight (by decide) (by decide) (by decide)
  · exact regular_of_daylight (by decide) (by decide) (by decide)
  · exact regular_of_unchanged (by decide) (by decide)
  · exact regular_of_unchanged (by decide) (by decide)

end Zone

end FileQuery.Calendar
