import FileQuery.Filter.Comparison
import FileQuery.Proofs.Calendar.Timestamp

/-!
# Timestamps as date operands

A date operand in the form of a timestamp denotes an instant that is rendered as it, if there is
one. Where clocks go back a time is shown twice and the operand denotes the later instant. Where
they go forward the times in the gap are no dates, but for the first second of the gap in zones in
which clocks go forward before they go back: it is read with the standard offset.
-/

namespace FileQuery

open Calendar

/-- A wall time as an operand, in the form of a timestamp. -/
def Calendar.WallTime.literal (wall : WallTime) : String :=
  String.ofList wall.renderChars

/-- The operand is the earliest instant that is rendered as the literal, or an invalid date if
none is. -/
def IsEarliest (zone : Zone) (field : Field) (literal : String) : Except EvalError Int → Prop
  | .ok instant => IsLeast {shown | zone.render shown = literal} instant
  | .error error =>
      error = .invalidDate field literal ∧ ∀ instant, zone.render instant ≠ literal

section Literal

variable {zone : Zone} {wall : WallTime}

theorem render_eq_literal_iff (onClock : wall.OnClock) {instant : Int} :
    zone.render instant = wall.literal ↔ zone.wallSeconds instant = wall.toSeconds := by
  rw [Zone.render, WallTime.literal, String.ofList_inj, Zone.renderChars_eq_iff onClock]

variable (regular : zone.Regular) (onClock : wall.OnClock) (lower : -262142 ≤ wall.date.year)
  (upper : wall.date.year ≤ 262141) (field : Field)
include regular onClock lower upper

theorem dateOperand_literal :
    dateOperand zone field wall.literal =
      match zone.instant? wall.toSeconds with
      | some instant => .ok instant
      | none => .error (.invalidDate field wall.literal) := by
  rewrite [dateOperand, WallTime.literal, String.toList_ofList,
    DateLiteral.ofChars?_renderChars_bind_instant? onClock lower upper regular]
  cases zone.instant? wall.toSeconds with
  | none => rfl
  | some instant => rfl

/-- The operand is the latest of the instants that are rendered as it. -/
theorem dateOperand_literal_of_shown {instant : Int}
    (shown : zone.render instant = wall.literal) :
    ∃ latest, dateOperand zone field wall.literal = .ok latest ∧
      IsGreatest {other | zone.render other = wall.literal} latest := by
  rw [render_eq_literal_iff onClock] at shown
  rcases Zone.exists_instant?_eq_some regular shown with ⟨latest, reads, shows, isLast⟩
  refine ⟨latest, ?_, (render_eq_literal_iff onClock).2 shows, ?_⟩
  · rw [dateOperand_literal regular onClock lower upper, reads]
  · intro other shownOther
    exact isLast other ((render_eq_literal_iff onClock).1 shownOther)

theorem dateOperand_literal_of_not_shown
    (notShown : ∀ instant, zone.render instant ≠ wall.literal) :
    dateOperand zone field wall.literal =
      if zone.goesForwardAt wall.toSeconds then .ok (wall.toSeconds - zone.standard)
      else .error (.invalidDate field wall.literal) := by
  rw [dateOperand_literal regular onClock lower upper, Zone.instant?_of_not_shown regular
    (fun instant shown => notShown instant ((render_eq_literal_iff onClock).2 shown))]
  cases zone.goesForwardAt wall.toSeconds with
  | true => rfl
  | false => rfl

theorem isEarliest_dateOperand_iff :
    IsEarliest zone field wall.literal (dateOperand zone field wall.literal) ↔
      {instant | zone.render instant = wall.literal}.Subsingleton ∧
        ¬zone.goesForwardAt wall.toSeconds = true := by
  by_cases shown : ∃ instant, zone.render instant = wall.literal
  · rcases shown with ⟨instant, shown⟩
    rcases dateOperand_literal_of_shown regular onClock lower upper field shown with
      ⟨latest, reads, shows, isLast⟩
    have notForward : ¬zone.goesForwardAt wall.toSeconds = true := fun goesForward =>
      Zone.not_shown_of_goesForwardAt regular goesForward instant
        ((render_eq_literal_iff onClock).1 shown)
    rw [reads, and_iff_left notForward]
    constructor
    · rintro ⟨-, isFirst⟩ other shownOther another shownAnother
      have other_eq := le_antisymm (isLast shownOther) (isFirst shownOther)
      have another_eq := le_antisymm (isLast shownAnother) (isFirst shownAnother)
      rw [other_eq, another_eq]
    · intro unique
      exact ⟨shows, fun other shownOther => (unique shows shownOther).le⟩
  · push Not at shown
    have none : {instant | zone.render instant = wall.literal} = ∅ :=
      Set.eq_empty_iff_forall_notMem.2 shown
    rw [dateOperand_literal_of_not_shown regular onClock lower upper field shown, none,
      and_iff_right Set.subsingleton_empty]
    cases zone.goesForwardAt wall.toSeconds with
    | true =>
        rw [if_pos rfl, IsEarliest, none]
        exact iff_of_false (fun least => least.1) (by simp)
    | false => simp [IsEarliest, shown]

end Literal

/-- How a wall time is read as an operand: as the latest instant that shows it, and as an invalid
date if none does, but for the second at which clocks go forward. It is the earliest instant, or
an invalid date, exactly if the time is not shown twice and is not that second. -/
theorem dateOperand_literal_eq_latest {zone : Zone} (common : zone.IsCommon) {wall : WallTime}
    (onClock : wall.OnClock) (lower : -262142 ≤ wall.date.year) (upper : wall.date.year ≤ 262141)
    (field : Field) :
    (∀ instant, zone.render instant = wall.literal →
      ∃ latest, dateOperand zone field wall.literal = .ok latest ∧
        IsGreatest {other | zone.render other = wall.literal} latest) ∧
    ((∀ instant, zone.render instant ≠ wall.literal) →
      dateOperand zone field wall.literal =
        if zone.goesForwardAt wall.toSeconds then .ok (wall.toSeconds - zone.standard)
        else .error (.invalidDate field wall.literal)) ∧
    (IsEarliest zone field wall.literal (dateOperand zone field wall.literal) ↔
      {instant | zone.render instant = wall.literal}.Subsingleton ∧
        ¬zone.goesForwardAt wall.toSeconds = true) :=
  ⟨fun _ => dateOperand_literal_of_shown common.regular onClock lower upper field,
    dateOperand_literal_of_not_shown common.regular onClock lower upper field,
    isEarliest_dateOperand_iff common.regular onClock lower upper field⟩

/-- The clocks of New York go back one hour at two o'clock on the first Sunday of November. -/
def newYork : Zone where
  standard := -18000
  daylight := some { offset := -14400, start := ⟨3, 2, 0, 7200⟩, finish := ⟨11, 1, 0, 7200⟩ }

/-- A time that is shown twice in New York, in daylight saving time and an hour later. -/
def halfPastOne : WallTime where
  date := { year := 2024, month := 11, day := 3 }
  hour := 1
  minute := 30

theorem newYork_isCommon : newYork.IsCommon :=
  ⟨"EST5EDT,M3.2.0,M11.1.0", by decide, by cbv⟩

theorem halfPastOne_onClock : halfPastOne.OnClock :=
  ⟨⟨by decide, by decide, by decide, by decide⟩, by decide, by decide, by decide⟩

theorem render_newYork_in_daylight : newYork.render 1730611800 = halfPastOne.literal := by
  cbv

theorem dateOperand_halfPastOne_eq_latest :
    newYork.IsCommon ∧ halfPastOne.OnClock ∧ -262142 ≤ halfPastOne.date.year ∧
      halfPastOne.date.year ≤ 262141 ∧ newYork.render 1730611800 = halfPastOne.literal ∧
      ∃ latest, dateOperand newYork .modified halfPastOne.literal = .ok latest ∧
        IsGreatest {other | newYork.render other = halfPastOne.literal} latest :=
  ⟨newYork_isCommon, halfPastOne_onClock, by decide, by decide, render_newYork_in_daylight,
    (dateOperand_literal_eq_latest newYork_isCommon halfPastOne_onClock (by decide) (by decide)
      .modified).1 1730611800 render_newYork_in_daylight⟩

theorem not_forall_isEarliest_dateOperand :
    ¬∀ (zone : Zone) (wall : WallTime) (field : Field), zone.IsCommon → wall.OnClock →
      -262142 ≤ wall.date.year → wall.date.year ≤ 262141 →
        IsEarliest zone field wall.literal (dateOperand zone field wall.literal) := by
  intro earliest
  have reads : dateOperand newYork .modified halfPastOne.literal = .ok 1730615400 := by cbv
  have isFirst := earliest newYork halfPastOne .modified newYork_isCommon halfPastOne_onClock
    (by decide) (by decide)
  rw [reads] at isFirst
  exact absurd (isFirst.2 render_newYork_in_daylight) (by decide)

/-- A rendered instant is an operand that denotes an instant with the same rendering. -/
theorem exists_dateOperand_render_eq_ok {zone : Zone} (common : zone.IsCommon) {instant : Int}
    (lower : -262142 ≤ Zone.yearOf (zone.wallSeconds instant))
    (upper : Zone.yearOf (zone.wallSeconds instant) ≤ 262141) (field : Field) :
    ∃ back, dateOperand zone field (zone.render instant) = .ok back ∧
      zone.render back = zone.render instant ∧
      ((∀ other, zone.render other = zone.render instant → other = instant) → back = instant) := by
  have onClock := (WallTime.ofSeconds_spec (zone.wallSeconds instant)).1
  rcases dateOperand_literal_of_shown common.regular onClock lower upper field rfl with
    ⟨back, reads, shows, -⟩
  exact ⟨back, reads, shows, fun unique => unique back shows⟩

theorem exists_dateOperand_render_eq_ok_of_year_before_zero :
    newYork.IsCommon ∧ Zone.yearOf (newYork.wallSeconds (-62180000000)) = -1 ∧
      ∃ back, dateOperand newYork .modified (newYork.render (-62180000000)) = .ok back ∧
        newYork.render back = newYork.render (-62180000000) ∧
        ((∀ other, newYork.render other = newYork.render (-62180000000) →
          other = -62180000000) → back = -62180000000) := by
  have year : Zone.yearOf (newYork.wallSeconds (-62180000000)) = -1 := by decide
  exact ⟨newYork_isCommon, year,
    exists_dateOperand_render_eq_ok newYork_isCommon (by rw [year]; decide) (by rw [year]; decide)
      .modified⟩

example : newYork.render (-62180000000) = "-0001-08-05 21:46:40" := by
  cbv

end FileQuery
