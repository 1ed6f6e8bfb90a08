import FileQuery.Calendar.Timestamp
import FileQuery.Proofs.Calendar.Zone
import FileQuery.Proofs.Number.Decimal

/-!
# Timestamps read back

A rendered wall time is a literal that denotes it, for every year that a timestamp can have. Each
number of the text is read to its end whatever follows it: the numbers after the year have two
digits, and the year ends at its hyphen when it has a sign and after four digits otherwise.
-/

namespace FileQuery.Calendar

open Decimal

theorem isSpace_eq_false_of_isDigit {c : Char} (digit : c.isDigit = true) :
    Text.isSpace c = false := by
  simp only [Char.isDigit, Bool.and_eq_true, decide_eq_true_eq] at digit
  have lower : 48 ≤ c.toNat := digit.1
  have upper : c.toNat ≤ 57 := digit.2
  rw [Text.isSpace, List.contains_eq_mem, decide_eq_false_iff_not]
  simp only [Text.spaces, List.mem_cons, List.not_mem_nil, or_false]
  omega

theorem dropWhile_isSpace_of_digits {number rest : List Char} (nonempty : number ≠ [])
    (digits : number.all Char.isDigit = true) :
    (number ++ rest).dropWhile Text.isSpace = number ++ rest := by
  cases number with
  | nil => contradiction
  | cons c number =>
      have first : c.isDigit = true := by simp at digits; exact digits.1
      simp [isSpace_eq_false_of_isDigit first]

namespace DateLiteral

theorem takeNumber?_some_append {number : List Char} {n : Nat}
    (digits : number.all Char.isDigit = true) (value : readNat? number = some n)
    (rest : List Char) : takeNumber? (some number.length) (number ++ rest) = some (n, rest) := by
  have run : ((number ++ rest).takeWhile Char.isDigit).take number.length = number := by
    rw [List.takeWhile_append_of_pos (List.all_eq_true.1 digits), List.take_left]
  simp only [takeNumber?, run, value, Option.map_some, List.drop_left]

theorem takeNumber?_none_append {number : List Char} {n : Nat} {c : Char}
    (digits : number.all Char.isDigit = true) (value : readNat? number = some n)
    (ends : c.isDigit = false) (rest : List Char) :
    takeNumber? none (number ++ c :: rest) = some (n, c :: rest) := by
  have run : (number ++ c :: rest).takeWhile Char.isDigit = number := by
    rw [List.takeWhile_append_of_pos (List.all_eq_true.1 digits)]
    simp [ends]
  simp only [takeNumber?, run, value, Option.map_some, List.drop_left]

theorem takePart?_padded {n : Nat} (small : n < 100) (rest : List Char) :
    takePart? (padded 2 n ++ rest) = some (n, rest) := by
  have two : (padded 2 n).length = 2 := length_padded (by decide) (by omega)
  have read := takeNumber?_some_append (all_isDigit_padded 2 n) (readNat?_padded 2 n) rest
  rw [two] at read
  rw [takePart?, dropWhile_isSpace_of_digits (padded_ne_nil 2 n) (all_isDigit_padded 2 n), read]

theorem takeNextPart?_padded {n : Nat} (small : n < 100) (separator : Char) (rest : List Char) :
    takeNextPart? separator (separator :: (padded 2 n ++ rest)) = some (n, rest) := by
  rw [takeNextPart?, if_pos rfl, takePart?_padded small]

/-- A year without a sign is read from its first four digits. -/
theorem takeYear?_of_digits {number rest : List Char} (nonempty : number ≠ [])
    (digits : number.all Char.isDigit = true) :
    takeYear? (number ++ rest) =
      (takeNumber? (some 4) (number ++ rest)).map fun (year, rest) => ((year : Int), rest) := by
  rw [takeYear?, dropWhile_isSpace_of_digits nonempty digits]
  cases number with
  | nil => contradiction
  | cons c number =>
      have first : c.isDigit = true := by simp at digits; exact digits.1
      simp only [List.cons_append]
      split
      · rename_i minus
        cases minus
        cases first
      · rename_i plus
        cases plus
        cases first
      · rfl

theorem takeYear?_yearText (year : Int) (rest : List Char) :
    takeYear? (yearText year ++ '-' :: rest) = some (year, '-' :: rest) := by
  unfold yearText
  split
  · rename_i negative
    have read := takeNumber?_none_append (all_isDigit_padded 4 year.natAbs)
      (readNat?_padded 4 year.natAbs) (by decide : '-'.isDigit = false) rest
    simp only [takeYear?, List.cons_append, List.dropWhile_cons, Text.isSpace,
      show Text.spaces.contains '-'.toNat = false from rfl, Bool.false_eq_true, if_false, read,
      Option.map_some, Option.some.injEq, Prod.mk.injEq, and_true]
    omega
  · split
    · rename_i nonneg large
      have read := takeNumber?_none_append (all_isDigit_digits year.natAbs)
        (readNat?_digits year.natAbs) (by decide : '-'.isDigit = false) rest
      simp only [takeYear?, List.cons_append, List.dropWhile_cons, Text.isSpace,
        show Text.spaces.contains '+'.toNat = false from rfl, Bool.false_eq_true, if_false, read,
        Option.map_some, Option.some.injEq, Prod.mk.injEq, and_true]
      omega
    · rename_i nonneg small
      have four : (padded 4 year.natAbs).length = 4 := length_padded (by decide) (by omega)
      have read := takeNumber?_some_append (all_isDigit_padded 4 year.natAbs)
        (readNat?_padded 4 year.natAbs) ('-' :: rest)
      rw [four] at read
      rw [takeYear?_of_digits (padded_ne_nil 4 _) (all_isDigit_padded 4 _), read]
      simp only [Option.map_some, Option.some.injEq, Prod.mk.injEq, and_true]
      omega

end DateLiteral

namespace WallTime

theorem renderChars_eq (wall : WallTime) :
    wall.renderChars = yearText wall.date.year ++ '-' :: (padded 2 wall.date.month ++
      '-' :: (padded 2 wall.date.day ++ ' ' :: (padded 2 wall.hour ++
        ':' :: (padded 2 wall.minute ++ ':' :: (padded 2 wall.second ++ []))))) := by
  simp [renderChars, Date.renderChars]

theorem OnClock.two_digits {wall : WallTime} (onClock : wall.OnClock) :
    wall.date.month < 100 ∧ wall.date.day < 100 ∧ wall.hour < 100 ∧ wall.minute < 100 ∧
      wall.second < 100 := by
  rcases onClock with ⟨⟨_, month_le, _, day_le⟩, hour_le, minute_le, second_le⟩
  have := daysInMonth_bounds wall.date.year wall.date.month
  omega

end WallTime

namespace DateLiteral

/-- A rendered wall time is read back. -/
theorem readDateTime?_renderChars {wall : WallTime} (onClock : wall.OnClock)
    (valid : wall.date.isValid = true) : readDateTime? wall.renderChars = some wall := by
  rcases onClock.two_digits with ⟨month, day, hour, minute, second⟩
  rcases onClock with ⟨_, hour_le, minute_le, second_le⟩
  have date : takeDate? wall.renderChars = some (wall.date, ' ' :: (padded 2 wall.hour ++
      ':' :: (padded 2 wall.minute ++ ':' :: (padded 2 wall.second ++ [])))) := by
    rw [WallTime.renderChars_eq]
    simp only [takeDate?, takeYear?_yearText, takeNextPart?_padded month,
      takeNextPart?_padded day, Option.bind_eq_bind, Option.bind_some]
    rw [if_pos valid]
  have hour_read : takePart? (' ' :: (padded 2 wall.hour ++
      ':' :: (padded 2 wall.minute ++ ':' :: (padded 2 wall.second ++ [])))) =
        some (wall.hour, ':' :: (padded 2 wall.minute ++ ':' :: (padded 2 wall.second ++ []))) := by
    rw [← takePart?_padded hour]
    simp [takePart?, Text.isSpace, Text.spaces]
  simp only [readDateTime?, date, hour_read, takeNextPart?_padded minute,
    takeNextPart?_padded second, Option.bind_eq_bind, Option.bind_some]
  rw [if_pos ⟨rfl, hour_le, minute_le, by omega⟩, Nat.min_eq_left second_le]

theorem ofChars?_renderChars {wall : WallTime} (onClock : wall.OnClock)
    (valid : wall.date.isValid = true) : ofChars? wall.renderChars = some (.wall wall) := by
  rw [ofChars?, readDateTime?_renderChars onClock valid]

/-- A number that is read to its end determines the text that it begins. -/
theorem padded_append_inj {n n' : Nat} (small : n < 100) (small' : n' < 100)
    {rest rest' : List Char} :
    padded 2 n ++ rest = padded 2 n' ++ rest' ↔ n = n' ∧ rest = rest' := by
  constructor
  · intro same
    have read := congrArg takePart? same
    rw [takePart?_padded small, takePart?_padded small'] at read
    simpa using read
  · rintro ⟨rfl, rfl⟩
    rfl

theorem yearText_append_inj {year year' : Int} {rest rest' : List Char} :
    yearText year ++ '-' :: rest = yearText year' ++ '-' :: rest' ↔
      year = year' ∧ rest = rest' := by
  constructor
  · intro same
    have read := congrArg takeYear? same
    rw [takeYear?_yearText, takeYear?_yearText] at read
    simpa using read
  · rintro ⟨rfl, rfl⟩
    rfl

end DateLiteral

/-- Two wall times on the clock with one rendering are the same, whatever their years. -/
theorem WallTime.renderChars_inj {wall wall' : WallTime} (onClock : wall.OnClock)
    (onClock' : wall'.OnClock) :
    wall.renderChars = wall'.renderChars ↔ wall = wall' := by
  constructor
  · intro same
    rcases onClock.two_digits with ⟨month, day, hour, minute, second⟩
    rcases onClock'.two_digits with ⟨month', day', hour', minute', second'⟩
    simp only [renderChars_eq, DateLiteral.yearText_append_inj, List.cons.injEq,
      true_and, DateLiteral.padded_append_inj month month', DateLiteral.padded_append_inj day day',
      DateLiteral.padded_append_inj hour hour', DateLiteral.padded_append_inj minute minute',
      DateLiteral.padded_append_inj second second'] at same
    rcases wall with ⟨⟨year, month, day⟩, hour, minute, second⟩
    rcases wall' with ⟨⟨year', month', day'⟩, hour', minute', second'⟩
    simp only at same
    rcases same with ⟨rfl, rfl, rfl, rfl, rfl, rfl, -⟩
    rfl
  · rintro rfl
    rfl

/-- An instant is rendered as a wall time if it shows that time. -/
theorem Zone.renderChars_eq_iff {zone : Zone} {instant : Int} {wall : WallTime}
    (onClock : wall.OnClock) :
    zone.renderChars instant = wall.renderChars ↔ zone.wallSeconds instant = wall.toSeconds := by
  rcases WallTime.ofSeconds_spec (zone.wallSeconds instant) with ⟨shownOnClock, seconds⟩
  rw [renderChars, WallTime.renderChars_inj shownOnClock onClock]
  constructor
  · rintro rfl
    exact seconds.symm
  · intro shown
    rw [shown, WallTime.ofSeconds_toSeconds onClock]

namespace DateLiteral

section InRange

variable {wall : WallTime} (onClock : wall.OnClock) (lower : -262142 ≤ wall.date.year)
  (upper : wall.date.year ≤ 262141)
include onClock lower upper

theorem isValid_of_inRange : wall.date.isValid = true :=
  Date.isValid_iff.2 ⟨by rw [Date.minYear]; omega, by rw [Date.maxYear]; omega, onClock.date⟩

/-- A wall time lies in range by more than a day unless it is in the first or the last year that a
date can have. -/
theorem bounds_of_inRange :
    minInstant + 86400 ≤ wall.toSeconds ∧ wall.toSeconds + 86400 ≤ maxInstant := by
  have inYear := Zone.yearStart_yearOf wall.toSeconds
  rw [onClock.yearOf_toSeconds] at inYear
  have first : minInstant + 86400 ≤ yearStart (-262142) := by decide
  have last : yearStart 262142 + 86400 ≤ maxInstant := by decide
  have starts := yearStart_mono lower
  have ends := yearStart_mono (show wall.date.year + 1 ≤ 262142 by omega)
  omega

/-- The literal of a wall time is read as the zone reads the time. -/
theorem ofChars?_renderChars_bind_instant? {zone : Zone} (regular : zone.Regular) :
    (ofChars? wall.renderChars).bind (instant? zone) = zone.instant? wall.toSeconds := by
  have bounds := bounds_of_inRange onClock lower upper
  rw [ofChars?_renderChars onClock (isValid_of_inRange onClock lower upper), Option.bind_some,
    instant?]
  cases reads : zone.instant? wall.toSeconds with
  | none => rfl
  | some instant =>
      have near := regular.instant?_bounds reads
      rw [Option.filter_some, if_pos]
      rw [decide_eq_true_eq]
      omega

end InRange

end DateLiteral

end FileQuery.Calendar
