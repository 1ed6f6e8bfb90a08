import FileQuery.Proofs.Calendar.Order
import FileQuery.Proofs.Filter.DateOperand

/-!
# The forms of a date literal

No text is a literal in two of the three forms, so they can be tried in any order. A date alone
leaves nothing behind it in which a time could stand. A signed text is no date: its sign is taken
for the one of the year, and behind the digits of the year stand digits only where a date has a
hyphen.

A number therefore denotes itself in every zone, and a date never falls back to a number. Where the
zone skips its wall time a date is invalid, but for one second of some gaps: the first one, if
clocks go forward before they go back in the year. That second is read with the standard offset, as
an instant that shows another wall time.
-/

namespace FileQuery

open Calendar Decimal

/-- Attempts of which at most one succeeds can be made in any order. -/
theorem findSome?_eq_of_perm {α β : Type} {attempt : α → Option β} {order order' : List α}
    (perm : order.Perm order')
    (apart : order.Pairwise fun x y => attempt x = none ∨ attempt y = none) :
    order.findSome? attempt = order'.findSome? attempt := by
  induction perm with
  | nil => rfl
  | cons x perm ih =>
      rw [List.findSome?_cons, List.findSome?_cons, ih (List.pairwise_cons.1 apart).2]
  | swap x y order =>
      have one := (List.pairwise_cons.1 apart).1 x List.mem_cons_self
      rw [List.findSome?_cons, List.findSome?_cons, List.findSome?_cons, List.findSome?_cons]
      rcases one with fails | fails
      · rw [fails]
      · rw [fails]
  | trans perm perm' ih ih' =>
      rw [ih apart, ih' (perm.pairwise apart Or.symm)]

namespace Calendar.DateLiteral

variable {text rest : List Char}

theorem readDate?_eq_some_iff {wall : WallTime} :
    readDate? text = some wall ↔ ∃ date, takeDate? text = some (date, []) ∧ wall = { date } := by
  rw [readDate?, Option.bind_eq_bind, Option.bind_eq_some_iff]
  constructor
  · rintro ⟨⟨date, rest⟩, taken, reads⟩
    cases rest with
    | nil => exact ⟨date, taken, (Option.some.inj reads).symm⟩
    | cons c rest => cases reads
  · rintro ⟨date, taken, rfl⟩
    exact ⟨(date, []), taken, rfl⟩

theorem readDateTime?_of_takeDate?_eq_none (noDate : takeDate? text = none) :
    readDateTime? text = none := by
  rw [readDateTime?, noDate]
  rfl

theorem readDate?_of_takeDate?_eq_none (noDate : takeDate? text = none) :
    readDate? text = none := by
  rw [readDate?, noDate]
  rfl

/-- Behind a date alone there is no hour. -/
theorem readDateTime?_of_readDate? {wall : WallTime} (reads : readDate? text = some wall) :
    readDateTime? text = none := by
  rcases readDate?_eq_some_iff.1 reads with ⟨date, taken, -⟩
  rw [readDateTime?, taken]
  rfl

/-- Behind a number taken off a run of digits stand digits only. -/
theorem isDigit_of_takeNumber? {digits : List Char} {width : Option Nat} {year : Int}
    (sign : Nat → Int) (numeral : IsNumeral digits)
    (taken : ((takeNumber? width digits).map fun (n, rest) => (sign n, rest)) =
      some (year, rest)) : ∀ c ∈ rest, c.isDigit = true := by
  rcases Option.map_eq_some_iff.1 taken with ⟨⟨n, after⟩, number, pair⟩
  rcases Option.map_eq_some_iff.1 number with ⟨value, -, split⟩
  have rest_eq : rest = digits.drop _ := ((Prod.mk.inj split).2.trans (Prod.mk.inj pair).2).symm
  intro c mem
  rw [rest_eq] at mem
  exact numeral.2 c (List.mem_of_mem_drop mem)

theorem takeYear?_plus (text : List Char) : takeYear? ('+' :: text) =
    (takeNumber? none text).map fun (year, rest) => ((year : Int), rest) := rfl

theorem takeYear?_minus (text : List Char) : takeYear? ('-' :: text) =
    (takeNumber? none text).map fun (year, rest) => (-(year : Int), rest) := rfl

/-- The year at the front of a signed text ends within its digits, or with them. -/
theorem takeYear?_of_signedText {number year : Int} (signed : SignedText text number)
    (taken : takeYear? text = some (year, rest)) : ∀ c ∈ rest, c.isDigit = true := by
  cases signed with
  | bare numeral =>
      have unsigned : takeYear? (text ++ []) = _ :=
        takeYear?_of_digits numeral.1 (List.all_eq_true.2 numeral.2)
      rw [List.append_nil] at unsigned
      rw [unsigned] at taken
      exact isDigit_of_takeNumber? (fun n => n) numeral taken
  | plus numeral =>
      rw [takeYear?_plus] at taken
      exact isDigit_of_takeNumber? (fun n => n) numeral taken
  | minus numeral =>
      rw [takeYear?_minus] at taken
      exact isDigit_of_takeNumber? (fun n => -n) numeral taken

theorem takeNextPart?_of_digits {separator : Char} (ends : separator.isDigit = false)
    (digits : ∀ c ∈ rest, c.isDigit = true) : takeNextPart? separator rest = none := by
  cases rest with
  | nil => rfl
  | cons c rest =>
      rw [takeNextPart?, if_neg]
      rintro rfl
      rw [digits c List.mem_cons_self] at ends
      cases ends

/-- A signed text has no hyphen behind its year. -/
theorem takeDate?_of_signedText {number : Int} (signed : SignedText text number) :
    takeDate? text = none := by
  rw [takeDate?, Option.bind_eq_bind, Option.bind_eq_none_iff]
  rintro ⟨year, rest⟩ taken
  have noMonth : takeNextPart? '-' rest = none :=
    takeNextPart?_of_digits (by decide) (takeYear?_of_signedText signed taken)
  simp only [noMonth]
  rfl

/-- The forms of a literal, in the order in which they are tried. -/
def forms : List (List Char → Option DateLiteral) :=
  [fun text => (readDateTime? text).map .wall, fun text => (readDate? text).map .wall,
    fun text => (readInt64? text).map .instant]

theorem findSome?_forms (text : List Char) :
    forms.findSome? (fun read => read text) = ofChars? text := by
  unfold ofChars?
  cases timed : readDateTime? text with
  | some wall => simp [forms, timed]
  | none =>
      cases untimed : readDate? text with
      | some wall => simp [forms, timed, untimed]
      | none => simp [forms, timed, untimed]

theorem readInt64?_of_takeDate? {taken : Date × List Char} (date : takeDate? text = some taken) :
    readInt64? text = none := by
  rw [readInt64?_eq_none_iff]
  rintro ⟨number, signed, -⟩
  rw [takeDate?_of_signedText signed] at date
  cases date

theorem exists_takeDate?_of_wall {wall : WallTime}
    (reads : readDateTime? text = some wall ∨ readDate? text = some wall) :
    ∃ taken, takeDate? text = some taken := by
  rw [← Option.isSome_iff_exists, ← Option.ne_none_iff_isSome]
  intro noDate
  rw [readDateTime?_of_takeDate?_eq_none noDate, readDate?_of_takeDate?_eq_none noDate] at reads
  rcases reads with reads | reads
  · cases reads
  · cases reads

/-- Of any two forms, the text is not in one. -/
theorem forms_pairwise (text : List Char) :
    forms.Pairwise fun read read' => read text = none ∨ read' text = none := by
  have apart : readDateTime? text = none ∨ readDate? text = none := by
    cases untimed : readDate? text with
    | none => exact Or.inr rfl
    | some wall => exact Or.inl (readDateTime?_of_readDate? untimed)
  have notNumber : ∀ {wall : WallTime},
      readDateTime? text = some wall ∨ readDate? text = some wall → readInt64? text = none := by
    intro wall reads
    rcases exists_takeDate?_of_wall reads with ⟨taken, date⟩
    exact readInt64?_of_takeDate? date
  simp only [forms, List.pairwise_cons, List.mem_cons, List.not_mem_nil, or_false,
    forall_eq_or_imp, forall_eq, Option.map_eq_none_iff, false_implies, implies_true,
    List.Pairwise.nil, and_true]
  refine ⟨⟨apart, ?_⟩, ?_⟩
  · cases timed : readDateTime? text with
    | none => exact Or.inl rfl
    | some wall => exact Or.inr (notNumber (Or.inl timed))
  · cases untimed : readDate? text with
    | none => exact Or.inl rfl
    | some wall => exact Or.inr (notNumber (Or.inr untimed))

variable {wall : WallTime}

theorem isValid_of_writtenDateTime? (written : writtenDateTime? text = some wall) :
    wall.date.isValid = true := by
  simp only [writtenDateTime?, Option.bind_eq_bind, Option.bind_eq_some_iff, Prod.exists,
    Option.ite_none_right_eq_some, Option.some.injEq] at written
  rcases written with ⟨date, _, taken, _, _, -, _, _, -, _, _, -, -, rfl⟩
  exact isValid_of_takeDate?_eq_some taken

/-- A text that is read as a wall time names a day of the calendar, in range, and a time on it. -/
theorem onClock_and_isValid_of_wall
    (reads : readDateTime? text = some wall ∨ readDate? text = some wall) :
    wall.OnClock ∧ wall.date.isValid = true := by
  rcases reads with timed | untimed
  · rw [readDateTime?_eq] at timed
    rcases Option.map_eq_some_iff.1 timed with ⟨written, isWritten, rfl⟩
    have valid := isValid_of_writtenDateTime? isWritten
    exact ⟨writtenDateTime?_eq_some isWritten, valid⟩
  · rcases readDate?_eq_some_iff.1 untimed with ⟨date, taken, rfl⟩
    exact ⟨(readDate?_eq_some untimed).2, isValid_of_takeDate?_eq_some taken⟩

end Calendar.DateLiteral

namespace Calendar.Zone

variable {zone : Zone}

/-- The wall time does not exist in the zone: no instant shows it. -/
def Skips (zone : Zone) (wall : Int) : Prop :=
  ∀ instant, zone.wallSeconds instant ≠ wall

/-- The second at which clocks go forward is read as an instant of its own year. -/
theorem yearStart_le_of_goesForwardAt (regular : zone.Regular) {wall : Int}
    (goesForward : zone.goesForwardAt wall = true) :
    yearStart (yearOf wall) ≤ wall - zone.standard ∧
      wall - zone.standard < yearStart (yearOf wall + 1) := by
  simp only [goesForwardAt, Option.any_eq_true, decide_eq_true_eq] at goesForward
  rcases goesForward with ⟨daylight, changes, starts, -⟩
  have season := (regular.daylight daylight changes).1.season (yearOf wall)
  have standard_gt := regular.standard_gt
  have standard_lt := regular.standard_lt
  omega

/-- Where the zone skips a wall time, its literal has no instant, or that with the standard offset
if clocks go forward at the wall time. -/
theorem literal_instant?_of_skips (regular : zone.Regular) {wall : WallTime}
    (onClock : wall.OnClock) (valid : wall.date.isValid = true)
    (skips : zone.Skips wall.toSeconds) :
    (DateLiteral.wall wall).instant? zone =
      if zone.goesForwardAt wall.toSeconds then some (wall.toSeconds - zone.standard)
      else none := by
  rw [DateLiteral.instant?, instant?_of_not_shown regular skips]
  cases goesForward : zone.goesForwardAt wall.toSeconds with
  | false => rfl
  | true =>
      rcases Date.isValid_iff.1 valid with ⟨lower, upper, -⟩
      have bounds := yearStart_le_of_goesForwardAt regular goesForward
      rw [onClock.yearOf_toSeconds] at bounds
      have first : DateLiteral.minInstant = yearStart Date.minYear := by decide
      have last : DateLiteral.maxInstant + 1 = yearStart (Date.maxYear + 1) := by decide
      have starts := yearStart_mono lower
      have ends := yearStart_mono (Int.add_le_add_right upper 1)
      rw [if_pos rfl, Option.filter_some, if_pos]
      rw [decide_eq_true_eq]
      omega

end Calendar.Zone

section Operand

open DateLiteral

variable {text : String}

theorem dateOperand_of_readInt64? {number : Int} (reads : readInt64? text.toList = some number)
    (zone : Zone) (field : Field) : dateOperand zone field text = .ok number := by
  have noDate : takeDate? text.toList = none :=
    takeDate?_of_signedText (readInt64?_eq_some_iff.1 reads).1
  rw [dateOperand, ofChars?, readDateTime?_of_takeDate?_eq_none noDate,
    readDate?_of_takeDate?_eq_none noDate, reads]
  rfl

theorem ofChars?_of_wall {chars : List Char} {wall : WallTime}
    (reads : readDateTime? chars = some wall ∨ readDate? chars = some wall) :
    ofChars? chars = some (.wall wall) := by
  rcases reads with timed | untimed
  · rw [ofChars?, timed]
  · rw [ofChars?, readDateTime?_of_readDate? untimed, untimed]

theorem dateOperand_of_skips {wall : WallTime}
    (reads : readDateTime? text.toList = some wall ∨ readDate? text.toList = some wall)
    {zone : Zone} (regular : zone.Regular) (skips : zone.Skips wall.toSeconds) (field : Field) :
    dateOperand zone field text =
      if zone.goesForwardAt wall.toSeconds then .ok (wall.toSeconds - zone.standard)
      else .error (.invalidDate field text) := by
  rcases onClock_and_isValid_of_wall reads with ⟨onClock, valid⟩
  rw [dateOperand, ofChars?_of_wall reads, Option.bind_some,
    Zone.literal_instant?_of_skips regular onClock valid skips]
  cases zone.goesForwardAt wall.toSeconds with
  | true => rfl
  | false => rfl

/-- Whatever the text, it is a literal in one form at most, and the order in which the forms are
tried does not matter. The text of a number denotes that instant in every zone. The text of a date
is no number. Where a regular zone skips its wall time it is an invalid date exactly if clocks do
not go forward at this very time in a year in which they go back later. -/
theorem date_forms_disjoint (text : String) :
    (forms.Pairwise fun read read' => read text.toList = none ∨ read' text.toList = none) ∧
    (∀ order : List (List Char → Option DateLiteral), order.Perm forms →
      order.findSome? (fun read => read text.toList) = ofChars? text.toList) ∧
    (∀ number, SignedText text.toList number → minInt64 ≤ number → number ≤ maxInt64 →
      ∀ zone field, dateOperand zone field text = .ok number) ∧
    (∀ wall, readDateTime? text.toList = some wall ∨ readDate? text.toList = some wall →
      ¬IsInt64Text text.toList ∧
      ∀ (zone : Zone) (field : Field), zone.Regular → zone.Skips wall.toSeconds →
        dateOperand zone field text =
          if zone.goesForwardAt wall.toSeconds then .ok (wall.toSeconds - zone.standard)
          else .error (.invalidDate field text)) := by
  refine ⟨forms_pairwise text.toList, ?_, ?_, ?_⟩
  · intro order perm
    have apart := perm.symm.pairwise (forms_pairwise text.toList) Or.symm
    rw [findSome?_eq_of_perm perm apart, findSome?_forms]
  · intro number signed lower upper zone field
    exact dateOperand_of_readInt64? (readInt64?_eq_some_iff.2 ⟨signed, lower, upper⟩) zone field
  · intro wall reads
    rcases exists_takeDate?_of_wall reads with ⟨taken, date⟩
    refine ⟨readInt64?_eq_none_iff.1 (readInt64?_of_takeDate? date), ?_⟩
    intro zone field regular skips
    exact dateOperand_of_skips reads regular skips field

/-- Half an hour into the gap of New York. -/
def halfPastTwo : WallTime where
  date := { year := 2024, month := 3, day := 10 }
  hour := 2
  minute := 30

/-- The first second of the gap of New York. -/
def twoOClock : WallTime where
  date := { year := 2024, month := 3, day := 10 }
  hour := 2

theorem newYork_skips_halfPastTwo : newYork.Skips halfPastTwo.toSeconds := by
  intro instant shown
  rcases Zone.exists_instant?_eq_some newYork_isCommon.regular shown with ⟨latest, reads, -⟩
  have unread : newYork.instant? halfPastTwo.toSeconds = none := by cbv
  rw [unread] at reads
  cases reads

theorem newYork_skips_twoOClock : newYork.Skips twoOClock.toSeconds :=
  Zone.not_shown_of_goesForwardAt newYork_isCommon.regular (by cbv)

theorem date_forms_disjoint_number_and_gap :
    (forms.reverse.findSome? (fun read => read "-20240310".toList) =
      ofChars? "-20240310".toList) ∧
    (SignedText "-20240310".toList (-20240310) ∧
      dateOperand newYork .modified "-20240310" = .ok (-20240310)) ∧
    newYork.Regular ∧
    (readDateTime? "2024-3-10 2:30:00".toList = some halfPastTwo ∧
      newYork.Skips halfPastTwo.toSeconds ∧
      dateOperand newYork .modified "2024-3-10 2:30:00" =
        .error (.invalidDate .modified "2024-3-10 2:30:00")) ∧
    (readDateTime? "2024-03-10 02:00:00".toList = some twoOClock ∧
      newYork.Skips twoOClock.toSeconds ∧
      dateOperand newYork .modified "2024-03-10 02:00:00" = .ok 1710054000) := by
  have signed : SignedText "-20240310".toList (-20240310) := readInt?_eq_some_iff.1 (by cbv)
  have inGap : readDateTime? "2024-3-10 2:30:00".toList = some halfPastTwo := by cbv
  have atGap : readDateTime? "2024-03-10 02:00:00".toList = some twoOClock := by cbv
  have regular := newYork_isCommon.regular
  rcases date_forms_disjoint "-20240310" with ⟨-, anyOrder, number, -⟩
  rcases date_forms_disjoint "2024-3-10 2:30:00" with ⟨-, -, -, within⟩
  rcases date_forms_disjoint "2024-03-10 02:00:00" with ⟨-, -, -, first⟩
  have stays : newYork.goesForwardAt halfPastTwo.toSeconds = false := by cbv
  have goesForward : newYork.goesForwardAt twoOClock.toSeconds = true := by cbv
  refine ⟨anyOrder forms.reverse (List.reverse_perm forms),
    ⟨signed, number _ signed (by decide) (by decide) newYork .modified⟩, regular,
    ⟨inGap, newYork_skips_halfPastTwo, ?_⟩, atGap, newYork_skips_twoOClock, ?_⟩
  · rw [(within halfPastTwo (Or.inl inGap)).2 newYork .modified regular newYork_skips_halfPastTwo,
      stays]
    rfl
  · rw [(first twoOClock (Or.inl atGap)).2 newYork .modified regular newYork_skips_twoOClock,
      goesForward]
    rfl

/-- A date is not always invalid where its wall time is skipped. -/
theorem not_forall_dateOperand_skipped_eq_error :
    ¬∀ (zone : Zone) (field : Field) (text : String) (wall : WallTime), zone.IsCommon →
      (readDateTime? text.toList = some wall ∨ readDate? text.toList = some wall) →
      zone.Skips wall.toSeconds →
      dateOperand zone field text = .error (.invalidDate field text) := by
  intro invalid
  have reads : readDateTime? "2024-03-10 02:00:00".toList = some twoOClock := by cbv
  have answer : dateOperand newYork .modified "2024-03-10 02:00:00" = .ok 1710054000 := by cbv
  have error := invalid newYork .modified "2024-03-10 02:00:00" twoOClock newYork_isCommon
    (Or.inl reads) newYork_skips_twoOClock
  rw [answer] at error
  cases error

end Operand

end FileQuery
