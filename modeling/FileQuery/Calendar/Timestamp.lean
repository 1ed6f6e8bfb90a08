import FileQuery.Calendar.Zone
import FileQuery.Text.Blank
import FileQuery.Number.Decimal

/-!
# Timestamps as text

An instant is shown as the wall time of a zone, such as `2024-05-10 12:00:00`. A date literal is
read in one of three forms: a date with a time, a date alone, which means its midnight, or a
number of seconds since the start of 1970. The first two are wall times and denote an instant only
through a zone (`DateLiteral.instant?`).

Numbers of the first two forms are read loosely: spaces may stand before each of them, leading
zeros may be missing, and the space between date and time may be any run of spaces. Nothing may
follow the last number. A sixtieth second is accepted and means the one before.
-/

namespace FileQuery.Calendar

/-- A year as timestamps show it: at least four digits, with a sign below zero and above 9999. -/
def yearText (year : Int) : List Char :=
  if year < 0 then '-' :: Decimal.padded 4 year.natAbs
  else if 9999 < year then '+' :: Decimal.digits year.natAbs
  else Decimal.padded 4 year.natAbs

def Date.renderChars (date : Date) : List Char :=
  yearText date.year ++ '-' :: Decimal.padded 2 date.month ++ '-' :: Decimal.padded 2 date.day

def WallTime.renderChars (wall : WallTime) : List Char :=
  wall.date.renderChars ++ ' ' :: Decimal.padded 2 wall.hour ++
    ':' :: Decimal.padded 2 wall.minute ++ ':' :: Decimal.padded 2 wall.second

/-- An instant in seconds since the start of 1970, as the wall time of a zone. -/
def Zone.renderChars (zone : Zone) (instant : Int) : List Char :=
  (WallTime.ofSeconds (zone.wallSeconds instant)).renderChars

/-- An instant in seconds since the start of 1970, as the wall time of a zone. -/
def Zone.render (zone : Zone) (instant : Int) : String :=
  String.ofList (zone.renderChars instant)

inductive DateLiteral where
  | wall (time : WallTime)
  | instant (seconds : Int)
  deriving DecidableEq, Repr

namespace DateLiteral

/-- Takes a number of at most `width` digits, or of any length without a width, off a text. -/
def takeNumber? (width : Option Nat) (text : List Char) : Option (Nat × List Char) :=
  let run := text.takeWhile Char.isDigit
  let digits := match width with
    | some width => run.take width
    | none => run
  (Decimal.readNat? digits).map (·, text.drop digits.length)

def takePart? (text : List Char) : Option (Nat × List Char) :=
  takeNumber? (some 2) (text.dropWhile Text.isSpace)

/-- Takes spaces and a year off a text: up to four digits, or any number of them after a sign. -/
def takeYear? (text : List Char) : Option (Int × List Char) :=
  match text.dropWhile Text.isSpace with
  | '-' :: rest => (takeNumber? none rest).map fun (year, rest) => (-(year : Int), rest)
  | '+' :: rest => (takeNumber? none rest).map fun (year, rest) => ((year : Int), rest)
  | rest => (takeNumber? (some 4) rest).map fun (year, rest) => ((year : Int), rest)

def takeNextPart? (separator : Char) (text : List Char) : Option (Nat × List Char) :=
  match text with
  | [] => none
  | c :: rest => if c = separator then takePart? rest else none

def takeDate? (text : List Char) : Option (Date × List Char) := do
  let (year, text) ← takeYear? text
  let (month, text) ← takeNextPart? '-' text
  let (day, text) ← takeNextPart? '-' text
  let date : Date := { year, month, day }
  if date.isValid then some (date, text) else none

def readDate? (text : List Char) : Option WallTime := do
  let (date, rest) ← takeDate? text
  if rest.isEmpty then some { date } else none

def readDateTime? (text : List Char) : Option WallTime := do
  let (date, text) ← takeDate? text
  let (hour, text) ← takePart? text
  let (minute, text) ← takeNextPart? ':' text
  let (second, text) ← takeNextPart? ':' text
  if text.isEmpty ∧ hour ≤ 23 ∧ minute ≤ 59 ∧ second ≤ 60 then
    some { date, hour, minute, second := min second 59 }
  else
    none

/-- Reads a literal: a date with a time, else a date alone, else a number of seconds. -/
def ofChars? (text : List Char) : Option DateLiteral :=
  match readDateTime? text with
  | some time => some (.wall time)
  | none =>
      match readDate? text with
      | some time => some (.wall time)
      | none => (Decimal.readInt64? text).map .instant

def minInstant : Int :=
  (WallTime.mk { year := Date.minYear, month := 1, day := 1 } 0 0 0).toSeconds

def maxInstant : Int :=
  (WallTime.mk { year := Date.maxYear, month := 12, day := 31 } 23 59 59).toSeconds

/-- The instant that a literal denotes in a zone, in seconds since the start of 1970. -/
def instant? (zone : Zone) : DateLiteral → Option Int
  | .wall time =>
      (zone.instant? time.toSeconds).filter fun seconds =>
        minInstant ≤ seconds ∧ seconds ≤ maxInstant
  | .instant seconds => some seconds

end DateLiteral

end FileQuery.Calendar
