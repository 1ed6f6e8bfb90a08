import FileQuery.Calendar.Zone
import FileQuery.Number.Decimal

/-!
# Zones as text

The text of a zone is its standard abbreviation and offset, then optionally its daylight
abbreviation and offset and the two rules, as in `CET-1CEST,M3.5.0,M10.5.0/3`. Offsets count
westward in hours, minutes and seconds. The daylight offset is one hour east of the standard one
unless it is given, and a rule falls at two o'clock unless its time is given.
-/

namespace FileQuery.Calendar.Zone

def takeNumber? (text : List Char) : Option (Nat × List Char) :=
  (Decimal.readNat? (text.takeWhile Char.isDigit)).map (·, text.dropWhile Char.isDigit)

/-- Takes an abbreviation off the front of a text: letters, or anything in angle brackets. -/
def takeAbbreviation? (text : List Char) : Option (List Char) :=
  match text with
  | '<' :: rest =>
      match rest.dropWhile (· != '>') with
      | [] => none
      | _ :: rest => some rest
  | _ => if text.head?.any Char.isAlpha then some (text.dropWhile Char.isAlpha) else none

/-- Takes a colon and a number off the front of a text, or nothing, which counts as zero. -/
def takeSixtieths? (text : List Char) : Option (Nat × List Char) :=
  match text with
  | ':' :: rest => takeNumber? rest
  | _ => some (0, text)

/-- Takes hours with optional minutes and seconds off the front of a text, in seconds. -/
def takeTime? (text : List Char) : Option (Int × List Char) := do
  let (sign, text) := match text with
    | '-' :: rest => (-1, rest)
    | '+' :: rest => (1, rest)
    | _ => (1, text)
  let (hours, text) ← takeNumber? text
  let (minutes, text) ← takeSixtieths? text
  let (seconds, text) ← takeSixtieths? text
  some (sign * (hours * 3600 + minutes * 60 + seconds : Nat), text)

def takeRule? (text : List Char) : Option (YearlyRule × List Char) :=
  match text with
  | ',' :: 'M' :: text => do
      let (month, text) ← takeNumber? text
      let '.' :: text := text | none
      let (week, text) ← takeNumber? text
      let '.' :: text := text | none
      let (weekday, text) ← takeNumber? text
      let rule : YearlyRule := { month, week, weekday }
      match text with
      | '/' :: text => do
          let (time, text) ← takeTime? text
          some ({ rule with time }, text)
      | _ => some (rule, text)
  | _ => none

def ofText? (text : List Char) : Option Zone := do
  let text ← takeAbbreviation? text
  let (west, text) ← takeTime? text
  let standard := -west
  if text.isEmpty then
    some { standard }
  else
    let text ← takeAbbreviation? text
    let (offset, text) ←
      if text.head? = some ',' then some (standard + 3600, text)
      else (takeTime? text).map fun (west, text) => (-west, text)
    let (start, text) ← takeRule? text
    let (finish, text) ← takeRule? text
    if text.isEmpty then some { standard, daylight := some { offset, start, finish } } else none

end FileQuery.Calendar.Zone
