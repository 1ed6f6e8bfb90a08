import FileQuery.Query.Basic
import FileQuery.Query.Cursor

/-!
# Reading queries

A query is read from left to right by a cursor. Its fields and its paths are two lists of one
shape: items with any number of blanks and commas around them, up to a keyword or the end. An
`ItemReader` reads one item and is known to consume something wherever an item can start, so
`ItemReader.readList` ends on every input.

A clause is recognized by its keyword alone, and what follows the only condition is an error.
-/

namespace FileQuery

namespace Cursor

/-- A place where an item of a list starts: a character is ahead that separates nothing. -/
def AtItem (cursor : Cursor) : Prop :=
  ∃ c, cursor.peek = some c ∧ Text.isBlank c = false ∧ c ≠ ','

theorem AtItem.atEnd_eq_false {cursor : Cursor} (item : cursor.AtItem) : cursor.atEnd = false := by
  obtain ⟨c, next, -⟩ := item
  obtain ⟨rest, position⟩ := cursor
  cases rest with
  | nil => simp [peek] at next
  | cons => rfl

/-- Reads a text between two equal quotes, without escapes; the opening quote is ahead. -/
def quoted (cursor : Cursor) (quote : Char) : Except ParseError (String × Cursor) := do
  let (_, opened) ← cursor.advance
  let (content, close) := opened.takeWhile fun c => c != quote
  if close.atEnd then
    .error (.unterminatedQuote cursor.position)
  else
    let (_, after) ← close.advance
    .ok (String.ofList content, after)

/-- With the opening quote ahead, what is read is the text up to the next quote. -/
theorem quoted_of_peek {cursor : Cursor} {quote : Char} (opens : cursor.peek = some quote) :
    cursor.quoted quote =
      let (content, close) := cursor.skip.takeWhile fun c => c != quote
      if close.atEnd then .error (.unterminatedQuote cursor.position)
      else .ok (String.ofList content, close.skip) := by
  simp only [quoted, advance_of_peek opens, bind, Except.bind]
  split
  · rfl
  · rename_i more
    obtain ⟨c, next⟩ := exists_peek_of_not_atEnd (Bool.eq_false_iff.2 more)
    rw [advance_of_peek next]

theorem length_rest_quoted_lt {cursor after : Cursor} {quote : Char} {content : String}
    (read : cursor.quoted quote = .ok (content, after)) :
    after.rest.length < cursor.rest.length := by
  unfold quoted at read
  cases advanced : cursor.advance with
  | error failure => simp [advanced, bind, Except.bind] at read
  | ok result =>
    obtain ⟨_, opened⟩ := result
    simp only [advanced, bind, Except.bind] at read
    split at read
    · cases read
    · cases closed : (opened.takeWhile fun c => c != quote).2.advance with
      | error failure => simp [closed] at read
      | ok result =>
        obtain ⟨_, final⟩ := result
        simp only [closed, Except.ok.injEq, Prod.mk.injEq] at read
        have taken := opened.length_rest_takeWhile_le fun c => c != quote
        have started := length_rest_advance_lt advanced
        have ended := length_rest_advance_lt closed
        rw [← read.2]
        omega

def isOperatorSign (c : Char) : Bool :=
  c == '=' || c == '!' || c == '<' || c == '>'

def isFieldCharacter (c : Char) : Bool :=
  !Text.isBlank c && !isOperatorSign c && c != ',' && c != doubleQuote

/-- The field that a word names, or the error that it names none. -/
def namedField (word : String) : Except ParseError Field :=
  match Field.named? word with
  | some field => .ok field
  | none => .error (.unknownField word)

/-- Reads a field: a name in double quotes, a single `*`, or a run of field characters. -/
def field (cursor : Cursor) : Except ParseError (Field × Cursor) :=
  if cursor.peek = some doubleQuote then
    match cursor.quoted doubleQuote with
    | .error failure => .error failure
    | .ok (word, after) => (namedField word).map (·, after)
  else if cursor.peek = some '*' then
    cursor.advance.map fun (_, after) => (.all, after)
  else
    let (word, after) := cursor.takeWhile isFieldCharacter
    (namedField (String.ofList word)).map (·, after)

/-- Reads a path: a text in either kind of quotes, or a run up to a comma or a blank. -/
def path (cursor : Cursor) : Except ParseError (String × Cursor) :=
  if cursor.peek = some doubleQuote then
    cursor.quoted doubleQuote
  else if cursor.peek = some singleQuote then
    cursor.quoted singleQuote
  else
    let (word, after) := cursor.takeWhile fun c => c != ',' && !Text.isBlank c
    .ok (String.ofList word, after)

theorem namedField_empty : namedField "" = .error (.unknownField "") := rfl

/-- Whatever is read as a field was at least one character long. -/
theorem length_rest_field_lt {cursor after : Cursor} {item : Field}
    (read : cursor.field = .ok (item, after)) : after.rest.length < cursor.rest.length := by
  unfold field at read
  split at read
  · cases opened : cursor.quoted doubleQuote with
    | error failure => simp [opened] at read
    | ok result =>
      obtain ⟨word, close⟩ := result
      simp only [opened] at read
      cases found : namedField word <;> simp [found, Except.map] at read
      exact read.2 ▸ length_rest_quoted_lt opened
  · split at read
    · cases advanced : cursor.advance with
      | error failure => simp [advanced, Except.map] at read
      | ok result =>
        simp only [advanced, Except.map, Except.ok.injEq, Prod.mk.injEq] at read
        exact read.2 ▸ length_rest_advance_lt advanced
    · rename_i plain
      by_cases empty : (cursor.takeWhile isFieldCharacter).1 = []
      · simp [empty, namedField_empty, Except.map] at read
      · cases found : namedField (String.ofList (cursor.takeWhile isFieldCharacter).1) <;>
          simp [found, Except.map] at read
        exact read.2 ▸ length_rest_takeWhile_lt empty

theorem length_rest_path_lt {cursor after : Cursor} {item : String} (start : cursor.AtItem)
    (read : cursor.path = .ok (item, after)) : after.rest.length < cursor.rest.length := by
  unfold path at read
  split at read
  · exact length_rest_quoted_lt read
  · split at read
    · exact length_rest_quoted_lt read
    · cases read
      refine length_rest_takeWhile_lt ?_
      obtain ⟨c, next, notBlank, notComma⟩ := start
      obtain ⟨rest, position⟩ := cursor
      cases rest with
      | nil => simp [peek] at next
      | cons head tail =>
        simp only [peek, List.head?_cons, Option.some.injEq] at next
        simp [takeWhile, next, notBlank, notComma]

end Cursor

/-- A reader of list items that consumes something wherever an item can start. -/
structure ItemReader (α : Type) where
  read : Cursor → Except ParseError (α × Cursor)
  consumes : ∀ {cursor after : Cursor} {item : α}, cursor.AtItem →
    read cursor = .ok (item, after) → after.rest.length < cursor.rest.length

namespace ItemReader

inductive Round (α : Type) where
  | leave (cursor : Cursor)
  | separator (cursor : Cursor)
  | item (value : α) (cursor : Cursor)
  | failure (error : ParseError)

variable {α : Type}

/-- Skips blanks, then leaves the list, passes a comma or reads an item. -/
def round (reader : ItemReader α) (leaves : Cursor → Bool) (cursor : Cursor) : Round α :=
  let start := cursor.skipBlanks
  if start.atEnd || leaves start then
    .leave start
  else if start.peek = some ',' then
    match start.advance with
    | .error error => .failure error
    | .ok (_, after) => .separator after
  else
    match reader.read start with
    | .error error => .failure error
    | .ok (value, after) => .item value after

theorem length_rest_lt_of_round_eq_separator {reader : ItemReader α} {leaves : Cursor → Bool}
    {cursor after : Cursor} (step : reader.round leaves cursor = .separator after) :
    after.rest.length < cursor.rest.length := by
  simp only [round] at step
  split at step
  · cases step
  · rename_i stays
    simp only [Bool.or_eq_true, not_or, Bool.not_eq_true] at stays
    split at step
    · split at step
      · cases step
      · rename_i advanced
        cases step
        exact Nat.lt_of_lt_of_le (Cursor.length_rest_advance_lt advanced)
          cursor.length_rest_skipBlanks_le
    · split at step <;> cases step

theorem length_rest_lt_of_round_eq_item {reader : ItemReader α} {leaves : Cursor → Bool}
    {cursor after : Cursor} {value : α} (step : reader.round leaves cursor = .item value after) :
    after.rest.length < cursor.rest.length := by
  simp only [round] at step
  split at step
  · cases step
  · rename_i stays
    simp only [Bool.or_eq_true, not_or, Bool.not_eq_true] at stays
    split at step
    · split at step <;> cases step
    · rename_i notComma
      split at step
      · cases step
      · rename_i value' after' read
        cases step
        refine Nat.lt_of_lt_of_le (reader.consumes ?_ read) cursor.length_rest_skipBlanks_le
        cases next : cursor.skipBlanks.peek with
        | none =>
          simp only [Cursor.peek, List.head?_eq_none_iff] at next
          simp [Cursor.atEnd, next] at stays
        | some c =>
          refine ⟨c, next, Cursor.not_isBlank_of_peek_skipBlanks next, fun comma => notComma ?_⟩
          rw [next, comma]

/-- Reads items up to the place where the list is left, and stops at the first error. -/
def readList (reader : ItemReader α) (leaves : Cursor → Bool) (cursor : Cursor) :
    Except ParseError (List α × Cursor) :=
  match _step : reader.round leaves cursor with
  | .leave after => .ok ([], after)
  | .separator after => reader.readList leaves after
  | .item value after =>
      match reader.readList leaves after with
      | .error error => .error error
      | .ok (values, final) => .ok (value :: values, final)
  | .failure error => .error error
termination_by cursor.rest.length
decreasing_by
  · exact length_rest_lt_of_round_eq_separator _step
  · exact length_rest_lt_of_round_eq_item _step

def field : ItemReader Field where
  read := Cursor.field
  consumes _ := Cursor.length_rest_field_lt

def path : ItemReader String where
  read := Cursor.path
  consumes := Cursor.length_rest_path_lt

end ItemReader

namespace Cursor

def command (cursor : Cursor) : Except ParseError (Command × Cursor) :=
  let (word, after) := cursor.takeWhile fun c => !Text.isBlank c
  match Command.named? (String.ofList word) with
  | some command => .ok (command, after)
  | none => .error (.unknownCommand (String.ofList word))

/-- Reads the selected fields, at least one, up to the keyword of the paths. -/
def fieldClause (cursor : Cursor) : Except ParseError (List Field × Cursor) := do
  let (fields, after) ← ItemReader.field.readList (·.atKeyword fromKeyword) cursor
  if fields.isEmpty then .error .noFields else .ok (fields, after)

/-- Reads the paths, at least one, up to the keyword of the condition or the reserved word. -/
def pathClause (cursor : Cursor) : Except ParseError (List String × Cursor) :=
  if cursor.atKeyword fromKeyword then do
    let leaves (place : Cursor) := place.atKeyword whereKeyword || place.atKeyword onKeyword
    let (paths, after) ←
      ItemReader.path.readList leaves (cursor.takeLiteral fromKeyword.toList).2
    if paths.isEmpty then .error .missingFrom else .ok (paths, after)
  else
    .error .missingFrom

/-- Reads an operator: a run of letters if a letter is ahead, else a run of operator signs. -/
def operator (cursor : Cursor) : Except ParseError (Operator × Cursor) :=
  let keep := if cursor.peek.any Char.isAlpha then Char.isAlpha else isOperatorSign
  let (word, after) := cursor.takeWhile keep
  match Operator.named? (String.ofList word) with
  | some operator => .ok (operator, after)
  | none => .error (.unknownOperator (String.ofList word))

/-- Reads the value of a condition: a text in either kind of quotes, or a run up to a blank. -/
def value (cursor : Cursor) (operator : Operator) : Except ParseError (String × Cursor) :=
  match cursor.peek with
  | none => .error (.missingValue operator)
  | some c =>
      if c = doubleQuote ∨ c = singleQuote then
        cursor.quoted c
      else
        let (word, after) := cursor.takeWhile fun c => !Text.isBlank c
        .ok (String.ofList word, after)

/-- Reads a field that conditions may use, an operator and a value. -/
def condition (cursor : Cursor) : Except ParseError (Condition × Cursor) := do
  let (field, afterField) ← cursor.field
  if !field.filterable then
    .error (.notFilterable field)
  else
    let (operator, afterOperator) ← afterField.skipBlanks.operator
    let (value, afterValue) ← afterOperator.skipBlanks.value operator
    .ok ({ field, operator, value }, afterValue)

/-- Reads what follows the paths: nothing, or one condition with nothing after it. -/
def conditionClause (cursor : Cursor) : Except ParseError (List Condition) :=
  let start := cursor.skipBlanks
  if start.atEnd then
    .ok []
  else if start.atKeyword onKeyword then
    .error (.unsupportedClause onKeyword)
  else
    let place := (start.takeLiteral whereKeyword.toList).2.skipBlanks
    if place.atEnd then
      .error .missingCondition
    else do
      let (condition, after) ← place.condition
      let final := after.skipBlanks
      if final.atEnd then .ok [condition] else .error (.trailingInput (String.ofList final.rest))

end Cursor

namespace Query

def minInputLength : Nat := 2

def ofChars (input : List Char) : Except ParseError Query :=
  if Text.byteLength input < minInputLength then
    .error .emptyInput
  else
    let start := (Cursor.start input).skipBlanks
    if start.atEnd then
      .error .emptyQuery
    else do
      let (command, afterCommand) ← start.command
      let (fields, afterFields) ← afterCommand.fieldClause
      let (paths, afterPaths) ← afterFields.pathClause
      let conditions ← afterPaths.conditionClause
      .ok { command, fields, paths, conditions }

def parse (text : String) : Except ParseError Query :=
  ofChars text.toList

end Query

end FileQuery
