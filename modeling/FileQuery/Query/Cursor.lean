import FileQuery.Query.ParseError
import FileQuery.Text.Blank

/-!
# Cursors

A cursor stands between two characters of an input and only moves forward. It holds the text that
is still ahead and the number of bytes behind, so a position is always the byte length of what was
consumed. The operations that the reader of queries needs are functions on cursors; `Move` names
them one by one, and `Cursor.run` performs a list of moves, recording each answer together with
the text that the move consumed.
-/

namespace FileQuery

/-- A place in an input: the text ahead, and how many bytes lie behind. -/
structure Cursor where
  rest : List Char
  position : Nat
  deriving DecidableEq, Repr

namespace Cursor

def start (input : List Char) : Cursor where
  rest := input
  position := 0

def atEnd (cursor : Cursor) : Bool :=
  cursor.rest.isEmpty

def peek (cursor : Cursor) : Option Char :=
  cursor.rest.head?

def skip (cursor : Cursor) : Cursor :=
  match cursor.rest with
  | [] => cursor
  | c :: rest => { rest, position := cursor.position + c.utf8Size }

def advance (cursor : Cursor) : Except ParseError (Char × Cursor) :=
  match cursor.peek with
  | none => .error (.unexpectedEnd cursor.position)
  | some c => .ok (c, cursor.skip)

/-- Consumes the longest run of characters that satisfy a test. -/
def takeWhile (cursor : Cursor) (keep : Char → Bool) : List Char × Cursor :=
  let run := cursor.rest.takeWhile keep
  (run, { rest := cursor.rest.dropWhile keep,
          position := cursor.position + Text.byteLength run })

def skipBlanks (cursor : Cursor) : Cursor :=
  (cursor.takeWhile Text.isBlank).2

/-- Whether a literal comes next; the empty literal never does. -/
def startsWith (cursor : Cursor) (literal : List Char) : Bool :=
  !literal.isEmpty && literal.isPrefixOf cursor.rest

/-- Consumes a literal if it comes next, and says whether it did. -/
def takeLiteral (cursor : Cursor) (literal : List Char) : Bool × Cursor :=
  if cursor.startsWith literal then
    (true, { rest := cursor.rest.drop literal.length,
             position := cursor.position + Text.byteLength literal })
  else
    (false, cursor)

/-- Whether a character ends a word: a blank does, and so does the end of the input. -/
def endsWord : Option Char → Bool
  | none => true
  | some c => Text.isBlank c

def atKeyword (cursor : Cursor) (keyword : String) : Bool :=
  keyword.toList.isPrefixOf cursor.rest &&
    endsWord (cursor.rest.drop keyword.toList.length).head?

inductive Move where
  | peek
  | advance
  | atEnd
  | rest
  | startsWith (literal : List Char)
  | takeLiteral (literal : List Char)
  | skipBlanks
  | takeWhile (keep : Char → Bool)

inductive Answer where
  | next (character : Option Char)
  | taken (result : Except ParseError Char)
  | holds (truth : Bool)
  | text (characters : List Char)
  | nothing

/-- The outcome of one move: its answer, the text it consumed and the cursor after it. -/
structure Step where
  answer : Answer
  consumed : List Char
  cursor : Cursor

def perform (cursor : Cursor) : Move → Step
  | .peek => ⟨.next cursor.peek, [], cursor⟩
  | .advance =>
      match cursor.advance with
      | .error failure => ⟨.taken (.error failure), [], cursor⟩
      | .ok (c, after) => ⟨.taken (.ok c), [c], after⟩
  | .atEnd => ⟨.holds cursor.atEnd, [], cursor⟩
  | .rest => ⟨.text cursor.rest, [], cursor⟩
  | .startsWith literal => ⟨.holds (cursor.startsWith literal), [], cursor⟩
  | .takeLiteral literal =>
      let (found, after) := cursor.takeLiteral literal
      ⟨.holds found, if found then literal else [], after⟩
  | .skipBlanks => ⟨.nothing, cursor.rest.takeWhile Text.isBlank, cursor.skipBlanks⟩
  | .takeWhile keep =>
      let (run, after) := cursor.takeWhile keep
      ⟨.text run, run, after⟩

/-- Performs moves one after another and keeps the outcome of each. -/
def run (cursor : Cursor) : List Move → List Step
  | [] => []
  | move :: moves =>
      let step := cursor.perform move
      step :: step.cursor.run moves

theorem length_rest_takeWhile_le (cursor : Cursor) (keep : Char → Bool) :
    (cursor.takeWhile keep).2.rest.length ≤ cursor.rest.length :=
  (List.dropWhile_suffix keep).length_le

theorem length_rest_skipBlanks_le (cursor : Cursor) :
    cursor.skipBlanks.rest.length ≤ cursor.rest.length :=
  cursor.length_rest_takeWhile_le Text.isBlank

theorem length_rest_skip_lt {cursor : Cursor} (ahead : cursor.atEnd = false) :
    cursor.skip.rest.length < cursor.rest.length := by
  obtain ⟨rest, position⟩ := cursor
  cases rest with
  | nil => simp [atEnd] at ahead
  | cons c rest => simp [skip]

theorem exists_peek_of_not_atEnd {cursor : Cursor} (ahead : cursor.atEnd = false) :
    ∃ c, cursor.peek = some c := by
  obtain ⟨rest, position⟩ := cursor
  cases rest with
  | nil => cases ahead
  | cons c rest => exact ⟨c, rfl⟩

theorem advance_eq_ok_iff {cursor after : Cursor} {c : Char} :
    cursor.advance = .ok (c, after) ↔ cursor.peek = some c ∧ after = cursor.skip := by
  unfold advance
  cases cursor.peek <;> simp [eq_comm]

theorem advance_of_peek {cursor : Cursor} {c : Char} (next : cursor.peek = some c) :
    cursor.advance = .ok (c, cursor.skip) :=
  advance_eq_ok_iff.2 ⟨next, rfl⟩

theorem length_rest_advance_lt {cursor after : Cursor} {c : Char}
    (advanced : cursor.advance = .ok (c, after)) : after.rest.length < cursor.rest.length := by
  obtain ⟨next, rfl⟩ := advance_eq_ok_iff.1 advanced
  apply length_rest_skip_lt
  obtain ⟨rest, position⟩ := cursor
  cases rest with
  | nil => cases next
  | cons c rest => rfl

theorem length_rest_takeWhile_lt {cursor : Cursor} {keep : Char → Bool}
    (nonempty : (cursor.takeWhile keep).1 ≠ []) :
    (cursor.takeWhile keep).2.rest.length < cursor.rest.length := by
  have split := congrArg List.length
    (List.takeWhile_append_dropWhile (p := keep) (l := cursor.rest))
  have positive := List.length_pos_iff.2 nonempty
  simp only [takeWhile, List.length_append] at *
  omega

theorem not_isBlank_of_peek_skipBlanks {cursor : Cursor} {c : Char}
    (next : cursor.skipBlanks.peek = some c) : Text.isBlank c = false := by
  have stop := List.head?_dropWhile_not Text.isBlank cursor.rest
  simp only [peek, skipBlanks, takeWhile] at next
  rw [next] at stop
  simpa using stop

end Cursor

end FileQuery
