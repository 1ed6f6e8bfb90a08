import FileQuery.Proofs.Query.Denotation
import FileQuery.Proofs.Text.Encoding

/-!
# Progress of the reader

Reading a list of items is a loop whose rounds either end it or go on from another place. A round
that goes on has passed some text: a comma, or a token, and no token is empty. Nothing else makes
the loop end: a run of characters that stops at once, in front of a sign or a quote, is no token, as
no field has an empty spelling and no path starts where a separator is. So the loop makes at most
one round more than there are characters ahead, and a query has at most as many fields and paths as
its text has bytes.
-/

namespace FileQuery

open Grammar

theorem Grammar.FieldToken.ne_nil {field : Field} {token after : List Char}
    (isToken : FieldToken field token after) : token ≠ [] := by
  cases isToken with
  | star | quoted => exact List.cons_ne_nil _ _
  | bare spelled plain longest => exact longest.ne_nil

theorem Grammar.PathToken.ne_nil {path : String} {token after : List Char}
    (isToken : PathToken path token after) : token ≠ [] := by
  cases isToken with
  | quoted => exact List.cons_ne_nil _ _
  | bare longest plain noKeyword => exact longest.ne_nil

/-- A list has at most as many items as its text has characters. -/
theorem Grammar.ItemList.length_le {α : Type} {Token : α → List Char → List Char → Prop}
    (nonempty : ∀ {item token rest}, Token item token rest → token ≠ []) {items : List α}
    {text after : List Char} (list : ItemList Token items text after) :
    items.length ≤ text.length := by
  induction list with
  | nil => exact Nat.le_refl _
  | separator separates list ih => exact Nat.le_succ_of_le ih
  | item first list ih =>
      have positive := List.length_pos_iff.2 (nonempty first)
      rw [List.length_append, List.length_cons]
      omega

/-- Some text lies between two cursors, so that the second is further on. -/
def Cursor.MovesTo (cursor after : Cursor) : Prop :=
  cursor.position < after.position ∧ ∃ text, text ≠ [] ∧ cursor.Passes text after

theorem Cursor.Passes.movesTo {cursor after : Cursor} {text : List Char}
    (passes : cursor.Passes text after) (nonempty : text ≠ []) : cursor.MovesTo after := by
  refine ⟨?_, text, nonempty, passes⟩
  have positive := Nat.pos_of_ne_zero (mt Text.byteLength_eq_zero_iff.1 nonempty)
  rw [passes.position_eq]
  exact Nat.lt_add_of_pos_right positive

/-- No field is spelled with nothing, so where no run of field characters starts there is an
error. -/
theorem Cursor.field_eq_error_of_empty_run {cursor : Cursor}
    (noQuote : cursor.peek ≠ some doubleQuote) (noStar : cursor.peek ≠ some '*')
    (empty : (cursor.takeWhile isFieldCharacter).1 = []) :
    cursor.field = .error (.unknownField "") := by
  rcases taken : cursor.takeWhile isFieldCharacter with ⟨word, after⟩
  rw [taken] at empty
  cases empty
  rw [field, if_neg noQuote, if_neg noStar, taken]
  rfl

namespace ItemReader

variable {α : Type} {reader : ItemReader α} {leaves : Cursor → Bool} {cursor after : Cursor}

/-- The place from which the loop goes on, unless the round has left it or has failed. -/
def Round.next? : Round α → Option Cursor
  | .separator cursor | .item _ cursor => some cursor
  | .leave _ | .failure _ => none

/-- A round that goes on has passed a comma or a token, with the blanks before it. -/
theorem Recognizes.movesTo_of_round {Token : α → List Char → List Char → Prop}
    (recognizes : reader.Recognizes leaves Token)
    (nonempty : ∀ {item token rest}, Token item token rest → token ≠ [])
    (goesOn : (reader.round leaves cursor).next? = some after) : cursor.MovesTo after := by
  rcases cursor.exists_gap_skipBlanks with ⟨gap, -, skipped⟩
  rcases round_cases reader leaves cursor with ⟨-, step⟩ | ⟨comma, step⟩ | ⟨start, stays, step⟩
  · rw [step] at goesOn
    cases goesOn
  · rw [step] at goesOn
    cases goesOn
    exact (skipped.trans (Cursor.passes_skip comma)).movesTo (by simp)
  · cases read : reader.read cursor.skipBlanks with
    | error error =>
        rw [step, read] at goesOn
        cases goesOn
    | ok result =>
        rw [step, read] at goesOn
        cases goesOn
        rcases recognizes.token_of_read start stays read with ⟨token, passes, isToken⟩
        exact (skipped.trans passes).movesTo
          (List.append_ne_nil_of_right_ne_nil gap (nonempty isToken))

/-- The loop makes a number of rounds from a cursor, the last of which ends it with a result. -/
inductive Loops (reader : ItemReader α) (leaves : Cursor → Bool) :
    Cursor → Nat → Except ParseError (List α × Cursor) → Prop where
  | leave {cursor after : Cursor} (step : reader.round leaves cursor = .leave after) :
      Loops reader leaves cursor 1 (.ok ([], after))
  | failure {cursor : Cursor} {error : ParseError}
      (step : reader.round leaves cursor = .failure error) :
      Loops reader leaves cursor 1 (.error error)
  | separator {cursor after : Cursor} {rounds : Nat}
      {result : Except ParseError (List α × Cursor)}
      (step : reader.round leaves cursor = .separator after)
      (later : Loops reader leaves after rounds result) :
      Loops reader leaves cursor (rounds + 1) result
  | item {cursor after : Cursor} {value : α} {rounds : Nat}
      {result : Except ParseError (List α × Cursor)}
      (step : reader.round leaves cursor = .item value after)
      (later : Loops reader leaves after rounds result) :
      Loops reader leaves cursor (rounds + 1)
        (result.map fun (values, final) => (value :: values, final))

theorem exists_loops_readList (reader : ItemReader α) (leaves : Cursor → Bool)
    (cursor : Cursor) :
    ∃ rounds, reader.Loops leaves cursor rounds (reader.readList leaves cursor) ∧
      rounds ≤ cursor.rest.length + 1 := by
  fun_induction readList reader leaves cursor with
  | case1 cursor after step => exact ⟨1, .leave step, Nat.le_add_left 1 _⟩
  | case2 cursor after step ih =>
      rcases ih with ⟨rounds, later, few⟩
      have shorter := length_rest_lt_of_round_eq_separator step
      exact ⟨rounds + 1, .separator step later, by omega⟩
  | case3 cursor value after step error failed ih =>
      rcases ih with ⟨rounds, later, few⟩
      rw [failed] at later
      have shorter := length_rest_lt_of_round_eq_item step
      exact ⟨rounds + 1, .item step later, by omega⟩
  | case4 cursor value after step values final continued ih =>
      rcases ih with ⟨rounds, later, few⟩
      rw [continued] at later
      have shorter := length_rest_lt_of_round_eq_item step
      exact ⟨rounds + 1, .item step later, by omega⟩
  | case5 cursor error step => exact ⟨1, .failure step, Nat.le_add_left 1 _⟩

/-- Wherever the loop stands, a round that goes on moves forward, and the loop ends with what the
reader of the list gives, after at most one round more than there are characters ahead. -/
structure Progresses (reader : ItemReader α) (leaves : Cursor → Bool) : Prop where
  movesTo : ∀ cursor after : Cursor,
    (reader.round leaves cursor).next? = some after → cursor.MovesTo after
  ends : ∀ cursor : Cursor, ∃ rounds,
    reader.Loops leaves cursor rounds (reader.readList leaves cursor) ∧
      rounds ≤ cursor.rest.length + 1

theorem Recognizes.progresses {Token : α → List Char → List Char → Prop}
    (recognizes : reader.Recognizes leaves Token)
    (nonempty : ∀ {item token rest}, Token item token rest → token ≠ []) :
    reader.Progresses leaves where
  movesTo _ _ goesOn := recognizes.movesTo_of_round nonempty goesOn
  ends cursor := exists_loops_readList reader leaves cursor

end ItemReader

namespace Query

theorem length_add_length_le_of_denotes {text : List Char} {query : Query}
    (denotes : Denotes text query) :
    query.fields.length + query.paths.length ≤ text.length := by
  rcases denotes with ⟨gap, fields, paths, conditions, rfl, -, -, -, isFields, -, -, isPaths, -⟩
  have fieldsLength := isFields.length_le FieldToken.ne_nil
  have pathsLength := isPaths.length_le PathToken.ne_nil
  simp only [List.length_append]
  omega

/-- The loops that read the fields and the paths of a query move forward in every round that goes
on, and end. A field token without a character is an error and so ends its loop. A query that is read
has at most as many fields and paths together as its text has bytes. -/
theorem reading_progresses :
    ItemReader.field.Progresses (·.atKeyword fromKeyword) ∧
    ItemReader.path.Progresses Cursor.leavesPaths ∧
    (∀ cursor : Cursor, cursor.peek ≠ some doubleQuote → cursor.peek ≠ some '*' →
      (cursor.takeWhile Cursor.isFieldCharacter).1 = [] →
      cursor.field = .error (.unknownField "")) ∧
    ∀ (text : String) (query : Query), parse text = .ok query →
      query.fields.length + query.paths.length ≤ text.utf8ByteSize := by
  refine ⟨Cursor.recognizes_field.progresses FieldToken.ne_nil,
    Cursor.recognizes_path.progresses PathToken.ne_nil,
    fun cursor => Cursor.field_eq_error_of_empty_run, ?_⟩
  intro text query read
  calc query.fields.length + query.paths.length
      ≤ text.toList.length := length_add_length_le_of_denotes (denotes_of_ofChars_eq_ok read)
    _ ≤ Text.byteLength text.toList := length_le_byteLength text.toList
    _ = text.utf8ByteSize := by rw [← Text.utf8ByteSize_ofList, String.ofList_toList]

/-- An empty text in quotes is a path, and reading it moves on by the two quotes. -/
example :
    ItemReader.path.round Cursor.leavesPaths (Cursor.start ['\'', '\'', ',']) =
      .item "" { rest := [','], position := 2 } := by
  rfl

end Query

end FileQuery
