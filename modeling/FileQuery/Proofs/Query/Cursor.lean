import FileQuery.Proofs.Query.Tokens
import FileQuery.Proofs.Text.Encoding

/-!
# Cursors over a run of moves

A cursor counts bytes and its moves consume characters, blanks, literals and whole runs. Whatever
moves are made, the position stays on a boundary between two characters of the input: the bytes from
there on are the encoding of the text ahead, which is what remains of the input after the texts that
the moves have consumed.

`Yields` says of each move what it answers and consumes, in terms of the text ahead. One step passes
over the text that it consumes, and a run of steps over these texts one after another; the place of
a cursor in the input follows from that.
-/

namespace FileQuery.Cursor

/-- The longest start of a text whose characters all pass a test. -/
structure IsLongestStart (keep : Char → Bool) (start text : List Char) : Prop where
  starts : start <+: text
  inside : ∀ c ∈ start, keep c = true
  longest : ∀ other, other <+: text → (∀ c ∈ other, keep c = true) → other <+: start

theorem isLongestStart_takeWhile (keep : Char → Bool) (text : List Char) :
    IsLongestStart keep (text.takeWhile keep) text where
  starts := List.takeWhile_prefix keep
  inside := fun c member => List.all_eq_true.mp List.all_takeWhile c member
  longest := by
    rintro other ⟨rest, rfl⟩ inside
    rw [List.takeWhile_append_of_pos inside]
    exact List.prefix_append other _

/-- A literal that is not empty comes next: the bytes of the text ahead start with its bytes. -/
def Starts (literal ahead : List Char) : Prop :=
  literal ≠ [] ∧ Text.encode literal <+: Text.encode ahead

/-- The answer of a move and the text that it consumes, between the text ahead of a cursor and the
place at which it stands. -/
inductive Yields (ahead : List Char) (position : Nat) : Move → Answer → List Char → Prop where
  | peek : Yields ahead position .peek (.next ahead.head?) []
  | taken {c : Char} {rest : List Char} (next : ahead = c :: rest) :
      Yields ahead position .advance (.taken (.ok c)) [c]
  | nothingLeft (ends : ahead = []) :
      Yields ahead position .advance (.taken (.error (.unexpectedEnd position))) []
  | atEnd {truth : Bool} (meaning : truth = true ↔ ahead = []) :
      Yields ahead position .atEnd (.holds truth) []
  | rest : Yields ahead position .rest (.text ahead) []
  | startsWith {literal : List Char} {truth : Bool}
      (meaning : truth = true ↔ Starts literal ahead) :
      Yields ahead position (.startsWith literal) (.holds truth) []
  | literal {literal : List Char} (starts : Starts literal ahead) :
      Yields ahead position (.takeLiteral literal) (.holds true) literal
  | noLiteral {literal : List Char} (other : ¬ Starts literal ahead) :
      Yields ahead position (.takeLiteral literal) (.holds false) []
  | blanks {run : List Char} (longest : IsLongestStart Text.isBlank run ahead) :
      Yields ahead position .skipBlanks .nothing run
  | run {keep : Char → Bool} {run : List Char} (longest : IsLongestStart keep run ahead) :
      Yields ahead position (.takeWhile keep) (.text run) run

section Nothing

variable {ahead consumed : List Char} {position : Nat} {move : Move}

theorem Yields.consumed_eq_nil_of_error {failure : ParseError}
    (yields : Yields ahead position move (.taken (.error failure)) consumed) : consumed = [] := by
  cases yields with
  | nothingLeft => rfl

theorem Yields.consumed_eq_nil_of_noLiteral {literal : List Char}
    (yields : Yields ahead position (.takeLiteral literal) (.holds false) consumed) :
    consumed = [] := by
  cases yields with
  | noLiteral => rfl

end Nothing

variable {cursor : Cursor}

theorem startsWith_iff {literal : List Char} :
    cursor.startsWith literal = true ↔ Starts literal cursor.rest := by
  simp [startsWith, Starts, Text.encode_prefix_iff]

theorem passes_takeLiteral {literal : List Char} (found : cursor.startsWith literal = true) :
    cursor.Passes literal (cursor.takeLiteral literal).2 := by
  rcases Text.encode_prefix_iff.mp (startsWith_iff.mp found).2 with ⟨rest, ahead⟩
  rw [takeLiteral, if_pos found]
  refine ⟨?_, rfl⟩
  rw [← ahead, List.drop_left]

/-- A step passes over the text that it consumes. -/
theorem passes_perform (cursor : Cursor) (move : Move) :
    cursor.Passes (cursor.perform move).consumed (cursor.perform move).cursor := by
  cases move with
  | peek | atEnd | rest | startsWith => exact .refl cursor
  | advance =>
      cases next : cursor.peek with
      | none => simpa [perform, advance, next] using Passes.refl cursor
      | some c => simpa [perform, advance, next] using passes_skip next
  | takeLiteral literal =>
      cases found : cursor.startsWith literal with
      | false => simpa [perform, takeLiteral, found] using Passes.refl cursor
      | true => simpa [perform, takeLiteral, found] using passes_takeLiteral found
  | skipBlanks => exact cursor.passes_takeWhile Text.isBlank
  | takeWhile keep => exact cursor.passes_takeWhile keep

theorem yields_perform (cursor : Cursor) (move : Move) :
    Yields cursor.rest cursor.position move (cursor.perform move).answer
      (cursor.perform move).consumed := by
  cases move with
  | peek => exact .peek
  | advance =>
      cases ahead : cursor.rest with
      | nil => simpa [perform, advance, peek, ahead] using Yields.nothingLeft rfl
      | cons c rest => simpa [perform, advance, peek, ahead] using Yields.taken rfl
  | atEnd => exact .atEnd atEnd_iff
  | rest => exact .rest
  | startsWith literal => exact .startsWith startsWith_iff
  | takeLiteral literal =>
      cases found : cursor.startsWith literal with
      | false =>
          have other : ¬ Starts literal cursor.rest := fun starts =>
            Bool.false_ne_true (found.symm.trans (startsWith_iff.mpr starts))
          simpa [perform, takeLiteral, found] using Yields.noLiteral other
      | true =>
          simpa [perform, takeLiteral, found] using Yields.literal (startsWith_iff.mp found)
  | skipBlanks => exact .blanks (isLongestStart_takeWhile Text.isBlank cursor.rest)
  | takeWhile keep => exact .run (isLongestStart_takeWhile keep cursor.rest)

/-- A cursor stands in an input behind a text that was consumed. -/
structure StandsBehind (input : String) (consumed : List Char) (cursor : Cursor) : Prop where
  input_eq : input.toList = consumed ++ cursor.rest
  position_le : cursor.position ≤ input.utf8ByteSize
  onBoundary : String.Pos.Raw.IsValid input ⟨cursor.position⟩
  bytes_ahead : (Text.encode input.toList).drop cursor.position = Text.encode cursor.rest
  atEnd_iff_rest : cursor.atEnd = true ↔ cursor.rest = []
  atEnd_iff_position : cursor.atEnd = true ↔ input.utf8ByteSize ≤ cursor.position

theorem standsBehind_of_passes {input : String} {consumed : List Char}
    (passes : (start input.toList).Passes consumed cursor) :
    cursor.StandsBehind input consumed := by
  have input_eq : input.toList = consumed ++ cursor.rest := passes.rest_eq
  have position_eq : cursor.position = Text.byteLength consumed := by
    rw [passes.position_eq, start, Nat.zero_add]
  have shape : input = String.ofList (consumed ++ cursor.rest) := by
    rw [← input_eq, String.ofList_toList]
  have size_eq : input.utf8ByteSize = cursor.position + Text.byteLength cursor.rest := by
    rw [shape, Text.utf8ByteSize_ofList, Text.byteLength_append, position_eq]
  refine ⟨input_eq, ?_, ?_, ?_, atEnd_iff, ?_⟩
  · omega
  · rw [position_eq, shape]
    exact Text.isValid_byteLength consumed cursor.rest
  · rw [input_eq, Text.encode_append, position_eq, ← Text.length_encode, List.drop_left]
  · rw [atEnd_iff, ← Text.byteLength_eq_zero_iff, size_eq]
    omega

/-- The cursor at which a run of moves ends. -/
def after (cursor : Cursor) : List Move → Cursor
  | [] => cursor
  | move :: moves => (cursor.perform move).cursor.after moves

theorem run_append (cursor : Cursor) (moves later : List Move) :
    cursor.run (moves ++ later) = cursor.run moves ++ (cursor.after moves).run later := by
  induction moves generalizing cursor with
  | nil => rfl
  | cons move moves ih =>
      rw [List.cons_append, run, run, after, List.cons_append]
      exact congrArg _ (ih (cursor.perform move).cursor)

/-- A run passes over the texts that its steps consume, one after another. -/
theorem passes_after (cursor : Cursor) (moves : List Move) :
    cursor.Passes ((cursor.run moves).flatMap Step.consumed) (cursor.after moves) := by
  induction moves generalizing cursor with
  | nil => exact .refl cursor
  | cons move moves ih =>
      rw [run, List.flatMap_cons, after]
      exact (cursor.passes_perform move).trans (ih (cursor.perform move).cursor)

/-- At each move of a run over an input: the cursor stands behind the texts consumed up to then, on
a boundary between characters; it has moved by the bytes of the text consumed, of which each blank
is one, and so never back; the move has answered and consumed what the text ahead of it says; and
where nothing was there to take, the cursor has not moved at all. -/
theorem standsBehind_at_each_move (input : String) (moves : List Move) (move : Move)
    (later : List Move) :
    let before := (start input.toList).after moves
    let step := before.perform move
    (start input.toList).run (moves ++ move :: later) =
        (start input.toList).run moves ++ step :: step.cursor.run later ∧
      step.cursor.StandsBehind input
        (((start input.toList).run moves).flatMap Step.consumed ++ step.consumed) ∧
      before.position ≤ step.cursor.position ∧
      step.cursor.position = before.position + Text.byteLength step.consumed ∧
      (move = .skipBlanks → step.cursor.position = before.position + step.consumed.length) ∧
      Yields before.rest before.position move step.answer step.consumed ∧
      ((∃ failure, step.answer = .taken (.error failure)) → step.cursor = before) ∧
      (∀ literal, move = .takeLiteral literal → step.answer = .holds false →
        step.cursor = before) := by
  intro before step
  have passed : before.Passes step.consumed step.cursor := before.passes_perform move
  have yields := before.yields_perform move
  have unmoved : step.consumed = [] → step.cursor = before := by
    intro nothing
    rw [nothing] at passed
    exact passed.unique (.refl before)
  refine ⟨?_, ?_, ?_, passed.position_eq, ?_, yields, ?_, ?_⟩
  · rw [run_append, run]
  · apply standsBehind_of_passes
    exact ((start input.toList).passes_after moves).trans passed
  · rw [passed.position_eq]
    exact Nat.le_add_right _ _
  · rintro rfl
    have blank := (isLongestStart_takeWhile Text.isBlank before.rest).inside
    rw [passed.position_eq]
    exact congrArg _ (Text.byteLength_eq_length_of_blank blank)
  · rintro ⟨failure, failed⟩
    apply unmoved
    have failing : Yields _ _ move (.taken (.error failure)) step.consumed := failed ▸ yields
    exact failing.consumed_eq_nil_of_error
  · rintro literal rfl missed
    apply unmoved
    have missing : Yields _ _ _ (.holds false) step.consumed := missed ▸ yields
    exact missing.consumed_eq_nil_of_noLiteral

end FileQuery.Cursor
