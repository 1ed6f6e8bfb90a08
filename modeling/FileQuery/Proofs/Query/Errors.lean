import FileQuery.Proofs.Query.Denotation
import FileQuery.Proofs.Text.Encoding

/-!
# Errors and the text they point to

What a text looks like when it is no query. `ParseError.BackedBy` says for each error what the text
shows: where the piece stands that the error carries, and what is wrong with that piece. It has no
rule for an unexpected end, so an error that is backed by its text is none.

`Cursor.StandsIn` ties a cursor to the text that it was started on. Each reader keeps it, and each
reader that fails where it holds gives a backed error, so the clauses are joined as the reader of
queries joins them.
-/

namespace FileQuery

open Grammar

/-- A keyword at the start of a text, as a word of its own. -/
def Grammar.StartsWithWord (keyword : String) (text : List Char) : Prop :=
  ∃ after, text = keyword.toList ++ after ∧ (after = [] ∨ StartsWithBlank after)

/-- The error is right about the text. A position is the byte length of the text before it, hence
between two characters. -/
inductive ParseError.BackedBy (text : List Char) : ParseError → Prop where
  | emptyInput (short : Text.byteLength text < 2) : BackedBy text .emptyInput
  | emptyQuery (long : 2 ≤ Text.byteLength text) (isGap : IsGap text) : BackedBy text .emptyQuery
  /-- The first word is not the verb. -/
  | unknownCommand {gap word rest : List Char} (split : text = gap ++ word ++ rest)
      (isGap : IsGap gap) (run : LongestRun (· ∉ blanks) word rest)
      (unknown : ∀ verb : Command, String.ofList word ≠ verb.keyword) :
      BackedBy text (.unknownCommand (String.ofList word))
  | unknownField {word : List Char} (piece : word <:+: text)
      (unknown : ∀ field : Field, ¬field.spelledBy (String.ofList word)) :
      BackedBy text (.unknownField (String.ofList word))
  /-- Behind the verb come only separators, up to the end or the keyword of the paths. -/
  | noFields {gap separators rest : List Char} {verb : Command}
      (split : text = gap ++ verb.keyword.toList ++ separators ++ rest) (isGap : IsGap gap)
      (separate : ∀ c ∈ separators, c ∈ ',' :: blanks)
      (ends : rest = [] ∨ StartsWithWord fromKeyword rest) : BackedBy text .noFields
  /-- The text ends with its fields. -/
  | missingFrom {gap fields : List Char} {verb : Command} {items : List Field}
      (split : text = gap ++ verb.keyword.toList ++ fields) (isGap : IsGap gap)
      (isFields : ItemList FieldToken items fields []) (nonempty : items ≠ []) :
      BackedBy text .missingFrom
  /-- Behind the keyword of the paths come only separators, up to the end or the next clause. -/
  | missingPaths {before separators rest : List Char}
      (split : text = before ++ fromKeyword.toList ++ separators ++ rest)
      (separate : ∀ c ∈ separators, c ∈ ',' :: blanks)
      (ends : rest = [] ∨ StartsWithWord whereKeyword rest ∨ StartsWithWord onKeyword rest) :
      BackedBy text .missingFrom
  /-- Without the blanks at its end, the text ends in the keyword of the condition. -/
  | missingCondition {before gap : List Char} (split : text = before ++ whereKeyword.toList ++ gap)
      (isGap : IsGap gap) : BackedBy text .missingCondition
  | notFilterable (star : '*' ∈ text) : BackedBy text (.notFilterable .all)
  | unknownOperator {word : List Char} (piece : word <:+: text)
      (unknown : ∀ operator, (String.ofList word, operator) ∉ Operator.spellings) :
      BackedBy text (.unknownOperator (String.ofList word))
  /-- Without the blanks at its end, the text ends in a spelling of the operator. -/
  | missingValue {before word gap : List Char} {operator : Operator}
      (split : text = before ++ word ++ gap)
      (spelled : (String.ofList word, operator) ∈ Operator.spellings) (isGap : IsGap gap) :
      BackedBy text (.missingValue operator)
  | unterminatedQuote {before rest : List Char} {quote : Char}
      (split : text = before ++ quote :: rest) (opens : quote ∈ quotes) (unclosed : quote ∉ rest) :
      BackedBy text (.unterminatedQuote (Text.byteLength before))
  | unsupportedClause {before rest : List Char} (split : text = before ++ rest)
      (reserved : StartsWithWord onKeyword rest) : BackedBy text (.unsupportedClause onKeyword)
  | trailingInput {rest : List Char} (isSuffix : rest <:+ text)
      (starts : ∃ c, rest.head? = some c ∧ c ∉ blanks) :
      BackedBy text (.trailingInput (String.ofList rest))

namespace Cursor

variable {text : List Char} {cursor after : Cursor} {error : ParseError}

theorem startsWithWord_of_atKeyword {keyword : String}
    (found : cursor.atKeyword keyword = true) : StartsWithWord keyword cursor.rest := by
  rcases atKeyword_iff.mp found with ⟨middle, passes, ends⟩
  exact ⟨middle.rest, passes.rest_eq, ends⟩

/-- The cursor was started on the text and has moved forward in it. -/
def StandsIn (text : List Char) (cursor : Cursor) : Prop :=
  ∃ before, (start text).Passes before cursor

namespace Passes

theorem standsIn {before : List Char} (passes : (start text).Passes before cursor) :
    cursor.StandsIn text :=
  ⟨before, passes⟩

theorem text_eq {before : List Char} (passes : (start text).Passes before cursor) :
    text = before ++ cursor.rest :=
  passes.rest_eq

theorem position_eq_byteLength {before : List Char} (passes : (start text).Passes before cursor) :
    cursor.position = Text.byteLength before := by
  simpa [start] using passes.position_eq

end Passes

namespace StandsIn

theorem passes (stands : cursor.StandsIn text) {piece : List Char}
    (passes : cursor.Passes piece after) : after.StandsIn text := by
  rcases stands with ⟨before, behind⟩
  exact ⟨before ++ piece, behind.trans passes⟩

theorem skipBlanks (stands : cursor.StandsIn text) : cursor.skipBlanks.StandsIn text := by
  rcases cursor.exists_gap_skipBlanks with ⟨gap, -, passes⟩
  exact stands.passes passes

theorem rest_suffix (stands : cursor.StandsIn text) : cursor.rest <:+ text := by
  rcases stands with ⟨before, behind⟩
  exact ⟨before, behind.text_eq.symm⟩

theorem piece_infix (stands : cursor.StandsIn text) {piece : List Char}
    (passes : cursor.Passes piece after) : piece <:+: text := by
  have ahead : piece <+: cursor.rest := ⟨after.rest, passes.rest_eq.symm⟩
  exact ahead.isInfix.trans stands.rest_suffix.isInfix

end StandsIn

theorem backedBy_of_quoted (stands : cursor.StandsIn text) {quote : Char} (isQuote : quote ∈ quotes)
    (opens : cursor.peek = some quote) (failed : cursor.quoted quote = .error error) :
    error.BackedBy text := by
  rcases stands with ⟨before, behind⟩
  have opened := passes_skip opens
  rcases taken : cursor.skip.takeWhile (fun c => c != quote) with ⟨content, close⟩
  rcases takeWhile_eq_iff.mp taken with ⟨passes, inside, -⟩
  simp only [quoted_of_peek opens, taken] at failed
  split at failed
  · rename_i atEnd
    cases failed
    have rest_eq : cursor.rest = quote :: content := by
      simpa [atEnd_iff.mp atEnd] using (opened.trans passes).rest_eq
    rw [behind.position_eq_byteLength]
    refine .unterminatedQuote (rest_eq ▸ behind.text_eq) isQuote ?_
    intro again
    simpa using inside quote again
  · cases failed

theorem namedField_eq_error_iff {word : String} :
    namedField word = .error error ↔
      error = .unknownField word ∧ ∀ field : Field, ¬field.spelledBy word := by
  simp only [← Field.named?_eq_some_iff, namedField]
  cases Field.named? word <;> simp [eq_comm]

theorem backedBy_of_namedField {word : List Char} (piece : word <:+: text)
    (failed : namedField (String.ofList word) = .error error) :
    error.BackedBy text := by
  rcases namedField_eq_error_iff.mp failed with ⟨rfl, unknown⟩
  exact .unknownField piece unknown

theorem backedBy_of_field (stands : cursor.StandsIn text) (failed : cursor.field = .error error) :
    error.BackedBy text := by
  unfold field at failed
  split at failed
  · rename_i opens
    split at failed
    · rename_i failure quoted
      cases failed
      exact backedBy_of_quoted stands (by simp [quotes]) opens quoted
    · rename_i word after quoted
      rcases (quoted_eq_ok_iff opens).mp quoted with ⟨inner, passes, -, rfl⟩
      have piece : inner <:+: enclosed doubleQuote inner := ⟨[doubleQuote], [doubleQuote], rfl⟩
      exact backedBy_of_namedField (piece.trans (stands.piece_infix passes))
        (Outcome.map_eq_error_iff.mp failed)
  · split at failed
    · rename_i star
      rw [advance_of_peek star] at failed
      cases failed
    · have passes := cursor.passes_takeWhile isFieldCharacter
      exact backedBy_of_namedField (stands.piece_infix passes) (Outcome.map_eq_error_iff.mp failed)

theorem backedBy_of_path (stands : cursor.StandsIn text) (failed : cursor.path = .error error) :
    error.BackedBy text := by
  unfold path at failed
  split at failed
  · rename_i opens
    exact backedBy_of_quoted stands (by simp [quotes]) opens failed
  · split at failed
    · rename_i opens
      exact backedBy_of_quoted stands (by simp [quotes]) opens failed
    · cases failed

theorem backedBy_of_operator (stands : cursor.StandsIn text)
    (failed : cursor.operator = .error error) : error.BackedBy text := by
  simp only [operator] at failed
  split at failed
  · cases failed
  · rename_i unnamed
    cases failed
    refine .unknownOperator (stands.piece_infix (cursor.passes_takeWhile _)) ?_
    intro operator spelled
    rw [Operator.named?_eq_some_iff.mpr spelled] at unnamed
    cases unnamed

/-- A value is missing only at the end of the text. -/
theorem value_eq_error_cases (stands : cursor.StandsIn text) {operator : Operator}
    (failed : cursor.value operator = .error error) :
    (error = .missingValue operator ∧ cursor.rest = []) ∨ error.BackedBy text := by
  unfold value at failed
  split at failed
  · rename_i atEnd
    cases failed
    exact .inl ⟨rfl, by simpa [peek] using atEnd⟩
  · rename_i c next
    split at failed
    · rename_i opens
      exact .inr (backedBy_of_quoted stands (by simpa [quotes] using opens) next failed)
    · cases failed

end Cursor

theorem Grammar.FieldToken.star_mem {token rest : List Char}
    (isToken : FieldToken .all token rest) : '*' ∈ token := by
  have star : ∀ {name : List Char}, Field.all.spelledBy (String.ofList name) → name = ['*'] := by
    intro name spelled
    have word : String.ofList name = "*" := by
      simpa [Field.info, Field.keyword] using Field.spelledBy_iff.mp spelled
    simpa using congrArg String.toList word
  cases isToken with
  | star => simp
  | quoted rest spelled closes => simp [star spelled, enclosed]
  | bare spelled plain run => simp [star spelled]

theorem Grammar.OperatorToken.spelled {operator : Operator} {token rest : List Char}
    (isToken : OperatorToken operator token rest) :
    (String.ofList token, operator) ∈ Operator.spellings := by
  cases isToken <;> assumption

theorem Grammar.ItemList.separators_of_nil {α : Type} {Token : α → List Char → List Char → Prop}
    {items : List α} {text after : List Char} (list : ItemList Token items text after)
    (empty : items = []) : ∀ c ∈ text, c ∈ ',' :: blanks := by
  induction list with
  | nil => simp
  | separator separates list ih =>
      intro c member
      rcases List.mem_cons.mp member with rfl | later
      · exact separates
      · exact ih empty c later
  | item => cases empty

/-- A list of items fails only with an error of the reader of its items, somewhere ahead. -/
theorem ItemReader.Recognizes.exists_read_eq_error {α : Type} {reader : ItemReader α}
    {leaves : Cursor → Bool} {Token : α → List Char → List Char → Prop} {text : List Char}
    {cursor : Cursor} {error : ParseError} (recognizes : reader.Recognizes leaves Token)
    (stands : cursor.StandsIn text) (failed : reader.readList leaves cursor = .error error) :
    ∃ place : Cursor, place.StandsIn text ∧ reader.read place = .error error := by
  induction size : cursor.rest.length using Nat.strongRecOn generalizing cursor with
  | _ size ih =>
      subst size
      have atStart := stands.skipBlanks
      rcases round_cases reader leaves cursor with
        ⟨-, step⟩ | ⟨comma, step⟩ | ⟨start, stays, step⟩
      · rw [readList_eq, step] at failed
        cases failed
      · rw [readList_eq, step] at failed
        exact ih _ (length_rest_lt_of_round_eq_separator step)
          (atStart.passes (Cursor.passes_skip comma)) failed rfl
      · cases opened : reader.read cursor.skipBlanks with
        | error failure =>
            rw [readList_eq, step, opened] at failed
            cases failed
            exact ⟨_, atStart, opened⟩
        | ok result =>
            rcases result with ⟨item, middle⟩
            rw [opened] at step
            rcases recognizes.token_of_read start stays opened with ⟨token, passes, -⟩
            rw [readList_eq, step] at failed
            simp only at failed
            split at failed
            · rename_i failure later
              cases failed
              exact ih _ (length_rest_lt_of_round_eq_item step) (atStart.passes passes) later rfl
            · cases failed

namespace Cursor

variable {text : List Char} {cursor after : Cursor} {error : ParseError}

theorem backedBy_of_command {gap : List Char} (isGap : IsGap gap)
    (behind : (start text).Passes gap cursor)
    (starts : ∃ c, cursor.peek = some c ∧ Text.isBlank c = false)
    (failed : cursor.command = .error error) : error.BackedBy text := by
  rcases taken : cursor.takeWhile (fun c => !Text.isBlank c) with ⟨word, after⟩
  simp only [command, taken] at failed
  split at failed
  · cases failed
  · rename_i unnamed
    cases failed
    have nonempty : word ≠ [] := by
      rintro rfl
      rcases takeWhile_eq_iff.mp taken with ⟨passes, -, ends⟩
      cases passes.unique (Passes.refl cursor)
      rcases starts with ⟨c, next, notBlank⟩
      simpa [notBlank] using ends c next
    rcases longestRun_of_takeWhile_eq (fun c => isValueCharacter_iff) taken nonempty with
      ⟨passes, run⟩
    refine .unknownCommand (behind.trans passes).text_eq isGap run ?_
    intro verb spelled
    rw [Command.named?_eq_some_iff.mpr spelled] at unnamed
    cases unnamed

theorem backedBy_of_fieldClause {gap : List Char} {verb : Command} (isGap : IsGap gap)
    (behind : (start text).Passes (gap ++ verb.keyword.toList) cursor)
    (failed : cursor.fieldClause = .error error) : error.BackedBy text := by
  rcases Outcome.bind_eq_error_iff.mp failed with unread | ⟨⟨fields, after⟩, read, failed⟩
  · rcases recognizes_field.exists_read_eq_error behind.standsIn unread with ⟨place, stands, failed⟩
    exact backedBy_of_field stands failed
  · simp only at failed
    split at failed
    · rename_i empty
      cases failed
      rcases recognizes_field.itemList_of_readList read with ⟨ends, separators, passes, list⟩
      refine .noFields (behind.trans passes).text_eq isGap
        (list.separators_of_nil (by simpa using empty)) ?_
      exact ends.imp atEnd_iff.mp startsWithWord_of_atKeyword
    · cases failed

theorem backedBy_of_pathClause {gap fieldText : List Char} {verb : Command} {fields : List Field}
    (isGap : IsGap gap)
    (behind : (start text).Passes (gap ++ verb.keyword.toList ++ fieldText) cursor)
    (isFields : ItemList FieldToken fields fieldText cursor.rest) (nonempty : fields ≠ [])
    (ends : ItemReader.ListEnds (·.atKeyword fromKeyword) cursor)
    (failed : cursor.pathClause = .error error) : error.BackedBy text := by
  unfold pathClause at failed
  split at failed
  · rename_i found
    rcases atKeyword_iff.mp found with ⟨middle, keyword, -⟩
    rw [takeLiteral_eq (by decide) keyword] at failed
    have stands := (behind.trans keyword).standsIn
    rcases Outcome.bind_eq_error_iff.mp failed with unread | ⟨⟨paths, after⟩, read, failed⟩
    · rcases recognizes_path.exists_read_eq_error stands unread with ⟨place, stands, failed⟩
      exact backedBy_of_path stands failed
    · simp only at failed
      split at failed
      · rename_i empty
        cases failed
        rcases recognizes_path.itemList_of_readList read with ⟨left, separators, passes, list⟩
        refine .missingPaths ((behind.trans keyword).trans passes).text_eq
          (list.separators_of_nil (by simpa using empty)) (left.imp atEnd_iff.mp ?_)
        intro leaves
        exact (Bool.or_eq_true_iff.mp leaves).imp startsWithWord_of_atKeyword
          startsWithWord_of_atKeyword
      · cases failed
  · rename_i notFrom
    cases failed
    have empty : cursor.rest = [] := atEnd_iff.mp (ends.resolve_right notFrom)
    rw [empty] at isFields
    have split := behind.text_eq
    rw [empty, List.append_nil] at split
    exact .missingFrom split isGap isFields nonempty

theorem backedBy_of_condition (stands : cursor.StandsIn text)
    (failed : cursor.condition = .error error) : error.BackedBy text := by
  rcases Outcome.bind_eq_error_iff.mp failed with noField | ⟨⟨field, afterField⟩, isField, failed⟩
  · exact backedBy_of_field stands noField
  rcases field_eq_ok_iff.mp isField with ⟨token, passesField, isField⟩
  simp only at failed
  split at failed
  · rename_i unfit
    cases failed
    have all : field = .all := by
      by_contra other
      simp [Field.filterable_iff.mpr other] at unfit
    cases all
    exact .notFilterable ((stands.piece_infix passesField).subset (isField.star_mem))
  · have beforeSign := (stands.passes passesField).skipBlanks
    rcases Outcome.bind_eq_error_iff.mp failed with noSign | ⟨⟨sign, afterSign⟩, isSign, failed⟩
    · exact backedBy_of_operator beforeSign noSign
    rcases operator_eq_ok_iff.mp isSign with ⟨token, passesSign, isSign⟩
    rcases Outcome.bind_eq_error_iff.mp failed with noValue | ⟨value, isValue, failed⟩
    · rcases value_eq_error_cases (beforeSign.passes passesSign).skipBlanks noValue with
        ⟨rfl, empty⟩ | backed
      · rcases beforeSign with ⟨before, behind⟩
        rcases afterSign.exists_gap_skipBlanks with ⟨gap, isGap, passesGap⟩
        have split := ((behind.trans passesSign).trans passesGap).text_eq
        rw [empty, List.append_nil] at split
        exact .missingValue split isSign.spelled isGap
      · exact backed
    · cases failed

theorem backedBy_of_conditionClause (stands : cursor.StandsIn text)
    (ends : ItemReader.ListEnds leavesPaths cursor)
    (failed : cursor.conditionClause = .error error) : error.BackedBy text := by
  have same : cursor.skipBlanks = cursor :=
    skipBlanks_eq_self fun c next => recognizes_path.not_isBlank_of_listEnds ends next
  rcases ends with atEnd | leaves
  · rw [conditionClause_of_atEnd atEnd] at failed
    cases failed
  rcases Bool.or_eq_true_iff.mp leaves with found | reserved
  · rcases atKeyword_iff.mp found with ⟨middle, keyword, -⟩
    rw [conditionClause_of_atKeyword found keyword] at failed
    have place := (stands.passes keyword).skipBlanks
    split at failed
    · rename_i atEnd
      cases failed
      rcases stands with ⟨before, behind⟩
      rcases middle.exists_gap_skipBlanks with ⟨gap, isGap, passesGap⟩
      have split := ((behind.trans keyword).trans passesGap).text_eq
      rw [atEnd_iff.mp atEnd, List.append_nil] at split
      exact .missingCondition split isGap
    · rcases Outcome.bind_eq_error_iff.mp failed with
        noCondition | ⟨⟨condition, after⟩, isCondition, failed⟩
      · exact backedBy_of_condition place noCondition
      rcases condition_eq_ok_iff.mp isCondition with ⟨-, _, _, _, _, _, passes, -⟩
      simp only at failed
      split at failed
      · cases failed
      · rename_i more
        cases failed
        rcases exists_peek_of_not_atEnd (Bool.eq_false_iff.mpr more) with ⟨c, next⟩
        refine .trailingInput (place.passes passes).skipBlanks.rest_suffix ⟨c, next, ?_⟩
        simp [not_isBlank_of_peek_skipBlanks next]
  · have ahead : cursor.atEnd = false := (recognizes_path.atItem_of_leaves leaves).atEnd_eq_false
    simp only [conditionClause, same, ahead, reserved, Bool.false_eq_true, if_false,
      if_true] at failed
    cases failed
    rcases stands with ⟨before, behind⟩
    exact .unsupportedClause behind.text_eq (startsWithWord_of_atKeyword reserved)

end Cursor

namespace Query

theorem backedBy_of_ofChars {text : List Char} {error : ParseError}
    (failed : ofChars text = .error error) : error.BackedBy text := by
  rcases (Cursor.start text).exists_gap_skipBlanks with ⟨gap, isGap, behind⟩
  unfold ofChars at failed
  split at failed
  · rename_i short
    cases failed
    exact .emptyInput short
  rename_i long
  simp only at failed
  split at failed
  · rename_i atEnd
    cases failed
    have blank : text = gap := by
      simpa [Cursor.atEnd_iff.mp atEnd] using behind.text_eq
    exact .emptyQuery (Nat.not_lt.mp long) (blank ▸ isGap)
  rename_i more
  rcases Outcome.bind_eq_error_iff.mp failed with noVerb | ⟨⟨verb, afterVerb⟩, isVerb, failed⟩
  · rcases Cursor.exists_peek_of_not_atEnd (Bool.eq_false_iff.mpr more) with ⟨c, next⟩
    exact Cursor.backedBy_of_command isGap behind
      ⟨c, next, Cursor.not_isBlank_of_peek_skipBlanks next⟩ noVerb
  have atFields := behind.trans (Cursor.command_eq_ok_iff.mp isVerb).1
  rcases Outcome.bind_eq_error_iff.mp failed with noFields | ⟨⟨fields, afterFields⟩, read, failed⟩
  · exact Cursor.backedBy_of_fieldClause isGap atFields noFields
  rcases Cursor.fieldClause_eq_ok_iff.mp read with
    ⟨nonempty, fieldsEnd, fieldText, passes, isFields⟩
  have atPaths := atFields.trans passes
  rcases Outcome.bind_eq_error_iff.mp failed with noPaths | ⟨⟨paths, afterPaths⟩, read, failed⟩
  · exact Cursor.backedBy_of_pathClause isGap atPaths isFields nonempty fieldsEnd noPaths
  rcases Cursor.pathClause_eq_ok_iff.mp read with ⟨-, pathsEnd, pathText, passes, -⟩
  rcases Outcome.bind_eq_error_iff.mp failed with noCondition | ⟨conditions, read, failed⟩
  · exact Cursor.backedBy_of_conditionClause (atPaths.trans passes).standsIn pathsEnd noCondition
  · cases failed

theorem ofChars_eq_emptyInput_iff {text : List Char} :
    ofChars text = .error .emptyInput ↔ Text.byteLength text < 2 := by
  constructor
  · intro failed
    cases backedBy_of_ofChars failed
    assumption
  · intro short
    exact if_pos short

theorem ofChars_eq_emptyQuery_iff {text : List Char} :
    ofChars text = .error .emptyQuery ↔ 2 ≤ Text.byteLength text ∧ IsGap text := by
  constructor
  · intro failed
    cases backedBy_of_ofChars failed with
    | emptyQuery long isGap => exact ⟨long, isGap⟩
  · rintro ⟨long, isGap⟩
    have ahead : (Cursor.start text).rest = text ++ [] := (List.append_nil text).symm
    rcases Cursor.Passes.exists_of_rest_eq ahead with ⟨final, passes, empty⟩
    have atFinal : (Cursor.start text).skipBlanks = final := by
      apply Cursor.skipBlanks_eq isGap passes
      intro c next
      simp [Cursor.peek, empty] at next
    simp [ofChars, minInputLength, Nat.not_lt.mpr long, atFinal, Cursor.atEnd, empty]

/-- A text that is no query fails with an error that the text shows. It counts as empty if it has
fewer than two bytes, it is an empty query if it is long enough and only blank, and its end never
comes unexpectedly. -/
theorem parse_error_backedBy (text : String) :
    (parse text = .error .emptyInput ↔ text.utf8ByteSize < 2) ∧
      (parse text = .error .emptyQuery ↔ 2 ≤ text.utf8ByteSize ∧ IsGap text.toList) ∧
      (∀ position, parse text ≠ .error (.unexpectedEnd position)) ∧
      ∀ error, parse text = .error error → error.BackedBy text.toList := by
  have size : text.utf8ByteSize = Text.byteLength text.toList := by
    rw [← Text.utf8ByteSize_ofList, String.ofList_toList]
  rw [size]
  refine ⟨ofChars_eq_emptyInput_iff, ofChars_eq_emptyQuery_iff, ?_, ?_⟩
  · intro position failed
    cases backedBy_of_ofChars failed
  · intro error failed
    exact backedBy_of_ofChars failed

/-- The position of an open quote counts bytes, so it is behind both bytes of an accented letter. -/
theorem parse_error_backedBy_open_quote :
    parse "SELECT * FROM é, 'x y" = .error (.unterminatedQuote 18) ∧
      (ParseError.unterminatedQuote 18).BackedBy "SELECT * FROM é, 'x y".toList := by
  have failed : parse "SELECT * FROM é, 'x y" = .error (.unterminatedQuote 18) := by
    decide +kernel
  exact ⟨failed, (parse_error_backedBy "SELECT * FROM é, 'x y").2.2.2 _ failed⟩

end Query

end FileQuery
