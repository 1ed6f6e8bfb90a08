import FileQuery.Proofs.Outcome
import FileQuery.Proofs.Query.ItemLists

/-!
# The texts that denote queries

A text is read as a query exactly if it denotes that query by the grammar. The two lists of a
query are instances of `ItemReader.Recognizes`; each clause then has one equivalence, and the main
statement joins the clauses.

A keyword counts only as a word of its own. For the keyword before the paths this never matters
inside the fields, since no spelling of a field starts with its first letter; for the keywords
after the paths it is the reason for the condition on a comma in the grammar of paths.
-/

namespace FileQuery

open Grammar

namespace Cursor

variable {cursor after : Cursor}

theorem endsWord_head?_iff {text : List Char} :
    endsWord text.head? = true ↔ text = [] ∨ StartsWithBlank text := by
  cases text with
  | nil => simp [endsWord]
  | cons c text => simp [endsWord, StartsWithBlank]

theorem atKeyword_iff {keyword : String} :
    cursor.atKeyword keyword = true ↔
      ∃ middle, cursor.Passes keyword.toList middle ∧
        (middle.rest = [] ∨ StartsWithBlank middle.rest) := by
  constructor
  · intro found
    simp only [atKeyword, Bool.and_eq_true, List.isPrefixOf_iff_prefix] at found
    rcases found with ⟨⟨rest, ahead⟩, ends⟩
    refine ⟨⟨rest, _⟩, ⟨ahead.symm, rfl⟩, ?_⟩
    rw [← ahead, List.drop_left] at ends
    exact endsWord_head?_iff.mp ends
  · rintro ⟨middle, passes, ends⟩
    simp only [atKeyword, Bool.and_eq_true, List.isPrefixOf_iff_prefix, passes.rest_eq,
      List.drop_left]
    exact ⟨List.prefix_append _ _, endsWord_head?_iff.mpr ends⟩

theorem peek_of_atKeyword {keyword : String} {c : Char} (first : keyword.toList.head? = some c)
    (found : cursor.atKeyword keyword = true) : cursor.peek = some c := by
  rcases atKeyword_iff.mp found with ⟨middle, passes, -⟩
  rw [passes.peek_eq_head?, first]
  intro empty
  rw [empty] at first
  cases first

theorem takeLiteral_eq {literal : List Char} (nonempty : literal ≠ [])
    (passes : cursor.Passes literal after) : cursor.takeLiteral literal = (true, after) := by
  have found : cursor.startsWith literal = true := by
    simp [startsWith, passes.rest_eq, nonempty]
  have moved : cursor.Passes literal
      ⟨cursor.rest.drop literal.length, cursor.position + Text.byteLength literal⟩ :=
    ⟨by rw [passes.rest_eq]; simp, rfl⟩
  rw [takeLiteral, if_pos found, moved.unique passes]

theorem AtItem.of_longestRun {inClass : Char → Prop} {token : List Char}
    (apart : ∀ c, inClass c → Text.isBlank c = false ∧ c ≠ ',')
    (passes : cursor.Passes token after) (longest : LongestRun inClass token after.rest) :
    cursor.AtItem := by
  rcases List.exists_cons_of_ne_nil longest.ne_nil with ⟨c, token, rfl⟩
  have inside := apart c (longest.inside c (by simp))
  exact ⟨c, passes.peek_eq_head? (by simp), inside.1, inside.2⟩

theorem head?_ne_of_spelledBy {field : Field} {name : List Char}
    (spelled : field.spelledBy (String.ofList name)) : name.head? ≠ some 'F' := by
  have all : ∀ field : Field, ∀ word ∈ field.keyword :: field.info.aliases,
      word.toList.head? ≠ some 'F' := by
    intro field
    cases field <;> decide
  simpa using all field _ (Field.spelledBy_iff.mp spelled)

theorem recognizes_field :
    ItemReader.field.Recognizes (·.atKeyword fromKeyword) FieldToken where
  atItem_of_leaves found :=
    ⟨'F', peek_of_atKeyword rfl found, by decide, by decide⟩
  atItem_of_token := by
    intro cursor after item token passes isToken
    cases isToken with
    | star => exact ⟨'*', passes.peek_eq_head? (by simp), by decide, by decide⟩
    | quoted => exact ⟨doubleQuote, passes.peek_eq_head? (by simp [enclosed]), by decide, by decide⟩
    | bare spelled plain longest =>
        exact AtItem.of_longestRun (fun c inside => by simp_all) passes longest
  stays_of_token := by
    intro cursor after item token passes isToken
    have noLetter : token ≠ [] ∧ token.head? ≠ some 'F' := by
      cases isToken with
      | star => decide
      | quoted => simp [enclosed, doubleQuote]
      | bare spelled plain longest => exact ⟨longest.ne_nil, head?_ne_of_spelledBy spelled⟩
    apply Bool.eq_false_iff.mpr
    intro found
    have first := peek_of_atKeyword (c := 'F') rfl found
    rw [passes.peek_eq_head? noLetter.1] at first
    exact noLetter.2 first
  read_of_token passes isToken := field_eq_ok_iff.mpr ⟨_, passes, isToken⟩
  token_of_read _ _ read := field_eq_ok_iff.mp read

/-- Whether the paths of a query are left: at the keyword of the condition or the reserved word. -/
def leavesPaths (cursor : Cursor) : Bool :=
  cursor.atKeyword whereKeyword || cursor.atKeyword onKeyword

/-- A longest run of path characters that starts with a keyword as a word is that keyword, and
what comes after it is no comma. -/
theorem eq_keyword_of_longestRun {keyword : String} {path : List Char}
    (plain : keyword.toList.all (fun c => c != ',' && !Text.isBlank c) = true)
    (passes : cursor.Passes path after)
    (longest : LongestRun (· ∉ blanks ++ [',']) path after.rest)
    (found : cursor.atKeyword keyword = true) :
    path = keyword.toList ∧ after.rest.head? ≠ some ',' := by
  rcases atKeyword_iff.mp found with ⟨middle, keywordPasses, ends⟩
  have ends' : ∀ c, middle.peek = some c → (c != ',' && !Text.isBlank c) = false := by
    intro c next
    rcases ends with empty | ⟨d, blank, first⟩
    · simp [peek, empty] at next
    · rw [peek, first] at next
      cases next
      simp [mem_blanks_iff.mp blank]
  have taken := takeWhile_eq_iff.mpr ⟨keywordPasses, List.all_eq_true.mp plain, ends'⟩
  rw [takeWhile_eq_of_longestRun (fun c => isPathCharacter_iff) passes longest] at taken
  simp only [Prod.mk.injEq] at taken
  rcases taken with ⟨rfl, rfl⟩
  refine ⟨rfl, ?_⟩
  intro comma
  rcases ends with empty | ⟨d, blank, first⟩
  · simp [empty] at comma
  · rw [first] at comma
    cases comma
    exact absurd blank (by decide)

theorem recognizes_path : ItemReader.path.Recognizes leavesPaths PathToken where
  atItem_of_leaves found := by
    rcases Bool.or_eq_true_iff.mp found with isWhere | isOn
    · exact ⟨'W', peek_of_atKeyword rfl isWhere, by decide, by decide⟩
    · exact ⟨'O', peek_of_atKeyword rfl isOn, by decide, by decide⟩
  atItem_of_token := by
    intro cursor after item token passes isToken
    cases isToken with
    | @quoted quote inner after opens closes =>
        refine ⟨quote, passes.peek_eq_head? (by simp [enclosed]), ?_, ?_⟩
        · simp only [quotes, List.mem_cons, List.not_mem_nil, or_false] at opens
          rcases opens with rfl | rfl <;> decide
        · rintro rfl
          exact absurd opens (by decide)
    | bare longest plain noKeyword =>
        exact AtItem.of_longestRun (fun c inside => by simp_all) passes longest
  stays_of_token := by
    intro cursor after item token passes isToken
    cases isToken with
    | @quoted quote inner after opens closes =>
        have next : cursor.peek = some quote := passes.peek_eq_head? (by simp [enclosed])
        have noLetter : ∀ {keyword : String} {c : Char}, keyword.toList.head? = some c →
            c ∉ quotes → cursor.atKeyword keyword = false := by
          intro keyword c first letter
          apply Bool.eq_false_iff.mpr
          intro found
          have same := (peek_of_atKeyword first found).symm.trans next
          cases same
          exact letter opens
        simp only [leavesPaths, Bool.or_eq_false_iff]
        exact ⟨noLetter (c := 'W') rfl (by decide), noLetter (c := 'O') rfl (by decide)⟩
    | bare longest plain noKeyword =>
        simp only [leavesPaths, Bool.or_eq_false_iff]
        constructor
        · apply Bool.eq_false_iff.mpr
          intro found
          rcases eq_keyword_of_longestRun (by decide) passes longest found with ⟨isWhere, noComma⟩
          exact noComma (noKeyword (.inl isWhere))
        · apply Bool.eq_false_iff.mpr
          intro found
          rcases eq_keyword_of_longestRun (by decide) passes longest found with ⟨isOn, noComma⟩
          exact noComma (noKeyword (.inr isOn))
  read_of_token passes isToken := path_eq_ok_of_pathToken passes isToken
  token_of_read starts stays read := by
    simp only [leavesPaths, Bool.or_eq_false_iff] at stays
    exact pathToken_of_path_eq_ok starts stays.1 stays.2 read

theorem command_eq_ok_iff {verb : Command} :
    cursor.command = .ok (verb, after) ↔
      cursor.Passes verb.keyword.toList after ∧
        (after.rest = [] ∨ StartsWithBlank after.rest) := by
  constructor
  · intro read
    rcases taken : cursor.takeWhile (fun c => !Text.isBlank c) with ⟨word, close⟩
    simp only [command, taken] at read
    split at read
    · rename_i verb' found
      cases read
      rcases takeWhile_eq_iff.mp taken with ⟨passes, inside, ends⟩
      have spelled := Command.named?_eq_some_iff.mp found
      rw [← String.toList_inj, String.toList_ofList] at spelled
      refine ⟨spelled ▸ passes, ?_⟩
      rw [← endsWord_head?_iff]
      cases next : after.rest.head? with
      | none => rfl
      | some c => simpa [endsWord] using ends c next
    · cases read
  · rintro ⟨passes, ends⟩
    have taken : cursor.takeWhile (fun c => !Text.isBlank c) = (verb.keyword.toList, after) := by
      apply takeWhile_eq_iff.mpr
      refine ⟨passes, ?_, ?_⟩
      · cases verb
        exact List.all_iff_forall_prop.mp (by decide)
      · intro c next
        rw [peek] at next
        rw [← endsWord_head?_iff, next] at ends
        simpa [endsWord] using ends
    simp only [command, taken, String.ofList_toList, Command.named?_eq_some_iff.mpr rfl]

theorem fieldClause_eq_ok_iff {fields : List Field} :
    cursor.fieldClause = .ok (fields, after) ↔
      fields ≠ [] ∧ ItemReader.ListEnds (·.atKeyword fromKeyword) after ∧
        ∃ text, cursor.Passes text after ∧ ItemList FieldToken fields text after.rest := by
  rw [← recognizes_field.readList_eq_ok_iff, fieldClause, Outcome.bind_eq_ok_iff]
  constructor
  · rintro ⟨⟨items, close⟩, read, rest⟩
    simp only at rest
    split at rest
    · cases rest
    · rename_i nonempty
      cases rest
      exact ⟨by simpa using nonempty, read⟩
  · rintro ⟨nonempty, read⟩
    exact ⟨_, read, by simp [nonempty]⟩

theorem startsWithBlank_append_iff {text rest : List Char} (nonempty : text ≠ []) :
    StartsWithBlank (text ++ rest) ↔ StartsWithBlank text := by
  cases text with
  | nil => contradiction
  | cons c text => rfl

theorem pathClause_eq_ok_iff {paths : List String} :
    cursor.pathClause = .ok (paths, after) ↔
      paths ≠ [] ∧ ItemReader.ListEnds leavesPaths after ∧
        ∃ text, cursor.Passes (fromKeyword.toList ++ text) after ∧ StartsWithBlank text ∧
          ItemList PathToken paths text after.rest := by
  constructor
  · intro read
    unfold pathClause at read
    split at read
    · rename_i found
      rcases atKeyword_iff.mp found with ⟨middle, keyword, ends⟩
      rw [takeLiteral_eq (by decide) keyword] at read
      rcases Outcome.bind_eq_ok_iff.mp read with ⟨⟨items, close⟩, list, rest⟩
      simp only at rest
      split at rest
      · cases rest
      · rename_i nonempty
        cases rest
        change ItemReader.path.readList leavesPaths middle = .ok (paths, after) at list
        rcases recognizes_path.readList_eq_ok_iff.mp list with ⟨isEnd, text, passes, isList⟩
        have text_ne_nil : text ≠ [] := by
          rintro rfl
          cases passes.unique (Passes.refl middle)
          rw [recognizes_path.readList_of_listEnds isEnd] at list
          cases list
          exact nonempty rfl
        refine ⟨by simpa using nonempty, isEnd, text, keyword.trans passes, ?_, isList⟩
        rw [passes.rest_eq, startsWithBlank_append_iff text_ne_nil] at ends
        exact ends.resolve_left (by simp [text_ne_nil])
    · cases read
  · rintro ⟨nonempty, isEnd, text, passes, blank, isList⟩
    rcases passes.split with ⟨middle, keyword, others⟩
    have found : cursor.atKeyword fromKeyword = true := by
      apply atKeyword_iff.mpr
      refine ⟨middle, keyword, .inr ?_⟩
      rcases blank with ⟨c, isBlank, first⟩
      exact ⟨c, isBlank, by rw [others.rest_eq, List.head?_append, first]; rfl⟩
    have list := recognizes_path.readList_eq_ok_iff.mpr ⟨isEnd, text, others, isList⟩
    rw [pathClause, if_pos found, takeLiteral_eq (by decide) keyword]
    exact Outcome.bind_eq_ok_iff.mpr ⟨_, list, by simp [nonempty]⟩

theorem exists_cons_of_operatorToken {operator : Operator} {token rest : List Char}
    (isToken : OperatorToken operator token rest) :
    ∃ c word, token = c :: word ∧ Text.isBlank c = false := by
  cases isToken with
  | letters spelled longest =>
      rcases List.exists_cons_of_ne_nil longest.ne_nil with ⟨c, word, rfl⟩
      refine ⟨c, word, rfl, Bool.eq_false_iff.mpr ?_⟩
      intro blank
      have letter := longest.inside c (by simp)
      simp only [Text.isBlank, Bool.or_eq_true, beq_iff_eq] at blank
      rcases blank with ((rfl | rfl) | rfl) | rfl <;> exact absurd letter (by decide)
  | signs spelled longest =>
      rcases List.exists_cons_of_ne_nil longest.ne_nil with ⟨c, word, rfl⟩
      refine ⟨c, word, rfl, ?_⟩
      have sign := longest.inside c (by simp)
      simp only [operatorSigns, List.mem_cons, List.not_mem_nil, or_false] at sign
      rcases sign with rfl | rfl | rfl | rfl <;> rfl

theorem exists_cons_of_valueToken {value : String} {token rest : List Char}
    (isToken : ValueToken value token rest) :
    ∃ c word, token = c :: word ∧ Text.isBlank c = false := by
  cases isToken with
  | quoted after opens closes =>
      refine ⟨_, _, rfl, ?_⟩
      simp only [quotes, List.mem_cons, List.not_mem_nil, or_false] at opens
      rcases opens with rfl | rfl <;> rfl
  | bare longest plain =>
      rcases List.exists_cons_of_ne_nil longest.ne_nil with ⟨c, word, rfl⟩
      exact ⟨c, word, rfl, by simpa using longest.inside c (by simp)⟩

/-- Behind a gap stands the token that follows it. -/
theorem skipBlanks_eq_of_token {middle : Cursor} {gap token : List Char} (isGap : IsGap gap)
    (passes : cursor.Passes gap middle) (follows : middle.Passes token after)
    (starts : ∃ c word, token = c :: word ∧ Text.isBlank c = false) :
    cursor.skipBlanks = middle := by
  rcases starts with ⟨c, word, rfl, notBlank⟩
  apply skipBlanks_eq isGap passes
  intro d next
  rw [follows.peek_eq_head? (by simp)] at next
  cases next
  exact notBlank

/-- A condition is a field that conditions may use, an operator and a value. -/
theorem condition_eq_ok_iff {condition : Condition} :
    cursor.condition = .ok (condition, after) ↔
      condition.field.filterable = true ∧ ∃ field space operator room value,
        cursor.Passes (field ++ space ++ operator ++ room ++ value) after ∧
        FieldToken condition.field field (space ++ operator ++ room ++ value ++ after.rest) ∧
        IsGap space ∧
        OperatorToken condition.operator operator (room ++ value ++ after.rest) ∧
        IsGap room ∧ ValueToken condition.value value after.rest := by
  constructor
  · intro read
    rcases Outcome.bind_eq_ok_iff.mp read with ⟨⟨item, afterField⟩, readField, read⟩
    simp only at read
    split at read
    · cases read
    · rename_i filterable
      rcases Outcome.bind_eq_ok_iff.mp read with ⟨⟨sign, afterSign⟩, readSign, read⟩
      rcases Outcome.bind_eq_ok_iff.mp read with ⟨⟨literal, final⟩, readValue, read⟩
      cases read
      rcases field_eq_ok_iff.mp readField with ⟨field, passesField, isField⟩
      rcases afterField.exists_gap_skipBlanks with ⟨space, isSpace, passesSpace⟩
      rcases operator_eq_ok_iff.mp readSign with ⟨operator, passesSign, isSign⟩
      rcases afterSign.exists_gap_skipBlanks with ⟨room, isRoom, passesRoom⟩
      rcases (value_eq_ok_iff fun c next => not_isBlank_of_peek_skipBlanks next).mp readValue with
        ⟨value, passesValue, isValue⟩
      have fromSign := passesRoom.trans passesValue
      have fromField := passesSpace.trans (passesSign.trans fromSign)
      refine ⟨by simpa using filterable, field, space, operator, room, value, ?_, ?_, isSpace,
        ?_, isRoom, isValue⟩
      · simpa using passesField.trans fromField
      · rw [fromField.rest_eq] at isField
        simpa using isField
      · rw [fromSign.rest_eq] at isSign
        simpa using isSign
  · rintro ⟨filterable, field, space, operator, room, value, passes, isField, isSpace, isSign,
      isRoom, isValue⟩
    rcases passes.split with ⟨beforeValue, passes, passesValue⟩
    rcases passes.split with ⟨afterSign, passes, passesRoom⟩
    rcases passes.split with ⟨beforeSign, passes, passesSign⟩
    rcases passes.split with ⟨afterField, passesField, passesSpace⟩
    have atValue := skipBlanks_eq_of_token isRoom passesRoom passesValue
      (exists_cons_of_valueToken isValue)
    have atSign := skipBlanks_eq_of_token isSpace passesSpace passesSign
      (exists_cons_of_operatorToken isSign)
    have readField : cursor.field = .ok (condition.field, afterField) := by
      refine field_eq_ok_iff.mpr ⟨field, passesField, ?_⟩
      rw [passesSpace.rest_eq, passesSign.rest_eq, passesRoom.rest_eq, passesValue.rest_eq]
      simpa using isField
    have readSign : beforeSign.operator = .ok (condition.operator, afterSign) := by
      refine operator_eq_ok_iff.mpr ⟨operator, passesSign, ?_⟩
      rw [passesRoom.rest_eq, passesValue.rest_eq]
      simpa using isSign
    have readValue : beforeValue.value condition.operator = .ok (condition.value, after) := by
      have ahead : ∀ c, beforeValue.peek = some c → Text.isBlank c = false := by
        rw [← atValue]
        exact fun c next => not_isBlank_of_peek_skipBlanks next
      exact (value_eq_ok_iff ahead).mpr ⟨value, passesValue, isValue⟩
    apply Outcome.bind_eq_ok_iff.mpr
    refine ⟨_, readField, ?_⟩
    simp only [filterable, Bool.not_true, Bool.false_eq_true, if_false, atSign]
    apply Outcome.bind_eq_ok_iff.mpr
    refine ⟨_, readSign, ?_⟩
    apply Outcome.bind_eq_ok_iff.mpr
    exact ⟨_, atValue ▸ readValue, rfl⟩

theorem conditionClause_of_atEnd (atEnd : cursor.atEnd = true) :
    cursor.conditionClause = .ok [] := by
  have same : cursor.skipBlanks = cursor := by
    apply skipBlanks_eq_self
    intro c next
    rcases peek_eq_some_iff.mp next with ⟨rest, isCons⟩
    simp [atEnd_iff.mp atEnd] at isCons
  simp [conditionClause, same, atEnd]

theorem conditionClause_of_atKeyword {middle : Cursor}
    (found : cursor.atKeyword whereKeyword = true)
    (keyword : cursor.Passes whereKeyword.toList middle) :
    cursor.conditionClause =
      if middle.skipBlanks.atEnd then .error .missingCondition
      else
        middle.skipBlanks.condition >>= fun (condition, after) =>
          if after.skipBlanks.atEnd then .ok [condition]
          else .error (.trailingInput (String.ofList after.skipBlanks.rest)) := by
  have next : cursor.peek = some 'W' := peek_of_atKeyword rfl found
  have same : cursor.skipBlanks = cursor := by
    apply skipBlanks_eq_self
    intro c ahead
    rw [next] at ahead
    cases ahead
    rfl
  have notEnd : cursor.atEnd = false := by
    rcases peek_eq_some_iff.mp next with ⟨rest, isCons⟩
    simp [atEnd, isCons]
  have notOn : cursor.atKeyword onKeyword = false := by
    apply Bool.eq_false_iff.mpr
    intro isOn
    have first := (peek_of_atKeyword (c := 'O') rfl isOn).symm.trans next
    cases first
  simp only [conditionClause, same, notEnd, notOn, Bool.false_eq_true, if_false,
    takeLiteral_eq (by decide) keyword]

/-- Where the paths end, what is ahead reads as conditions exactly if it is a condition clause. -/
theorem conditionClause_eq_ok_iff {conditions : List Condition}
    (ends : ItemReader.ListEnds leavesPaths cursor) :
    cursor.conditionClause = .ok conditions ↔ ConditionClause conditions cursor.rest := by
  constructor
  · intro read
    cases atEnd : cursor.atEnd with
    | true =>
        rw [conditionClause_of_atEnd atEnd] at read
        cases read
        rw [atEnd_iff.mp atEnd]
        exact .nothing
    | false =>
        have left : leavesPaths cursor = true := ends.resolve_left (by simp [atEnd])
        have notOn : cursor.atKeyword onKeyword = false := by
          apply Bool.eq_false_iff.mpr
          intro isOn
          have same := skipBlanks_eq_self
            fun c next => recognizes_path.not_isBlank_of_listEnds ends next
          simp [conditionClause, same, atEnd, isOn] at read
        have found : cursor.atKeyword whereKeyword = true := by
          simpa [leavesPaths, notOn] using left
        rcases atKeyword_iff.mp found with ⟨middle, keyword, blank⟩
        rw [conditionClause_of_atKeyword found keyword] at read
        split at read
        · cases read
        · rename_i more
          rcases Outcome.bind_eq_ok_iff.mp read with ⟨⟨condition, after⟩, readCondition, read⟩
          simp only at read
          split at read
          · rename_i final
            cases read
            rcases middle.exists_gap_skipBlanks with ⟨gap, isGap, passesGap⟩
            rcases after.exists_gap_skipBlanks with ⟨tail, isTail, passesTail⟩
            rcases condition_eq_ok_iff.mp readCondition with ⟨filterable, field, space, operator,
              room, value, passes, isField, isSpace, isSign, isRoom, isValue⟩
            have rest_eq : after.rest = tail := by
              rw [passesTail.rest_eq, atEnd_iff.mp final, List.append_nil]
            have gap_ne_nil : gap ≠ [] := by
              rintro rfl
              have same := passesGap.unique (Passes.refl middle)
              rcases blank with empty | ⟨c, isBlank, first⟩
              · exact more (atEnd_iff.mpr (same.symm ▸ empty))
              · have notBlank : Text.isBlank c = false :=
                  not_isBlank_of_peek_skipBlanks (same.symm ▸ first)
                simp [mem_blanks_iff.mp isBlank] at notBlank
            rw [rest_eq] at isField isSign isValue
            rw [((keyword.trans passesGap).trans passes).rest_eq, rest_eq]
            simpa using ConditionClause.one gap_ne_nil isGap isField filterable isSpace isSign
              isRoom isValue isTail
          · cases read
  · intro clause
    generalize ahead : cursor.rest = text at clause
    cases clause with
    | nothing => exact conditionClause_of_atEnd (atEnd_iff.mpr ahead)
    | @one condition gap field space operator room value tail gap_ne_nil isGap isField filterable
        isSpace isSign isRoom isValue isTail =>
        have ahead' : cursor.rest = whereKeyword.toList ++
            (gap ++ ((field ++ space ++ operator ++ room ++ value) ++ (tail ++ []))) := by
          simp [ahead]
        rcases Passes.exists_of_rest_eq ahead' with ⟨middle, keyword, afterKeyword⟩
        rcases Passes.exists_of_rest_eq afterKeyword with ⟨place, passesGap, afterGap⟩
        rcases Passes.exists_of_rest_eq afterGap with ⟨close, passes, afterValue⟩
        rcases Passes.exists_of_rest_eq afterValue with ⟨final, passesTail, empty⟩
        rw [List.append_nil] at afterValue
        have found : cursor.atKeyword whereKeyword = true := by
          refine atKeyword_iff.mpr ⟨middle, keyword, .inr ?_⟩
          rcases List.exists_cons_of_ne_nil gap_ne_nil with ⟨c, gap, rfl⟩
          exact ⟨c, isGap c (by simp), by rw [passesGap.rest_eq]; rfl⟩
        have readCondition : place.condition = .ok (condition, close) := by
          refine condition_eq_ok_iff.mpr ⟨filterable, field, space, operator, room, value, passes,
            ?_, isSpace, ?_, isRoom, ?_⟩
          · rwa [afterValue]
          · rwa [afterValue]
          · rwa [afterValue]
        have starts : place.AtItem := by
          rcases Outcome.bind_eq_ok_iff.mp readCondition with ⟨⟨item, afterField⟩, readField, -⟩
          rcases field_eq_ok_iff.mp readField with ⟨token, passesField, isField⟩
          exact recognizes_field.atItem_of_token passesField isField
        have atPlace : middle.skipBlanks = place :=
          skipBlanks_eq isGap passesGap fun c next => starts.not_isBlank next
        have atFinal : close.skipBlanks = final := by
          apply skipBlanks_eq isTail passesTail
          intro c next
          simp [peek, empty] at next
        rw [conditionClause_of_atKeyword found keyword, atPlace,
          if_neg (by simp [starts.atEnd_eq_false])]
        apply Outcome.bind_eq_ok_iff.mpr
        exact ⟨_, readCondition, by simp [atFinal, atEnd_iff.mpr empty]⟩

end Cursor

namespace Query

theorem listEnds_of_conditionClause {conditions : List Condition} {cursor : Cursor}
    (clause : ConditionClause conditions cursor.rest) :
    ItemReader.ListEnds Cursor.leavesPaths cursor := by
  generalize ahead : cursor.rest = text at clause
  cases clause with
  | nothing => exact .inl (Cursor.atEnd_iff.mpr ahead)
  | @one condition gap field space operator room value tail gap_ne_nil isGap =>
      right
      have ahead' : cursor.rest = whereKeyword.toList ++
          (gap ++ (field ++ space ++ operator ++ room ++ value ++ tail)) := by
        simp [ahead]
      rcases Cursor.Passes.exists_of_rest_eq ahead' with ⟨middle, keyword, rest_eq⟩
      have found : cursor.atKeyword whereKeyword = true := by
        refine Cursor.atKeyword_iff.mpr ⟨middle, keyword, .inr ?_⟩
        rcases List.exists_cons_of_ne_nil gap_ne_nil with ⟨c, gap, rfl⟩
        exact ⟨c, isGap c (by simp), by rw [rest_eq]; rfl⟩
      simp [Cursor.leavesPaths, found]

/-- A text that is read as a query is read clause by clause. -/
theorem exists_clauses_of_ofChars_eq_ok {input : List Char} {query : Query}
    (read : ofChars input = .ok query) :
    ∃ gap start afterVerb afterFields afterPaths,
      IsGap gap ∧ (Cursor.start input).Passes gap start ∧
      start.command = .ok (query.command, afterVerb) ∧
      afterVerb.fieldClause = .ok (query.fields, afterFields) ∧
      afterFields.pathClause = .ok (query.paths, afterPaths) ∧
      afterPaths.conditionClause = .ok query.conditions := by
  unfold ofChars at read
  split at read
  · cases read
  · simp only at read
    split at read
    · cases read
    · rcases Outcome.bind_eq_ok_iff.mp read with ⟨⟨verb, afterVerb⟩, readVerb, read⟩
      rcases Outcome.bind_eq_ok_iff.mp read with ⟨⟨fields, afterFields⟩, readFields, read⟩
      rcases Outcome.bind_eq_ok_iff.mp read with ⟨⟨paths, afterPaths⟩, readPaths, read⟩
      rcases Outcome.bind_eq_ok_iff.mp read with ⟨conditions, readConditions, read⟩
      cases read
      rcases (Cursor.start input).exists_gap_skipBlanks with ⟨gap, isGap, passes⟩
      exact ⟨gap, _, _, _, _, isGap, passes, readVerb, readFields, readPaths, readConditions⟩

theorem denotes_of_ofChars_eq_ok {input : List Char} {query : Query}
    (read : ofChars input = .ok query) : Denotes input query := by
  rcases exists_clauses_of_ofChars_eq_ok read with ⟨gap, start, afterVerb, afterFields, afterPaths,
    isGap, passesGap, readVerb, readFields, readPaths, readConditions⟩
  rcases Cursor.command_eq_ok_iff.mp readVerb with ⟨passesVerb, blank⟩
  rcases Cursor.fieldClause_eq_ok_iff.mp readFields with
    ⟨fields_ne_nil, -, fieldText, passesFields, isFields⟩
  rcases Cursor.pathClause_eq_ok_iff.mp readPaths with
    ⟨paths_ne_nil, ends, pathText, passesPaths, pathsBlank, isPaths⟩
  have clause := (Cursor.conditionClause_eq_ok_iff ends).mp readConditions
  have fieldsBlank : StartsWithBlank fieldText := by
    rw [passesFields.rest_eq, passesPaths.rest_eq] at blank
    rcases blank with empty | ⟨c, isBlank, first⟩
    · simp [fromKeyword] at empty
    · cases fieldText with
      | nil =>
          cases first
          exact absurd isBlank (by decide)
      | cons d fieldText => exact ⟨c, isBlank, first⟩
  rw [passesPaths.rest_eq] at isFields
  refine ⟨gap, fieldText, pathText, afterPaths.rest, ?_, isGap, fieldsBlank, fields_ne_nil, ?_,
    pathsBlank, paths_ne_nil, isPaths, clause⟩
  · have whole := passesGap.trans (passesVerb.trans (passesFields.trans passesPaths))
    simpa [Cursor.start] using whole.rest_eq
  · simpa using isFields

theorem length_le_byteLength (text : List Char) : text.length ≤ Text.byteLength text := by
  induction text with
  | nil => simp
  | cons c text ih =>
      have positive := c.utf8Size_pos
      simp only [List.length_cons, Text.byteLength_cons]
      omega

theorem ofChars_eq_ok_of_denotes {input : List Char} {query : Query}
    (denotes : Denotes input query) : ofChars input = .ok query := by
  rcases denotes with ⟨gap, fieldText, pathText, conditionText, split, isGap, fieldsBlank,
    fields_ne_nil, isFields, pathsBlank, paths_ne_nil, isPaths, clause⟩
  have ahead : (Cursor.start input).rest = gap ++ (query.command.keyword.toList ++
      (fieldText ++ ((fromKeyword.toList ++ pathText) ++ conditionText))) := by
    simp [Cursor.start, split]
  rcases Cursor.Passes.exists_of_rest_eq ahead with ⟨start, passesGap, atVerb⟩
  rcases Cursor.Passes.exists_of_rest_eq atVerb with ⟨afterVerb, passesVerb, atFields⟩
  rcases Cursor.Passes.exists_of_rest_eq atFields with ⟨afterFields, passesFields, atPaths⟩
  rcases Cursor.Passes.exists_of_rest_eq atPaths with ⟨afterPaths, passesPaths, atConditions⟩
  have next : start.peek = some 'S' := by
    rw [Cursor.peek, atVerb]
    cases query.command
    rfl
  have atStart : (Cursor.start input).skipBlanks = start := by
    apply Cursor.skipBlanks_eq isGap passesGap
    intro c ahead
    rw [next] at ahead
    cases ahead
    rfl
  have notEnd : start.atEnd = false := by
    rcases Cursor.peek_eq_some_iff.mp next with ⟨rest, isCons⟩
    simp [Cursor.atEnd, isCons]
  have long : ¬Text.byteLength input < minInputLength := by
    have lengths := length_le_byteLength input
    have verbLength : query.command.keyword.toList.length = 6 := by
      cases query.command
      rfl
    rw [split] at lengths ⊢
    simp only [List.length_append, minInputLength] at lengths ⊢
    omega
  have readVerb : start.command = .ok (query.command, afterVerb) := by
    refine Cursor.command_eq_ok_iff.mpr ⟨passesVerb, .inr ?_⟩
    rcases fieldsBlank with ⟨c, isBlank, first⟩
    exact ⟨c, isBlank, by rw [atFields, List.head?_append, first]; rfl⟩
  have ends : ItemReader.ListEnds Cursor.leavesPaths afterPaths :=
    listEnds_of_conditionClause (atConditions ▸ clause)
  have readPaths : afterFields.pathClause = .ok (query.paths, afterPaths) :=
    Cursor.pathClause_eq_ok_iff.mpr
      ⟨paths_ne_nil, ends, pathText, passesPaths, pathsBlank, atConditions ▸ isPaths⟩
  have readFields : afterVerb.fieldClause = .ok (query.fields, afterFields) := by
    refine Cursor.fieldClause_eq_ok_iff.mpr
      ⟨fields_ne_nil, .inr ?_, fieldText, passesFields, ?_⟩
    · rcases passesPaths.split with ⟨middle, keyword, others⟩
      refine Cursor.atKeyword_iff.mpr ⟨middle, keyword, .inr ?_⟩
      rcases pathsBlank with ⟨c, isBlank, first⟩
      exact ⟨c, isBlank, by rw [others.rest_eq, List.head?_append, first]; rfl⟩
    · simpa [atPaths] using isFields
  have readConditions : afterPaths.conditionClause = .ok query.conditions :=
    (Cursor.conditionClause_eq_ok_iff ends).mpr (atConditions ▸ clause)
  simp only [ofChars, if_neg long, atStart, notEnd, Bool.false_eq_true, if_false]
  apply Outcome.bind_eq_ok_iff.mpr
  refine ⟨_, readVerb, ?_⟩
  apply Outcome.bind_eq_ok_iff.mpr
  refine ⟨_, readFields, ?_⟩
  apply Outcome.bind_eq_ok_iff.mpr
  refine ⟨_, readPaths, ?_⟩
  apply Outcome.bind_eq_ok_iff.mpr
  exact ⟨_, readConditions, rfl⟩

/-- A star and one token for a path denote the query for everything at that path. -/
theorem denotes_selectAll {path : String} {token : List Char} (isPath : PathToken path token []) :
    Denotes ("SELECT * FROM ".toList ++ token)
      { fields := [.all], paths := [path], conditions := [] } := by
  have fields : ∀ rest, ItemList FieldToken [.all] [' ', '*', ' '] rest := fun rest =>
    .separator (by decide) (.item (FieldToken.star _) (.separator (by decide) (.nil rest)))
  have paths : ItemList PathToken [path] (' ' :: token) [] := by
    apply ItemList.separator (by decide)
    rw [← List.append_nil token]
    exact .item isPath (.nil [])
  exact ⟨[], _, _, [], by simp [Command.keyword, fromKeyword], by simp [IsGap],
    ⟨' ', by decide, rfl⟩, by simp, fields _, ⟨' ', by decide, rfl⟩, by simp, paths, .nothing⟩

/-- A text is read as a query exactly if the grammar lets it denote that query. -/
theorem parse_eq_ok_iff_denotes (text : String) (query : Query) :
    parse text = .ok query ↔ Denotes text.toList query := by
  constructor
  · exact denotes_of_ofChars_eq_ok
  · exact ofChars_eq_ok_of_denotes

end Query

end FileQuery
