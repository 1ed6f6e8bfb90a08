import FileQuery.Proofs.Query.Tokens

/-!
# Lists of items

What a reader of a list accepts is what the grammar calls a list of its items, for any reader of
items that recognizes a kind of token. `ItemReader.Recognizes` says what that means: the reader
and the token judgment agree wherever an item can start, and no token starts where the list is
left. Both lists of a query are instances.

A round of the reader passes all blanks at once, while the grammar takes separators one by one, so
completeness moves the reader forward one separator at a time.
-/

namespace FileQuery

namespace Grammar.ItemList

variable {α : Type} {Token : α → List Char → List Char → Prop}

theorem gap_append {items : List α} {gap text after : List Char} (isGap : IsGap gap)
    (list : ItemList Token items text after) : ItemList Token items (gap ++ text) after := by
  induction gap with
  | nil => exact list
  | cons c gap ih =>
      apply ItemList.separator
      · exact List.mem_cons_of_mem _ (isGap c (by simp))
      · exact ih fun d member => isGap d (List.mem_cons_of_mem _ member)

theorem forall_item {Property : α → Prop} {items : List α} {text after : List Char}
    (list : ItemList Token items text after)
    (tokens : ∀ {item token rest}, Token item token rest → Property item) :
    ∀ item ∈ items, Property item := by
  induction list with
  | nil => simp
  | separator separates list ih => exact ih
  | item first list ih =>
      intro item member
      rcases List.mem_cons.mp member with rfl | later
      · exact tokens first
      · exact ih item later

end Grammar.ItemList

namespace Cursor

open Grammar

theorem exists_gap_skipBlanks (cursor : Cursor) :
    ∃ gap, IsGap gap ∧ cursor.Passes gap cursor.skipBlanks := by
  refine ⟨_, ?_, cursor.passes_takeWhile Text.isBlank⟩
  intro c member
  exact mem_blanks_iff.mpr (List.all_eq_true.mp List.all_takeWhile c member)

/-- Skipping blanks ends behind a gap that no blank follows. -/
theorem skipBlanks_eq {cursor after : Cursor} {gap : List Char} (isGap : IsGap gap)
    (passes : cursor.Passes gap after)
    (ends : ∀ c, after.peek = some c → Text.isBlank c = false) : cursor.skipBlanks = after := by
  have taken := takeWhile_eq_iff.mpr
    ⟨passes, fun c member => mem_blanks_iff.mp (isGap c member), ends⟩
  rw [skipBlanks, taken]

theorem skipBlanks_eq_self {cursor : Cursor}
    (ends : ∀ c, cursor.peek = some c → Text.isBlank c = false) : cursor.skipBlanks = cursor := by
  have isGap : IsGap [] := by simp [IsGap]
  exact skipBlanks_eq isGap (Passes.refl cursor) ends

theorem skipBlanks_skip {cursor : Cursor} {c : Char} (next : cursor.peek = some c)
    (blank : Text.isBlank c = true) : cursor.skip.skipBlanks = cursor.skipBlanks := by
  rcases cursor.skip.exists_gap_skipBlanks with ⟨gap, isGap, passes⟩
  have isGap' : IsGap ([c] ++ gap) := by
    intro d member
    rcases List.mem_cons.mp member with rfl | later
    · exact mem_blanks_iff.mpr blank
    · exact isGap d later
  symm
  exact skipBlanks_eq isGap' ((passes_skip next).trans passes)
    fun d ahead => not_isBlank_of_peek_skipBlanks ahead

theorem AtItem.not_isBlank {cursor : Cursor} (item : cursor.AtItem) {c : Char}
    (next : cursor.peek = some c) : Text.isBlank c = false := by
  rcases item with ⟨d, here, notBlank, -⟩
  rw [next] at here
  cases here
  exact notBlank

theorem AtItem.peek_ne_comma {cursor : Cursor} (item : cursor.AtItem) :
    cursor.peek ≠ some ',' := by
  rcases item with ⟨d, here, -, notComma⟩
  rw [here]
  simpa using notComma

/-- Where blanks are skipped there is the end, a comma or an item. -/
theorem skipBlanks_cases (cursor : Cursor) :
    cursor.skipBlanks.atEnd = true ∨ cursor.skipBlanks.peek = some ',' ∨
      cursor.skipBlanks.AtItem := by
  cases next : cursor.skipBlanks.peek with
  | none =>
      left
      simpa [atEnd, peek] using next
  | some c =>
      right
      by_cases comma : c = ','
      · left
        rw [comma]
      · right
        exact ⟨c, next, not_isBlank_of_peek_skipBlanks next, comma⟩

end Cursor

namespace ItemReader

open Grammar

variable {α : Type}

/-- A place where a list can end: the end of the text, or where the list is left. -/
def ListEnds (leaves : Cursor → Bool) (cursor : Cursor) : Prop :=
  cursor.atEnd = true ∨ leaves cursor = true

/-- The reader reads the tokens of a judgment, and a list of them is left only where none
starts. -/
structure Recognizes (reader : ItemReader α) (leaves : Cursor → Bool)
    (Token : α → List Char → List Char → Prop) : Prop where
  atItem_of_leaves : ∀ {cursor : Cursor}, leaves cursor = true → cursor.AtItem
  atItem_of_token : ∀ {cursor after : Cursor} {item : α} {token : List Char},
    cursor.Passes token after → Token item token after.rest → cursor.AtItem
  stays_of_token : ∀ {cursor after : Cursor} {item : α} {token : List Char},
    cursor.Passes token after → Token item token after.rest → leaves cursor = false
  read_of_token : ∀ {cursor after : Cursor} {item : α} {token : List Char},
    cursor.Passes token after → Token item token after.rest →
      reader.read cursor = .ok (item, after)
  token_of_read : ∀ {cursor after : Cursor} {item : α}, cursor.AtItem → leaves cursor = false →
    reader.read cursor = .ok (item, after) →
      ∃ token, cursor.Passes token after ∧ Token item token after.rest

section Rounds

variable {reader : ItemReader α} {leaves : Cursor → Bool} {cursor : Cursor}

theorem readList_eq (reader : ItemReader α) (leaves : Cursor → Bool) (cursor : Cursor) :
    reader.readList leaves cursor =
      match reader.round leaves cursor with
      | .leave after => .ok ([], after)
      | .separator after => reader.readList leaves after
      | .item value after =>
          match reader.readList leaves after with
          | .error error => .error error
          | .ok (values, final) => .ok (value :: values, final)
      | .failure error => .error error := by
  rw [readList]
  split <;> rename_i step <;> rewrite [step] <;> rfl

theorem round_of_listEnds (ends : ListEnds leaves cursor.skipBlanks) :
    reader.round leaves cursor = .leave cursor.skipBlanks := by
  simp only [round]
  rw [if_pos]
  simpa [ListEnds] using ends

theorem round_of_comma (reader : ItemReader α) (comma : cursor.skipBlanks.peek = some ',')
    (stays : leaves cursor.skipBlanks = false) :
    reader.round leaves cursor = .separator cursor.skipBlanks.skip := by
  have ahead : cursor.skipBlanks.atEnd = false := by
    rcases Cursor.peek_eq_some_iff.mp comma with ⟨rest, isCons⟩
    simp [Cursor.atEnd, isCons]
  simp [round, ahead, stays, comma, Cursor.advance_of_peek comma]

theorem round_of_atItem (reader : ItemReader α) (item : cursor.skipBlanks.AtItem)
    (stays : leaves cursor.skipBlanks = false) :
    reader.round leaves cursor =
      match reader.read cursor.skipBlanks with
      | .error error => .failure error
      | .ok (value, after) => .item value after := by
  have inside : ¬(cursor.skipBlanks.atEnd || leaves cursor.skipBlanks) = true := by
    simp [item.atEnd_eq_false, stays]
  rewrite [round, if_neg inside, if_neg item.peek_ne_comma]
  rfl

/-- What a round does, by what stands behind the blanks that it skips. -/
theorem round_cases (reader : ItemReader α) (leaves : Cursor → Bool) (cursor : Cursor) :
    (ListEnds leaves cursor.skipBlanks ∧
      reader.round leaves cursor = .leave cursor.skipBlanks) ∨
    (cursor.skipBlanks.peek = some ',' ∧
      reader.round leaves cursor = .separator cursor.skipBlanks.skip) ∨
    (cursor.skipBlanks.AtItem ∧ leaves cursor.skipBlanks = false ∧
      reader.round leaves cursor =
        match reader.read cursor.skipBlanks with
        | .error error => .failure error
        | .ok (value, after) => .item value after) := by
  by_cases ends : ListEnds leaves cursor.skipBlanks
  · exact .inl ⟨ends, round_of_listEnds ends⟩
  · simp only [ListEnds, not_or, Bool.not_eq_true] at ends
    rcases cursor.skipBlanks_cases with atEnd | comma | start
    · simp [atEnd] at ends
    · exact .inr (.inl ⟨comma, round_of_comma reader comma ends.2⟩)
    · exact .inr (.inr ⟨start, ends.2, round_of_atItem reader start ends.2⟩)

/-- A list continues behind a blank as it does before it. -/
theorem readList_skip_of_isBlank {c : Char} (next : cursor.peek = some c)
    (blank : Text.isBlank c = true) :
    reader.readList leaves cursor.skip = reader.readList leaves cursor := by
  rw [readList_eq, readList_eq reader leaves cursor]
  simp only [round, Cursor.skipBlanks_skip next blank]

end Rounds

namespace Recognizes

variable {reader : ItemReader α} {leaves : Cursor → Bool}
  {Token : α → List Char → List Char → Prop} {cursor after : Cursor}

theorem leaves_eq_false_of_comma (recognizes : reader.Recognizes leaves Token)
    (comma : cursor.peek = some ',') : leaves cursor = false := by
  cases left : leaves cursor with
  | false => rfl
  | true => exact absurd comma (recognizes.atItem_of_leaves left).peek_ne_comma

theorem not_isBlank_of_listEnds (recognizes : reader.Recognizes leaves Token)
    (ends : ListEnds leaves cursor) {c : Char} (next : cursor.peek = some c) :
    Text.isBlank c = false := by
  rcases ends with atEnd | left
  · rcases Cursor.peek_eq_some_iff.mp next with ⟨rest, isCons⟩
    simp [Cursor.atEnd, isCons] at atEnd
  · exact (recognizes.atItem_of_leaves left).not_isBlank next

theorem readList_of_listEnds (recognizes : reader.Recognizes leaves Token)
    (ends : ListEnds leaves cursor) : reader.readList leaves cursor = .ok ([], cursor) := by
  have same : cursor.skipBlanks = cursor :=
    Cursor.skipBlanks_eq_self fun c next => recognizes.not_isBlank_of_listEnds ends next
  rw [readList_eq, round_of_listEnds (same.symm ▸ ends), same]

theorem readList_skip_of_separator (recognizes : reader.Recognizes leaves Token) {c : Char}
    (next : cursor.peek = some c) (separates : c ∈ ',' :: blanks) :
    reader.readList leaves cursor.skip = reader.readList leaves cursor := by
  rcases List.mem_cons.mp separates with rfl | blank
  · have same : cursor.skipBlanks = cursor := by
      apply Cursor.skipBlanks_eq_self
      rintro c ahead
      rw [next] at ahead
      cases ahead
      rfl
    rw [readList_eq reader leaves cursor, round_of_comma, same]
    · rw [same, next]
    · rw [same]
      exact recognizes.leaves_eq_false_of_comma next
  · exact readList_skip_of_isBlank next (mem_blanks_iff.mp blank)

theorem readList_of_separators (recognizes : reader.Recognizes leaves Token) {middle : Cursor}
    {text : List Char} (separate : ∀ c ∈ text, c ∈ ',' :: blanks)
    (passes : cursor.Passes text middle) :
    reader.readList leaves cursor = reader.readList leaves middle := by
  induction text generalizing cursor with
  | nil => rw [passes.unique (Cursor.Passes.refl cursor)]
  | cons c text ih =>
      have next : cursor.peek = some c := passes.peek_eq_head? (List.cons_ne_nil _ _)
      have parts : cursor.Passes ([c] ++ text) middle := passes
      rcases parts.split with ⟨start, first, others⟩
      cases (Cursor.passes_skip next).unique first
      rw [← recognizes.readList_skip_of_separator next (separate c (by simp))]
      exact ih (fun d member => separate d (List.mem_cons_of_mem _ member)) others

/-- Reading a list that starts with a token is reading the token and then the others. -/
theorem readList_of_token (recognizes : reader.Recognizes leaves Token) {item : α}
    {token : List Char} (passes : cursor.Passes token after)
    (isToken : Token item token after.rest) :
    reader.readList leaves cursor =
      match reader.readList leaves after with
      | .error error => .error error
      | .ok (items, final) => .ok (item :: items, final) := by
  have start := recognizes.atItem_of_token passes isToken
  have same : cursor.skipBlanks = cursor :=
    Cursor.skipBlanks_eq_self fun c next => start.not_isBlank next
  have stays := recognizes.stays_of_token passes isToken
  rw [readList_eq reader leaves cursor,
    round_of_atItem reader (same.symm ▸ start) (same.symm ▸ stays),
    same, recognizes.read_of_token passes isToken]

/-- What is read from a place with a token is the token's item and what is read behind it. -/
theorem exists_readList_of_token (recognizes : reader.Recognizes leaves Token) {item : α}
    {token : List Char} {items : List α} {final : Cursor} (passes : cursor.Passes token after)
    (isToken : Token item token after.rest)
    (read : reader.readList leaves cursor = .ok (items, final)) :
    ∃ others, items = item :: others ∧ reader.readList leaves after = .ok (others, final) := by
  rw [recognizes.readList_of_token passes isToken] at read
  split at read
  · cases read
  · rename_i others final' continued
    cases read
    exact ⟨others, rfl, continued⟩

theorem readList_of_itemList (recognizes : reader.Recognizes leaves Token) {items : List α}
    {text rest : List Char} (list : ItemList Token items text rest)
    (passes : cursor.Passes text after) (rest_eq : after.rest = rest)
    (ends : ListEnds leaves after) : reader.readList leaves cursor = .ok (items, after) := by
  induction list generalizing cursor with
  | nil rest =>
      cases passes.unique (Cursor.Passes.refl cursor)
      exact recognizes.readList_of_listEnds ends
  | @separator items c text rest separates list ih =>
      have next : cursor.peek = some c := passes.peek_eq_head? (List.cons_ne_nil _ _)
      have parts : cursor.Passes ([c] ++ text) after := passes
      rcases parts.split with ⟨middle, first, others⟩
      cases (Cursor.passes_skip next).unique first
      rw [← recognizes.readList_skip_of_separator next separates]
      exact ih others rest_eq
  | item first list ih =>
      rcases passes.split with ⟨middle, token, others⟩
      rw [← rest_eq, ← others.rest_eq] at first
      rw [recognizes.readList_of_token token first, ih others rest_eq]

theorem itemList_of_readList (recognizes : reader.Recognizes leaves Token) {items : List α}
    (read : reader.readList leaves cursor = .ok (items, after)) :
    ListEnds leaves after ∧
      ∃ text, cursor.Passes text after ∧ ItemList Token items text after.rest := by
  induction size : cursor.rest.length using Nat.strongRecOn generalizing cursor items with
  | _ size ih =>
      subst size
      rcases cursor.exists_gap_skipBlanks with ⟨gap, isGap, skipped⟩
      rcases round_cases reader leaves cursor with
        ⟨ends, step⟩ | ⟨comma, step⟩ | ⟨start, stays, step⟩
      · rw [readList_eq, step] at read
        cases read
        exact ⟨ends, gap, skipped, by simpa using (ItemList.nil _).gap_append isGap⟩
      · have shorter := length_rest_lt_of_round_eq_separator step
        rw [readList_eq, step] at read
        rcases ih _ shorter read rfl with ⟨final, text, passes, list⟩
        refine ⟨final, gap ++ ([','] ++ text), ?_, ?_⟩
        · exact skipped.trans ((Cursor.passes_skip comma).trans passes)
        · exact (list.separator (by simp)).gap_append isGap
      · cases opened : reader.read cursor.skipBlanks with
        | error error =>
            rw [readList_eq, step, opened] at read
            cases read
        | ok result =>
            rcases result with ⟨item, middle⟩
            rw [opened] at step
            have shorter := length_rest_lt_of_round_eq_item step
            rcases recognizes.token_of_read start stays opened with ⟨token, passes, isToken⟩
            rw [readList_eq, step] at read
            simp only at read
            split at read
            · cases read
            · rename_i others final continued
              cases read
              rcases ih _ shorter continued rfl with ⟨isEnd, text, rest, list⟩
              rw [rest.rest_eq] at isToken
              refine ⟨isEnd, gap ++ (token ++ text), skipped.trans (passes.trans rest), ?_⟩
              exact (list.item isToken).gap_append isGap

/-- A list is read up to a place exactly if the text before that place is a list of those items
and a list can end there. -/
theorem readList_eq_ok_iff (recognizes : reader.Recognizes leaves Token) {items : List α} :
    reader.readList leaves cursor = .ok (items, after) ↔
      ListEnds leaves after ∧
        ∃ text, cursor.Passes text after ∧ ItemList Token items text after.rest := by
  constructor
  · exact recognizes.itemList_of_readList
  · rintro ⟨ends, text, passes, list⟩
    exact recognizes.readList_of_itemList list passes rfl ends

end Recognizes

end ItemReader

end FileQuery
