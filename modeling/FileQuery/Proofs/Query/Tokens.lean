import FileQuery.Query.Grammar
import FileQuery.Query.Parser

/-!
# Tokens and their readers

A reader of one token succeeds exactly where the grammar has a token, and it consumes that token
and nothing else. `Cursor.Passes` relates the cursors before and after a text; since a text
determines the cursor after it, each statement below determines what its reader returns.

The readers test characters by Boolean functions, and the grammar names their classes by lists.
The two are related once, at the start, and are not opened again.
-/

namespace FileQuery

theorem Field.spelledBy_iff {field : Field} {word : String} :
    field.spelledBy word = true ↔ word ∈ field.keyword :: field.info.aliases := by
  simp only [spelledBy, Bool.or_eq_true, beq_iff_eq, List.contains_iff_mem, List.mem_cons]
  rw [eq_comm]

/-- No two fields share a spelling. -/
theorem Field.named?_eq_some_iff {field : Field} {word : String} :
    named? word = some field ↔ field.spelledBy word = true := by
  constructor
  · intro found
    have first : table.find? (fun field => field.spelledBy word) = some field := found
    simpa using List.find?_some first
  · intro spelled
    have all : ∀ field : Field, ∀ word ∈ field.keyword :: field.info.aliases,
        named? word = some field := by
      intro field
      cases field <;> decide
    exact all field word (spelledBy_iff.mp spelled)

theorem Command.named?_eq_some_iff {verb : Command} {word : String} :
    named? word = some verb ↔ word = verb.keyword := by
  cases verb
  simp [named?]

/-- No two operators share a spelling. -/
theorem Operator.named?_eq_some_iff {operator : Operator} {word : String} :
    named? word = some operator ↔ (word, operator) ∈ spellings := by
  constructor
  · intro found
    rcases List.lookup_eq_some_iff.mp found with ⟨before, after, split, -⟩
    simp [split]
  · intro member
    have all : ∀ pair ∈ spellings, named? pair.1 = some pair.2 := by decide
    exact all (word, operator) member

namespace Grammar

@[simp]
theorem mem_blanks_iff {c : Char} : c ∈ blanks ↔ Text.isBlank c = true := by
  simp [blanks, Text.isBlank, or_assoc]

@[simp]
theorem mem_operatorSigns_iff {c : Char} :
    c ∈ operatorSigns ↔ Cursor.isOperatorSign c = true := by
  simp [operatorSigns, Cursor.isOperatorSign, or_assoc]

theorem isFieldCharacter_iff {c : Char} :
    Cursor.isFieldCharacter c = true ↔ c ∉ blanks ++ operatorSigns ++ [',', doubleQuote] := by
  simp [Cursor.isFieldCharacter, and_assoc]

theorem isPathCharacter_iff {c : Char} :
    (c != ',' && !Text.isBlank c) = true ↔ c ∉ blanks ++ [','] := by
  simp [and_comm]

theorem isValueCharacter_iff {c : Char} : (!Text.isBlank c) = true ↔ c ∉ blanks := by
  simp

end Grammar

namespace Cursor

open Grammar

/-- The text lies between two cursors. -/
structure Passes (cursor : Cursor) (text : List Char) (after : Cursor) : Prop where
  rest_eq : cursor.rest = text ++ after.rest
  position_eq : after.position = cursor.position + Text.byteLength text

namespace Passes

variable {cursor middle after after' : Cursor} {text text' : List Char}

theorem refl (cursor : Cursor) : cursor.Passes [] cursor :=
  ⟨rfl, rfl⟩

theorem trans (first : cursor.Passes text middle) (second : middle.Passes text' after) :
    cursor.Passes (text ++ text') after := by
  constructor
  · rw [first.rest_eq, second.rest_eq, List.append_assoc]
  · rw [second.position_eq, first.position_eq, Text.byteLength_append, Nat.add_assoc]

theorem unique (first : cursor.Passes text after) (second : cursor.Passes text after') :
    after = after' := by
  have rest_eq : after.rest = after'.rest :=
    List.append_cancel_left (first.rest_eq.symm.trans second.rest_eq)
  have position_eq := first.position_eq.trans second.position_eq.symm
  cases after
  cases after'
  simp_all

theorem peek_eq_head? (passes : cursor.Passes text after) (nonempty : text ≠ []) :
    cursor.peek = text.head? := by
  cases text with
  | nil => contradiction
  | cons c text => rw [peek, passes.rest_eq]; rfl

theorem exists_of_rest_eq {rest : List Char} (ahead : cursor.rest = text ++ rest) :
    ∃ after, cursor.Passes text after ∧ after.rest = rest :=
  ⟨⟨rest, cursor.position + Text.byteLength text⟩, ⟨ahead, rfl⟩, rfl⟩

/-- A text that is ahead can be cut anywhere. -/
theorem split (passes : cursor.Passes (text ++ text') after) :
    ∃ middle, cursor.Passes text middle ∧ middle.Passes text' after := by
  have ahead : cursor.rest = text ++ (text' ++ after.rest) := by
    rw [passes.rest_eq, List.append_assoc]
  rcases exists_of_rest_eq ahead with ⟨middle, first, rest_eq⟩
  refine ⟨middle, first, rest_eq, ?_⟩
  rw [passes.position_eq, first.position_eq, Text.byteLength_append, Nat.add_assoc]

end Passes

variable {cursor after : Cursor}

theorem peek_eq_some_iff {c : Char} :
    cursor.peek = some c ↔ ∃ rest, cursor.rest = c :: rest := by
  simp [peek, List.head?_eq_some_iff]

theorem atEnd_iff : cursor.atEnd = true ↔ cursor.rest = [] := by
  simp [atEnd]

theorem passes_skip {c : Char} (next : cursor.peek = some c) : cursor.Passes [c] cursor.skip := by
  rcases cursor with ⟨rest, position⟩
  rcases peek_eq_some_iff.mp next with ⟨tail, ahead⟩
  simp only at ahead
  subst ahead
  exact ⟨rfl, by simp [skip]⟩

theorem passes_takeWhile (cursor : Cursor) (keep : Char → Bool) :
    cursor.Passes (cursor.takeWhile keep).1 (cursor.takeWhile keep).2 :=
  ⟨List.takeWhile_append_dropWhile.symm, rfl⟩

/-- The run that is taken is the one text of the class after which no further character of the
class comes. -/
theorem takeWhile_eq_iff {keep : Char → Bool} {run : List Char} :
    cursor.takeWhile keep = (run, after) ↔
      cursor.Passes run after ∧ (∀ c ∈ run, keep c = true) ∧
        ∀ c, after.peek = some c → keep c = false := by
  constructor
  · intro taken
    have passes := cursor.passes_takeWhile keep
    have run_eq : cursor.rest.takeWhile keep = run := congrArg Prod.fst taken
    have rest_eq : cursor.rest.dropWhile keep = after.rest :=
      congrArg (fun pair => pair.2.rest) taken
    rw [taken] at passes
    refine ⟨passes, ?_, ?_⟩
    · intro c member
      rw [← run_eq] at member
      exact List.all_eq_true.mp List.all_takeWhile c member
    · intro c next
      have stop := List.head?_dropWhile_not keep cursor.rest
      rw [peek, ← rest_eq] at next
      simpa [next] using stop
  · rintro ⟨passes, inside, ends⟩
    have stop : after.rest.takeWhile keep = [] ∧ after.rest.dropWhile keep = after.rest := by
      cases ahead : after.rest with
      | nil => simp
      | cons c rest =>
          have outside := ends c (by simp [peek, ahead])
          simp [outside]
    have run_eq : cursor.rest.takeWhile keep = run := by
      rw [passes.rest_eq, List.takeWhile_append_of_pos inside, stop.1, List.append_nil]
    have after_eq : (cursor.takeWhile keep).2 = after := by
      have taken := cursor.passes_takeWhile keep
      exact (show cursor.Passes run _ from run_eq ▸ taken).unique passes
    exact Prod.ext run_eq after_eq

theorem takeWhile_eq_of_longestRun {inClass : Char → Prop} {keep : Char → Bool}
    {run : List Char} (classes : ∀ c, keep c = true ↔ inClass c)
    (passes : cursor.Passes run after) (longest : LongestRun inClass run after.rest) :
    cursor.takeWhile keep = (run, after) := by
  apply takeWhile_eq_iff.mpr
  refine ⟨passes, fun c member => (classes c).mpr (longest.inside c member), ?_⟩
  intro c next
  exact Bool.eq_false_iff.mpr fun inside => longest.ends c next ((classes c).mp inside)

theorem longestRun_of_takeWhile_eq {inClass : Char → Prop} {keep : Char → Bool}
    {run : List Char} (classes : ∀ c, keep c = true ↔ inClass c)
    (taken : cursor.takeWhile keep = (run, after)) (nonempty : run ≠ []) :
    cursor.Passes run after ∧ LongestRun inClass run after.rest := by
  rcases takeWhile_eq_iff.mp taken with ⟨passes, inside, ends⟩
  refine ⟨passes, nonempty, fun c member => (classes c).mp (inside c member), ?_⟩
  intro c next outside
  exact Bool.eq_false_iff.mp (ends c next) ((classes c).mpr outside)

theorem quoted_eq_ok_iff {quote : Char} {content : String} (opens : cursor.peek = some quote) :
    cursor.quoted quote = .ok (content, after) ↔
      ∃ inner, cursor.Passes (enclosed quote inner) after ∧ quote ∉ inner ∧
        content = String.ofList inner := by
  have opened := passes_skip opens
  constructor
  · intro read
    rw [quoted_of_peek opens] at read
    simp only at read
    split at read
    · cases read
    · rename_i open_
      simp only [Except.ok.injEq, Prod.mk.injEq] at read
      rcases read with ⟨rfl, rfl⟩
      rcases takeWhile_eq_iff.mp (Prod.eta (cursor.skip.takeWhile fun c => c != quote)).symm with
        ⟨passes, inside, ends⟩
      have next : (cursor.skip.takeWhile fun c => c != quote).2.peek = some quote := by
        cases ahead : (cursor.skip.takeWhile fun c => c != quote).2.peek with
        | none =>
            simp only [peek, List.head?_eq_none_iff] at ahead
            exact absurd (atEnd_iff.mpr ahead) open_
        | some c => simpa using ends c ahead
      refine ⟨_, ?_, ?_, rfl⟩
      · simpa [enclosed] using (opened.trans passes).trans (passes_skip next)
      · intro member
        simpa using inside quote member
  · rintro ⟨inner, passes, closes, rfl⟩
    have parts : cursor.Passes ([quote] ++ (inner ++ [quote])) after := passes
    rcases parts.split with ⟨start, first, others⟩
    cases opened.unique first
    rcases others.split with ⟨close, content, last⟩
    have next : close.peek = some quote := by simp [peek, last.rest_eq]
    have taken : cursor.skip.takeWhile (fun c => c != quote) = (inner, close) := by
      apply takeWhile_eq_iff.mpr
      refine ⟨content, ?_, ?_⟩
      · intro c member
        simp only [bne_iff_ne]
        rintro rfl
        exact closes member
      · intro c ahead
        simp_all
    have notEnd : close.atEnd = false := by simp [atEnd, last.rest_eq]
    simp only [quoted_of_peek opens, taken, notEnd]
    cases (passes_skip next).unique last
    rfl

theorem namedField_eq_ok_iff {word : String} {item : Field} :
    namedField word = .ok item ↔ item.spelledBy word = true := by
  rw [← Field.named?_eq_some_iff, namedField]
  cases Field.named? word <;> simp

theorem map_namedField_eq_ok_iff {word : String} {item : Field} {final : Cursor} :
    (namedField word).map (·, final) = .ok (item, after) ↔
      item.spelledBy word = true ∧ final = after := by
  rw [← namedField_eq_ok_iff]
  cases namedField word <;> simp [Except.map]

theorem field_eq_ok_iff {item : Field} :
    cursor.field = .ok (item, after) ↔
      ∃ token, cursor.Passes token after ∧ FieldToken item token after.rest := by
  constructor
  · intro read
    unfold field at read
    split at read
    · rename_i opens
      split at read
      · cases read
      · rename_i word close opened
        rcases map_namedField_eq_ok_iff.mp read with ⟨spelled, rfl⟩
        rcases (quoted_eq_ok_iff opens).mp opened with ⟨inner, passes, closes, rfl⟩
        exact ⟨_, passes, .quoted _ spelled closes⟩
    · split at read
      · rename_i star
        rw [advance_of_peek star] at read
        cases read
        exact ⟨_, passes_skip star, .star _⟩
      · rename_i noStar
        rcases taken : cursor.takeWhile isFieldCharacter with ⟨word, close⟩
        rw [taken] at read
        rcases map_namedField_eq_ok_iff.mp read with ⟨spelled, rfl⟩
        have nonempty : word ≠ [] := by
          rintro rfl
          cases namedField_eq_ok_iff.mpr spelled
        rcases longestRun_of_takeWhile_eq (fun c => isFieldCharacter_iff) taken nonempty with
          ⟨passes, longest⟩
        refine ⟨_, passes, .bare spelled ?_ longest⟩
        rw [← passes.peek_eq_head? nonempty]
        exact noStar
  · rintro ⟨token, passes, isToken⟩
    cases isToken with
    | star =>
        have next : cursor.peek = some '*' := by simp [peek, passes.rest_eq]
        have noQuote : ¬cursor.peek = some doubleQuote := by simp [next, doubleQuote]
        cases (passes_skip next).unique passes
        simp [field, next, doubleQuote, advance_of_peek next, Except.map]
    | quoted after spelled closes =>
        have next : cursor.peek = some doubleQuote := by
          simp [peek, passes.rest_eq, enclosed]
        have read := (quoted_eq_ok_iff next).mpr ⟨_, passes, closes, rfl⟩
        simp only [field, if_pos next, read]
        exact map_namedField_eq_ok_iff.mpr ⟨spelled, rfl⟩
    | bare spelled plain longest =>
        have starts := passes.peek_eq_head? longest.ne_nil
        have noQuote : cursor.peek ≠ some doubleQuote := by
          rw [starts]
          intro next
          exact longest.inside _ (List.mem_of_mem_head? next) (by simp)
        have noStar : cursor.peek ≠ some '*' := starts ▸ plain
        have taken := takeWhile_eq_of_longestRun (fun c => isFieldCharacter_iff) passes longest
        simp only [field, if_neg noQuote, if_neg noStar, taken]
        exact map_namedField_eq_ok_iff.mpr ⟨spelled, rfl⟩

theorem path_eq_ok_of_pathToken {item : String} {token : List Char}
    (passes : cursor.Passes token after) (isToken : PathToken item token after.rest) :
    cursor.path = .ok (item, after) := by
  cases isToken with
  | @quoted quote inner after opens closes =>
      have next : cursor.peek = some quote := passes.peek_eq_head? (List.cons_ne_nil _ _)
      have read := (quoted_eq_ok_iff next).mpr ⟨_, passes, closes, rfl⟩
      simp only [quotes, List.mem_cons, List.not_mem_nil, or_false] at opens
      rcases opens with rfl | rfl
      · simp only [path, if_pos next, read]
      · have noDouble : cursor.peek ≠ some doubleQuote := by
          rw [next]
          decide
        simp only [path, if_neg noDouble, if_pos next, read]
  | bare longest plain noKeyword =>
      have starts := passes.peek_eq_head? longest.ne_nil
      have noDouble : cursor.peek ≠ some doubleQuote := by
        rw [starts]
        intro next
        exact plain _ next (by simp [quotes])
      have noSingle : cursor.peek ≠ some singleQuote := by
        rw [starts]
        intro next
        exact plain _ next (by simp [quotes])
      have taken := takeWhile_eq_of_longestRun (fun c => isPathCharacter_iff) passes longest
      simp only [path, if_neg noDouble, if_neg noSingle, taken]

/-- What is read as a path where an item starts is a path token, unless a keyword was there. -/
theorem pathToken_of_path_eq_ok {item : String} (starts : cursor.AtItem)
    (noWhere : cursor.atKeyword whereKeyword = false) (noOn : cursor.atKeyword onKeyword = false)
    (read : cursor.path = .ok (item, after)) :
    ∃ token, cursor.Passes token after ∧ PathToken item token after.rest := by
  unfold path at read
  split at read
  · rename_i opens
    rcases (quoted_eq_ok_iff opens).mp read with ⟨inner, passes, closes, rfl⟩
    exact ⟨_, passes, .quoted _ (by simp [quotes]) closes⟩
  · rename_i noDouble
    split at read
    · rename_i opens
      rcases (quoted_eq_ok_iff opens).mp read with ⟨inner, passes, closes, rfl⟩
      exact ⟨_, passes, .quoted _ (by simp [quotes]) closes⟩
    · rename_i noSingle
      rcases taken : cursor.takeWhile (fun c => c != ',' && !Text.isBlank c) with ⟨word, close⟩
      rw [taken] at read
      cases read
      have nonempty : word ≠ [] := by
        rintro rfl
        rcases takeWhile_eq_iff.mp taken with ⟨passes, -, ends⟩
        cases passes.unique (Passes.refl cursor)
        rcases starts with ⟨c, next, notBlank, notComma⟩
        simpa [notBlank, notComma] using ends c next
      rcases longestRun_of_takeWhile_eq (fun c => isPathCharacter_iff) taken nonempty with
        ⟨passes, longest⟩
      refine ⟨word, passes, .bare longest ?_ ?_⟩
      · intro c first
        rw [← passes.peek_eq_head? nonempty] at first
        simp only [quotes, List.mem_cons, List.not_mem_nil, or_false]
        rintro (rfl | rfl)
        · exact noDouble first
        · exact noSingle first
      · have comma : ∀ keyword : String, cursor.atKeyword keyword = false →
            word = keyword.toList → after.rest.head? = some ',' := by
          rintro keyword noKeyword rfl
          have apart : endsWord after.rest.head? = false := by
            simpa [atKeyword, passes.rest_eq] using noKeyword
          cases next : after.rest.head? with
          | none => simp [next, endsWord] at apart
          | some c =>
              have ends := longest.ends c next
              simp_all [endsWord]
        rintro (isWhere | isOn)
        · exact comma whereKeyword noWhere isWhere
        · exact comma onKeyword noOn isOn

theorem operator_eq_ok_iff {item : Operator} :
    cursor.operator = .ok (item, after) ↔
      ∃ token, cursor.Passes token after ∧ OperatorToken item token after.rest := by
  constructor
  · intro read
    simp only [operator] at read
    split at read
    · rename_i operator found
      simp only [Except.ok.injEq, Prod.mk.injEq] at read
      rcases read with ⟨rfl, rfl⟩
      have spelled := Operator.named?_eq_some_iff.mp found
      have nonempty : ∀ word, Operator.named? (String.ofList word) = some operator → word ≠ [] := by
        rintro word found rfl
        cases found
      cases letter : cursor.peek.any Char.isAlpha with
      | true =>
          simp only [letter, if_true] at spelled found ⊢
          rcases longestRun_of_takeWhile_eq (fun c => Iff.rfl) (Prod.eta _).symm
            (nonempty _ found) with ⟨passes, longest⟩
          exact ⟨_, passes, .letters spelled longest⟩
      | false =>
          simp only [letter, Bool.false_eq_true, if_false] at spelled found ⊢
          rcases longestRun_of_takeWhile_eq (fun c => mem_operatorSigns_iff.symm)
            (Prod.eta _).symm (nonempty _ found) with ⟨passes, longest⟩
          exact ⟨_, passes, .signs spelled longest⟩
    · cases read
  · rintro ⟨token, passes, isToken⟩
    cases isToken with
    | letters spelled longest =>
        have letter : cursor.peek.any Char.isAlpha = true := by
          rw [passes.peek_eq_head? longest.ne_nil, Option.any_eq_true]
          rcases List.exists_cons_of_ne_nil longest.ne_nil with ⟨c, word, rfl⟩
          exact ⟨c, rfl, longest.inside c (by simp)⟩
        have taken := takeWhile_eq_of_longestRun (fun c => Iff.rfl) passes longest
        simp only [operator, letter, if_true, taken, Operator.named?_eq_some_iff.mpr spelled]
    | signs spelled longest =>
        have noLetter : cursor.peek.any Char.isAlpha = false := by
          rw [passes.peek_eq_head? longest.ne_nil]
          rcases List.exists_cons_of_ne_nil longest.ne_nil with ⟨c, word, rfl⟩
          have sign := longest.inside c (by simp)
          simp only [operatorSigns, List.mem_cons, List.not_mem_nil, or_false] at sign
          rcases sign with rfl | rfl | rfl | rfl <;> rfl
        have taken := takeWhile_eq_of_longestRun (fun c => mem_operatorSigns_iff.symm)
          passes longest
        simp only [operator, noLetter, Bool.false_eq_true, if_false, taken,
          Operator.named?_eq_some_iff.mpr spelled]

/-- A value is read wherever something other than a blank is ahead. -/
theorem value_eq_ok_iff {item : String} {operator : Operator}
    (notBlank : ∀ c, cursor.peek = some c → Text.isBlank c = false) :
    cursor.value operator = .ok (item, after) ↔
      ∃ token, cursor.Passes token after ∧ ValueToken item token after.rest := by
  constructor
  · intro read
    unfold value at read
    split at read
    · cases read
    · rename_i c next
      split at read
      · rename_i opens
        rcases (quoted_eq_ok_iff next).mp read with ⟨inner, passes, closes, rfl⟩
        exact ⟨_, passes, .quoted _ (by simpa [quotes] using opens) closes⟩
      · rename_i plain
        rcases taken : cursor.takeWhile (fun c => !Text.isBlank c) with ⟨word, close⟩
        rw [taken] at read
        cases read
        have nonempty : word ≠ [] := by
          rintro rfl
          rcases takeWhile_eq_iff.mp taken with ⟨passes, -, ends⟩
          cases passes.unique (Passes.refl cursor)
          simpa [notBlank c next] using ends c next
        rcases longestRun_of_takeWhile_eq (fun c => isValueCharacter_iff) taken nonempty with
          ⟨passes, longest⟩
        refine ⟨word, passes, .bare longest ?_⟩
        intro first starts
        rw [← passes.peek_eq_head? nonempty, next] at starts
        cases starts
        simpa [quotes] using plain
  · rintro ⟨token, passes, isToken⟩
    cases isToken with
    | @quoted quote inner after opens closes =>
        have next : cursor.peek = some quote := passes.peek_eq_head? (List.cons_ne_nil _ _)
        have opens' : quote = doubleQuote ∨ quote = singleQuote := by simpa [quotes] using opens
        have read := (quoted_eq_ok_iff next).mpr ⟨_, passes, closes, rfl⟩
        simp only [value, next, if_pos opens', read]
    | bare longest plain =>
        have starts := passes.peek_eq_head? longest.ne_nil
        rcases List.exists_cons_of_ne_nil longest.ne_nil with ⟨c, word, rfl⟩
        have next : cursor.peek = some c := starts
        have noQuote : ¬(c = doubleQuote ∨ c = singleQuote) := by
          simpa [quotes] using plain c rfl
        have taken := takeWhile_eq_of_longestRun (fun c => isValueCharacter_iff) passes longest
        simp only [value, next, if_neg noQuote, taken]

end Cursor

end FileQuery
