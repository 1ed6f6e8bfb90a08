import FileQuery.Proofs.Output.JsonTokens

/-!
# Reading what was written

The pretty text of a JSON value is read as that value and as nothing else, at any level of
indentation, if its numbers are written as numbers. `ReadsBack` states this for a value with any
text behind it that does not go on with a number, so that the items of an array and the members of
an object are read one after another, each up to its comma or the closing bracket.

Every call of the reader lowers the bound on nested calls by one, and between two nested values
there is at least a line break to read, so that twice the length of the text is always enough.
-/

namespace FileQuery.JsonValue

section Steps

variable {bound : Nat} {text rest after : List Char}

theorem readValue?_string {content : String}
    (skipped : skipBlanks text = quote content.toList ++ rest) :
    readValue? (bound + 1) text = some (string content, rest) := by
  rw [readValue?, skipped, quote_append]
  simp [readString?_escaped]

theorem readValue?_scalar {c : Char} (skipped : skipBlanks text = c :: rest)
    (scalar : c ≠ '"' ∧ c ≠ '[' ∧ c ≠ openBrace) :
    readValue? (bound + 1) text =
      match readWord? (c :: rest) with
      | some result => some result
      | none => readNumber? (c :: rest) := by
  rw [readValue?, skipped]
  split
  · rename_i starts
    exact absurd (List.cons.inj starts).1 scalar.1
  · rename_i starts
    exact absurd (List.cons.inj starts).1 scalar.2.1
  · rename_i starts
    exact absurd (List.cons.inj starts).1 scalar.2.2
  · rfl

theorem readValue?_word {c : Char} {value : JsonValue} (skipped : skipBlanks text = c :: rest)
    (scalar : c ≠ '"' ∧ c ≠ '[' ∧ c ≠ openBrace)
    (read : readWord? (c :: rest) = some (value, after)) :
    readValue? (bound + 1) text = some (value, after) := by
  rw [readValue?_scalar skipped scalar, read]

theorem readValue?_emptyArray (skipped : skipBlanks text = '[' :: rest)
    (closed : afterToken? ']' rest = some after) :
    readValue? (bound + 1) text = some (array [], after) := by
  rw [readValue?, skipped]
  simp [closed]

theorem readValue?_array {items : List JsonValue} (skipped : skipBlanks text = '[' :: rest)
    (filled : afterToken? ']' rest = none) (read : readItems? bound rest = some (items, after)) :
    readValue? (bound + 1) text = some (array items, after) := by
  rw [readValue?, skipped]
  simp [filled, read]

theorem readValue?_emptyObject (skipped : skipBlanks text = openBrace :: rest)
    (closed : afterToken? closeBrace rest = some after) :
    readValue? (bound + 1) text = some (object [], after) := by
  rw [readValue?, skipped]
  simp [openBrace, closed]

theorem readValue?_object {members : List (String × JsonValue)}
    (skipped : skipBlanks text = openBrace :: rest)
    (filled : afterToken? closeBrace rest = none)
    (read : readMembers? bound rest = some (members, after)) :
    readValue? (bound + 1) text = some (object members, after) := by
  rw [readValue?, skipped]
  simp [openBrace, filled, read]

theorem readItems?_last {value : JsonValue} (read : readValue? bound text = some (value, rest))
    (single : afterToken? ',' rest = none) (closed : afterToken? ']' rest = some after) :
    readItems? (bound + 1) text = some ([value], after) := by
  simp [readItems?, read, single, closed]

theorem readItems?_more {value : JsonValue} {items : List JsonValue} {later : List Char}
    (read : readValue? bound text = some (value, rest))
    (more : afterToken? ',' rest = some later)
    (readLater : readItems? bound later = some (items, after)) :
    readItems? (bound + 1) text = some (value :: items, after) := by
  simp [readItems?, read, more, readLater]

theorem readMembers?_last {name : String} {value : JsonValue} {later : List Char}
    (skipped : skipBlanks text = quote name.toList ++ ':' :: later)
    (read : readValue? bound later = some (value, rest)) (single : afterToken? ',' rest = none)
    (closed : afterToken? closeBrace rest = some after) :
    readMembers? (bound + 1) text = some ([(name, value)], after) := by
  have opened := skipped.trans (quote_append name (':' :: later))
  have colon : afterToken? ':' (':' :: later) = some later := rfl
  simp [readMembers?, afterToken?_of_skipBlanks opened, readString?_escaped, colon, read, single,
    closed]

theorem readMembers?_more {name : String} {value : JsonValue}
    {members : List (String × JsonValue)} {later others : List Char}
    (skipped : skipBlanks text = quote name.toList ++ ':' :: later)
    (read : readValue? bound later = some (value, rest)) (more : afterToken? ',' rest = some others)
    (readOthers : readMembers? bound others = some (members, after)) :
    readMembers? (bound + 1) text = some ((name, value) :: members, after) := by
  have opened := skipped.trans (quote_append name (':' :: later))
  have colon : afterToken? ':' (':' :: later) = some later := rfl
  simp [readMembers?, afterToken?_of_skipBlanks opened, readString?_escaped, colon, read, more,
    readOthers]

end Steps

/-- A value whose numbers are all written as numbers. -/
inductive WellFormed : JsonValue → Prop where
  | null : WellFormed null
  | bool (truth : Bool) : WellFormed (bool truth)
  | number {literal : List Char} (valid : isNumber literal = true) : WellFormed (number literal)
  | string (content : String) : WellFormed (string content)
  | array {items : List JsonValue} (each : ∀ value ∈ items, WellFormed value) :
      WellFormed (array items)
  | object {members : List (String × JsonValue)}
      (each : ∀ member ∈ members, WellFormed member.2) : WellFormed (object members)

/-- Where a value is written next, at any level of indentation, the reader finds it. -/
def ReadsBack (value : JsonValue) : Prop :=
  ∀ (level bound : Nat) (text rest : List Char), skipBlanks text = value.pretty level ++ rest →
    2 * (value.pretty level).length ≤ bound → EndsNumber rest →
    readValue? bound text = some (value, rest)

/-- A value starts with a character that neither is skipped nor closes an array. -/
theorem WellFormed.exists_pretty_eq_cons {value : JsonValue} (wellFormed : value.WellFormed)
    (level : Nat) :
    ∃ c rest, value.pretty level = c :: rest ∧ Text.isBlank c = false ∧ c ≠ ']' := by
  cases wellFormed with
  | null => exact ⟨'n', _, rfl, rfl, by decide⟩
  | bool truth =>
      cases truth with
      | false => exact ⟨'f', _, rfl, rfl, by decide⟩
      | true => exact ⟨'t', _, rfl, rfl, by decide⟩
  | number valid =>
      rcases exists_eq_cons_of_isNumber valid with ⟨c, rest, rfl, rfl | digit⟩
      · exact ⟨'-', rest, rfl, rfl, by decide⟩
      · refine ⟨c, rest, rfl, ?_, ?_⟩
        · rw [Bool.eq_false_iff]
          intro blank
          simp only [Text.isBlank, Bool.or_eq_true, beq_iff_eq] at blank
          rcases blank with ((rfl | rfl) | rfl) | rfl <;> cases digit
        · rintro rfl
          cases digit
  | string content => exact ⟨'"', _, rfl, rfl, by decide⟩
  | @array items _ => cases items <;> exact ⟨'[', _, rfl, rfl, by decide⟩
  | @object members _ => cases members <;> exact ⟨openBrace, _, rfl, rfl, by decide⟩

theorem exists_eq_add_one_of_enough {value : JsonValue} (wellFormed : value.WellFormed)
    {level bound : Nat} (enough : 2 * (value.pretty level).length ≤ bound) :
    ∃ less, bound = less + 1 := by
  rcases wellFormed.exists_pretty_eq_cons level with ⟨c, rest, starts, -⟩
  rw [starts, List.length_cons] at enough
  exact ⟨bound - 1, by omega⟩

@[simp]
theorem length_lineBreak (level : Nat) : (lineBreak level).length = 2 * level + 1 := by
  simp [lineBreak]

/-- What separates an element from those behind it: a comma if there are any. -/
def separated (others : List Char) : Bool → List Char
  | true => []
  | false => ',' :: others

theorem prettyItems_cons (level : Nat) (value : JsonValue) (items : List JsonValue) :
    prettyItems level (value :: items) =
      lineBreak level ++ (value.pretty level ++
        separated (prettyItems level items) items.isEmpty) := by
  cases items <;> simp [prettyItems, separated]

theorem prettyMembers_cons (level : Nat) (name : String) (value : JsonValue)
    (members : List (String × JsonValue)) :
    prettyMembers level ((name, value) :: members) =
      lineBreak level ++ (quote name.toList ++ ':' :: ' ' :: (value.pretty level ++
        separated (prettyMembers level members) members.isEmpty)) := by
  cases members <;> simp [prettyMembers, separated]

theorem pretty_array_of_ne_nil (level : Nat) {items : List JsonValue} (filled : items ≠ []) :
    (array items).pretty level =
      '[' :: (prettyItems (level + 1) items ++ (lineBreak level ++ [']'])) := by
  cases items with
  | nil => exact absurd rfl filled
  | cons value items => simp [pretty]

theorem pretty_object_of_ne_nil (level : Nat) {members : List (String × JsonValue)}
    (filled : members ≠ []) :
    (object members).pretty level =
      openBrace :: (prettyMembers (level + 1) members ++ (lineBreak level ++ [closeBrace])) := by
  cases members with
  | nil => exact absurd rfl filled
  | cons member members => simp [pretty]

theorem endsNumber_separated_append (others : List Char) (isLast : Bool) {ending : List Char}
    (ends : EndsNumber ending) : EndsNumber (separated others isLast ++ ending) := by
  cases isLast with
  | true => exact ends
  | false =>
      intro c head
      cases head
      rfl

section Layout

variable {level bound : Nat} {ending rest : List Char}

/-- A written value is found behind the blanks before it. -/
theorem skipBlanks_pretty_append {value : JsonValue} (wellFormed : value.WellFormed) (level : Nat)
    (rest : List Char) : skipBlanks (value.pretty level ++ rest) = value.pretty level ++ rest := by
  rcases wellFormed.exists_pretty_eq_cons level with ⟨c, tail, starts, token, -⟩
  rw [starts, List.cons_append, skipBlanks_cons_of_not_isBlank token]

theorem afterToken?_prettyItems {value : JsonValue} (wellFormed : value.WellFormed)
    (items : List JsonValue) (level : Nat) (ending : List Char) :
    afterToken? ']' (prettyItems level (value :: items) ++ ending) = none := by
  rcases wellFormed.exists_pretty_eq_cons level with ⟨c, rest, starts, token, notClosing⟩
  have skipped : skipBlanks (prettyItems level (value :: items) ++ ending) =
      c :: (rest ++ separated (prettyItems level items) items.isEmpty ++ ending) := by
    simp [prettyItems_cons, starts, skipBlanks_cons_of_not_isBlank token]
  rw [afterToken?_of_skipBlanks skipped, if_neg notClosing]

theorem afterToken?_prettyMembers (member : String × JsonValue)
    (members : List (String × JsonValue)) (level : Nat) (ending : List Char) :
    afterToken? closeBrace (prettyMembers level (member :: members) ++ ending) = none := by
  rcases member with ⟨name, value⟩
  have token : Text.isBlank '"' = false := rfl
  have skipped : ∃ rest,
      skipBlanks (prettyMembers level ((name, value) :: members) ++ ending) = '"' :: rest := by
    simp [prettyMembers_cons, quote, skipBlanks_cons_of_not_isBlank token]
  rcases skipped with ⟨rest, skipped⟩
  rw [afterToken?_of_skipBlanks skipped, if_neg (by decide)]

theorem readItems?_prettyItems {items : List JsonValue} (filled : items ≠ [])
    (each : ∀ value ∈ items, value.WellFormed ∧ value.ReadsBack)
    (closes : skipBlanks ending = ']' :: rest) (ends : EndsNumber ending)
    (enough : 2 * (prettyItems level items).length ≤ bound) :
    readItems? bound (prettyItems level items ++ ending) = some (items, rest) := by
  induction items generalizing bound with
  | nil => exact absurd rfl filled
  | cons value items ih =>
      rcases List.forall_mem_cons.1 each with ⟨⟨wellFormed, readsBack⟩, others⟩
      rw [prettyItems_cons] at enough ⊢
      simp only [List.length_append, length_lineBreak] at enough
      obtain ⟨bound, rfl⟩ : ∃ less, bound = less + 1 := ⟨bound - 1, by omega⟩
      simp only [List.append_assoc]
      have skipped : ∀ rest : List Char, skipBlanks (lineBreak level ++
          (value.pretty level ++ rest)) = value.pretty level ++ rest := by
        intro rest
        rw [skipBlanks_lineBreak_append, skipBlanks_pretty_append wellFormed]
      have read := readsBack level bound _ _ (skipped _) (by omega)
        (endsNumber_separated_append (prettyItems level items) items.isEmpty ends)
      cases items with
      | nil =>
          exact readItems?_last read (afterToken?_of_skipBlanks closes)
            (afterToken?_of_skipBlanks closes)
      | cons next items =>
          simp only [List.isEmpty_cons, separated, List.length_cons] at enough
          exact readItems?_more read rfl
            (ih (List.cons_ne_nil next items) others (by omega))

theorem readMembers?_prettyMembers {members : List (String × JsonValue)} (filled : members ≠ [])
    (each : ∀ member ∈ members, member.2.WellFormed ∧ member.2.ReadsBack)
    (closes : skipBlanks ending = closeBrace :: rest) (ends : EndsNumber ending)
    (enough : 2 * (prettyMembers level members).length ≤ bound) :
    readMembers? bound (prettyMembers level members ++ ending) = some (members, rest) := by
  induction members generalizing bound with
  | nil => exact absurd rfl filled
  | cons member members ih =>
      rcases member with ⟨name, value⟩
      rcases List.forall_mem_cons.1 each with ⟨⟨wellFormed, readsBack⟩, others⟩
      dsimp only at wellFormed readsBack
      rw [prettyMembers_cons] at enough ⊢
      simp only [List.length_append, List.length_cons, length_lineBreak] at enough
      obtain ⟨bound, rfl⟩ : ∃ less, bound = less + 1 := ⟨bound - 1, by omega⟩
      simp only [List.append_assoc, List.cons_append]
      have named : ∀ later : List Char, skipBlanks (lineBreak level ++
          (quote name.toList ++ ':' :: later)) = quote name.toList ++ ':' :: later := by
        intro later
        rw [skipBlanks_lineBreak_append]
        rfl
      have skipped : ∀ rest : List Char, skipBlanks (' ' :: (value.pretty level ++ rest)) =
          value.pretty level ++ rest := by
        intro rest
        rw [skipBlanks_cons_of_isBlank rfl, skipBlanks_pretty_append wellFormed]
      have read := readsBack level bound _ _ (skipped _) (by omega)
        (endsNumber_separated_append (prettyMembers level members) members.isEmpty ends)
      cases members with
      | nil =>
          exact readMembers?_last (named _) read (afterToken?_of_skipBlanks closes)
            (afterToken?_of_skipBlanks closes)
      | cons next members =>
          simp only [List.isEmpty_cons, separated, List.length_cons] at enough
          exact readMembers?_more (named _) read rfl
            (ih (List.cons_ne_nil next members) others (by omega))

end Layout

theorem readsBack_number {literal : List Char} (valid : isNumber literal = true) :
    (number literal).ReadsBack := by
  intro level bound text rest skipped enough ends
  obtain ⟨bound, rfl⟩ := exists_eq_add_one_of_enough (.number valid) enough
  have read := readNumber?_append valid ends
  rcases exists_eq_cons_of_isNumber valid with ⟨c, tail, rfl, starts⟩
  have scalar : c ≠ '"' ∧ c ≠ '[' ∧ c ≠ openBrace := by
    refine ⟨?_, ?_, ?_⟩ <;> rintro rfl <;> exact absurd starts (by decide)
  have opened : skipBlanks text = c :: (tail ++ rest) := skipped
  rw [readValue?_scalar opened scalar, readWord?_number starts]
  exact read

theorem readsBack_array {items : List JsonValue}
    (each : ∀ value ∈ items, value.WellFormed ∧ value.ReadsBack) : (array items).ReadsBack := by
  intro level bound text rest skipped enough ends
  obtain ⟨bound, rfl⟩ := exists_eq_add_one_of_enough
    (.array fun value member => (each value member).1) enough
  cases items with
  | nil => exact readValue?_emptyArray skipped rfl
  | cons value items =>
      have filled := List.cons_ne_nil value items
      rw [pretty_array_of_ne_nil level filled] at skipped enough
      simp only [List.append_assoc, List.cons_append, List.nil_append] at skipped
      simp only [List.length_append, List.length_cons] at enough
      have read := readItems?_prettyItems filled each
        (skipBlanks_lineBreak_append level (']' :: rest))
        (endsNumber_lineBreak_append level (']' :: rest))
        (by omega : 2 * (prettyItems (level + 1) (value :: items)).length ≤ bound)
      exact readValue?_array skipped
        (afterToken?_prettyItems (each value List.mem_cons_self).1 items _ _) read

theorem readsBack_object {members : List (String × JsonValue)}
    (each : ∀ member ∈ members, member.2.WellFormed ∧ member.2.ReadsBack) :
    (object members).ReadsBack := by
  intro level bound text rest skipped enough ends
  obtain ⟨bound, rfl⟩ := exists_eq_add_one_of_enough
    (.object fun member isMember => (each member isMember).1) enough
  cases members with
  | nil => exact readValue?_emptyObject skipped rfl
  | cons member members =>
      have filled := List.cons_ne_nil member members
      rw [pretty_object_of_ne_nil level filled] at skipped enough
      simp only [List.append_assoc, List.cons_append, List.nil_append] at skipped
      simp only [List.length_append, List.length_cons] at enough
      have read := readMembers?_prettyMembers filled each
        (skipBlanks_lineBreak_append level (closeBrace :: rest))
        (endsNumber_lineBreak_append level (closeBrace :: rest))
        (by omega : 2 * (prettyMembers (level + 1) (member :: members)).length ≤ bound)
      exact readValue?_object skipped (afterToken?_prettyMembers member members _ _) read

/-- A value whose numbers are written as numbers is read back from its pretty text. -/
theorem readsBack_of_wellFormed {value : JsonValue} (wellFormed : value.WellFormed) :
    value.ReadsBack := by
  induction wellFormed with
  | null =>
      intro level bound text rest skipped enough ends
      obtain ⟨bound, rfl⟩ := exists_eq_add_one_of_enough .null enough
      have opened : skipBlanks text = 'n' :: ("ull".toList ++ rest) := skipped
      exact readValue?_word opened (by decide) (readWord?_null rest)
  | bool truth =>
      intro level bound text rest skipped enough ends
      obtain ⟨bound, rfl⟩ := exists_eq_add_one_of_enough (.bool truth) enough
      cases truth with
      | true =>
          have opened : skipBlanks text = 't' :: ("rue".toList ++ rest) := skipped
          exact readValue?_word opened (by decide) (readWord?_boolWord true rest)
      | false =>
          have opened : skipBlanks text = 'f' :: ("alse".toList ++ rest) := skipped
          exact readValue?_word opened (by decide) (readWord?_boolWord false rest)
  | number valid => exact readsBack_number valid
  | string content =>
      intro level bound text rest skipped enough ends
      obtain ⟨bound, rfl⟩ := exists_eq_add_one_of_enough (.string content) enough
      exact readValue?_string skipped
  | array each ih => exact readsBack_array fun value member => ⟨each value member, ih value member⟩
  | object each ih =>
      exact readsBack_object fun member isMember => ⟨each member isMember, ih member isMember⟩

/-- A value whose numbers are written as numbers is the only value that its pretty text is read as,
also with blanks behind it. -/
theorem ofChars?_pretty_append {value : JsonValue} (wellFormed : value.WellFormed) (level : Nat)
    {blanks : List Char} (blank : ∀ c ∈ blanks, Text.isBlank c = true) :
    ofChars? (value.pretty level ++ blanks) = some value := by
  have ends : EndsNumber blanks := by
    intro c head
    have isBlank := blank c (List.mem_of_mem_head? head)
    simp only [Text.isBlank, Bool.or_eq_true, beq_iff_eq] at isBlank
    rcases isBlank with ((rfl | rfl) | rfl) | rfl <;> rfl
  have skipped : skipBlanks blanks = [] := List.dropWhile_eq_nil_iff.2 blank
  have enough : 2 * (value.pretty level).length ≤
      2 * (value.pretty level ++ blanks).length + 1 := by
    rw [List.length_append]
    omega
  have read := readsBack_of_wellFormed wellFormed level _ _ blanks
    (skipBlanks_pretty_append wellFormed level blanks) enough ends
  rw [ofChars?, read]
  simp [skipped]

end FileQuery.JsonValue
