import FileQuery.Proofs.Query.Denotation

/-!
# Rendered queries

When the rendering of a query is read as that query. A text is rendered bare or between two equal
quotes, and inside quotes only the other quote can occur. So a path that has both quotes is read
back only if it is rendered bare, and the renderer quotes every path with a Unicode space, although
only four blanks end a bare path. The main statement says that nothing else goes wrong with a
query that was read from a text.

One direction gives the rendering a derivation in the grammar. The other one follows the reader
along the rendered paths up to the first that has both quotes and is quoted: the reader closes the
quotes too early there, so it returns another path.
-/

namespace FileQuery

open Grammar

namespace Query

/-- The path is shown bare, or without one of the quotes inside. -/
def PathSurvives (path : List Char) : Prop :=
  doubleQuote ∈ path → singleQuote ∈ path → needsQuotes path = false

/-- The value lacks one of the quotes, or can be written bare. -/
def ValueSurvives (value : List Char) : Prop :=
  doubleQuote ∈ value → singleQuote ∈ value →
    (∀ c, value.head? = some c → c ∉ quotes) ∧ ∀ c ∈ value, c ∉ blanks

/-- A place where a bare token ends, whether it is a field or a path. -/
def EndsToken (rest : List Char) : Prop :=
  rest = [] ∨ ∃ c ∈ ',' :: blanks, rest.head? = some c

theorem needsQuotes_eq_false_iff {path : List Char} :
    needsQuotes path = false ↔
      path ≠ [] ∧ (∀ c, path.head? = some c → c ∉ quotes) ∧ path ≠ whereKeyword.toList ∧
        path ≠ onKeyword.toList ∧ ∀ c ∈ path, c ≠ ',' ∧ Text.isSpace c = false := by
  cases path with
  | nil => simp [needsQuotes]
  | cons c path =>
      simp [needsQuotes, quotes, and_assoc]

theorem longestRun_of_endsToken {inClass : Char → Prop} {token rest : List Char}
    (nonempty : token ≠ []) (inside : ∀ c ∈ token, inClass c)
    (apart : ∀ c ∈ ',' :: blanks, ¬inClass c) (ends : EndsToken rest) :
    LongestRun inClass token rest := by
  refine ⟨nonempty, inside, ?_⟩
  intro c next
  rcases ends with rfl | ⟨d, separates, first⟩
  · cases next
  · rw [first] at next
    cases next
    exact apart c separates

theorem pathToken_quotedPath {path rest : List Char} (survives : PathSurvives path)
    (ends : EndsToken rest) : PathToken (String.ofList path) (quotedPath path) rest := by
  unfold quotedPath
  split
  · rename_i needs
    by_cases hasDouble : doubleQuote ∈ path
    · rw [if_pos (by simpa using hasDouble)]
      refine .quoted rest (by simp [quotes]) ?_
      intro hasSingle
      simp [survives hasDouble hasSingle] at needs
    · rw [if_neg (by simpa using hasDouble)]
      exact .quoted rest (by simp [quotes]) hasDouble
  · rename_i bare
    rcases needsQuotes_eq_false_iff.mp (by simpa using bare) with
      ⟨nonempty, plain, notWhere, notOn, inside⟩
    have apart : ∀ c ∈ ',' :: blanks, ¬c ∉ blanks ++ [','] :=
      List.all_iff_forall_prop.mp (by decide)
    refine .bare (longestRun_of_endsToken nonempty ?_ apart ends) plain ?_
    · intro c member
      have notSpace := (inside c member).2
      simp only [List.mem_append, List.mem_singleton, mem_blanks_iff, not_or]
      refine ⟨?_, (inside c member).1⟩
      intro blank
      simp [Text.isSpace_of_isBlank blank] at notSpace
    · rintro (isWhere | isOn)
      · exact absurd isWhere notWhere
      · exact absurd isOn notOn

theorem fieldToken_keyword {field : Field} {rest : List Char} (ends : EndsToken rest) :
    FieldToken field field.keyword.toList rest := by
  by_cases isAll : field = .all
  · subst isAll
    exact .star rest
  · refine .bare ?_ ?_ (longestRun_of_endsToken ?_ ?_ ?_ ends)
    · rw [String.ofList_toList]
      exact Field.spelledBy_iff.mpr (by simp)
    · cases field with
      | all => contradiction
      | _ => decide
    · cases field <;> decide
    · cases field with
      | all => contradiction
      | _ => exact List.all_iff_forall_prop.mp (by decide)
    · exact List.all_iff_forall_prop.mp (by decide)

theorem operatorToken_symbol (operator : Operator) (rest : List Char) :
    OperatorToken operator operator.symbol.toList (' ' :: rest) := by
  have ends : ∀ {inClass : Char → Prop}, ¬inClass ' ' →
      ∀ c, (' ' :: rest).head? = some c → ¬inClass c := by
    intro inClass outside c next
    cases next
    exact outside
  have spelled : (String.ofList operator.symbol.toList, operator) ∈ Operator.spellings := by
    cases operator <;> decide
  cases operator with
  | like =>
      refine .letters spelled ⟨by decide, ?_, ends (by decide)⟩
      exact List.all_iff_forall_prop.mp (by decide)
  | _ =>
      refine .signs spelled ⟨by decide, ?_, ends (by decide)⟩
      exact List.all_iff_forall_prop.mp (by decide)

theorem valueToken_quotedValue {value : List Char} (survives : ValueSurvives value) :
    ValueToken (String.ofList value) (Condition.quotedValue value) [] := by
  unfold Condition.quotedValue
  split
  · rename_i hasSingle
    split
    · rename_i hasDouble
      rcases survives (by simpa using hasDouble) (by simpa using hasSingle) with ⟨plain, noBlank⟩
      refine .bare ⟨?_, noBlank, by simp⟩ plain
      rintro rfl
      cases hasDouble
    · rename_i noDouble
      exact .quoted [] (by simp [quotes]) (by simpa using noDouble)
  · rename_i noSingle
    exact .quoted [] (by simp [quotes]) (by simpa using noSingle)

theorem commaSeparated_singleton (item : List Char) : commaSeparated [item] = item :=
  List.intercalate_singleton

theorem commaSeparated_cons_cons (item next : List Char) (items : List (List Char)) :
    commaSeparated (item :: next :: items) =
      item ++ ',' :: ' ' :: commaSeparated (next :: items) := by
  rw [commaSeparated, List.intercalate_cons_cons, List.append_assoc]
  rfl

/-- Behind the first item comes the end of a token, or a comma, a blank and the other items. -/
theorem exists_commaSeparated_cons (item : List Char) (items : List (List Char))
    {rest : List Char} (ends : EndsToken rest) :
    ∃ more, commaSeparated (item :: items) ++ rest = item ++ more ∧ EndsToken more ∧
      (items = [] ∨ more = [',', ' '] ++ (commaSeparated items ++ rest)) := by
  cases items with
  | nil => exact ⟨rest, by rw [commaSeparated_singleton], ends, .inl rfl⟩
  | cons next items =>
      refine ⟨_, ?_, .inr ⟨',', by simp, rfl⟩, .inr rfl⟩
      rw [commaSeparated_cons_cons, List.append_assoc]
      rfl

theorem itemList_commaSeparated {α : Type} {Token : α → List Char → List Char → Prop}
    {shown : α → List Char} {items : List α} {gap after : List Char} (isGap : IsGap gap)
    (ends : EndsToken (gap ++ after))
    (tokens : ∀ item ∈ items, ∀ rest, EndsToken rest → Token item (shown item) rest) :
    ItemList Token items (commaSeparated (items.map shown) ++ gap) after := by
  induction items with
  | nil => simpa [commaSeparated] using (ItemList.nil after).gap_append isGap
  | cons item items ih =>
      have others := ih fun item member => tokens item (List.mem_cons_of_mem _ member)
      cases items with
      | nil =>
          rw [List.map_cons, List.map_nil, commaSeparated_singleton]
          refine .item (tokens item (by simp) _ ends) ?_
          simpa using (ItemList.nil after).gap_append isGap
      | cons next items =>
          rw [List.map_cons, List.map_cons, commaSeparated_cons_cons, List.append_assoc]
          refine .item (tokens item (by simp) _ (.inr ⟨',', by simp, rfl⟩)) ?_
          exact .separator (by simp) (.separator (by simp [blanks]) others)

theorem isGap_indent : IsGap indent := by
  exact List.all_iff_forall_prop.mp (by decide)

theorem conditionClause_renderChars {condition : Condition}
    (filterable : condition.field.filterable = true)
    (survives : ValueSurvives condition.value.toList) :
    ConditionClause [condition] (whereKeyword.toList ++ (indent ++ condition.renderChars)) := by
  have isValue := valueToken_quotedValue survives
  rw [String.ofList_toList] at isValue
  have clause := @ConditionClause.one condition indent condition.field.keyword.toList [' ']
    condition.operator.symbol.toList [' '] (Condition.quotedValue condition.value.toList) []
    (by decide) isGap_indent (fieldToken_keyword (.inr ⟨' ', by simp [blanks], rfl⟩)) filterable
    (by simp [IsGap]; decide) (operatorToken_symbol condition.operator _) (by simp [IsGap]; decide)
    isValue (by simp [IsGap])
  simpa [Condition.renderChars] using clause

/-- The blank line break before the keyword of the condition. -/
def conditionGap (query : Query) : List Char :=
  if query.conditions.isEmpty then [] else ['\n']

/-- What is rendered from the keyword of the condition on. -/
def conditionText (query : Query) : List Char :=
  if query.conditions.isEmpty then []
  else whereKeyword.toList ++ query.conditions.flatMap fun condition =>
    indent ++ condition.renderChars

/-- What is rendered from the first path on. -/
def pathText (query : Query) : List Char :=
  commaSeparated (query.paths.map fun path => quotedPath path.toList) ++ query.conditionGap

theorem renderChars_eq (query : Query) :
    query.renderChars = query.command.keyword.toList ++
      (indent ++ commaSeparated (query.fields.map fun field => field.keyword.toList) ++ ['\n']) ++
      fromKeyword.toList ++ (indent ++ query.pathText) ++ query.conditionText := by
  unfold renderChars pathText conditionGap conditionText
  split <;> simp

theorem isGap_conditionGap (query : Query) : IsGap query.conditionGap := by
  unfold conditionGap
  split <;> exact List.all_iff_forall_prop.mp (by decide)

theorem endsToken_conditionGap_append (query : Query) :
    EndsToken (query.conditionGap ++ query.conditionText) := by
  unfold conditionGap conditionText
  split
  · exact .inl rfl
  · exact .inr ⟨'\n', by decide, rfl⟩

theorem itemList_renderedFields (fields : List Field) (rest : List Char) :
    ItemList FieldToken fields
      (indent ++ commaSeparated (fields.map fun field => field.keyword.toList) ++ ['\n'])
      rest := by
  rw [List.append_assoc]
  apply ItemList.gap_append isGap_indent
  apply itemList_commaSeparated (by simp [IsGap]; decide) (.inr ⟨'\n', by decide, rfl⟩)
  intro field _ rest ends
  exact fieldToken_keyword ends

theorem denotes_renderChars {query : Query} (fields_ne_nil : query.fields ≠ [])
    (paths_ne_nil : query.paths ≠ []) (one : query.conditions.length ≤ 1)
    (filterable : ∀ condition ∈ query.conditions, condition.field.filterable = true)
    (pathsSurvive : ∀ path ∈ query.paths, PathSurvives path.toList)
    (valuesSurvive : ∀ condition ∈ query.conditions, ValueSurvives condition.value.toList) :
    Denotes query.renderChars query := by
  have clause : ConditionClause query.conditions query.conditionText := by
    unfold conditionText
    rcases conditions : query.conditions with _ | ⟨condition, _ | ⟨next, conditions'⟩⟩
    · exact .nothing
    · rw [conditions] at filterable valuesSurvive
      simpa using conditionClause_renderChars (filterable condition (by simp))
        (valuesSurvive condition (by simp))
    · simp [conditions] at one
  refine ⟨[], _, _, _, renderChars_eq query, by simp [IsGap], ⟨'\n', by decide, rfl⟩,
    fields_ne_nil, itemList_renderedFields _ _, ⟨'\n', by decide, rfl⟩, paths_ne_nil, ?_, clause⟩
  apply ItemList.gap_append isGap_indent
  apply itemList_commaSeparated query.isGap_conditionGap query.endsToken_conditionGap_append
  intro path member rest ends
  have isToken := pathToken_quotedPath (pathsSurvive path member) ends
  rwa [String.ofList_toList] at isToken

/-- A path that does not survive is shown as a shorter text in quotes, and something behind it. -/
theorem exists_enclosed_of_not_pathSurvives {path : List Char} (perishes : ¬PathSurvives path) :
    ∃ inner tail, quotedPath path = enclosed singleQuote inner ++ tail ∧
      singleQuote ∉ inner ∧ inner ≠ path := by
  simp only [PathSurvives, Classical.not_imp, Bool.not_eq_false] at perishes
  rcases perishes with ⟨hasDouble, hasSingle, needs⟩
  rcases List.eq_append_cons_of_mem hasSingle with ⟨inner, tail, split, closes⟩
  refine ⟨inner, tail ++ [singleQuote], ?_, closes, ?_⟩
  · rw [quotedPath, if_pos needs, if_pos (by simpa using hasDouble)]
    simp [split, enclosed]
  · rintro rfl
    exact closes hasSingle

/-- Reading the rendered paths returns them only if each of them survives. -/
theorem pathSurvives_of_readList {paths : List String} {cursor after : Cursor} {rest : List Char}
    (ahead : cursor.rest =
      commaSeparated (paths.map fun path => quotedPath path.toList) ++ rest)
    (ends : EndsToken rest)
    (read : ItemReader.path.readList Cursor.leavesPaths cursor = .ok (paths, after)) :
    ∀ path ∈ paths, PathSurvives path.toList := by
  induction paths generalizing cursor with
  | nil => simp
  | cons path paths ih =>
      rw [List.map_cons] at ahead
      rcases exists_commaSeparated_cons (quotedPath path.toList) (paths.map _) ends with
        ⟨more, split, moreEnds, others⟩
      rw [split] at ahead
      have survives : PathSurvives path.toList := by
        apply Classical.byContradiction
        intro perishes
        rcases exists_enclosed_of_not_pathSurvives perishes with
          ⟨inner, tail, shown, closes, differs⟩
        rw [shown, List.append_assoc] at ahead
        rcases Cursor.Passes.exists_of_rest_eq ahead with ⟨middle, passes, -⟩
        have isToken : PathToken (String.ofList inner) (enclosed singleQuote inner) middle.rest :=
          .quoted _ (by simp [quotes]) closes
        rcases Cursor.recognizes_path.exists_readList_of_token passes isToken read with
          ⟨items, same, -⟩
        simp only [List.cons.injEq] at same
        apply differs
        rw [same.1, String.toList_ofList]
      intro path' member
      rcases List.mem_cons.mp member with rfl | later
      · exact survives
      · rcases Cursor.Passes.exists_of_rest_eq ahead with ⟨middle, passes, atMore⟩
        have isToken := pathToken_quotedPath survives (atMore.symm ▸ moreEnds)
        rw [String.ofList_toList] at isToken
        rcases Cursor.recognizes_path.exists_readList_of_token passes isToken read with
          ⟨items, same, continued⟩
        cases same
        have isMore : more = [',', ' '] ++
            (commaSeparated (paths.map fun path => quotedPath path.toList) ++ rest) := by
          apply others.resolve_left
          simpa using List.ne_nil_of_mem later
        rw [isMore] at atMore
        rcases Cursor.Passes.exists_of_rest_eq atMore with ⟨start, separators, atNext⟩
        have separate : ∀ c ∈ [',', ' '], c ∈ ',' :: blanks :=
          List.all_iff_forall_prop.mp (by decide)
        rw [Cursor.recognizes_path.readList_of_separators separate separators] at continued
        exact ih atNext continued path' later

/-- A query that is read back from its rendering has only paths that survive. -/
theorem pathSurvives_of_ofChars_renderChars {query : Query}
    (read : ofChars query.renderChars = .ok query) :
    ∀ path ∈ query.paths, PathSurvives path.toList := by
  rcases exists_clauses_of_ofChars_eq_ok read with ⟨gap, start, afterVerb, afterFields, afterPaths,
    isGap, passesGap, readVerb, readFields, readPaths, -⟩
  rcases Cursor.command_eq_ok_iff.mp readVerb with ⟨passesVerb, -⟩
  rcases Cursor.fieldClause_eq_ok_iff.mp readFields with ⟨fields_ne_nil, -, -⟩
  rcases Cursor.pathClause_eq_ok_iff.mp readPaths with ⟨-, pathsEnd, text, passesPaths, -, isPaths⟩
  have whole : query.renderChars = gap ++ (query.command.keyword.toList ++ afterVerb.rest) :=
    passesVerb.rest_eq ▸ passesGap.rest_eq
  have gap_nil : gap = [] := by
    cases gap with
    | nil => rfl
    | cons c gap =>
        have verb : query.command.keyword.toList = ['S'] ++ "ELECT".toList := by
          cases query.command
          rfl
        rw [renderChars_eq, verb] at whole
        simp only [List.append_assoc, List.cons_append, List.cons.injEq] at whole
        rw [← whole.1] at isGap
        exact absurd (isGap 'S' (by simp)) (by decide)
  have atFields : afterVerb.rest =
      (indent ++ commaSeparated (query.fields.map fun field => field.keyword.toList) ++ ['\n']) ++
        (fromKeyword.toList ++ (indent ++ (query.pathText ++ query.conditionText))) := by
    rw [gap_nil, renderChars_eq, List.nil_append] at whole
    simp only [List.append_assoc] at whole ⊢
    exact (List.append_cancel_left whole).symm
  rcases Cursor.Passes.exists_of_rest_eq atFields with ⟨beforePaths, passesFields, atPaths⟩
  rcases Cursor.Passes.exists_of_rest_eq atPaths with ⟨middle, keyword, atIndent⟩
  have found : beforePaths.atKeyword fromKeyword = true :=
    Cursor.atKeyword_iff.mpr ⟨middle, keyword, .inr ⟨'\n', by decide, by rw [atIndent]; rfl⟩⟩
  have expected : afterVerb.fieldClause = .ok (query.fields, beforePaths) :=
    Cursor.fieldClause_eq_ok_iff.mpr
      ⟨fields_ne_nil, .inr found, _, passesFields, itemList_renderedFields _ _⟩
  rw [readFields] at expected
  cases expected
  rcases passesPaths.split with ⟨middle', keyword', others⟩
  cases keyword.unique keyword'
  have list := Cursor.recognizes_path.readList_of_itemList isPaths others rfl pathsEnd
  rcases Cursor.Passes.exists_of_rest_eq atIndent with ⟨first, passesIndent, atFirst⟩
  have separate : ∀ c ∈ indent, c ∈ ',' :: blanks := List.all_iff_forall_prop.mp (by decide)
  rw [Cursor.recognizes_path.readList_of_separators separate passesIndent] at list
  rw [pathText, List.append_assoc] at atFirst
  exact pathSurvives_of_readList atFirst query.endsToken_conditionGap_append list

theorem pathSurvives_iff_of_pathToken {path : String} {token rest : List Char}
    (isToken : PathToken path token rest) :
    PathSurvives path.toList ↔
      (doubleQuote ∈ path.toList → singleQuote ∈ path.toList →
        ∀ c ∈ path.toList, Text.isSpace c = false) := by
  constructor
  · intro survives hasDouble hasSingle c member
    rcases needsQuotes_eq_false_iff.mp (survives hasDouble hasSingle) with ⟨-, -, -, -, inside⟩
    exact (inside c member).2
  · intro noSpace hasDouble hasSingle
    cases isToken with
    | quoted rest opens closes =>
        rw [String.toList_ofList] at hasDouble hasSingle
        simp only [quotes, List.mem_cons, List.not_mem_nil, or_false] at opens
        rcases opens with rfl | rfl
        · exact absurd hasDouble closes
        · exact absurd hasSingle closes
    | bare longest plain noKeyword =>
        rw [String.toList_ofList] at *
        apply needsQuotes_eq_false_iff.mpr
        refine ⟨longest.ne_nil, plain, ?_, ?_, ?_⟩
        · rintro rfl
          exact absurd hasDouble (by decide)
        · rintro rfl
          exact absurd hasDouble (by decide)
        · intro c member
          have inside := longest.inside c member
          refine ⟨?_, noSpace hasDouble hasSingle c member⟩
          rintro rfl
          exact inside (by simp)

theorem valueSurvives_of_valueToken {value : String} {token rest : List Char}
    (isToken : ValueToken value token rest) : ValueSurvives value.toList := by
  intro hasDouble hasSingle
  cases isToken with
  | quoted rest opens closes =>
      rw [String.toList_ofList] at hasDouble hasSingle
      simp only [quotes, List.mem_cons, List.not_mem_nil, or_false] at opens
      rcases opens with rfl | rfl
      · exact absurd hasDouble closes
      · exact absurd hasSingle closes
  | bare longest plain =>
      rw [String.toList_ofList]
      exact ⟨plain, longest.inside⟩

/-- What the renderer needs to know of a condition that was read from a text. -/
theorem conditions_of_conditionClause {conditions : List Condition} {text : List Char}
    (clause : ConditionClause conditions text) :
    conditions.length ≤ 1 ∧ ∀ condition ∈ conditions,
      condition.field.filterable = true ∧ ValueSurvives condition.value.toList := by
  cases clause with
  | nothing => simp
  | one gap_ne_nil isGap isField filterable isSpace isOperator isRoom isValue isTail =>
      refine ⟨by simp, ?_⟩
      intro condition member
      rw [List.mem_singleton] at member
      subst member
      exact ⟨filterable, valueSurvives_of_valueToken isValue⟩

/-- A query that was read from a text is read back from its rendering exactly if no path with
both quotes has a Unicode space. -/
theorem parse_render_eq_ok_iff {text : String} {query : Query} (read : parse text = .ok query) :
    parse query.render = .ok query ↔
      ∀ path ∈ query.paths, doubleQuote ∈ path.toList → singleQuote ∈ path.toList →
        ∀ c ∈ path.toList, Text.isSpace c = false := by
  rcases denotes_of_ofChars_eq_ok read with ⟨gap, fieldText, pathText, conditionText, -, -, -,
    fields_ne_nil, -, -, paths_ne_nil, isPaths, clause⟩
  have survives := isPaths.forall_item pathSurvives_iff_of_pathToken
  rcases conditions_of_conditionClause clause with ⟨one, conditionsSurvive⟩
  rw [parse, render, String.toList_ofList]
  constructor
  · intro back path member
    exact (survives path member).mp (pathSurvives_of_ofChars_renderChars back path member)
  · intro noSpace
    apply ofChars_eq_ok_of_denotes
    exact denotes_renderChars fields_ne_nil paths_ne_nil one
      (fun condition member => (conditionsSurvive condition member).1)
      (fun path member => (survives path member).mpr (noSpace path member))
      (fun condition member => (conditionsSurvive condition member).2)

/-- A query with a path that has both quotes and a no-break space. -/
def spacedQuery : Query where
  fields := [.all]
  paths := ["a'\"\u00a0"]
  conditions := []

theorem denotes_spacedQuery : Denotes "SELECT * FROM a'\"\u00a0".toList spacedQuery := by
  have run : LongestRun (· ∉ blanks ++ [',']) ['a', '\'', '"', '\u00a0'] [] :=
    ⟨by decide, List.all_iff_forall_prop.mp (by decide), by simp⟩
  have path : PathToken "a'\"\u00a0" ['a', '\'', '"', '\u00a0'] [] :=
    .bare run (by simp; decide) (by decide)
  exact denotes_selectAll path

theorem parse_render_spacedQuery :
    parse "SELECT * FROM a'\"\u00a0" = .ok spacedQuery ∧
      (parse spacedQuery.render = .ok spacedQuery ↔
        ∀ path ∈ spacedQuery.paths, doubleQuote ∈ path.toList → singleQuote ∈ path.toList →
          ∀ c ∈ path.toList, Text.isSpace c = false) := by
  have read : parse "SELECT * FROM a'\"\u00a0" = .ok spacedQuery :=
    ofChars_eq_ok_of_denotes denotes_spacedQuery
  exact ⟨read, parse_render_eq_ok_iff read⟩

/-- A bare path with both quotes and a no-break space is quoted by the renderer, and the first
single quote inside then ends it. -/
theorem not_forall_parse_render_eq_ok :
    ¬∀ (text : String) (query : Query), parse text = .ok query →
      parse query.render = .ok query := by
  intro always
  have back := always _ _ (ofChars_eq_ok_of_denotes denotes_spacedQuery)
  rw [parse, render, String.toList_ofList] at back
  have survives := pathSurvives_of_ofChars_renderChars back _ (List.mem_singleton_self _)
  exact absurd (survives (by decide) (by decide)) (by decide)

/-- What a query needs in order to be read back from its rendering, whether or not it was read from
a text: the clauses have what the grammar asks for, and a text with both quotes could be written
bare. -/
structure Survives (query : Query) : Prop where
  fields_ne_nil : query.fields ≠ []
  paths_ne_nil : query.paths ≠ []
  conditions_le_one : query.conditions.length ≤ 1
  field_ne_all : ∀ condition ∈ query.conditions, condition.field ≠ .all
  path_bare : ∀ path ∈ query.paths, doubleQuote ∈ path.toList → singleQuote ∈ path.toList →
    path ≠ "" ∧ (∀ c, path.toList.head? = some c → c ∉ quotes) ∧
      ∀ c ∈ path.toList, c ≠ ',' ∧ Text.isSpace c = false
  value_bare : ∀ condition ∈ query.conditions,
    doubleQuote ∈ condition.value.toList → singleQuote ∈ condition.value.toList →
      (∀ c, condition.value.toList.head? = some c → c ∉ quotes) ∧
        ∀ c ∈ condition.value.toList, c ∉ blanks

/-- No keyword has a quote, so a path with both quotes is never taken for one. -/
theorem pathSurvives_iff {path : String} :
    PathSurvives path.toList ↔
      (doubleQuote ∈ path.toList → singleQuote ∈ path.toList →
        path ≠ "" ∧ (∀ c, path.toList.head? = some c → c ∉ quotes) ∧
          ∀ c ∈ path.toList, c ≠ ',' ∧ Text.isSpace c = false) := by
  have noKeyword : doubleQuote ∈ path.toList →
      path.toList ≠ whereKeyword.toList ∧ path.toList ≠ onKeyword.toList := by
    intro hasDouble
    constructor
    · intro isWhere
      exact absurd (isWhere ▸ hasDouble) (by decide)
    · intro isOn
      exact absurd (isOn ▸ hasDouble) (by decide)
  refine imp_congr_right fun hasDouble => imp_congr_right fun hasSingle => ?_
  rw [needsQuotes_eq_false_iff, and_iff_right (noKeyword hasDouble).1,
    and_iff_right (noKeyword hasDouble).2, ne_eq, String.toList_eq_nil_iff]

/-- A query is read back from its rendering exactly if it survives. -/
theorem parse_render_eq_ok_iff_survives (query : Query) :
    parse query.render = .ok query ↔ query.Survives := by
  rw [parse, render, String.toList_ofList]
  constructor
  · intro back
    rcases denotes_of_ofChars_eq_ok back with ⟨gap, fieldText, pathText, conditionText, -, -, -,
      fields_ne_nil, -, -, paths_ne_nil, -, clause⟩
    rcases conditions_of_conditionClause clause with ⟨one, conditionsSurvive⟩
    have pathsSurvive := pathSurvives_of_ofChars_renderChars back
    exact {
      fields_ne_nil
      paths_ne_nil
      conditions_le_one := one
      field_ne_all := fun condition member =>
        Field.filterable_iff.mp (conditionsSurvive condition member).1
      path_bare := fun path member => pathSurvives_iff.mp (pathsSurvive path member)
      value_bare := fun condition member => (conditionsSurvive condition member).2 }
  · intro survives
    apply ofChars_eq_ok_of_denotes
    apply denotes_renderChars survives.fields_ne_nil survives.paths_ne_nil
    · exact survives.conditions_le_one
    · exact fun condition member =>
        Field.filterable_iff.mpr (survives.field_ne_all condition member)
    · exact fun path member => pathSurvives_iff.mpr (survives.path_bare path member)
    · exact survives.value_bare

end Query

end FileQuery
