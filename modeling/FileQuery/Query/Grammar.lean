import FileQuery.Query.Basic

/-!
# The grammar of queries

Which texts denote which queries, without a cursor and without an order of reading. A text is cut
into tokens, and every judgment on a token also sees the text after it, because a token without
quotes goes on as far as its characters do. `Denotes` puts the clauses together.

Blanks and commas between the items of a list can be left out wherever a token ends on its own:
after a closing quote and after `*`.
-/

namespace FileQuery.Grammar

/-- The characters that separate words. -/
def blanks : List Char := [' ', '\n', '\r', '\t']

/-- The signs that operators are written with. -/
def operatorSigns : List Char := ['=', '!', '<', '>']

/-- The two quotes. -/
def quotes : List Char := [doubleQuote, singleQuote]

/-- Text that holds nothing but blanks. -/
def IsGap (text : List Char) : Prop :=
  ∀ c ∈ text, c ∈ blanks

/-- Text that starts with a blank. -/
def StartsWithBlank (text : List Char) : Prop :=
  ∃ c ∈ blanks, text.head? = some c

/-- Some characters of a class, at least one, that the text after them does not prolong. -/
structure LongestRun (inClass : Char → Prop) (run after : List Char) : Prop where
  ne_nil : run ≠ []
  inside : ∀ c ∈ run, inClass c
  ends : ∀ c, after.head? = some c → ¬ inClass c

/-- A token that denotes a field: `*`, a spelling in double quotes, or a bare spelling. -/
inductive FieldToken : Field → (token after : List Char) → Prop where
  | star (after : List Char) : FieldToken .all ['*'] after
  | quoted {field : Field} {name : List Char} (after : List Char)
      (spelled : field.spelledBy (String.ofList name)) (closes : doubleQuote ∉ name) :
      FieldToken field (enclosed doubleQuote name) after
  | bare {field : Field} {name after : List Char}
      (spelled : field.spelledBy (String.ofList name)) (plain : name.head? ≠ some '*')
      (run : LongestRun (· ∉ blanks ++ operatorSigns ++ [',', doubleQuote]) name after) :
      FieldToken field name after

/-- A token that denotes a path: any text in quotes that it does not contain, or a bare text that
neither starts with a quote nor is a keyword with no comma after it. -/
inductive PathToken : String → (token after : List Char) → Prop where
  | quoted {quote : Char} {path : List Char} (after : List Char) (opens : quote ∈ quotes)
      (closes : quote ∉ path) :
      PathToken (String.ofList path) (enclosed quote path) after
  | bare {path after : List Char} (run : LongestRun (· ∉ blanks ++ [',']) path after)
      (plain : ∀ c, path.head? = some c → c ∉ quotes)
      (noKeyword : path = whereKeyword.toList ∨ path = onKeyword.toList → after.head? = some ',') :
      PathToken (String.ofList path) path after

/-- A token that denotes an operator: a spelling that is a longest run of letters or of signs. -/
inductive OperatorToken : Operator → (token after : List Char) → Prop where
  | letters {operator : Operator} {word after : List Char}
      (spelled : (String.ofList word, operator) ∈ Operator.spellings)
      (run : LongestRun (Char.isAlpha ·) word after) : OperatorToken operator word after
  | signs {operator : Operator} {word after : List Char}
      (spelled : (String.ofList word, operator) ∈ Operator.spellings)
      (run : LongestRun (· ∈ operatorSigns) word after) : OperatorToken operator word after

/-- A token that denotes the value of a condition: any text in quotes that it does not contain, or
a bare text that does not start with a quote. -/
inductive ValueToken : String → (token after : List Char) → Prop where
  | quoted {quote : Char} {value : List Char} (after : List Char) (opens : quote ∈ quotes)
      (closes : quote ∉ value) :
      ValueToken (String.ofList value) (enclosed quote value) after
  | bare {value after : List Char} (run : LongestRun (· ∉ blanks) value after)
      (plain : ∀ c, value.head? = some c → c ∉ quotes) :
      ValueToken (String.ofList value) value after

/-- A text that denotes a list of items: their tokens, with blanks and commas anywhere between. -/
inductive ItemList {α : Type} (Token : α → (token after : List Char) → Prop) :
    List α → (text after : List Char) → Prop where
  | nil (after : List Char) : ItemList Token [] [] after
  | separator {items : List α} {c : Char} {text after : List Char} (separates : c ∈ ',' :: blanks)
      (list : ItemList Token items text after) : ItemList Token items (c :: text) after
  | item {item : α} {items : List α} {token text after : List Char}
      (first : Token item token (text ++ after)) (list : ItemList Token items text after) :
      ItemList Token (item :: items) (token ++ text) after

/-- A text that denotes at most one condition: nothing, or a keyword, a field that conditions may
use, an operator and a value. -/
inductive ConditionClause : List Condition → List Char → Prop where
  | nothing : ConditionClause [] []
  | one {condition : Condition} {gap field space operator room value tail : List Char}
      (gap_ne_nil : gap ≠ []) (isGap : IsGap gap)
      (isField : FieldToken condition.field field (space ++ operator ++ room ++ value ++ tail))
      (filterable : condition.field.filterable)
      (isSpace : IsGap space)
      (isOperator : OperatorToken condition.operator operator (room ++ value ++ tail))
      (isRoom : IsGap room)
      (isValue : ValueToken condition.value value tail)
      (isTail : IsGap tail) :
      ConditionClause [condition]
        (whereKeyword.toList ++ gap ++ field ++ space ++ operator ++ room ++ value ++ tail)

/-- The text denotes the query: after blanks come the verb, a list of fields, a keyword, a list of
paths and at most one condition. -/
def Denotes (text : List Char) (query : Query) : Prop :=
  ∃ gap fields paths conditions,
    text = gap ++ query.command.keyword.toList ++ fields ++ fromKeyword.toList ++ paths ++
      conditions ∧
    IsGap gap ∧
    StartsWithBlank fields ∧ query.fields ≠ [] ∧
    ItemList FieldToken query.fields fields (fromKeyword.toList ++ paths ++ conditions) ∧
    StartsWithBlank paths ∧ query.paths ≠ [] ∧
    ItemList PathToken query.paths paths conditions ∧
    ConditionClause query.conditions conditions

end FileQuery.Grammar
