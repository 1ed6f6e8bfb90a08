import FileQuery.Number.Decimal

/-!
# JSON

JSON values and two layouts of their text: compact, without any space, and pretty, with one item or
member a line and two blanks of indentation a level. Strings escape quotes, backslashes and the
characters below the blank, and nothing else.
-/

namespace FileQuery

/-- A JSON value. A number is kept as it is written, and an object has its members in the order in
which they are written. -/
inductive JsonValue where
  | null
  | bool (truth : Bool)
  | number (literal : List Char)
  | string (content : String)
  | array (items : List JsonValue)
  | object (members : List (String × JsonValue))

namespace JsonValue

def fourHexDigits (code : Nat) : List Char :=
  ['0', '0', Nat.digitChar (code / 16), Nat.digitChar (code % 16)]

def escapeChar (c : Char) : List Char :=
  if c = '"' then ['\\', '"']
  else if c = '\\' then ['\\', '\\']
  else if c = '\x08' then ['\\', 'b']
  else if c = '\x0c' then ['\\', 'f']
  else if c = '\n' then ['\\', 'n']
  else if c = '\r' then ['\\', 'r']
  else if c = '\t' then ['\\', 't']
  else if c.toNat < 0x20 then '\\' :: 'u' :: fourHexDigits c.toNat
  else [c]

def quote (content : List Char) : List Char :=
  '"' :: content.flatMap escapeChar ++ ['"']

def openBrace : Char := '\x7b'

def closeBrace : Char := '\x7d'

def boolWord (truth : Bool) : List Char :=
  if truth then "true".toList else "false".toList

mutual

def compact : JsonValue → List Char
  | null => "null".toList
  | bool truth => boolWord truth
  | number literal => literal
  | string content => quote content.toList
  | array items => '[' :: compactItems items ++ [']']
  | object members => openBrace :: compactMembers members ++ [closeBrace]

def compactItems : List JsonValue → List Char
  | [] => []
  | [value] => value.compact
  | value :: items => value.compact ++ ',' :: compactItems items

def compactMembers : List (String × JsonValue) → List Char
  | [] => []
  | [(name, value)] => quote name.toList ++ ':' :: value.compact
  | (name, value) :: members =>
      quote name.toList ++ ':' :: value.compact ++ ',' :: compactMembers members

end

def lineBreak (level : Nat) : List Char :=
  '\n' :: List.replicate (2 * level) ' '

mutual

/-- The text of a value at a level of indentation, with one item or member a line. -/
def pretty (level : Nat) : JsonValue → List Char
  | null => "null".toList
  | bool truth => boolWord truth
  | number literal => literal
  | string content => quote content.toList
  | array [] => ['[', ']']
  | array items => '[' :: prettyItems (level + 1) items ++ lineBreak level ++ [']']
  | object [] => [openBrace, closeBrace]
  | object members =>
      openBrace :: prettyMembers (level + 1) members ++ lineBreak level ++ [closeBrace]

/-- The items of an array, each on a line of its own, with commas between. -/
def prettyItems (level : Nat) : List JsonValue → List Char
  | [] => []
  | [value] => lineBreak level ++ value.pretty level
  | value :: items =>
      lineBreak level ++ value.pretty level ++ ',' :: prettyItems level items

/-- The members of an object, each on a line of its own, with commas between. -/
def prettyMembers (level : Nat) : List (String × JsonValue) → List Char
  | [] => []
  | [(name, value)] =>
      lineBreak level ++ quote name.toList ++ ':' :: ' ' :: value.pretty level
  | (name, value) :: members =>
      lineBreak level ++ quote name.toList ++ ':' :: ' ' :: value.pretty level ++
        ',' :: prettyMembers level members

end

end JsonValue

end FileQuery
