import FileQuery.Output.Json
import FileQuery.Text.Blank

/-!
# Reading JSON

`JsonValue.ofChars?` reads any JSON text, with blanks between its tokens and with every escape that
a string can have. A character outside the basic plane may be escaped as two surrogates, and a
surrogate without its partner is an error. The number of nested calls is bounded by the length of
the text, so reading ends without looking at the values that are read.
-/

namespace FileQuery.JsonValue

def hexDigit? (c : Char) : Option Nat :=
  if c.isDigit then some (c.toNat - '0'.toNat)
  else if 'a' ≤ c ∧ c ≤ 'f' then some (c.toNat - 'a'.toNat + 10)
  else if 'A' ≤ c ∧ c ≤ 'F' then some (c.toNat - 'A'.toNat + 10)
  else none

def codeUnit? (digits : List Char) : Option Nat := do
  let values ← digits.mapM hexDigit?
  return values.foldl (fun code value => 16 * code + value) 0

def escaped? : Char → Option Char
  | '"' => some '"'
  | '\\' => some '\\'
  | '/' => some '/'
  | 'b' => some '\x08'
  | 'f' => some '\x0c'
  | 'n' => some '\n'
  | 'r' => some '\r'
  | 't' => some '\t'
  | _ => none

/-- The code points and surrogates up to the closing quote of a string, and the text after it. -/
def readUnits? : List Char → Option (List Nat × List Char)
  | [] => none
  | '"' :: rest => some ([], rest)
  | '\\' :: 'u' :: first :: second :: third :: fourth :: rest => do
      let unit ← codeUnit? [first, second, third, fourth]
      let (units, rest) ← readUnits? rest
      return (unit :: units, rest)
  | '\\' :: letter :: rest => do
      let c ← escaped? letter
      let (units, rest) ← readUnits? rest
      return (c.toNat :: units, rest)
  | c :: rest =>
      if c = '\\' ∨ c.toNat < 0x20 then none
      else (readUnits? rest).map fun (units, rest) => (c.toNat :: units, rest)

def isHighSurrogate (unit : Nat) : Bool :=
  0xd800 ≤ unit && unit < 0xdc00

def isLowSurrogate (unit : Nat) : Bool :=
  0xdc00 ≤ unit && unit < 0xe000

def ofUnits? : List Nat → Option (List Char)
  | [] => some []
  | [unit] =>
      if isHighSurrogate unit || isLowSurrogate unit then none else some [Char.ofNat unit]
  | unit :: next :: units =>
      if isHighSurrogate unit then
        if isLowSurrogate next then
          (ofUnits? units).map
            (Char.ofNat (0x10000 + 0x400 * (unit - 0xd800) + (next - 0xdc00)) :: ·)
        else
          none
      else if isLowSurrogate unit then none
      else (ofUnits? (next :: units)).map (Char.ofNat unit :: ·)

def readString? (text : List Char) : Option (String × List Char) := do
  let (units, rest) ← readUnits? text
  let content ← ofUnits? units
  return (String.ofList content, rest)

def isDigits (text : List Char) : Bool :=
  !text.isEmpty && text.all Char.isDigit

def isExponent : List Char → Bool
  | [] => true
  | mark :: rest =>
      (mark == 'e' || mark == 'E') &&
        match rest with
        | '+' :: digits | '-' :: digits => isDigits digits
        | digits => isDigits digits

/-- Whether a text is a number: digits without a needless zero in front, perhaps after a minus,
and perhaps with a fraction and an exponent. -/
def isNumber (literal : List Char) : Bool :=
  let unsigned := if literal.head? = some '-' then literal.drop 1 else literal
  let whole := unsigned.takeWhile Char.isDigit
  let wholeIsPlain := isDigits whole && (whole == ['0'] || whole.head? != some '0')
  wholeIsPlain &&
    match unsigned.dropWhile Char.isDigit with
    | '.' :: rest =>
        isDigits (rest.takeWhile Char.isDigit) && isExponent (rest.dropWhile Char.isDigit)
    | rest => isExponent rest

def isNumberCharacter (c : Char) : Bool :=
  c.isDigit || c == '-' || c == '+' || c == '.' || c == 'e' || c == 'E'

def readNumber? (text : List Char) : Option (JsonValue × List Char) :=
  let literal := text.takeWhile isNumberCharacter
  if isNumber literal then some (number literal, text.dropWhile isNumberCharacter) else none

def skipBlanks (text : List Char) : List Char :=
  text.dropWhile Text.isBlank

def afterToken? (token : Char) (text : List Char) : Option (List Char) :=
  match skipBlanks text with
  | [] => none
  | c :: rest => if c = token then some rest else none

def afterWord? (word text : List Char) : Option (List Char) :=
  if word.isPrefixOf text then some (text.drop word.length) else none

def readWord? (text : List Char) : Option (JsonValue × List Char) :=
  match afterWord? "null".toList text with
  | some rest => some (null, rest)
  | none =>
      match afterWord? (boolWord true) text with
      | some rest => some (bool true, rest)
      | none => (afterWord? (boolWord false) text).map fun rest => (bool false, rest)

mutual

def readValue? (bound : Nat) (text : List Char) : Option (JsonValue × List Char) :=
  match bound with
  | 0 => none
  | bound + 1 =>
      match skipBlanks text with
      | '"' :: rest => (readString? rest).map fun (content, rest) => (string content, rest)
      | '[' :: rest =>
          match afterToken? ']' rest with
          | some rest => some (array [], rest)
          | none => (readItems? bound rest).map fun (items, rest) => (array items, rest)
      | '\x7b' :: rest =>
          match afterToken? closeBrace rest with
          | some rest => some (object [], rest)
          | none => (readMembers? bound rest).map fun (members, rest) => (object members, rest)
      | rest =>
          match readWord? rest with
          | some result => some result
          | none => readNumber? rest

def readItems? (bound : Nat) (text : List Char) : Option (List JsonValue × List Char) :=
  match bound with
  | 0 => none
  | bound + 1 => do
      let (value, rest) ← readValue? bound text
      match afterToken? ',' rest with
      | some rest => do
          let (items, rest) ← readItems? bound rest
          return (value :: items, rest)
      | none => (afterToken? ']' rest).map fun rest => ([value], rest)

def readMembers? (bound : Nat) (text : List Char) :
    Option (List (String × JsonValue) × List Char) :=
  match bound with
  | 0 => none
  | bound + 1 => do
      let rest ← afterToken? '"' text
      let (name, rest) ← readString? rest
      let rest ← afterToken? ':' rest
      let (value, rest) ← readValue? bound rest
      match afterToken? ',' rest with
      | some rest => do
          let (members, rest) ← readMembers? bound rest
          return ((name, value) :: members, rest)
      | none => (afterToken? closeBrace rest).map fun rest => ([(name, value)], rest)

end

/-- The value of a JSON text, around which there may be blanks. -/
def ofChars? (text : List Char) : Option JsonValue := do
  let (value, rest) ← readValue? (2 * text.length + 1) text
  if (skipBlanks rest).isEmpty then some value else none

end FileQuery.JsonValue
