import FileQuery.Text.Unprintable

/-!
# Quoted text

Text in double quotes as logs show it: with an escape for each character that could be mistaken
for something else, so that a log line is one line and shows every character of the text.
-/

namespace FileQuery.Text

def hexDigits (n : Nat) : List Char :=
  Nat.toDigits 16 n

def codeEscape (c : Char) : List Char :=
  "\\u\x7b".toList ++ hexDigits c.toNat ++ ['\x7d']

def escapeChar (c : Char) : List Char :=
  if c = '\x00' then ['\\', '0']
  else if c = '\t' then ['\\', 't']
  else if c = '\n' then ['\\', 'n']
  else if c = '\r' then ['\\', 'r']
  else if c = '\\' ∨ c = '"' then ['\\', c]
  else if isExtending c || isUnprintable c || isIgnorable c then codeEscape c
  else [c]

def quoted (text : List Char) : List Char :=
  '"' :: text.flatMap escapeChar ++ ['"']

end FileQuery.Text
