/-!
# Bytes and text

Names and paths are bytes; messages and records hold text. `encode` writes text in UTF-8.
`decode` reads any bytes: every maximal piece that could not go on to be a character becomes one
replacement character. What may follow a lead byte is one table, `continuationRanges`, which
leaves out overlong forms, surrogates and code points above the last.
-/

namespace FileQuery.Text

abbrev Bytes := List UInt8

def encode (text : List Char) : Bytes :=
  text.flatMap String.utf8EncodeChar

/-- The pieces of some bytes between the occurrences of one byte, of which there is always at
least one. -/
def split (separator : UInt8) : Bytes → List Bytes
  | [] => [[]]
  | byte :: bytes =>
      if byte = separator then
        [] :: split separator bytes
      else
        match split separator bytes with
        | [] => [[byte]]
        | piece :: rest => (byte :: piece) :: rest

def replacement : Char := '\ufffd'

def continuation : UInt8 × UInt8 := (0x80, 0xbf)

/-- The ranges in which the bytes after a lead byte must lie, or none if no character starts
with the byte. -/
def continuationRanges (lead : UInt8) : Option (List (UInt8 × UInt8)) :=
  if lead < 0x80 then some []
  else if lead < 0xc2 then none
  else if lead < 0xe0 then some [continuation]
  else if lead = 0xe0 then some [(0xa0, 0xbf), continuation]
  else if lead = 0xed then some [(0x80, 0x9f), continuation]
  else if lead < 0xf0 then some [continuation, continuation]
  else if lead = 0xf0 then some [(0x90, 0xbf), continuation, continuation]
  else if lead < 0xf4 then some [continuation, continuation, continuation]
  else if lead = 0xf4 then some [(0x80, 0x8f), continuation, continuation]
  else none

/-- The longest start of some bytes whose members lie in the ranges one by one. -/
def takeInRanges : List (UInt8 × UInt8) → Bytes → Bytes
  | (low, high) :: ranges, byte :: bytes =>
      if low ≤ byte ∧ byte ≤ high then byte :: takeInRanges ranges bytes else []
  | _, _ => []

/-- The character of a lead byte and its continuation bytes. The lead byte holds one bit less for
each byte that follows it, and each of those holds six. -/
def assemble (lead : UInt8) (following : Bytes) : Char :=
  let leadBits := if following.isEmpty then 7 else 6 - following.length
  Char.ofNat <| following.foldl (fun code byte => code * 64 + byte.toNat % 64)
    (lead.toNat % (1 <<< leadBits))

/-- The text of some bytes, with a replacement character for each piece that is not UTF-8. -/
def decode : Bytes → List Char
  | [] => []
  | lead :: bytes =>
      match continuationRanges lead with
      | none => replacement :: decode bytes
      | some ranges =>
          let following := takeInRanges ranges bytes
          let c := if following.length = ranges.length then assemble lead following
            else replacement
          c :: decode (bytes.drop following.length)
termination_by bytes => bytes.length
decreasing_by
  · simp
  · simp only [List.length_drop, List.length_cons]
    omega

def afterLastDot (text : List Char) : List Char :=
  if text.contains '.' then (text.reverse.takeWhile (· != '.')).reverse else []

end FileQuery.Text
