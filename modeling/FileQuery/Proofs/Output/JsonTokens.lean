import FileQuery.Output.JsonReader
import FileQuery.Proofs.Number.Decimal

/-!
# Tokens of JSON texts

The tokens that a written value consists of are read as what they were written for. An escaped
string is read up to its closing quote, and gives back every character, since each escape stands for
the character that it replaces and no character is a surrogate. A number is read up to the first
character that cannot belong to it, and words are told apart by their first letters. Blanks before a
token are skipped.
-/

namespace FileQuery.JsonValue

theorem readUnits?_plain {c : Char} (quote : c ≠ '"') (backslash : c ≠ '\\')
    (visible : ¬c.toNat < 0x20) (text : List Char) :
    readUnits? (c :: text) = (readUnits? text).map (Prod.map (c.toNat :: ·) id) := by
  rw [readUnits?, if_neg (not_or.2 ⟨backslash, visible⟩)]
  · rfl
  · exact quote
  · intro first second third fourth rest isUnit
    exact absurd isUnit backslash
  · intro letter rest isEscape
    exact absurd isEscape backslash

theorem readUnits?_escaped {letter c : Char} (known : escaped? letter = some c)
    (text : List Char) :
    readUnits? ('\\' :: letter :: text) =
      (readUnits? text).map (Prod.map (c.toNat :: ·) id) := by
  have notUnit : letter ≠ 'u' := by
    rintro rfl
    cases known
  rw [readUnits?, known]
  · cases readUnits? text <;> rfl
  · intros first second third fourth rest isUnit
    exact absurd isUnit notUnit

theorem readUnits?_unit {first second third fourth : Char} {unit : Nat}
    (read : codeUnit? [first, second, third, fourth] = some unit) (text : List Char) :
    readUnits? ('\\' :: 'u' :: first :: second :: third :: fourth :: text) =
      (readUnits? text).map (Prod.map (unit :: ·) id) := by
  rw [readUnits?, read]
  cases readUnits? text <;> rfl

theorem codeUnit?_fourHexDigits {code : Nat} (small : code < 0x20) :
    codeUnit? (fourHexDigits code) = some code := by
  have all : ∀ code < 0x20, codeUnit? (fourHexDigits code) = some code := by decide
  exact all code small

/-- An escaped character is read as itself. -/
theorem readUnits?_escapeChar (c : Char) (text : List Char) :
    readUnits? (escapeChar c ++ text) =
      (readUnits? text).map (Prod.map (c.toNat :: ·) id) := by
  unfold escapeChar
  split_ifs with quote backslash backspace formFeed newline carriageReturn tab control
  · rw [quote]
    exact readUnits?_escaped rfl text
  · rw [backslash]
    exact readUnits?_escaped rfl text
  · rw [backspace]
    exact readUnits?_escaped rfl text
  · rw [formFeed]
    exact readUnits?_escaped rfl text
  · rw [newline]
    exact readUnits?_escaped rfl text
  · rw [carriageReturn]
    exact readUnits?_escaped rfl text
  · rw [tab]
    exact readUnits?_escaped rfl text
  · exact readUnits?_unit (codeUnit?_fourHexDigits control) text
  · exact readUnits?_plain quote backslash control text

theorem readUnits?_flatMap_escapeChar (content rest : List Char) :
    readUnits? (content.flatMap escapeChar ++ '"' :: rest) =
      some (content.map Char.toNat, rest) := by
  induction content with
  | nil => simp [readUnits?]
  | cons c content ih =>
      rw [List.flatMap_cons, List.append_assoc, readUnits?_escapeChar, ih]
      rfl

/-- No character is a surrogate. -/
theorem isSurrogate_toNat_eq_false (c : Char) :
    isHighSurrogate c.toNat = false ∧ isLowSurrogate c.toNat = false := by
  have valid : c.toNat < 0xd800 ∨ 0xdfff < c.toNat ∧ c.toNat < 0x110000 := c.valid
  simp only [isHighSurrogate, isLowSurrogate, Bool.and_eq_false_iff, decide_eq_false_iff_not]
  omega

theorem ofUnits?_map_toNat (content : List Char) :
    ofUnits? (content.map Char.toNat) = some content := by
  induction content with
  | nil => rfl
  | cons c content ih =>
      rcases isSurrogate_toNat_eq_false c with ⟨high, low⟩
      cases content with
      | nil => simp [ofUnits?, high, low]
      | cons next content =>
          rw [List.map_cons] at ih
          simp [ofUnits?, high, low, ih]

theorem readString?_escaped (content : String) (rest : List Char) :
    readString? (content.toList.flatMap escapeChar ++ '"' :: rest) = some (content, rest) := by
  simp [readString?, readUnits?_flatMap_escapeChar, ofUnits?_map_toNat]

theorem quote_append (content : String) (rest : List Char) :
    quote content.toList ++ rest =
      '"' :: (content.toList.flatMap escapeChar ++ '"' :: rest) := by
  simp [quote]

theorem all_isNumberCharacter_of_isDigits {text : List Char} (digits : isDigits text = true) :
    ∀ c ∈ text, isNumberCharacter c = true := by
  intro c member
  simp only [isDigits, Bool.and_eq_true, List.all_eq_true] at digits
  simp [isNumberCharacter, digits.2 c member]

theorem all_isNumberCharacter_of_isExponent {text : List Char}
    (exponent : isExponent text = true) : ∀ c ∈ text, isNumberCharacter c = true := by
  cases text with
  | nil => simp
  | cons mark rest =>
      unfold isExponent at exponent
      rw [Bool.and_eq_true] at exponent
      rcases exponent with ⟨isMark, digits⟩
      have marked : isNumberCharacter mark = true := by
        rw [Bool.or_eq_true, beq_iff_eq, beq_iff_eq] at isMark
        rcases isMark with rfl | rfl <;> rfl
      rw [List.forall_mem_cons]
      refine ⟨marked, ?_⟩
      split at digits
      · exact List.forall_mem_cons.2 ⟨rfl, all_isNumberCharacter_of_isDigits digits⟩
      · exact List.forall_mem_cons.2 ⟨rfl, all_isNumberCharacter_of_isDigits digits⟩
      · exact all_isNumberCharacter_of_isDigits digits

/-- The parts of a number: perhaps a minus, digits, and a rest that holds fraction and exponent. -/
theorem exists_parts_of_isNumber {literal : List Char} (valid : isNumber literal = true) :
    ∃ sign whole rest, literal = sign ++ whole ++ rest ∧ (sign = [] ∨ sign = ['-']) ∧
      isDigits whole = true ∧ ∀ c ∈ rest, isNumberCharacter c = true := by
  rw [isNumber, Bool.and_eq_true, Bool.and_eq_true] at valid
  rcases valid with ⟨⟨digits, -⟩, tail⟩
  set unsigned := if literal.head? = some '-' then literal.drop 1 else literal with unsigned_eq
  have rest : ∀ c ∈ unsigned.dropWhile Char.isDigit, isNumberCharacter c = true := by
    split at tail
    · rename_i rest isFraction
      rw [Bool.and_eq_true] at tail
      rw [isFraction, List.forall_mem_cons]
      refine ⟨rfl, ?_⟩
      intro c member
      rw [← List.takeWhile_append_dropWhile (p := Char.isDigit) (l := rest)] at member
      rcases List.mem_append.1 member with inFraction | inExponent
      · exact all_isNumberCharacter_of_isDigits tail.1 c inFraction
      · exact all_isNumberCharacter_of_isExponent tail.2 c inExponent
    · exact all_isNumberCharacter_of_isExponent tail
  refine ⟨if literal.head? = some '-' then ['-'] else [], _, _, ?_, ?_, digits, rest⟩
  · rw [List.append_assoc, List.takeWhile_append_dropWhile, unsigned_eq]
    split
    · rename_i minus
      rcases List.head?_eq_some_iff.1 minus with ⟨text, rfl⟩
      rfl
    · rfl
  · split
    · exact .inr rfl
    · exact .inl rfl

theorem all_isNumberCharacter_of_isNumber {literal : List Char} (valid : isNumber literal = true) :
    ∀ c ∈ literal, isNumberCharacter c = true := by
  rcases exists_parts_of_isNumber valid with ⟨sign, whole, rest, rfl, isSign, digits, inRest⟩
  intro c member
  rw [List.append_assoc, List.mem_append, List.mem_append] at member
  rcases member with inSign | inWhole | later
  · rcases isSign with rfl | rfl
    · cases inSign
    · rw [List.mem_singleton.1 inSign]
      rfl
  · exact all_isNumberCharacter_of_isDigits digits c inWhole
  · exact inRest c later

/-- A number starts with a minus or a digit. -/
theorem exists_eq_cons_of_isNumber {literal : List Char} (valid : isNumber literal = true) :
    ∃ c rest, literal = c :: rest ∧ (c = '-' ∨ c.isDigit = true) := by
  rcases exists_parts_of_isNumber valid with ⟨sign, whole, rest, rfl, isSign, digits, -⟩
  rw [isDigits, Bool.and_eq_true] at digits
  rcases isSign with rfl | rfl
  · cases whole with
    | nil => cases digits.1
    | cons c whole =>
        have first := List.all_eq_true.1 digits.2 c List.mem_cons_self
        exact ⟨c, whole ++ rest, rfl, .inr first⟩
  · exact ⟨'-', whole ++ rest, rfl, .inl rfl⟩

theorem isNumber_digits (n : Nat) : isNumber (Decimal.digits n) = true := by
  have digits := List.all_eq_true.1 (Decimal.all_isDigit_digits n)
  have unsigned : (Decimal.digits n).head? ≠ some '-' := by
    intro minus
    cases digits _ (List.mem_of_mem_head? minus)
  have whole : (Decimal.digits n).takeWhile Char.isDigit = Decimal.digits n :=
    List.takeWhile_eq_self_iff.2 digits
  have ended : (Decimal.digits n).dropWhile Char.isDigit = [] :=
    List.dropWhile_eq_nil_iff.2 digits
  have run : isDigits (Decimal.digits n) = true := by
    simp [isDigits, Decimal.digits_ne_nil, Decimal.all_isDigit_digits]
  have plain : (Decimal.digits n == ['0'] || (Decimal.digits n).head? != some '0') = true := by
    rcases Nat.eq_zero_or_pos n with rfl | positive
    · rw [Decimal.digits]
      rfl
    · simp [Decimal.head?_digits_ne_zero positive]
  simp only [isNumber, if_neg unsigned, whole, ended, run, plain]
  rfl

/-- No character of a number comes next. -/
def EndsNumber (text : List Char) : Prop :=
  ∀ c ∈ text.head?, isNumberCharacter c = false

theorem readNumber?_append {literal rest : List Char} (valid : isNumber literal = true)
    (ends : EndsNumber rest) : readNumber? (literal ++ rest) = some (number literal, rest) := by
  have inside := all_isNumberCharacter_of_isNumber valid
  have taken : rest.takeWhile isNumberCharacter = [] := by
    cases rest with
    | nil => rfl
    | cons c rest => simp [ends c rfl]
  have kept : rest.dropWhile isNumberCharacter = rest := by
    cases rest with
    | nil => rfl
    | cons c rest => simp [ends c rfl]
  rw [readNumber?, List.takeWhile_append_of_pos inside, List.dropWhile_append_of_pos inside, taken,
    kept, List.append_nil]
  exact if_pos valid

theorem afterWord?_of_ne {first c : Char} (different : first ≠ c) (word rest : List Char) :
    afterWord? (first :: word) (c :: rest) = none := by
  simp [afterWord?, different]

theorem afterWord?_append (word rest : List Char) : afterWord? word (word ++ rest) = some rest := by
  simp [afterWord?]

theorem readWord?_null (rest : List Char) :
    readWord? ("null".toList ++ rest) = some (null, rest) := by
  rw [readWord?, afterWord?_append]

theorem readWord?_boolWord (truth : Bool) (rest : List Char) :
    readWord? (boolWord truth ++ rest) = some (bool truth, rest) := by
  cases truth with
  | true =>
      have other : afterWord? "null".toList (boolWord true ++ rest) = none :=
        afterWord?_of_ne (by decide) _ _
      rw [readWord?, other, afterWord?_append]
  | false =>
      have other : afterWord? "null".toList (boolWord false ++ rest) = none :=
        afterWord?_of_ne (by decide) _ _
      have another : afterWord? (boolWord true) (boolWord false ++ rest) = none :=
        afterWord?_of_ne (by decide) _ _
      rw [readWord?, other, another, afterWord?_append]
      rfl

theorem readWord?_number {c : Char} (starts : c = '-' ∨ c.isDigit = true) (rest : List Char) :
    readWord? (c :: rest) = none := by
  have noLetter : 'n' ≠ c ∧ 't' ≠ c ∧ 'f' ≠ c := by
    refine ⟨?_, ?_, ?_⟩ <;> rintro rfl <;> exact absurd starts (by decide)
  have notNull : afterWord? "null".toList (c :: rest) = none := afterWord?_of_ne noLetter.1 _ _
  have notTrue : afterWord? (boolWord true) (c :: rest) = none := afterWord?_of_ne noLetter.2.1 _ _
  have notFalse : afterWord? (boolWord false) (c :: rest) = none :=
    afterWord?_of_ne noLetter.2.2 _ _
  rw [readWord?, notNull, notTrue, notFalse]
  rfl

theorem skipBlanks_cons_of_isBlank {c : Char} (blank : Text.isBlank c = true) (text : List Char) :
    skipBlanks (c :: text) = skipBlanks text :=
  List.dropWhile_cons_of_pos blank

theorem skipBlanks_cons_of_not_isBlank {c : Char} (token : Text.isBlank c = false)
    (text : List Char) : skipBlanks (c :: text) = c :: text :=
  List.dropWhile_cons_of_neg (by simp [token])

@[simp]
theorem skipBlanks_lineBreak_append (level : Nat) (text : List Char) :
    skipBlanks (lineBreak level ++ text) = skipBlanks text := by
  have blank : ∀ c ∈ lineBreak level, Text.isBlank c = true := by
    intro c member
    rcases List.mem_cons.1 member with rfl | indentation
    · rfl
    · rw [List.eq_of_mem_replicate indentation]
      rfl
  exact List.dropWhile_append_of_pos blank

theorem afterToken?_of_skipBlanks {token c : Char} {text rest : List Char}
    (skipped : skipBlanks text = c :: rest) :
    afterToken? token text = if c = token then some rest else none := by
  rw [afterToken?, skipped]

theorem endsNumber_lineBreak_append (level : Nat) (text : List Char) :
    EndsNumber (lineBreak level ++ text) := by
  intro c head
  cases head
  rfl

end FileQuery.JsonValue
