import FileQuery.Number.Decimal
import Mathlib

/-!
# Padded decimal numbers and signed texts

Zeros before the digits of a number change neither its value nor that it is a run of digits, and a
number that fits into a width is padded to exactly that width.

A signed text is a run of digits, bare or after one sign. The reader of integers accepts exactly the
signed texts, and that of 64 bits those whose numbers lie in its range.
-/

namespace FileQuery.Decimal

theorem value_append (left right : List Char) :
    value (left ++ right) = 10 ^ right.length * value left + value right := by
  induction right using List.reverseRecOn with
  | nil => simp [value]
  | append_singleton right c ih =>
      rw [← List.append_assoc, value_append_singleton, value_append_singleton, ih,
        List.length_append, List.length_singleton, pow_succ]
      ring

theorem value_replicate_zero (count : Nat) : value (List.replicate count '0') = 0 := by
  induction count with
  | zero => rfl
  | succ count ih =>
      rw [List.replicate_succ', value_append_singleton, ih]
      rfl

theorem digits_inj {m n : Nat} : digits m = digits n ↔ m = n := by
  constructor
  · intro same
    rw [← value_digits m, same, value_digits]
  · exact congrArg digits

theorem toList_ofInt_natCast (n : Nat) : (ofInt (n : Int)).toList = digits n :=
  String.toList_ofList

theorem length_digits_le {width n : Nat} (width_pos : 0 < width) (small : n < 10 ^ width) :
    (digits n).length ≤ width := by
  induction width, width_pos using Nat.le_induction generalizing n with
  | base =>
      unfold digits
      simp at small
      simp [small]
  | succ width _ ih =>
      unfold digits
      split
      · simp
      · rw [pow_succ] at small
        have fewer : n / 10 < 10 ^ width := by omega
        have := ih fewer
        simp only [List.length_append, List.length_singleton]
        omega

/-- Only zero is written with a zero in front. -/
theorem head?_digits_ne_zero {n : Nat} (positive : 0 < n) : (digits n).head? ≠ some '0' := by
  induction n using Nat.strongRecOn with
  | _ n ih =>
      unfold digits
      split
      · rename_i small
        intro zero
        have same := congrArg Char.toNat (Option.some.inj zero)
        rw [toNat_digit small] at same
        have : '0'.toNat = 48 := rfl
        omega
      · rw [List.head?_append_of_ne_nil _ (digits_ne_nil _)]
        exact ih (n / 10) (by omega) (by omega)

theorem padded_eq (width n : Nat) :
    padded width n = List.replicate (width - (digits n).length) '0' ++ digits n := rfl

theorem length_padded {width n : Nat} (width_pos : 0 < width) (small : n < 10 ^ width) :
    (padded width n).length = width := by
  have := length_digits_le width_pos small
  rw [padded_eq, List.length_append, List.length_replicate]
  omega

theorem all_isDigit_padded (width n : Nat) : (padded width n).all Char.isDigit = true := by
  rw [padded_eq, List.all_append, all_isDigit_digits, Bool.and_true, List.all_replicate]
  simp

theorem padded_ne_nil (width n : Nat) : padded width n ≠ [] := by
  simp [padded_eq, digits_ne_nil]

theorem readNat?_padded (width n : Nat) : readNat? (padded width n) = some n := by
  have value_padded : value (padded width n) = n := by
    rw [padded_eq, value_append, value_replicate_zero, value_digits]
    simp
  rw [readNat?, if_pos ⟨padded_ne_nil width n, all_isDigit_padded width n⟩, value_padded]

/-- Digits only, and at least one of them. -/
def IsNumeral (text : List Char) : Prop :=
  text ≠ [] ∧ ∀ c ∈ text, c.isDigit = true

/-- The number that a text of digits with at most one sign denotes. -/
inductive SignedText : List Char → Int → Prop where
  | bare {digits : List Char} (numeral : IsNumeral digits) : SignedText digits (value digits)
  | plus {digits : List Char} (numeral : IsNumeral digits) :
      SignedText ('+' :: digits) (value digits)
  | minus {digits : List Char} (numeral : IsNumeral digits) :
      SignedText ('-' :: digits) (-value digits)

/-- The text denotes an integer that 64 bits with sign can hold. -/
def IsInt64Text (text : List Char) : Prop :=
  ∃ number, SignedText text number ∧ minInt64 ≤ number ∧ number ≤ maxInt64

theorem readNat?_eq_some_iff {text : List Char} {n : Nat} :
    readNat? text = some n ↔ IsNumeral text ∧ value text = n := by
  simp [readNat?, IsNumeral]

theorem readInt?_of_isNumeral {text : List Char} (numeral : IsNumeral text) :
    readInt? text = some (value text : Int) := by
  have read : readNat? text = some (value text) := readNat?_eq_some_iff.2 ⟨numeral, rfl⟩
  cases text with
  | nil => exact absurd rfl numeral.1
  | cons c rest =>
      have digit : c.isDigit = true := numeral.2 c List.mem_cons_self
      unfold readInt?
      split
      · rename_i plus
        cases plus
        cases digit
      · rename_i minus
        cases minus
        cases digit
      · rw [read]
        rfl

theorem readInt?_eq_some_iff {text : List Char} {number : Int} :
    readInt? text = some number ↔ SignedText text number := by
  constructor
  · intro read
    unfold readInt? at read
    split at read
    · rcases Option.map_eq_some_iff.1 read with ⟨n, digits, rfl⟩
      rcases readNat?_eq_some_iff.1 digits with ⟨numeral, rfl⟩
      exact .plus numeral
    · rcases Option.map_eq_some_iff.1 read with ⟨n, digits, rfl⟩
      rcases readNat?_eq_some_iff.1 digits with ⟨numeral, rfl⟩
      exact .minus numeral
    · rcases Option.map_eq_some_iff.1 read with ⟨n, digits, rfl⟩
      rcases readNat?_eq_some_iff.1 digits with ⟨numeral, rfl⟩
      exact .bare numeral
  · intro signed
    cases signed with
    | bare numeral => exact readInt?_of_isNumeral numeral
    | plus numeral =>
        rw [readInt?, readNat?_eq_some_iff.2 ⟨numeral, rfl⟩]
        rfl
    | minus numeral =>
        rw [readInt?, readNat?_eq_some_iff.2 ⟨numeral, rfl⟩]
        rfl

theorem SignedText.unique {text : List Char} {number number' : Int}
    (denotes : SignedText text number) (denotes' : SignedText text number') :
    number = number' := by
  have read := readInt?_eq_some_iff.2 denotes
  rw [readInt?_eq_some_iff.2 denotes'] at read
  exact (Option.some.inj read).symm

theorem isNumeral_digits (n : Nat) : IsNumeral (digits n) :=
  ⟨digits_ne_nil n, List.all_eq_true.1 (all_isDigit_digits n)⟩

/-- What is written for an integer denotes it. -/
theorem signedText_signed (number : Int) : SignedText (signed number) number := by
  cases number with
  | ofNat n =>
      have bare := SignedText.bare (isNumeral_digits n)
      rwa [value_digits] at bare
  | negSucc n =>
      have minus := SignedText.minus (isNumeral_digits (n + 1))
      rwa [value_digits] at minus

theorem readInt64?_eq_some_iff {text : List Char} {number : Int} :
    readInt64? text = some number ↔
      SignedText text number ∧ minInt64 ≤ number ∧ number ≤ maxInt64 := by
  rw [readInt64?, Option.filter_eq_some_iff, readInt?_eq_some_iff, decide_eq_true_eq]

theorem readInt64?_eq_none_iff {text : List Char} :
    readInt64? text = none ↔ ¬IsInt64Text text := by
  simp only [IsInt64Text, ← readInt64?_eq_some_iff, Option.eq_none_iff_forall_ne_some, not_exists,
    ne_eq]

end FileQuery.Decimal
