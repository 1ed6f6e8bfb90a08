/-!
# Decimal integers

Writing and reading of integers in base ten. `digits` writes a natural number without leading
zeros and `value` reads any run of digits; `value_digits` says that reading undoes writing. A
*signed text* is an optional single sign followed by at least one digit and nothing else, and
`readInt64?` accepts those whose value fits in 64 bits with sign.
-/

namespace FileQuery.Decimal

def digit (d : Nat) : Char :=
  Char.ofNat ('0'.toNat + d)

/-- The digits of a number, most significant first, without leading zeros. -/
def digits (n : Nat) : List Char :=
  if n < 10 then [digit n] else digits (n / 10) ++ [digit (n % 10)]

/-- The number that a run of digits denotes; the empty run denotes zero. -/
def value (text : List Char) : Nat :=
  text.foldl (fun sum c => 10 * sum + (c.toNat - '0'.toNat)) 0

def padded (width n : Nat) : List Char :=
  (digits n).leftpad width '0'

def ofNat (n : Nat) : String :=
  String.ofList (digits n)

def signed : Int → List Char
  | .ofNat n => digits n
  | .negSucc n => '-' :: digits (n + 1)

def ofInt (n : Int) : String :=
  String.ofList (signed n)

def readNat? (text : List Char) : Option Nat :=
  if text ≠ [] ∧ text.all Char.isDigit then some (value text) else none

/-- The number that a signed text denotes: one optional sign, then digits only. -/
def readInt? : List Char → Option Int
  | '+' :: text => (readNat? text).map Int.ofNat
  | '-' :: text => (readNat? text).map fun n => -Int.ofNat n
  | text => (readNat? text).map Int.ofNat

def minInt64 : Int := -0x8000000000000000

def maxInt64 : Int := 0x7fffffffffffffff

/-- The number that a signed text denotes, when 64 bits with sign can hold it. -/
def readInt64? (text : List Char) : Option Int :=
  (readInt? text).filter fun n => minInt64 ≤ n ∧ n ≤ maxInt64

/-- The number that a text of digits with an optional plus denotes, when 64 bits can hold it. -/
def readUInt64? (text : List Char) : Option Nat :=
  let unsigned := match text with
    | '+' :: rest => rest
    | _ => text
  (readNat? unsigned).filter (· < UInt64.size)

theorem toNat_digit {d : Nat} (small : d < 10) : (digit d).toNat = '0'.toNat + d := by
  match d with
  | 0 | 1 | 2 | 3 | 4 | 5 | 6 | 7 | 8 | 9 => rfl
  | _ + 10 => omega

theorem isDigit_digit {d : Nat} (small : d < 10) : (digit d).isDigit = true := by
  match d with
  | 0 | 1 | 2 | 3 | 4 | 5 | 6 | 7 | 8 | 9 => rfl
  | _ + 10 => omega

theorem value_append_singleton (text : List Char) (c : Char) :
    value (text ++ [c]) = 10 * value text + (c.toNat - '0'.toNat) := by
  simp [value]

theorem digits_ne_nil (n : Nat) : digits n ≠ [] := by
  unfold digits
  split <;> simp

theorem value_digits (n : Nat) : value (digits n) = n := by
  induction n using Nat.strongRecOn with
  | _ n ih =>
    unfold digits
    split
    · rename_i small
      simp [value, toNat_digit small]
    · rw [value_append_singleton, ih (n / 10) (by omega), toNat_digit (Nat.mod_lt _ (by omega))]
      omega

theorem all_isDigit_digits (n : Nat) : (digits n).all Char.isDigit = true := by
  induction n using Nat.strongRecOn with
  | _ n ih =>
    unfold digits
    split
    · rename_i small
      simp [isDigit_digit small]
    · simp [ih (n / 10) (by omega), isDigit_digit (Nat.mod_lt n (by omega : 0 < 10))]

theorem readNat?_digits (n : Nat) : readNat? (digits n) = some n := by
  simp [readNat?, digits_ne_nil, all_isDigit_digits, value_digits]

end FileQuery.Decimal
