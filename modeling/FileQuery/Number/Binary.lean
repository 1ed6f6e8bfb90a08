import FileQuery.Number.Decimal

/-!
# Binary floating-point numbers

Numbers without sign that have 53 binary digits, as in double precision, in exact integer
arithmetic. A number is a mantissa times a power of two, and `Binary.nearest` rounds a quotient
to it, taking the even neighbour of a tie; every operation is the exact one followed by this
rounding. Exponents are not limited: the durations that are written here stay far inside the range
of double precision.

Two texts of a number are provided. `fixed` writes the exact value rounded to some decimal places.
`shortest` finds the fewest decimal digits that still round to the number, and `shortestText` writes
them out.
-/

namespace FileQuery

/-- The quotient rounded to the nearest integer, and to the even one of two. -/
def roundDiv (numerator denominator : Nat) : Nat :=
  let quotient := numerator / denominator
  let twice := 2 * (numerator % denominator)
  if denominator < twice ∨ (denominator = twice ∧ quotient % 2 = 1) then quotient + 1
  else quotient

structure Fraction where
  numerator : Nat
  denominator : Nat
  deriving DecidableEq, Repr

namespace Fraction

/-- A fraction times a power of a base, whose exponent may be negative. -/
def scale (fraction : Fraction) (base : Nat) : Int → Fraction
  | .ofNat n => { fraction with numerator := fraction.numerator * base.pow n }
  | .negSucc n => { fraction with denominator := fraction.denominator * base.pow (n + 1) }

def le (left right : Fraction) : Bool :=
  left.numerator * right.denominator ≤ right.numerator * left.denominator

def lt (left right : Fraction) : Bool :=
  left.numerator * right.denominator < right.numerator * left.denominator

def floor (fraction : Fraction) : Nat :=
  fraction.numerator / fraction.denominator

def round (fraction : Fraction) : Nat :=
  roundDiv fraction.numerator fraction.denominator

def add (left right : Fraction) : Fraction where
  numerator := left.numerator * right.denominator + right.numerator * left.denominator
  denominator := left.denominator * right.denominator

/-- The power of ten of the first digit of a positive fraction. -/
def decimalExponent (fraction : Fraction) : Int :=
  if fraction.denominator ≤ fraction.numerator then
    (Decimal.digits fraction.floor).length - 1
  else
    let ceiling := (fraction.denominator + fraction.numerator - 1) / fraction.numerator
    let zeros := (Decimal.digits (ceiling - 1)).length
    Int.negOfNat zeros

end Fraction

/-- A number of the form mantissa times two to the exponent. Unless it is zero, the mantissa has
53 binary digits. -/
structure Binary where
  mantissa : Nat
  exponent : Int
  deriving DecidableEq, Repr

namespace Binary

def precision : Nat := 53

def toFraction (number : Binary) : Fraction :=
  Fraction.scale ⟨number.mantissa, 1⟩ 2 number.exponent

/-- The number nearest to a fraction, and the one with the even mantissa of two. -/
def nearest (fraction : Fraction) : Binary :=
  if fraction.numerator = 0 then
    ⟨0, 0⟩
  else
    let guess : Int := Nat.log2 fraction.numerator - Nat.log2 fraction.denominator - (precision - 1)
    let exponent :=
      if (fraction.scale 2 (-guess)).floor < Nat.pow 2 (precision - 1) then guess - 1 else guess
    let mantissa := (fraction.scale 2 (-exponent)).round
    if mantissa = Nat.pow 2 precision then ⟨Nat.pow 2 (precision - 1), exponent + 1⟩
    else ⟨mantissa, exponent⟩

def add (left right : Binary) : Binary :=
  nearest (left.toFraction.add right.toFraction)

def mulNat (number : Binary) (factor : Nat) : Binary :=
  let exact := number.toFraction
  nearest { exact with numerator := exact.numerator * factor }

/-- The exact value rounded to a number of decimal places, ties going to the even digit. -/
def fixed (places : Nat) (number : Binary) : List Char :=
  let scaled := (number.toFraction.scale 10 places).round
  let unit := Nat.pow 10 places
  Decimal.digits (scaled / unit) ++ '.' :: Decimal.padded places (scaled % unit)

/-- Whether a fraction rounds to a number: it lies between the midpoints to the neighbours, or on
one of them if the mantissa is even. -/
def roundsTo (number : Binary) (fraction : Fraction) : Bool :=
  let quarter (quarters : Nat) := Fraction.scale ⟨quarters, 1⟩ 2 (number.exponent - 2)
  let low := quarter
    (4 * number.mantissa - if number.mantissa = Nat.pow 2 (precision - 1) then 1 else 2)
  let high := quarter (4 * number.mantissa + 2)
  if number.mantissa % 2 = 0 then low.le fraction && fraction.le high
  else low.lt fraction && fraction.lt high

/-- A multiple of a power of ten that rounds to the number, next to the number on the grid of that
power: the nearer one of the two neighbours if both do. -/
def onGrid? (number : Binary) (power : Int) : Option Nat :=
  let below := (number.toFraction.scale 10 (-power)).floor
  let rounded := (number.toFraction.scale 10 (-power)).round
  let rounds (multiple : Nat) := number.roundsTo (Fraction.scale ⟨multiple, 1⟩ 10 power)
  match rounds below, rounds (below + 1) with
  | true, true => some rounded
  | true, false => some below
  | false, true => some (below + 1)
  | false, false => none

/-- The first multiple that is found on grids of more and more digits. -/
def findDigits (number : Binary) (leading : Int) : Nat → Nat → Nat × Int
  | _, 0 => (number.mantissa, number.exponent)
  | digits, tries + 1 =>
      let power := leading - digits + 1
      match number.onGrid? power with
      | some multiple => (multiple, power)
      | none => number.findDigits leading (digits + 1) tries

/-- The most decimal digits that are ever needed to tell two numbers apart. -/
def maxDigits : Nat := 17

/-- A multiple of a power of ten with the fewest digits that rounds to a positive number. -/
def shortest (number : Binary) : Nat × Int :=
  number.findDigits number.toFraction.decimalExponent 1 maxDigits

def withoutTrailingZeros (digits : List Char) : List Char :=
  (digits.reverse.dropWhile (· == '0')).reverse

/-- The smallest power of ten of a first digit for which no exponent is written. -/
def minPlainExponent : Int := -5

/-- The largest power of ten of a first digit for which no exponent is written. -/
def maxPlainExponent : Int := 15

/-- The fewest digits that round to the number, always with a decimal point or an exponent. -/
def shortestText (number : Binary) : List Char :=
  if number.mantissa = 0 then "0.0".toList
  else
    let (multiple, power) := number.shortest
    let all := Decimal.digits multiple
    let leading : Int := power + all.length - 1
    let digits := withoutTrailingZeros all
    if 0 ≤ leading ∧ leading ≤ maxPlainExponent then
      let whole := leading.toNat + 1
      let fraction := if digits.length ≤ whole then ['0'] else digits.drop whole
      (digits.take whole).rightpad whole '0' ++ '.' :: fraction
    else if minPlainExponent ≤ leading ∧ leading < 0 then
      "0.".toList ++ List.replicate (leading.natAbs - 1) '0' ++ digits
    else
      let fraction := if digits.length ≤ 1 then [] else '.' :: digits.drop 1
      digits.take 1 ++ fraction ++ 'e' :: Decimal.signed leading

end Binary

def nanosPerSecond : Nat := 1000000000

/-- A duration in nanoseconds as milliseconds. Seconds and the rest are rounded apart, then their
sum, and then its product with a thousand. -/
def milliseconds (nanos : Nat) : Binary :=
  let seconds := Binary.nearest ⟨nanos / nanosPerSecond, 1⟩
  let rest := Binary.nearest ⟨nanos % nanosPerSecond, nanosPerSecond⟩
  (seconds.add rest).mulNat 1000

end FileQuery
