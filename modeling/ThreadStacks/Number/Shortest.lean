import ThreadStacks.Number.Binary64
import ThreadStacks.Text.Basic

/-!
# Shortest decimal text

A binary number is written with the fewest decimal digits that read back as the same number, and
among these with the digits nearest to its value.
-/

namespace ThreadStacks.Binary64

/-- A quotient of natural numbers in units of a power of ten, as a new numerator and
denominator. -/
def inDecimalUnits (numerator denominator : Nat) : (exponent : Int) → Nat × Nat
  | .ofNat exponent => (numerator, denominator * Nat.pow 10 exponent)
  | .negSucc exponent => (numerator * Nat.pow 10 (exponent + 1), denominator)

/-- How many zeros follow the point of a positive quotient below one. -/
def zerosAfterPoint (numerator denominator : Nat) : Nat :=
  ((List.range 400).find? fun count =>
    denominator ≤ numerator * Nat.pow 10 (count + 1)).getD 0

/-- Where the decimal point of a positive quotient stands: the least power of ten above it. -/
def pointPosition (numerator denominator : Nat) : Int :=
  if denominator ≤ numerator then (Nat.toDigits 10 (numerator / denominator)).length
  else -(zerosAfterPoint numerator denominator : Int)

/-- The decimal with a given number of digits, written in units of `10 ^ exponent`, that reads back
as the number.  Only the two neighbours of the value can; the nearer one wins, and of two equally
near ones the even one. -/
def decimalWith? (mantissa : Nat) (binaryExponent : Int) (exponent : Int) : Option Nat :=
  let parts := quotient mantissa binaryExponent
  let scaled := inDecimalUnits parts.1 parts.2 exponent
  let below := scaled.1 / scaled.2
  let nearest := roundQuotient scaled.1 scaled.2
  let other := if nearest = below then below + 1 else below
  [nearest, other].find? fun digits =>
    ofDecimal false digits exponent == .finite false mantissa binaryExponent

/-- The shortest decimal of a positive number: its digits as one natural number, and the exponent
of the last digit. -/
def shortest (mantissa : Nat) (binaryExponent : Int) : Nat × Int :=
  let parts := quotient mantissa binaryExponent
  let point := pointPosition parts.1 parts.2
  let found := (List.range 17).findSome? fun count =>
    let exponent := point - (count + 1 : Nat)
    (decimalWith? mantissa binaryExponent exponent).map fun digits => (digits, exponent)
  found.getD (0, 0)

/-- How the digits of a number are laid out. -/
structure Layout where
  /-- The point stands among the digits if its position is above this bound. -/
  lowestPoint : Int
  /-- The point stands among the digits if its position is at most this bound. -/
  highestPoint : Int
  /-- The least number of digits of an exponent. -/
  exponentDigits : Nat

/-- Positional from a ten-thousandth to below 10^16, an exponent of two digits or more beyond. -/
def layout : Layout := ⟨-4, 16, 2⟩

def exponentText (exponent : Int) : Text :=
  let digits := Text.ofNat exponent.natAbs
  (if exponent < 0 then .char '-' else .char '+') ::
    (List.replicate (layout.exponentDigits - digits.length) (.char '0') ++ digits)

/-- Lay out decimal digits whose point stands before the digit at a position. -/
def layOut (digits : Text) (point : Int) : Text :=
  if layout.lowestPoint < point ∧ point ≤ layout.highestPoint then
    match point with
    | .ofNat position =>
        let whole := digits.take position ++ List.replicate (position - digits.length) (.char '0')
        let fraction := digits.drop position
        (if whole.isEmpty then [.char '0'] else whole) ++
          .char '.' :: (if fraction.isEmpty then [.char '0'] else fraction)
    | .negSucc zeros => "0.".toText ++ List.replicate (zeros + 1) (.char '0') ++ digits
  else
    let fraction := digits.drop 1
    digits.take 1 ++ (if fraction.isEmpty then [] else .char '.' :: fraction) ++
      .char 'e' :: exponentText (point - 1)

/-- A decimal without the zeros at its end. -/
def dropFinalZeros (digits : Text) : Text := Text.dropEndWhile (· == .char '0') digits

def finiteText (negative : Bool) (mantissa : Nat) (exponent : Int) : Text :=
  let sign : Text := if negative then [.char '-'] else []
  if mantissa = 0 then sign ++ "0.0".toText
  else
    let decimal := shortest mantissa exponent
    let digits := Text.ofNat decimal.1
    sign ++ layOut (dropFinalZeros digits) (digits.length + decimal.2)

/-- The text of a number inside a message. -/
def text : Binary64 → Text
  | .finite negative mantissa exponent => finiteText negative mantissa exponent
  | .infinite negative => if negative then "-inf".toText else "inf".toText
  | .notANumber => "nan".toText

end ThreadStacks.Binary64
