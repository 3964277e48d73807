/-!
# Binary floating-point numbers

Numbers with a fraction or an exponent in a document are held in the 64-bit binary format: a sign,
a mantissa below 2^53 and a binary exponent.  The numbers are exact data, so that comparing them
with integers, cutting off their fraction and finding their shortest text are exact as well.
-/

namespace ThreadStacks

/-- A 64-bit binary floating-point number.  A finite one is `mantissa * 2 ^ exponent` with its
sign; the zeros have mantissa zero. -/
inductive Binary64 where
  | finite (negative : Bool) (mantissa : Nat) (exponent : Int)
  | infinite (negative : Bool)
  | notANumber
  deriving DecidableEq, Repr

namespace Binary64

/-- The number of bits of a full mantissa. -/
def precision : Nat := 53

/-- The exponent of the least positive number. -/
def minExponent : Int := -1074

/-- The exponent of the largest finite numbers. -/
def maxExponent : Int := 971

/-- The quotient of two natural numbers, rounded to the nearest one; a half goes to the even
neighbour. -/
def roundQuotient (numerator denominator : Nat) : Nat :=
  let quotient := numerator / denominator
  let doubled := 2 * (numerator % denominator)
  if doubled < denominator then quotient
  else if denominator < doubled then quotient + 1
  else quotient + quotient % 2

/-- The quotient of two natural numbers in units of a power of two, as a new numerator and
denominator. -/
def inUnits (numerator denominator : Nat) : (exponent : Int) → Nat × Nat
  | .ofNat exponent => (numerator, denominator * Nat.pow 2 exponent)
  | .negSucc exponent => (numerator * Nat.pow 2 (exponent + 1), denominator)

/-- The exponent with which a positive quotient has a full mantissa, if the format allows it. -/
def exponentFor (numerator denominator : Nat) : Int :=
  let guess : Int := numerator.log2 - denominator.log2 - (precision - 1)
  let scaled := inUnits numerator denominator guess
  max minExponent (if scaled.1 < scaled.2 * Nat.pow 2 (precision - 1) then guess - 1 else guess)

/-- The number nearest to a quotient of natural numbers. -/
def ofQuotient (negative : Bool) (numerator denominator : Nat) : Binary64 :=
  if numerator = 0 then .finite negative 0 minExponent
  else
    let exponent := exponentFor numerator denominator
    let scaled := inUnits numerator denominator exponent
    let mantissa := roundQuotient scaled.1 scaled.2
    let carries := mantissa = Nat.pow 2 precision
    let mantissa := if carries then Nat.pow 2 (precision - 1) else mantissa
    let exponent := if carries then exponent + 1 else exponent
    if maxExponent < exponent then .infinite negative else .finite negative mantissa exponent

/-- The number nearest to `digits * 10 ^ exponent`.  Exponents far outside the range of the format
are answered without computing the power. -/
def ofDecimal (negative : Bool) (digits : Nat) (exponent : Int) : Binary64 :=
  let magnitude : Int := (Nat.toDigits 10 digits).length + exponent
  if digits = 0 then .finite negative 0 minExponent
  else if 310 < magnitude then .infinite negative
  else if magnitude < -330 then .finite negative 0 minExponent
  else match exponent with
    | .ofNat exponent => ofQuotient negative (digits * Nat.pow 10 exponent) 1
    | .negSucc exponent => ofQuotient negative digits (Nat.pow 10 (exponent + 1))

/-- The magnitude of a finite number as a quotient of natural numbers. -/
def quotient (mantissa : Nat) : (exponent : Int) → Nat × Nat
  | .ofNat exponent => (mantissa * Nat.pow 2 exponent, 1)
  | .negSucc exponent => (mantissa, Nat.pow 2 (exponent + 1))

/-- The integer part of a finite number, with its fraction cut off. -/
def truncated (negative : Bool) (mantissa : Nat) (exponent : Int) : Int :=
  let parts := quotient mantissa exponent
  let magnitude : Int := (parts.1 / parts.2 : Nat)
  if negative then -magnitude else magnitude

/-- The integer that a number is equal to, if there is one. -/
def integer? : Binary64 → Option Int
  | .finite negative mantissa exponent =>
      let parts := quotient mantissa exponent
      if parts.1 % parts.2 = 0 then some (truncated negative mantissa exponent) else none
  | .infinite _ | .notANumber => none

def isZero : Binary64 → Bool
  | .finite _ mantissa _ => mantissa == 0
  | .infinite _ | .notANumber => false

/-- Whether two numbers count as equal: the zeros are, and the one that is not a number counts as
equal to itself. -/
def agrees (first second : Binary64) : Bool :=
  (first.isZero && second.isZero) || first == second

end Binary64

end ThreadStacks
