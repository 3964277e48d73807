import ThreadStacks.Document.Basic
import ThreadStacks.Fault
import ThreadStacks.Text.Blank
import ThreadStacks.Text.DecimalDigit

/-!
# Integers in documents

Ids and counts may be written as integers, truth values, numbers with a fraction, which is cut
off, or texts.  A text may have blanks around the number and a sign in front; its digits may be of
any script, and single underscores may stand between two digits.
-/

namespace ThreadStacks.Document

/-- The largest number of digits that is converted, by the usual limit of the runtime. -/
def maxIntegerDigits : Nat := 4300

/-- Whether a blank is ignored around a number.  The information separators are not. -/
def isPadding (character : CodePoint) : Bool :=
  Text.isBlank character && !(0x1C ≤ character.toNat && character.toNat ≤ 0x1F)

/-- The values of digits with single underscores between them.  `afterDigit` tells whether a digit
stands right before this place. -/
def digitValues? : (afterDigit : Bool) → Text → Option (List Nat)
  | afterDigit, [] => if afterDigit then some [] else none
  | afterDigit, character :: rest =>
      if character = .char '_' then
        if afterDigit then digitValues? false rest else none
      else do
        let value ← Text.digitValue? character
        let values ← digitValues? true rest
        pure (value :: values)

/-- The integer that digits stand for. -/
def digitsToInteger (negative : Bool) (digits : Text) : Except Fault Int :=
  match digitValues? false digits with
  | none => .error .malformedInteger
  | some values =>
      if maxIntegerDigits < values.length then .error .integerTooLong
      else
        let magnitude : Int := Text.numberOfDigits values
        .ok (if negative then -magnitude else magnitude)

def textToInteger (text : Text) : Except Fault Int :=
  match text.trimWhile isPadding with
  | .char '-' :: digits => digitsToInteger true digits
  | .char '+' :: digits => digitsToInteger false digits
  | digits => digitsToInteger false digits

def floatToInteger : Binary64 → Except Fault Int
  | .finite negative mantissa exponent => .ok (Binary64.truncated negative mantissa exponent)
  | .infinite _ => .error .infiniteInteger
  | .notANumber => .error .malformedInteger

def toInteger : Document → Except Fault Int
  | .bool value => .ok (if value then 1 else 0)
  | .integer value => .ok value
  | .float value => floatToInteger value
  | .text value => textToInteger value
  | .null | .list _ | .object _ => .error .notAnInteger

end ThreadStacks.Document
