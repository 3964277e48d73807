import ThreadStacks.Document.Integer
import ThreadStacks.Document.ReadError

/-!
# Bare words

What stands in a written document without quotes: null, the truth values and the numbers.  A number
without fraction and exponent is an integer of any size up to a limit on its digits; every other
number is rounded to the nearest binary one.
-/

namespace ThreadStacks.Document.BareWord

/-- The leading digits of a text, and the rest. -/
def spanDigits (text : Text) : Text × Text :=
  (text.takeWhile Text.isAsciiDigit, text.dropWhile Text.isAsciiDigit)

/-- The digits of the whole part that a text starts with, and the rest.  A zero stands alone. -/
def wholePart? (text : Text) : Option (Text × Text) :=
  match text with
  | .char '0' :: rest => some ([.char '0'], rest)
  | _ =>
      let parts := spanDigits text
      if parts.1.isEmpty then none else some parts

/-- The digits after a point that a text starts with, and the rest. -/
def fraction? : Text → Option (Text × Text)
  | .char '.' :: rest =>
      let parts := spanDigits rest
      if parts.1.isEmpty then none else some parts
  | _ => none

def signed (negative : Bool) (magnitude : Nat) : Int :=
  if negative then -(magnitude : Int) else magnitude

/-- The value of the digits of an exponent, and the rest. -/
def exponentDigits? (negative : Bool) (text : Text) : Option (Int × Text) :=
  let parts := spanDigits text
  if parts.1.isEmpty then none else some (signed negative (Text.asciiNumber parts.1), parts.2)

/-- The exponent that a text starts with, and the rest. -/
def exponent? : Text → Option (Int × Text)
  | mark :: rest =>
      if mark = .char 'e' || mark = .char 'E' then
        match rest with
        | .char '-' :: digits => exponentDigits? true digits
        | .char '+' :: digits => exponentDigits? false digits
        | digits => exponentDigits? false digits
      else none
  | [] => none

/-- The integer with some digits, in front of the rest of its word. -/
def readInteger (negative : Bool) (digits rest : Text) : Except ReadError Document :=
  if maxIntegerDigits < digits.length then .error (.refused .integerTooLong)
  else if rest.isEmpty then .ok (.integer (signed negative (Text.asciiNumber digits)))
  else .error .malformed

/-- The number that a word is.  A word that only starts with a number is malformed, unless the
number alone goes beyond the limit already. -/
def readNumber (negative : Bool) (word : Text) : Except ReadError Document :=
  match wholePart? word with
  | none => .error .malformed
  | some (whole, afterWhole) =>
      let fraction := fraction? afterWhole
      let afterFraction := (fraction.map Prod.snd).getD afterWhole
      let exponent := exponent? afterFraction
      let rest := (exponent.map Prod.snd).getD afterFraction
      if fraction.isNone && exponent.isNone then readInteger negative whole rest
      else if rest.isEmpty then
        let decimals := (fraction.map Prod.fst).getD []
        .ok (.float (Binary64.ofDecimal negative (Text.asciiNumber (whole ++ decimals))
          ((exponent.map Prod.fst).getD 0 - decimals.length)))
      else .error .malformed

/-- The value that a bare word stands for. -/
def read (word : Text) : Except ReadError Document :=
  if word = "null".toText then .ok .null
  else if word = "true".toText then .ok (.bool true)
  else if word = "false".toText then .ok (.bool false)
  else if word = "NaN".toText then .ok (.float .notANumber)
  else if word = "Infinity".toText then .ok (.float (.infinite false))
  else if word = "-Infinity".toText then .ok (.float (.infinite true))
  else match word with
    | .char '-' :: rest => readNumber true rest
    | _ => readNumber false word

end ThreadStacks.Document.BareWord
