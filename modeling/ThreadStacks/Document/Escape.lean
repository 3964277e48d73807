import ThreadStacks.Text.DecimalDigit

/-!
# Escapes

In a written text a backslash and a letter, or the four digits of a code, stand for one character.
A character beyond the first plane is written as two codes, a high half and a low one.  Only halves
that are both given by their digits, one right after the other, stand for a character together.
-/

namespace ThreadStacks.Document.Escape

/-- The value of a hexadecimal digit. -/
def hexDigit? (character : CodePoint) : Option Nat :=
  if Text.isAsciiDigit character then some (character.toNat - '0'.toNat)
  else if 'a'.toNat ≤ character.toNat && character.toNat ≤ 'f'.toNat then
    some (character.toNat - 'a'.toNat + 10)
  else if 'A'.toNat ≤ character.toNat && character.toNat ≤ 'F'.toNat then
    some (character.toNat - 'A'.toNat + 10)
  else none

/-- The character that a letter after a backslash stands for. -/
def ofLetter? : CodePoint → Option CodePoint
  | .char '"' => some (.char '"')
  | .char '\\' => some (.char '\\')
  | .char '/' => some (.char '/')
  | .char 'b' => some (.char '\x08')
  | .char 'f' => some (.char '\x0c')
  | .char 'n' => some (.char '\n')
  | .char 'r' => some (.char '\r')
  | .char 't' => some (.char '\t')
  | _ => none

def isHighHalf (code : Nat) : Bool := 0xD800 ≤ code && code < 0xDC00

def isLowHalf (code : Nat) : Bool := 0xDC00 ≤ code && code < 0xE000

/-- The character with two halves. -/
def ofHalves (high low : Nat) : CodePoint :=
  .ofNat (0x10000 + (high - 0xD800) * 0x400 + (low - 0xDC00))

/-- What stands in a written text: a code point, or the digits of one. -/
inductive Code where
  | point (code : CodePoint)
  | digits (number : Nat)

/-- The text that is written.  `high` is a high half that waits for its partner; a half that gets
none stays what it is. -/
def joinHalves : (high : Option Nat) → List Code → Text
  | none, [] => []
  | some high, [] => [.ofNat high]
  | none, .point code :: rest => code :: joinHalves none rest
  | some high, .point code :: rest => .ofNat high :: code :: joinHalves none rest
  | none, .digits number :: rest =>
      if isHighHalf number then joinHalves (some number) rest
      else .ofNat number :: joinHalves none rest
  | some high, .digits number :: rest =>
      if isLowHalf number then ofHalves high number :: joinHalves none rest
      else if isHighHalf number then .ofNat high :: joinHalves (some number) rest
      else .ofNat high :: .ofNat number :: joinHalves none rest

def ofCodes (codes : List Code) : Text := joinHalves none codes

end ThreadStacks.Document.Escape
