/-!
# Code points

A text may hold one half of a pair that stands for a character beyond the first plane, without the
other half.  Such a half is a code point of its own: it is equal only to itself and counts as any
other one, but it is no character, and no stream or file that takes encoded text takes it.
-/

namespace ThreadStacks

/-- A character, or a half of a pair without its partner, given by its distance from the first
half. -/
inductive CodePoint where
  | char (character : Char)
  | half (offset : Fin 0x800)
  deriving DecidableEq, Repr

namespace CodePoint

def firstHalf : Nat := 0xD800

def toNat : CodePoint → Nat
  | .char character => character.toNat
  | .half offset => firstHalf + offset

def ofNat (number : Nat) : CodePoint :=
  if within : firstHalf ≤ number ∧ number < firstHalf + 0x800 then
    .half ⟨number - firstHalf, by omega⟩
  else .char (Char.ofNat number)

/-- The number of bytes that a code point has in a path.  A half stands for a byte that belongs to
no character. -/
def byteCount : CodePoint → Nat
  | .char character => character.utf8Size
  | .half _ => 1

/-- Whether a code point is a character that passes a test. -/
def satisfies (test : Char → Bool) : CodePoint → Bool
  | .char character => test character
  | .half _ => false

/-- Whether a code point is a character, which every encoding of texts has a place for. -/
def isCharacter : CodePoint → Bool
  | .char _ => true
  | .half _ => false

end CodePoint

/-- A text, as the list of its code points. -/
abbrev Text := List CodePoint

/-- Whether a text can be encoded: no half stands in it. -/
def Text.isEncodable (text : Text) : Bool := text.all CodePoint.isCharacter

end ThreadStacks

/-- The text that a string holds. -/
def String.toText (string : String) : ThreadStacks.Text := string.toList.map .char

@[simp] theorem String.toText_eq (string : String) : string.toText = string.toList.map .char := rfl
