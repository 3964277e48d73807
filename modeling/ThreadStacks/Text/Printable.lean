import ThreadStacks.Text.Printable.Table

/-!
# Printable characters
-/

namespace ThreadStacks.Text

/-- Whether a character has a visible form, or is the plain space. -/
def isPrintable (character : CodePoint) : Bool :=
  if character.toNat < 0x7F then 0x20 ≤ character.toNat
  else !inRanges invisibleRanges character

end ThreadStacks.Text
