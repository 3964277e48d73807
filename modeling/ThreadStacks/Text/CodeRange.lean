import ThreadStacks.Text.Basic

/-!
# Ranges of characters

A character class of the Unicode standard is a list of ranges of code points.
-/

namespace ThreadStacks.Text

/-- The first and the last code point of a range. -/
abbrev CodeRange := Nat × Nat

/-- Whether a character lies in one of the ranges. -/
def inRanges (ranges : List CodeRange) (character : CodePoint) : Bool :=
  ranges.any fun range => range.1 ≤ character.toNat && character.toNat ≤ range.2

end ThreadStacks.Text
