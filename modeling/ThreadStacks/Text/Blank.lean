import ThreadStacks.Text.CodeRange

/-!
# Blanks

The characters that separate words.  The set is wider than the white space of the standard
library: it has the four information separators and the Unicode spaces.
-/

namespace ThreadStacks.Text

/-- The ranges of the blank characters. -/
def blankRanges : List CodeRange := [
  (0x0009, 0x000D), (0x001C, 0x0020), (0x0085, 0x0085), (0x00A0, 0x00A0), (0x1680, 0x1680),
  (0x2000, 0x200A), (0x2028, 0x2029), (0x202F, 0x202F), (0x205F, 0x205F), (0x3000, 0x3000)]

/-- Whether a character separates words. -/
def isBlank (character : CodePoint) : Bool := inRanges blankRanges character

/-- The word that a text starts with, possibly empty, and the words after the first blank. -/
def leadingWord : Text → Text × List Text
  | [] => ([], [])
  | character :: rest =>
      let words := leadingWord rest
      if isBlank character then ([], if words.1.isEmpty then words.2 else words.1 :: words.2)
      else (character :: words.1, words.2)

/-- The words of a text: its longest pieces without a blank. -/
def words (text : Text) : List Text :=
  let found := leadingWord text
  if found.1.isEmpty then found.2 else found.1 :: found.2

end ThreadStacks.Text
