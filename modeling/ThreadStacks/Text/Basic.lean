import ThreadStacks.Text.CodePoint

/-!
# Text

A text is a list of code points: lengths, widths and positions all count code points, and every
rule on names is a recursion on the list.  This module holds the operations that the rules share:
cutting at a character, finding and replacing a pattern, and trimming.
-/

namespace ThreadStacks

namespace Text

/-- The pieces of a text between the occurrences of a character.  There is always one more piece
than there are occurrences, so the pieces are given as the first one and the others. -/
def piecesAt (cut : CodePoint) : Text → Text × List Text
  | [] => ([], [])
  | character :: rest =>
      let pieces := piecesAt cut rest
      if character = cut then ([], pieces.1 :: pieces.2)
      else (character :: pieces.1, pieces.2)

/-- Cut a text at every occurrence of a character. -/
def splitAt (cut : CodePoint) (text : Text) : List Text :=
  (piecesAt cut text).1 :: (piecesAt cut text).2

/-- What follows the first occurrence of a pattern, if there is one. -/
def afterFirst? (pattern : Text) : Text → Option Text
  | [] => if pattern.isEmpty then some [] else none
  | character :: rest =>
      if pattern.isPrefixOf (character :: rest) then
        some ((character :: rest).drop pattern.length)
      else afterFirst? pattern rest

/-- Whether a pattern occurs in a text, as neighbouring characters. -/
def includes (pattern text : Text) : Bool := (afterFirst? pattern text).isSome

/-- Replace a pattern, with `consumed` characters at the front that belong to an occurrence
already replaced. -/
def replaceFrom (pattern replacement : Text) : (consumed : Nat) → Text → Text
  | _, [] => []
  | consumed + 1, _ :: rest => replaceFrom pattern replacement consumed rest
  | 0, character :: rest =>
      if pattern.isPrefixOf (character :: rest) then
        replacement ++ replaceFrom pattern replacement (pattern.length - 1) rest
      else character :: replaceFrom pattern replacement 0 rest

/-- Replace every occurrence of a non-empty pattern, from the left, without overlaps; what a
replacement puts in is not looked at again. -/
def replaceAll (pattern replacement text : Text) : Text :=
  replaceFrom pattern replacement 0 text

/-- A text without its last characters that satisfy a test. -/
def dropEndWhile (test : CodePoint → Bool) (text : Text) : Text :=
  (text.reverse.dropWhile test).reverse

/-- A text without the characters at both ends that satisfy a test. -/
def trimWhile (test : CodePoint → Bool) (text : Text) : Text :=
  dropEndWhile test (text.dropWhile test)

/-- A text without the plain spaces at both ends. -/
def trimSpaces (text : Text) : Text := text.trimWhile (· == .char ' ')

/-- The decimal digits of a natural number. -/
def ofNat (number : Nat) : Text := (Nat.toDigits 10 number).map .char

/-- The decimal digits of an integer, after a minus sign if it is negative. -/
def ofInt : Int → Text
  | .ofNat number => ofNat number
  | .negSucc number => .char '-' :: ofNat (number + 1)

@[simp] theorem replaceFrom_eq_drop (pattern replacement : Text) (consumed : Nat) (text : Text) :
    replaceFrom pattern replacement consumed text =
      replaceFrom pattern replacement 0 (text.drop consumed) := by
  induction consumed generalizing text with
  | zero => rfl
  | succ consumed ih =>
      cases text with
      | nil => simp [replaceFrom]
      | cons character rest =>
          rw [replaceFrom, ih, List.drop_succ_cons]

/-- The pieces of a text, with the cut put back between them, are the text. -/
theorem intercalate_splitAt (cut : CodePoint) (text : Text) :
    [cut].intercalate (splitAt cut text) = text := by
  induction text with
  | nil => rfl
  | cons character rest ih =>
      unfold splitAt at ih ⊢
      unfold piecesAt
      split
      next equal =>
        subst equal
        simpa [List.intercalate, List.intersperse] using ih
      next =>
        cases pieces : (piecesAt cut rest).2 with
        | nil => simpa [pieces, List.intercalate, List.intersperse] using ih
        | cons piece others =>
            simpa [pieces, List.intercalate, List.intersperse] using ih

end Text

end ThreadStacks
