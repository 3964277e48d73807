import ThreadStacks.Text.Basic

/-!
# Qualified names

A readable signature is a type and a method joined by a dot.  Dots inside angle brackets belong to
type arguments, so the signature is cut at its last dot at depth zero.  The depth may fall below
zero on a malformed text and come back to zero later.
-/

namespace ThreadStacks.Name

/-- How much a character changes the depth of the angle brackets. -/
def depthChange (character : CodePoint) : Int :=
  if character = .char '<' then 1 else if character = .char '>' then -1 else 0

/-- The depth of the angle brackets after a text. -/
def depthAfter : Text → Int
  | [] => 0
  | character :: rest => depthChange character + depthAfter rest

/-- The parts before and after the last dot at depth zero, where the text starts at a depth. -/
def cutAtLastDot? : (depth : Int) → Text → Option (Text × Text)
  | _, [] => none
  | depth, character :: rest =>
      match cutAtLastDot? (depth + depthChange character) rest with
      | some (before, after) => some (character :: before, after)
      | none => if character = .char '.' && depth = 0 then some ([], rest) else none

/-- The type and the method of a readable signature.  Without a dot at depth zero all of it is
the method. -/
def splitFullName (name : Text) : Text × Text := (cutAtLastDot? 0 name).getD ([], name)

end ThreadStacks.Name
