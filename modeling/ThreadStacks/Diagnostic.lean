import ThreadStacks.Document.Display

/-!
# Diagnostics

What is worth a note but no failure.  The rules always give the notes; whoever calls them decides
whether to print them.
-/

namespace ThreadStacks

/-- The notes of the program. -/
inductive Diagnostic where
  /-- A raw signature has no argument list. -/
  | noArgumentList (raw : Text)
  /-- A generic argument of a signature does not name its assembly. -/
  | noAssemblyName (segment signature : Text)
  /-- A signature does not close as many generic lists as it opens. -/
  | unbalancedBrackets (signature : Text)
  /-- A frame belongs to no managed method. -/
  | frameWithoutMethod (raw : Document)
  /-- A thread is left out because it has ended. -/
  | deadThread (managedId : Document)
  /-- Names of threads were found. -/
  | namesDiscovered (count : Nat)

namespace Diagnostic

/-- The wording of a note. -/
def message : Diagnostic → Text
  | .noArgumentList raw => "no argument list in ".toText ++ Text.quoted raw
  | .noAssemblyName segment signature =>
      "generic argument without an assembly name: ".toText ++ Text.quoted segment ++
        " in ".toText ++ Text.quoted signature
  | .unbalancedBrackets signature =>
      "unbalanced generic brackets in ".toText ++ Text.quoted signature
  | .frameWithoutMethod raw => "frame without a method: ".toText ++ raw.display
  | .deadThread managedId => "skip dead thread: ".toText ++ managedId.display
  | .namesDiscovered count =>
      "discovered names for ".toText ++ Text.ofNat count ++ " threads".toText

/-- The printed line of a note. -/
def line (note : Diagnostic) : Text := "[debug] ".toText ++ note.message ++ [.char '\n']

def lines (notes : List Diagnostic) : Text := notes.flatMap line

end Diagnostic

end ThreadStacks
