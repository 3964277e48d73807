import ThreadStacks.Name.Argument
import ThreadStacks.Name.Markup

/-!
# Stack frames

A stack frame is the readable form of a raw signature: its type, its method, its argument list and
the whole signature.  Every raw signature has a frame; one without an argument list is kept as it
is.
-/

namespace ThreadStacks

/-- A frame of a call stack. -/
structure StackFrame where
  type : Text
  method : Text
  arguments : Text
  signature : Text
  deriving DecidableEq, Repr

namespace StackFrame

/-- The parts of a text before and after the last occurrence of a character. -/
def cutAtLast? (cut : CodePoint) : Text → Option (Text × Text)
  | [] => none
  | character :: rest =>
      match cutAtLast? cut rest with
      | some (before, after) => some (character :: before, after)
      | none => if character = cut then some ([], rest) else none

/-- An argument list without the parenthesis that closes it. -/
def dropClosing (arguments : Text) : Text :=
  if arguments.getLast? = some (.char ')') then arguments.dropLast else arguments

/-- The body and the argument list of a raw signature, which is cut at its last opening
parenthesis. -/
def splitSignature? (raw : Text) : Option (Text × Text) :=
  (cutAtLast? (.char '(') raw).map fun parts => (parts.1, dropClosing parts.2)

/-- The frame of a raw signature. -/
def demangle (raw : Text) : StackFrame :=
  match splitSignature? raw with
  | none => ⟨[], [], [], raw⟩
  | some (body, rawArguments) =>
      let name := Name.displaySignature body
      let parts := Name.splitFullName name
      let arguments := Name.displayArguments rawArguments
      ⟨parts.1, parts.2, arguments, name ++ .char '(' :: (arguments ++ [.char ')'])⟩

/-- What is worth noting about a raw signature. -/
def demangleNotes (raw : Text) : List Diagnostic :=
  match splitSignature? raw with
  | none => [.noArgumentList raw]
  | some (body, _) => Name.signatureNotes body

end StackFrame

end ThreadStacks
