import ThreadStacks.Text.DecimalDigit

/-!
# Compiler-generated names

A name that the compiler makes up follows one pattern: the name it was made for between angle
brackets, a letter for its kind, two underscores and a suffix.  The letter is `b` for a lambda,
`d` for the state machine of an asynchronous method and `g` for a local function, whose own name
ends at a bar.  These rules turn the pattern into a dotted path, one marker after the other.
-/

namespace ThreadStacks.Name

/-- Drop every opening angle bracket that follows a dot.  `afterDot` tells whether only such
brackets lie between the last dot and this place. -/
def collapseDots : (afterDot : Bool) → Text → Text
  | _, [] => []
  | afterDot, character :: rest =>
      if character = .char '<' && afterDot then collapseDots true rest
      else character :: collapseDots (character = .char '.') rest

/-- The readable form of a name or a section of a name that the compiler may have generated.  The
leading angle brackets only say that it did. -/
def displayGenerated (name : Text) : Text :=
  let unmarked := (name.dropWhile (· == .char '<')).filter (· != .char '|')
  let withLambdas := Text.replaceAll ">b".toText ".AnonymousMethod".toText unmarked
  let withMachines := Text.replaceAll ">d".toText ".StateMachine".toText withLambdas
  let withFunctions := Text.replaceAll ">g__".toText ".".toText withMachines
  collapseDots false withFunctions

def displayMethodName (method : Text) : Text := displayGenerated method

end ThreadStacks.Name
