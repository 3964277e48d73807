import ThreadStacks.Diagnostic
import ThreadStacks.Fault
import ThreadStacks.Name.Qualified
import ThreadStacks.Name.TypeName

/-!
# Generic markup

A raw signature writes the type arguments of a generic type in square brackets: a doubled pair
around the list, a single pair around each argument, and the name of its assembly after a comma
within the argument.  The signature is cut into spans, each a segment of text and the run of equal
brackets that ends it, and every span is made readable on its own: two brackets of a run become
one angle bracket.  Malformed markup is made readable as far as it goes.
-/

namespace ThreadStacks.Name

/-- The square brackets. -/
inductive Bracket where
  | opening
  | closing
  deriving DecidableEq, Repr

namespace Bracket

/-- The bracket that a character is. -/
def ofCharacter? : CodePoint → Option Bracket
  | .char '[' => some .opening
  | .char ']' => some .closing
  | _ => none

def character : Bracket → CodePoint
  | .opening => .char '['
  | .closing => .char ']'

/-- The angle bracket that a bracket turns into. -/
def angle : Bracket → CodePoint
  | .opening => .char '<'
  | .closing => .char '>'

def isBracket (character : CodePoint) : Bool := (ofCharacter? character).isSome

end Bracket

/-! ## Runs -/

/-- A run of equal brackets: where it starts, how long it is and its bracket.  A position below zero
counts from the end of the text. -/
structure BracketRun where
  position : Int
  count : Nat
  bracket : Bracket
  deriving DecidableEq, Repr

/-- The run that starts with the first bracket of a text which lies at a position of a longer
one. -/
def BracketRun.first? (position : Int) (text : Text) : Option BracketRun :=
  let before := text.takeWhile fun character => !Bracket.isBracket character
  match text.drop before.length with
  | [] => none
  | character :: rest =>
      (Bracket.ofCharacter? character).map fun bracket =>
        ⟨position + before.length, (rest.takeWhile (· == character)).length + 1, bracket⟩

/-- The next run of equal brackets at a position or after it.  The position may be the end of the
text but no place beyond.  A position below zero counts from the end of the text, and the text
follows once more behind its end. -/
def nextBracketRun (text : Text) : (start : Int) → Except Fault (Option BracketRun)
  | .ofNat start =>
      if text.length < start then .error .positionBeyondText
      else .ok (BracketRun.first? start (text.drop start))
  | .negSucc missing =>
      if text.length < missing + 1 then .error .positionBeyondText
      else .ok (BracketRun.first? (.negSucc missing)
        (text.drop (text.length - (missing + 1)) ++ text))

/-! ## Spans -/

/-- A segment without brackets and the run of `count` equal brackets that ends it. -/
structure Span where
  segment : Text
  bracket : Bracket
  count : Nat
  deriving DecidableEq, Repr

/-- Put a bracket in front of spans.  It joins a run of its kind that it touches. -/
def Span.consBracket (bracket : Bracket) : List Span → List Span
  | [] => [⟨[], bracket, 1⟩]
  | span :: spans =>
      if span.segment.isEmpty && span.bracket == bracket then
        { span with count := span.count + 1 } :: spans
      else ⟨[], bracket, 1⟩ :: span :: spans

/-- Put another character in front of spans and the text after them. -/
def Span.consCharacter (character : CodePoint) : List Span × Text → List Span × Text
  | ([], tail) => ([], character :: tail)
  | (span :: spans, tail) =>
      ({ span with segment := character :: span.segment } :: spans, tail)

/-- The spans of a signature, and the tail after its last bracket. -/
def spans : Text → List Span × Text
  | [] => ([], [])
  | character :: rest =>
      let found := spans rest
      match Bracket.ofCharacter? character with
      | some bracket => (Span.consBracket bracket found.1, found.2)
      | none => Span.consCharacter character found

namespace Span

/-- The type name of a span: what a closing run ends goes on with the name of an assembly after a
comma. -/
def typeName (span : Span) : Text :=
  match span.bracket with
  | .opening => span.segment
  | .closing => span.segment.takeWhile (· != .char ',')

/-- How many generic lists the run of a span opens or closes. -/
def pairs (span : Span) : Nat := span.count / 2

/-- The readable form of a span. -/
def display (span : Span) : Text :=
  displayTypeName span.typeName ++ List.replicate span.pairs span.bracket.angle

/-- How much a span changes the number of open generic lists. -/
def depthChange (span : Span) : Int :=
  match span.bracket with
  | .opening => span.pairs
  | .closing => -(span.pairs : Int)

/-- How much spans change the number of open generic lists together. -/
def totalDepthChange : List Span → Int
  | [] => 0
  | span :: rest => span.depthChange + totalDepthChange rest

/-- Whether a span ends a generic argument that does not name its assembly. -/
def lacksAssembly (span : Span) : Bool :=
  span.bracket == .closing && !span.segment.contains (.char ',')

end Span

/-! ## Signatures -/

/-- Append a method to a readable type, if there is a method, with a dot if there is a type. -/
def joinMethod (type method : Text) : Text :=
  if method.isEmpty then type
  else if type.isEmpty then method
  else type ++ .char '.' :: method

/-- The readable form of a signature without its argument list.  The tail after the last bracket is
a type and a method, or a method of the type that the brackets belong to. -/
def displaySignature (signature : Text) : Text :=
  let cut := spans signature
  let tail := splitFullName cut.2
  joinMethod (cut.1.flatMap Span.display ++ displayTypeName tail.1) (displayMethodName tail.2)

/-- What is worth noting about the markup of a signature. -/
def signatureNotes (signature : Text) : List Diagnostic :=
  let cut := (spans signature).1
  let arguments := (cut.filter Span.lacksAssembly).map fun span =>
    Diagnostic.noAssemblyName span.segment signature
  arguments ++
    if Span.totalDepthChange cut = 0 then [] else [.unbalancedBrackets signature]

end ThreadStacks.Name
