import ThreadStacks.Frame.Basic
import ThreadStacks.Token.Basic

/-!
# Fragments

A line of the table is drawn from fragments, pieces of text of one kind each.  The kind decides the
color; a fragment is never broken between two lines.
-/

namespace ThreadStacks

/-- What a fragment shows. -/
inductive FragmentKind where
  | border
  | header
  | exceptionType
  | exceptionMessage
  | namespaceName
  | typeName
  | methodName
  | separator
  | text
  | argument
  | argumentModifier
  | warning
  deriving DecidableEq, Repr

namespace FragmentKind

def all : List FragmentKind := [
  .border, .header, .exceptionType, .exceptionMessage, .namespaceName, .typeName,
  .methodName, .separator, .text, .argument, .argumentModifier, .warning]

def name : FragmentKind → Text
  | .border => "border".toText
  | .header => "header".toText
  | .exceptionType => "exception_type".toText
  | .exceptionMessage => "exception_message".toText
  | .namespaceName => "namespace".toText
  | .typeName => "type_name".toText
  | .methodName => "method_name".toText
  | .separator => "separator".toText
  | .text => "text".toText
  | .argument => "argument".toText
  | .argumentModifier => "argument_modifier".toText
  | .warning => "warning".toText

def ofName? (name : Text) : Option FragmentKind := all.find? fun kind => kind.name == name

/-- The terminal code of the color of a kind; separators and plain text have none. -/
def colorCode? : FragmentKind → Option Text
  | .border => some "2".toText
  | .header => some "1;34".toText
  | .exceptionType => some "1;31".toText
  | .exceptionMessage => some "31".toText
  | .namespaceName => some "36".toText
  | .typeName => some "36".toText
  | .methodName => some "1;33".toText
  | .argument => some "32".toText
  | .argumentModifier => some "1;35".toText
  | .warning => some "1;33".toText
  | .separator | .text => none

end FragmentKind

/-- A piece of text of one kind. -/
structure Fragment where
  kind : FragmentKind
  text : Text
  deriving DecidableEq, Repr

namespace Fragment

/-- The character that starts a terminal code. -/
def escape : CodePoint := .char '\x1b'

/-- A text in the color of a code, if colors are on. -/
def inColor (text code : Text) (enabled : Bool) : Text :=
  if enabled then
    escape :: .char '[' :: code ++ .char 'm' :: text ++ escape :: "[0m".toText
  else text

/-- The fragment of a token of a name that is shown in a kind. -/
def ofNameToken (kind : FragmentKind) (token : Token) : Fragment :=
  match token.kind with
  | .separator => ⟨.separator, token.text⟩
  | .word | .modifier => ⟨kind, token.text⟩

def ofArgumentToken (token : Token) : Fragment :=
  match token.kind with
  | .separator => ⟨.separator, token.text⟩
  | .modifier => ⟨.argumentModifier, token.text⟩
  | .word => ⟨.argument, token.text⟩

/-- The fragments of a name that is shown in a kind. -/
def ofName (kind : FragmentKind) (name : Text) : List Fragment :=
  (Token.ofName Token.nameSeparators name).map (ofNameToken kind)

def ofArguments (arguments : Text) : List Fragment :=
  (Token.ofArguments Token.nameSeparators arguments).map ofArgumentToken

/-- The fragments of a frame.  A frame without type and method shows its signature. -/
def ofFrame (frame : StackFrame) : List Fragment :=
  if frame.type.isEmpty && frame.method.isEmpty then [⟨.text, frame.signature⟩]
  else
    let dot : List Fragment :=
      if !frame.type.isEmpty && !frame.method.isEmpty then [⟨.separator, [.char '.']⟩] else []
    ofName .typeName frame.type ++ dot ++ ofName .methodName frame.method ++
      ⟨.separator, [.char '(']⟩ :: ofArguments frame.arguments ++ [⟨.separator, [.char ')']⟩]

end Fragment

end ThreadStacks
