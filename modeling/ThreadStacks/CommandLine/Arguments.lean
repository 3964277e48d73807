import ThreadStacks.CommandLine.Options
import ThreadStacks.Document.Integer

/-!
# Arguments

The command line is one input, with options before and after it.  The arguments are sorted into
options and others first, so an ambiguous option is refused before anything else is looked at; then
they are taken from left to right, and an option acts as soon as it is taken.

Two rules are those of one release of the parser that the program relies on, and other releases do
otherwise: two dashes given as the value of an option are dropped, and a letter behind the one of
the usage option has to be understood before the usage is printed.
-/

namespace ThreadStacks.CommandLine

/-- Why no program is run: the usage was asked for, or the arguments are wrong. -/
inductive Refusal where
  | help
  | misuse
  deriving DecidableEq, Repr

/-- A text behind the name of an option in the same argument, and whether the name is a letter. -/
structure Attachment where
  short : Bool
  text : Text
  deriving DecidableEq, Repr

/-- What an argument is. -/
inductive Mark where
  | plain (text : Text)
  /-- The two dashes after which every argument is plain. -/
  | terminator
  | option (name : OptionName) (attachment : Option Attachment)
  | unknown
  deriving DecidableEq, Repr

namespace Mark

/-- Whether a text is a number below zero, which is no option. -/
def isNegativeNumber : Text → Bool
  | .char '-' :: rest =>
      let body := if rest.getLast? = some (.char '\n') then rest.dropLast else rest
      match body.dropWhile Text.isDecimalDigit with
      | [] => !body.isEmpty
      | .char '.' :: fraction => !fraction.isEmpty && fraction.all Text.isDecimalDigit
      | _ => false
  | _ => false

/-- The parts of an argument before and after its first equals sign. -/
def cutAtEquals? (argument : Text) : Option (Text × Text) :=
  if argument.contains (.char '=') then
    some (argument.takeWhile (· != .char '='), (argument.dropWhile (· != .char '=')).drop 1)
  else none

/-- An argument that is neither the name of an option nor starts with one. -/
def ofOther (argument : Text) : Mark :=
  if isNegativeNumber argument || argument.contains (.char ' ') then .plain argument else .unknown

/-- An argument that starts with two dashes and is no full name: the start of one. -/
def ofStart (argument : Text) : Except Refusal Mark :=
  let cut := cutAtEquals? argument
  match OptionName.startingWith ((cut.map Prod.fst).getD argument) with
  | [] => .ok (ofOther argument)
  | [name] => .ok (.option name (cut.map fun parts => ⟨false, parts.2⟩))
  | _ => .error .misuse

/-- An argument that starts with one dash and is no full name: a letter with a text behind it. -/
def ofLetter (argument : Text) : Mark :=
  match argument with
  | _ :: letter :: text =>
      match OptionName.ofLetter? letter with
      | some name => .option name (some ⟨true, text⟩)
      | none => ofOther argument
  | _ => .plain argument

/-- The full name of an option with an equals sign and a text behind it. -/
def ofEquals? (argument : Text) : Option Mark := do
  let parts ← cutAtEquals? argument
  let name ← OptionName.ofName? parts.1
  pure (.option name (some ⟨parts.1.length == 2, parts.2⟩))

/-- What an argument is that starts with a dash. -/
def ofDashed (argument : Text) : Except Refusal Mark :=
  match OptionName.ofName? argument with
  | some name => .ok (.option name none)
  | none =>
      match ofEquals? argument with
      | some mark => .ok mark
      | none =>
          if "--".toText.isPrefixOf argument then ofStart argument else .ok (ofLetter argument)

def ofArguments : List Text → Except Refusal (List Mark)
  | [] => .ok []
  | argument :: rest =>
      if argument = "--".toText then .ok (.terminator :: rest.map .plain)
      else do
        let mark ←
          if argument.head? = some (.char '-') then ofDashed argument else pure (.plain argument)
        let marks ← ofArguments rest
        pure (mark :: marks)

end Mark

/-- What is known of the command line so far. -/
structure Taken where
  options : Options := {}
  input : Option Text := none
  /-- Whether there was an argument that has no use. -/
  leftover : Bool := false

/-- A command line that was understood. -/
structure Invocation where
  input : Text
  options : Options

namespace Taken

/-- The integer that an argument stands for. -/
def integer (text : Text) : Except Refusal Int :=
  match Document.textToInteger text with
  | .ok value => .ok value
  | .error _ => .error .misuse

/-- The setting that an argument stands for. -/
def setting {Value : Type} (read : Text → Except Refusal Value) (text : Text) :
    Except Refusal (Setting Value) :=
  if text = "--".toText then .ok .missing else (read text).map .given

/-- Take an option with a value. -/
def setValue (options : Options) (text : Text) : OptionName → Except Refusal Options
  | .top => return { options with top := ← setting (fun text => some <$> integer text) text }
  | .width => return { options with width := ← setting integer text }
  | .jobs => return { options with jobs := ← setting integer text }
  | .exportPath =>
      .ok { options with exportPath := if text = "--".toText then none else some text }
  | .help | .raw | .noColor | .debug => .error .misuse

/-- Take an option without a value. -/
def setFlag (options : Options) : OptionName → Except Refusal Options
  | .help => .error .help
  | .raw => .ok { options with raw := true }
  | .noColor => .ok { options with color := false }
  | .debug => .ok { options with debug := true }
  | .top | .width | .jobs | .exportPath => .error .misuse

/-- What the text behind the letter of the usage option leads to.  It holds more letters, which are
all understood before the first one acts, so a letter that is none of an option's or is in want of
a value comes before the usage. -/
def behindHelp (valueFollows : Bool) : Text → Refusal
  | [] => .misuse
  | letter :: rest =>
      match OptionName.ofLetter? letter with
      | none => .misuse
      | some name =>
          if name.takesValue then if rest.isEmpty && !valueFollows then .misuse else .help
          else if rest.isEmpty then .help
          else behindHelp valueFollows rest

/-- Take an option that has a text attached. -/
def setAttached (options : Options) (name : OptionName) (attachment : Attachment)
    (valueFollows : Bool) : Except Refusal Options :=
  if name.takesValue then setValue options attachment.text name
  else if attachment.short then .error (behindHelp valueFollows attachment.text)
  else .error .misuse

/-- Whether a plain argument comes first. -/
def startsPlain : List Mark → Bool
  | .plain _ :: _ => true
  | _ => false

/-- Take arguments from left to right.  A terminator belongs to the input beside it. -/
def takeAll (taken : Taken) : List Mark → Except Refusal Taken
  | [] => .ok taken
  | .plain text :: .terminator :: rest =>
      if taken.input.isNone then takeAll { taken with input := some text } rest
      else takeAll { taken with leftover := true } rest
  | .plain text :: rest =>
      if taken.input.isNone then takeAll { taken with input := some text } rest
      else takeAll { taken with leftover := true } rest
  | .terminator :: .plain text :: rest =>
      if taken.input.isNone then takeAll { taken with input := some text } rest
      else takeAll { taken with leftover := true } rest
  | .terminator :: rest => takeAll { taken with leftover := true } rest
  | .unknown :: rest => takeAll { taken with leftover := true } rest
  | .option name (some attachment) :: rest => do
      let options ← setAttached taken.options name attachment (startsPlain rest)
      takeAll { taken with options := options } rest
  | .option name none :: .plain text :: rest =>
      if name.takesValue then do
        let options ← setValue taken.options text name
        takeAll { taken with options := options } rest
      else do
        let options ← setFlag taken.options name
        takeAll { taken with options := options } (.plain text :: rest)
  | .option name none :: rest => do
      let options ← setFlag taken.options name
      takeAll { taken with options := options } rest

end Taken

def Invocation.ofArguments (arguments : List Text) : Except Refusal Invocation := do
  let marks ← Mark.ofArguments arguments
  let taken ← Taken.takeAll {} marks
  match taken.input, taken.leftover with
  | some input, false => pure ⟨input, taken.options⟩
  | _, _ => throw .misuse

end ThreadStacks.CommandLine
