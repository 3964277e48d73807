import ThreadStacks.Render.Renderer

/-!
# Options

What can be asked for on the command line beside the snapshot.  Options are understood by a parser
that is not part of the program; the rules here are those of one release of it.
-/

namespace ThreadStacks.CommandLine

/-- The options that may be given. -/
inductive OptionName where
  | help
  | top
  | raw
  | noColor
  | width
  | jobs
  | exportPath
  | debug
  deriving DecidableEq, Repr

namespace OptionName

def all : List OptionName := [
  .help, .top, .raw, .noColor, .width, .jobs, .exportPath, .debug]

def long : OptionName → Text
  | .help => "--help".toText
  | .top => "--top".toText
  | .raw => "--raw".toText
  | .noColor => "--no-color".toText
  | .width => "--width".toText
  | .jobs => "--jobs".toText
  | .exportPath => "--json".toText
  | .debug => "--debug".toText

/-- The letter of the short name of an option, where it has one. -/
def letter? : OptionName → Option CodePoint
  | .help => some (.char 'h')
  | .top => some (.char 'n')
  | .width => some (.char 'w')
  | .jobs => some (.char 'j')
  | .raw | .noColor | .exportPath | .debug => none

def takesValue : OptionName → Bool
  | .top | .width | .jobs | .exportPath => true
  | .help | .raw | .noColor | .debug => false

def ofLetter? (letter : CodePoint) : Option OptionName :=
  all.find? fun option => option.letter? == some letter

/-- The option with a name, long or short, written in full. -/
def ofName? (name : Text) : Option OptionName :=
  all.find? fun option =>
    option.long == name || (option.letter?.map fun letter => [.char '-', letter]) == some name

/-- The options whose long name starts with a text. -/
def startingWith (start : Text) : List OptionName :=
  all.filter fun option => start.isPrefixOf option.long

end OptionName

/-- The value that an option has been given.  Two dashes given as a value are dropped, as if they
ended the options, and leave none; other releases of the parser keep them as the value. -/
inductive Setting (Value : Type) where
  | given (value : Value)
  | missing

/-- The value of an option that needs one. -/
def Setting.get {Value : Type} : Setting Value → Except Fault Value
  | .given value => .ok value
  | .missing => .error .settingMissing

/-- The choices that options make. -/
structure Options where
  /-- How many groups are drawn, if not all of them. -/
  top : Setting (Option Int) := .given none
  /-- Whether raw frames are drawn as well. -/
  raw : Bool := false
  /-- Whether the table is colored. -/
  color : Bool := true
  /-- The width of the table. -/
  width : Setting Int := .given Renderer.defaultWidth
  /-- How many workers read the records. -/
  jobs : Setting Int := .given 1
  /-- Where the groups are exported to, if they are. -/
  exportPath : Option Text := none
  /-- Whether notes are printed. -/
  debug : Bool := false

end ThreadStacks.CommandLine
