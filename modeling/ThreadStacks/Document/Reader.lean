import ThreadStacks.Document.Lexeme

/-!
# Reading documents

The reader goes once through the lexemes and keeps the lists and objects that are open, the
innermost one first.  What it may meet next is one of a few expectations; any other lexeme ends
the reading.
-/

namespace ThreadStacks.Document

/-- A list or an object that is not closed yet.  The items of a list are kept with the last one
first; an object that waits for a value knows its key. -/
inductive OpenPart where
  | list (items : List Document)
  | object (fields : Fields)
  | field (fields : Fields) (key : Text)

/-- What may come next. -/
inductive Expectation where
  | value
  | valueOrClose
  | keyOrClose
  | key
  | colon
  | commaOrClose
  | nothing (document : Document)

/-- The reader between two lexemes. -/
structure Reader where
  parts : List OpenPart
  expectation : Expectation

namespace Reader

/-- The deepest nesting that is read.  No rule of the program sets it: it is what the usual limit
of a thousand nested calls leaves to the reader when the program is started from the command
line. -/
def maxDepth : Nat := 990

def start : Reader := ⟨[], .value⟩

/-- Put a finished value into the innermost part. -/
def complete (value : Document) : List OpenPart → Except ReadError Reader
  | [] => .ok ⟨[], .nothing value⟩
  | .list items :: outer => .ok ⟨.list (value :: items) :: outer, .commaOrClose⟩
  | .field fields key :: outer => .ok ⟨.object (Table.put key value fields) :: outer, .commaOrClose⟩
  | .object _ :: _ => .error .malformed

/-- Open a list or an object. -/
def openPart (part : OpenPart) (outer : List OpenPart) (expectation : Expectation) :
    Except ReadError Reader :=
  if maxDepth ≤ outer.length then .error (.refused .nestingTooDeep)
  else .ok ⟨part :: outer, expectation⟩

def readValue (outer : List OpenPart) : Lexeme → Except ReadError Reader
  | .openList => openPart (.list []) outer .valueOrClose
  | .openObject => openPart (.object []) outer .keyOrClose
  | .text value => complete (.text value) outer
  | .scalar value => complete value outer
  | .faulty error => .error error
  | _ => .error .malformed

def readKey (outer : List OpenPart) (key : Text) : Except ReadError Reader :=
  match outer with
  | .object fields :: outer => .ok ⟨.field fields key :: outer, .colon⟩
  | _ => .error .malformed

/-- Look at one lexeme. -/
def feed (reader : Reader) (lexeme : Lexeme) : Except ReadError Reader :=
  match reader.expectation, lexeme, reader.parts with
  | .valueOrClose, .closeList, .list items :: outer => complete (.list items.reverse) outer
  | .value, lexeme, outer | .valueOrClose, lexeme, outer => readValue outer lexeme
  | .keyOrClose, .closeObject, .object fields :: outer => complete (.object fields) outer
  | .keyOrClose, .text key, outer | .key, .text key, outer => readKey outer key
  | .colon, .colon, outer => .ok ⟨outer, .value⟩
  | .commaOrClose, .comma, .list items :: outer => .ok ⟨.list items :: outer, .value⟩
  | .commaOrClose, .comma, .object fields :: outer => .ok ⟨.object fields :: outer, .key⟩
  | .commaOrClose, .closeList, .list items :: outer => complete (.list items.reverse) outer
  | .commaOrClose, .closeObject, .object fields :: outer => complete (.object fields) outer
  | _, _, _ => .error .malformed

/-- The document read, once all lexemes have been looked at. -/
def finish (reader : Reader) : Except ReadError Document :=
  match reader.expectation with
  | .nothing document => .ok document
  | _ => .error .malformed

end Reader

def read (text : Text) : Except ReadError Document :=
  (Lexeme.ofText text).foldlM Reader.feed Reader.start >>= Reader.finish

end ThreadStacks.Document
