import ThreadStacks.Document.BareWord
import ThreadStacks.Document.Escape

/-!
# Lexemes of documents

A written document is cut into brackets, commas, colons, texts and bare words.  The cutting is an
automaton that looks at one character at a time.  A fault of the input is a lexeme as well, so
that the reader meets the faults in the order in which they are written.
-/

namespace ThreadStacks.Document

/-- The parts that a written document is made of. -/
inductive Lexeme where
  | openList
  | closeList
  | openObject
  | closeObject
  | comma
  | colon
  | text (value : Text)
  | scalar (value : Document)
  | faulty (error : ReadError)

namespace Lexeme

def ofWord (word : Text) : Lexeme :=
  match BareWord.read word with
  | .ok value => .scalar value
  | .error error => .faulty error

/-- Where the automaton stands.  The codes of a text and the characters of a word are kept with
the last one first. -/
inductive Place where
  | between
  | inWord (word : Text)
  | inText (codes : List Escape.Code)
  | afterBackslash (codes : List Escape.Code)
  | inCode (codes : List Escape.Code) (missing value : Nat)

/-- The automaton: the lexemes found so far, the last one first, and where it stands. -/
structure Automaton where
  found : List Lexeme
  place : Place

namespace Automaton

def start : Automaton := ⟨[], .between⟩

/-- Find a lexeme and stand between lexemes. -/
def find (automaton : Automaton) (lexeme : Lexeme) : Automaton :=
  ⟨lexeme :: automaton.found, .between⟩

def goTo (automaton : Automaton) (place : Place) : Automaton := ⟨automaton.found, place⟩

/-- Meet a fault.  The reader stops there, so it does not matter how the automaton goes on. -/
def fail (automaton : Automaton) : Automaton := automaton.find (.faulty .malformed)

/-- Look at a character that stands between lexemes. -/
def feedBetween (automaton : Automaton) (character : CodePoint) : Automaton :=
  match character with
  | .char ' ' | .char '\t' | .char '\n' | .char '\r' => automaton.goTo .between
  | .char '[' => automaton.find .openList
  | .char ']' => automaton.find .closeList
  | .char '\x7b' => automaton.find .openObject
  | .char '\x7d' => automaton.find .closeObject
  | .char ',' => automaton.find .comma
  | .char ':' => automaton.find .colon
  | .char '"' => automaton.goTo (.inText [])
  | character => automaton.goTo (.inWord [character])

/-- Whether a character ends a bare word. -/
def endsWord (character : CodePoint) : Bool :=
  " \t\n\r[]\x7b\x7d,:\"".toText.contains character

/-- Look at one character. -/
def feed (automaton : Automaton) (character : CodePoint) : Automaton :=
  match automaton.place with
  | .between => automaton.feedBetween character
  | .inWord word =>
      if endsWord character then (automaton.find (.ofWord word.reverse)).feedBetween character
      else automaton.goTo (.inWord (character :: word))
  | .inText codes =>
      if character = .char '"' then automaton.find (.text (Escape.ofCodes codes.reverse))
      else if character = .char '\\' then automaton.goTo (.afterBackslash codes)
      else if character.toNat < 0x20 then automaton.fail
      else automaton.goTo (.inText (.point character :: codes))
  | .afterBackslash codes =>
      if character = .char 'u' then automaton.goTo (.inCode codes 4 0)
      else match Escape.ofLetter? character with
        | some character => automaton.goTo (.inText (.point character :: codes))
        | none => automaton.fail
  | .inCode codes missing value =>
      match Escape.hexDigit? character with
      | none => automaton.fail
      | some digit =>
          let value := 16 * value + digit
          if missing ≤ 1 then automaton.goTo (.inText (.digits value :: codes))
          else automaton.goTo (.inCode codes (missing - 1) value)

/-- The lexemes found, once all characters have been looked at. -/
def finish (automaton : Automaton) : List Lexeme :=
  match automaton.place with
  | .between => automaton.found.reverse
  | .inWord word => (automaton.find (.ofWord word.reverse)).found.reverse
  | .inText _ | .afterBackslash _ | .inCode _ _ _ => automaton.fail.found.reverse

end Automaton

def ofText (text : Text) : List Lexeme := (text.foldl Automaton.feed Automaton.start).finish

end Lexeme

end ThreadStacks.Document
