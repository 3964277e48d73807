import ThreadStacks.Document.Basic
import ThreadStacks.Number.Shortest
import ThreadStacks.Text.Quoted

/-!
# Documents on file

The written form of a document: one item or field a line, indented by two spaces a level, empty
lists and objects on one line, and no newline at the end.  Characters outside ASCII are written as
they are.  The text is put together from pieces, and where one of them cannot be encoded those in
front of it are all that gets into the file.
-/

namespace ThreadStacks.Document

/-- One character of a written text. -/
def writtenCharacter (character : CodePoint) : Text :=
  if character = .char '"' then "\\\"".toText
  else if character = .char '\\' then "\\\\".toText
  else if character = .char '\n' then "\\n".toText
  else if character = .char '\r' then "\\r".toText
  else if character = .char '\t' then "\\t".toText
  else if character = .char '\x08' then "\\b".toText
  else if character = .char '\x0c' then "\\f".toText
  else if character.toNat < 0x20 then "\\u".toText ++ Text.hexadecimal 4 character.toNat
  else [character]

/-- A text between double quotes. -/
def writtenText (text : Text) : Text := .char '"' :: (text.flatMap writtenCharacter ++ [.char '"'])

/-- A number on file. -/
def writtenFloat : Binary64 → Text
  | .infinite negative => if negative then "-Infinity".toText else "Infinity".toText
  | .notANumber => "NaN".toText
  | value => value.text

def newLine (level : Nat) : Text := .char '\n' :: List.replicate (2 * level) (.char ' ')

mutual

/-- The pieces that a value is written in, at a level of indentation.  The lead in front of a value
belongs to its first piece where the value has no parts, and is a piece of its own otherwise. -/
def piecesAt (lead : Text) (level : Nat) : Document → List Text
  | .null => [lead ++ "null".toText]
  | .bool value => [lead ++ if value then "true".toText else "false".toText]
  | .integer value => [lead ++ Text.ofInt value]
  | .float value => [lead ++ writtenFloat value]
  | .text value => [lead ++ writtenText value]
  | .list items =>
      if items.isEmpty then [lead, "[]".toText]
      else lead :: itemPieces (.char '[' :: newLine (level + 1)) (level + 1) items ++
        [newLine level, "]".toText]
  | .object fields =>
      if fields.isEmpty then [lead, "\x7b\x7d".toText]
      else lead :: "\x7b".toText :: fieldPieces (newLine (level + 1)) (level + 1) fields ++
        [newLine level, "\x7d".toText]

/-- The pieces of the items of a list, the first one behind a lead. -/
def itemPieces (lead : Text) (level : Nat) : List Document → List Text
  | [] => []
  | item :: items =>
      piecesAt lead level item ++ itemPieces (.char ',' :: newLine level) level items

/-- The pieces of the fields of an object, the first one behind a lead. -/
def fieldPieces (lead : Text) (level : Nat) : Fields → List Text
  | [] => []
  | (key, value) :: rest =>
      lead :: writtenText key :: ": ".toText :: piecesAt [] level value ++
        fieldPieces (.char ',' :: newLine level) level rest

end

def pieces (document : Document) : List Text := piecesAt [] 0 document

/-- Whether the written form of a document can be encoded. -/
def isEncodable (document : Document) : Bool := document.pieces.all Text.isEncodable

def written (document : Document) : Text := document.pieces.flatten

end ThreadStacks.Document
