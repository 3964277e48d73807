import ThreadStacks.Document.Basic
import ThreadStacks.Number.Shortest
import ThreadStacks.Text.Quoted

/-!
# Documents inside a line of text

A text stands for itself.  Every other value is written in one line, and the texts in it are
quoted.
-/

namespace ThreadStacks.Document

mutual

/-- The one-line form of a value, with texts quoted. -/
def inlineText : Document → Text
  | .null => "None".toText
  | .bool value => if value then "True".toText else "False".toText
  | .integer value => Text.ofInt value
  | .float value => value.text
  | .text value => Text.quoted value
  | .list items => .char '[' :: (", ".toText.intercalate (inlineItems items) ++ [.char ']'])
  | .object fields =>
      .char '\x7b' :: (", ".toText.intercalate (inlineFields fields) ++ [.char '\x7d'])

def inlineItems : List Document → List Text
  | [] => []
  | item :: items => inlineText item :: inlineItems items

def inlineFields : Fields → List Text
  | [] => []
  | (key, value) :: rest =>
      (Text.quoted key ++ ": ".toText ++ inlineText value) :: inlineFields rest

end

/-- A value inside a line: a text as it is, any other value in its one-line form. -/
def display : Document → Text
  | .text value => value
  | value => inlineText value

end ThreadStacks.Document
