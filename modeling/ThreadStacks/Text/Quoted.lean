import ThreadStacks.Text.Printable

/-!
# Quoted text

A text inside a message or a list is written between quotes, on one line.  The quote is single
unless the text holds single quotes and no double ones; the quote, the backslash and every
character without a visible form are escaped.
-/

namespace ThreadStacks.Text

/-- The hexadecimal digits of a number, in lower case, filled up with zeros to a width. -/
def hexadecimal (width number : Nat) : Text :=
  let digits := Nat.toDigits 16 number
  List.replicate (width - digits.length) (.char '0') ++ digits.map .char

/-- The quote that a text is written with. -/
def quoteFor (text : Text) : CodePoint :=
  if text.contains (.char '\'') && !text.contains (.char '"') then .char '"' else .char '\''

/-- One character of a quoted text. -/
def quotedCharacter (quote character : CodePoint) : Text :=
  if character = quote || character = .char '\\' then [.char '\\', character]
  else if character = .char '\t' then "\\t".toText
  else if character = .char '\n' then "\\n".toText
  else if character = .char '\r' then "\\r".toText
  else if isPrintable character then [character]
  else if character.toNat < 0x100 then .char '\\' :: .char 'x' :: hexadecimal 2 character.toNat
  else if character.toNat < 0x10000 then .char '\\' :: .char 'u' :: hexadecimal 4 character.toNat
  else .char '\\' :: .char 'U' :: hexadecimal 8 character.toNat

def quoted (text : Text) : Text :=
  let quote := quoteFor text
  quote :: (text.flatMap (quotedCharacter quote) ++ [quote])

end ThreadStacks.Text
