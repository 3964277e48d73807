import ThreadStacks.Text.Basic

/-!
# Tokens

Readable names and argument lists are cut into tokens before they are drawn: separators of one
character, and the longest pieces between them.  In an argument list a modifier in front of a type
is a token of its own, and commas with the spaces around them become one separator.
-/

namespace ThreadStacks

inductive TokenKind where
  | word
  | separator
  | modifier
  deriving DecidableEq, Repr

/-- A piece of a readable name or argument list. -/
structure Token where
  kind : TokenKind
  text : Text
  deriving DecidableEq, Repr

namespace Token

def nameSeparators : Text := ".<>,".toText

/-- The word that modifies the type after it. -/
def modifierWord : Text := "ref".toText

/-- The token of one separator. -/
def separator (character : CodePoint) : Token := ⟨.separator, [character]⟩

/-- The separator between two arguments. -/
def argumentSeparator : Token := ⟨.separator, ", ".toText⟩

/-- Put a character that is no separator in front of tokens.  It joins a word that it touches. -/
def consCharacter (character : CodePoint) : List Token → List Token
  | ⟨.word, text⟩ :: rest => ⟨.word, character :: text⟩ :: rest
  | tokens => ⟨.word, [character]⟩ :: tokens

def ofName (separators : Text) : Text → List Token
  | [] => []
  | character :: rest =>
      if separators.contains character then separator character :: ofName separators rest
      else consCharacter character (ofName separators rest)

/-- The text behind a modifier, if an argument has one. -/
def afterModifier? (argument : Text) : Option Text :=
  if (modifierWord ++ [CodePoint.char ' ']).isPrefixOf argument then
    some (Text.trimSpaces (argument.drop (modifierWord.length + 1)))
  else none

def ofArgument (separators argument : Text) : List Token :=
  match afterModifier? argument.trimSpaces with
  | some type => ⟨.modifier, modifierWord⟩ :: separator (.char ' ') :: ofName separators type
  | none => ofName separators argument.trimSpaces

/-- The tokens of the arguments that follow the first one. -/
def ofLaterArguments (separators : Text) (arguments : List Text) : List Token :=
  arguments.flatMap fun argument => argumentSeparator :: ofArgument separators argument

/-- The tokens of an argument list.  An empty list has none. -/
def ofArguments (separators arguments : Text) : List Token :=
  if arguments.isEmpty then []
  else
    let pieces := Text.piecesAt (.char ',') arguments
    ofArgument separators pieces.1 ++ ofLaterArguments separators pieces.2

end Token

end ThreadStacks
