import ThreadStacks.Token.Basic

/-!
# Taking tokens one at a time

A cursor stands in a name or an argument list and finds the next token when it is asked for one.
It keeps what is still to be cut, so cursors over the same text do not know of each other, and a
cursor that has reached the end stays there.  `Cursor.promised_step` says that taking one token at a
time gives the token list of the text.
-/

namespace ThreadStacks

/-- What kind of text a cursor cuts. -/
inductive TokenSource where
  | name
  | arguments
  deriving DecidableEq, Repr

def TokenSource.tokens (source : TokenSource) (separators text : Text) : List Token :=
  match source with
  | .name => Token.ofName separators text
  | .arguments => Token.ofArguments separators text

/-- A place between two tokens. -/
inductive Cursor where
  /-- In front of an argument that has not been looked at, with the arguments after it. -/
  | atArgument (argument : Text) (later : List Text)
  /-- Between a modifier and the space behind it, with the type and the arguments after it. -/
  | afterModifier (type : Text) (later : List Text)
  /-- In a name or a type, with what is left of it and the arguments after it. -/
  | inName (left : Text) (later : List Text)
  /-- At the end. -/
  | atEnd
  deriving DecidableEq, Repr

namespace Cursor

/-- The cursor in front of a text. -/
def start (source : TokenSource) (text : Text) : Cursor :=
  match source with
  | .name => .inName text []
  | .arguments =>
      if text.isEmpty then .atEnd
      else .atArgument (Text.piecesAt (.char ',') text).1 (Text.piecesAt (.char ',') text).2

/-- Take the next token of a name, or go on to the next argument. -/
def stepInName (separators : Text) (later : List Text) : Text → Option (Token × Cursor)
  | [] =>
      match later with
      | [] => none
      | argument :: later => some (Token.argumentSeparator, .atArgument argument later)
  | character :: rest =>
      if separators.contains character then
        some (Token.separator character, .inName rest later)
      else
        let ordinary := fun other => !separators.contains other
        some (⟨.word, character :: rest.takeWhile ordinary⟩,
          .inName (rest.dropWhile ordinary) later)

def step (separators : Text) : Cursor → Option (Token × Cursor)
  | .atArgument argument later =>
      match Token.afterModifier? argument.trimSpaces with
      | some type => some (⟨.modifier, Token.modifierWord⟩, .afterModifier type later)
      | none => stepInName separators later argument.trimSpaces
  | .afterModifier type later => some (Token.separator (.char ' '), .inName type later)
  | .inName left later => stepInName separators later left
  | .atEnd => none

/-- Take the next token and stand behind it; at the end the cursor stays. -/
def take (separators : Text) (cursor : Cursor) : Option Token × Cursor :=
  match step separators cursor with
  | some (token, next) => (some token, next)
  | none => (none, .atEnd)

/-- The tokens that are still to come. -/
def rest (separators : Text) : Cursor → List Token
  | .atArgument argument later =>
      Token.ofArgument separators argument ++ Token.ofLaterArguments separators later
  | .afterModifier type later =>
      Token.separator (.char ' ') :: Token.ofName separators type ++
        Token.ofLaterArguments separators later
  | .inName left later =>
      Token.ofName separators left ++ Token.ofLaterArguments separators later
  | .atEnd => []

/-- A cursor in front of a text has all of its tokens to come. -/
theorem rest_start (source : TokenSource) (separators text : Text) :
    rest separators (start source text) = source.tokens separators text := by
  cases source with
  | name => simp [start, rest, TokenSource.tokens, Token.ofLaterArguments]
  | arguments =>
      simp only [start, TokenSource.tokens, Token.ofArguments]
      split
      next => rfl
      next => rfl

/-- The longest piece without separators that a name starts with is its first token. -/
theorem ofName_cons_ordinary (separators : Text) {character : CodePoint}
    (ordinary : separators.contains character = false) (left : Text) :
    Token.ofName separators (character :: left) =
      ⟨.word, character :: left.takeWhile fun other => !separators.contains other⟩ ::
        Token.ofName separators (left.dropWhile fun other => !separators.contains other) := by
  rw [Token.ofName, if_neg (by rw [ordinary]; decide)]
  induction left generalizing character with
  | nil => rfl
  | cons second left ih =>
      cases separating : separators.contains second with
      | true =>
          rw [List.takeWhile_cons_of_neg (by rw [separating]; decide),
            List.dropWhile_cons_of_neg (by rw [separating]; decide),
            Token.ofName, if_pos separating]
          rfl
      | false =>
          rw [List.takeWhile_cons_of_pos (by rw [separating]; decide),
            List.dropWhile_cons_of_pos (by rw [separating]; decide),
            Token.ofName, if_neg (by rw [separating]; decide), ih separating]
          rfl

/-- The tokens that a step promises: the one it gives, and those still to come behind it. -/
def promised (separators : Text) : Option (Token × Cursor) → List Token
  | none => []
  | some (token, next) => token :: rest separators next

/-- In a name, a step gives the first of the tokens to come. -/
theorem promised_stepInName (separators : Text) (later : List Text) (left : Text) :
    promised separators (stepInName separators later left) =
      Token.ofName separators left ++ Token.ofLaterArguments separators later := by
  cases left with
  | nil =>
      cases later with
      | nil => rfl
      | cons argument later =>
          simp [stepInName, promised, rest, Token.ofLaterArguments, Token.ofName]
  | cons character left =>
      cases separating : separators.contains character with
      | true =>
          rw [stepInName, if_pos separating, Token.ofName, if_pos separating]
          rfl
      | false =>
          rw [ofName_cons_ordinary separators separating, stepInName,
            if_neg (by rw [separating]; decide)]
          rfl

/-- A step gives the first of the tokens to come, and leaves the others. -/
theorem promised_step (separators : Text) (cursor : Cursor) :
    promised separators (step separators cursor) = rest separators cursor := by
  cases cursor with
  | atArgument argument later =>
      simp only [step, rest, Token.ofArgument]
      cases Token.afterModifier? argument.trimSpaces with
      | none => exact promised_stepInName separators later argument.trimSpaces
      | some type => simp [promised, rest]
  | afterModifier type later => simp [step, promised, rest]
  | inName left later => exact promised_stepInName separators later left
  | atEnd => rfl

end Cursor

end ThreadStacks
