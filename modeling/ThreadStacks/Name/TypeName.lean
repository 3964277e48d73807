import ThreadStacks.Name.Predefined
import ThreadStacks.Name.Generated

/-!
# Type names

The raw name of a type joins the nested types by plus signs, ends the name of a generic type with
its number of parameters, and may pass through classes that the compiler made to hold captured
variables.  The readable form is a dotted path without these classes and numbers, or the alias of
a primitive type.
-/

namespace ThreadStacks.Name

/-- The mark between the name of a generic type and its number of parameters. -/
def arityMark : CodePoint := .char '\x60'

def startsWithDigit (text : Text) : Bool := text.head?.any Text.isDecimalDigit

/-- Drop every arity: the mark with all the digits that follow it.  A mark without a digit stays.
`inArity` tells whether this place lies inside an arity. -/
def dropArities : (inArity : Bool) → Text → Text
  | _, [] => []
  | inArity, character :: rest =>
      if inArity && Text.isDecimalDigit character then dropArities true rest
      else if character = arityMark && startsWithDigit rest then dropArities true rest
      else character :: dropArities false rest

/-- What the section of a class for captured variables starts with. -/
def closureMark : Text := "<>c".toText

/-- The readable form of one section of a type name.  A class for captured variables has none of
its own: it is left out, or what follows its first dot and angle bracket stands for it. -/
def displaySection? (nameSection : Text) : Option Text :=
  if closureMark.isPrefixOf nameSection then
    (Text.afterFirst? ".<".toText nameSection).map displayGenerated
  else some (displayGenerated nameSection)

/-- The readable path of a type name, before primitive types are looked for in it. -/
def displayPath (typeName : Text) : Text :=
  let sections := Text.splitAt (.char '+') (dropArities false typeName)
  [.char '.'].intercalate (sections.filterMap displaySection?)

/-- The readable form of a type name.  A primitive type may only show once the classes for
captured variables are gone, so the path is looked up again. -/
def displayTypeName (typeName : Text) : Text :=
  match PredefinedType.aliasOf? typeName with
  | some found => found
  | none =>
      let path := displayPath typeName
      (PredefinedType.aliasOf? path).getD path

end ThreadStacks.Name
