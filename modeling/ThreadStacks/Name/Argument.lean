import ThreadStacks.Text.Blank
import ThreadStacks.Name.TypeName

/-!
# Argument lists

A raw argument is a type, with a mark beside it if it is passed by reference.  The readable list
puts a modifier in front of such an argument.
-/

namespace ThreadStacks.Name

/-- The word that marks an argument passed by reference. -/
def byReferenceMark : Text := "ByRef".toText

/-- The modifier in front of an argument passed by reference. -/
def byReferenceModifier : Text := "ref".toText

/-- The readable form of an argument given by its words: the first word that is not the mark
names the type, and the mark counts wherever it stands. -/
def displayArgumentWords (words : List Text) : Text :=
  let typeName := ((words.find? (· != byReferenceMark)).map displayTypeName).getD []
  if words.contains byReferenceMark then byReferenceModifier ++ .char ' ' :: typeName else typeName

def displayArgument (argument : Text) : Text := displayArgumentWords (Text.words argument)

def displayArguments (arguments : Text) : Text :=
  if arguments.all Text.isBlank then []
  else ", ".toText.intercalate ((Text.splitAt (.char ',') arguments).map displayArgument)

end ThreadStacks.Name
