import ThreadStacks.Text.LowerCase

/-!
# Predefined types

The primitive types of the managed runtime have short aliases in source code.  A name stands for
a primitive type if it is the type's own name, in any letter case, with or without the qualifier
of the system namespace.
-/

namespace ThreadStacks

/-- The types that have an alias. -/
inductive PredefinedType where
  | object | boolean | char | sbyte | byte
  | int16 | uint16 | int32 | uint32 | int64 | uint64
  | single | double | decimal | string
  deriving DecidableEq, Repr

namespace PredefinedType

def all : List PredefinedType := [
  .object, .boolean, .char, .sbyte, .byte,
  .int16, .uint16, .int32, .uint32, .int64, .uint64,
  .single, .double, .decimal, .string]

/-- The type's name in the runtime, in lower case and without its namespace. -/
def runtimeName : PredefinedType → Text
  | .object => "object".toText
  | .boolean => "boolean".toText
  | .char => "char".toText
  | .sbyte => "sbyte".toText
  | .byte => "byte".toText
  | .int16 => "int16".toText
  | .uint16 => "uint16".toText
  | .int32 => "int32".toText
  | .uint32 => "uint32".toText
  | .int64 => "int64".toText
  | .uint64 => "uint64".toText
  | .single => "single".toText
  | .double => "double".toText
  | .decimal => "decimal".toText
  | .string => "string".toText

/-- The type's name in source code. -/
def sourceName : PredefinedType → Text
  | .object => "object".toText
  | .boolean => "bool".toText
  | .char => "char".toText
  | .sbyte => "sbyte".toText
  | .byte => "byte".toText
  | .int16 => "short".toText
  | .uint16 => "ushort".toText
  | .int32 => "int".toText
  | .uint32 => "uint".toText
  | .int64 => "long".toText
  | .uint64 => "ulong".toText
  | .single => "float".toText
  | .double => "double".toText
  | .decimal => "decimal".toText
  | .string => "string".toText

/-- The type with a given lower-case runtime name. -/
def ofRuntimeName? (name : Text) : Option PredefinedType :=
  all.find? fun type => type.runtimeName == name

/-- The qualifier of the namespace that the primitive types live in. -/
def qualifier : Text := "System.".toText

/-- A type name without the qualifier, which may be written in any letter case. -/
def dropQualifier (typeName : Text) : Text :=
  if Text.lower (typeName.take qualifier.length) = Text.lower qualifier then
    typeName.drop qualifier.length
  else typeName

/-- The length of the longest qualified runtime name. -/
def maxNameLength : Nat :=
  qualifier.length + ((all.map fun type => type.runtimeName.length).max?.getD 0)

/-- The primitive type that a name stands for.  A name longer than every qualified runtime name
is refused before its letter case is looked at: lower-casing never shortens a text. -/
def ofName? (typeName : Text) : Option PredefinedType :=
  if maxNameLength < typeName.length then none
  else ofRuntimeName? (Text.lower (dropQualifier typeName))

/-- The alias of the primitive type that a name stands for. -/
def aliasOf? (typeName : Text) : Option Text := (ofName? typeName).map sourceName

end PredefinedType

end ThreadStacks
