import ThreadStacks.Fault
import ThreadStacks.Table
import ThreadStacks.Text.LowerCase

/-!
# Field names

The names of an object's fields differ between runtimes, so a field is found by a part of its name,
in any letter case.  The first match is kept for the type of the object, and counts from then on
whatever fields the next object has.
-/

namespace ThreadStacks

/-- The field names found so far, by the type of the object and the lower-case part looked for. -/
abbrev FieldNames := Table (Text × Text) Text

/-- Work that may fail and keeps the field names it found all the same. -/
abbrev Discovery := ExceptT Fault (StateM FieldNames)

namespace FieldNames

/-- The first field name that has a part, in any letter case. -/
def matching? (fieldNames : List Text) (wanted : Text) : Option Text :=
  fieldNames.find? fun name => Text.includes (Text.lower wanted) (Text.lower name)

/-- Find the name of a field. -/
def resolve (typeKey : Text) (fieldNames : List Text) (wanted : Text) : Discovery Text := do
  let key := (typeKey, Text.lower wanted)
  let known ← get
  match Table.get? key known with
  | some name => pure name
  | none =>
      match matching? fieldNames wanted with
      | some name =>
          set (Table.put key name known)
          pure name
      | none => throw (.noMatchingField wanted typeKey fieldNames)

end FieldNames

end ThreadStacks
