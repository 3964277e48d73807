import ThreadStacks.Document.Basic
import ThreadStacks.Fault

/-!
# Parts of documents

A document is gone through as a list of parts: the items of a list, the characters of a text or
the keys of an object.  Fields are asked of objects only.
-/

namespace ThreadStacks.Document

def fields : Document → Except Fault Fields
  | .object fields => .ok fields
  | _ => .error .notAnObject

/-- The parts of a value that is gone through. -/
def parts : Document → Except Fault (List Document)
  | .list items => .ok items
  | .text value => .ok (value.map fun character => .text [character])
  | .object fields => .ok (fields.map fun field => .text field.1)
  | .null | .bool _ | .integer _ | .float _ => .error .notIterable

/-- The value of a field; null if it is missing. -/
def fieldOrNull (key : Text) (fields : Fields) : Document :=
  (Table.get? key fields).getD .null

/-- The value of a field that has to be present. -/
def requiredField (key : Text) (fields : Fields) : Except Fault Document :=
  match Table.get? key fields with
  | some value => .ok value
  | none => .error (.missingKey key)

end ThreadStacks.Document
