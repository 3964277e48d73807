import ThreadStacks.Number.Binary64
import ThreadStacks.Table
import ThreadStacks.Text.Basic

/-!
# Documents

The values that a snapshot is made of.  The fields of an object keep the order in which they were
first written, because the first matching field name counts; a field written again takes its last
value.  Equality of documents is equality of what they stand for: numbers are compared by value
whatever their form, and the order of fields does not matter.
-/

namespace ThreadStacks

/-- A value of a snapshot document. -/
inductive Document where
  | null
  | bool (value : Bool)
  | integer (value : Int)
  | float (value : Binary64)
  | text (value : Text)
  | list (items : List Document)
  | object (fields : List (Text × Document))

namespace Document

instance : Inhabited Document := ⟨.null⟩

/-- The fields of an object, by name. -/
abbrev Fields := Table Text Document

/-- Whether a value counts as true: all do but the empty ones and the zeros. -/
def isTruthy : Document → Bool
  | .null => false
  | .bool value => value
  | .integer value => value != 0
  | .float value => !value.isZero
  | .text value => !value.isEmpty
  | .list items => !items.isEmpty
  | .object fields => !fields.isEmpty

def isNull : Document → Bool
  | .null => true
  | _ => false

/-- The integer that a number or a truth value is equal to. -/
def wholeNumber? : Document → Option Int
  | .bool value => some (if value then 1 else 0)
  | .integer value => some value
  | .float value => value.integer?
  | _ => none

/-- Whether two values without parts are equal. -/
def scalarsAgree : Document → Document → Bool
  | .null, .null => true
  | .text first, .text second => first == second
  | .float first, .float second => first.agrees second
  | first, second =>
      match first.wholeNumber?, second.wholeNumber? with
      | some first, some second => first == second
      | _, _ => false

mutual

/-- Whether two documents are equal. -/
def agrees : Document → Document → Bool
  | .list items, other =>
      match other with
      | .list others => itemsAgree items others
      | _ => false
  | .object fields, other =>
      match other with
      | .object others => fields.length == others.length && fieldsAgree fields others
      | _ => false
  | .null, other => scalarsAgree .null other
  | .bool value, other => scalarsAgree (.bool value) other
  | .integer value, other => scalarsAgree (.integer value) other
  | .float value, other => scalarsAgree (.float value) other
  | .text value, other => scalarsAgree (.text value) other

/-- Whether two lists of documents are equal item by item. -/
def itemsAgree : List Document → List Document → Bool
  | [], [] => true
  | item :: items, other :: others => agrees item other && itemsAgree items others
  | _, _ => false

/-- Whether every field is among the others with an equal value. -/
def fieldsAgree : Fields → Fields → Bool
  | [], _ => true
  | (key, value) :: rest, others =>
      (match Table.get? key others with
        | some other => agrees value other
        | none => false) && fieldsAgree rest others

end

end Document

end ThreadStacks
