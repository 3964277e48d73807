import ThreadStacks.Document.Basic
import ThreadStacks.Fault
import ThreadStacks.Render.Fragment

/-!
# Cells

Raw frames and the parts of exceptions are drawn as the snapshot gives them.  Where a snapshot
gives something else than a text, the line has a cell with that value instead of a fragment: its
width is the number of its parts, and only colored cells can show it.
-/

namespace ThreadStacks

/-- A fragment, or a value in the place of its text. -/
inductive Cell where
  | fragment (fragment : Fragment)
  | value (kind : FragmentKind) (value : Document)

namespace Cell

/-- The cell of a value that is shown in a kind. -/
def ofDocument (kind : FragmentKind) : Document → Cell
  | .text text => .fragment ⟨kind, text⟩
  | other => .value kind other

def valueWidth : Document → Except Fault Nat
  | .text text => .ok text.length
  | .list items => .ok items.length
  | .object fields => .ok fields.length
  | .null | .bool _ | .integer _ | .float _ => .error .notMeasurable

def width : Cell → Except Fault Nat
  | .fragment drawn => .ok drawn.text.length
  | .value _ given => valueWidth given

/-! ## Raw frames -/

/-- Whether a text takes the place of a separator: it is a piece of the separators. -/
def isSeparatorText (text : Text) : Bool := Text.includes text Token.nameSeparators

/-- Put an item that is no separator in front of cells.  It joins a list that it touches. -/
def consItem (kind : FragmentKind) (item : Document) : List Cell → List Cell
  | .value other (.list items) :: rest => .value other (.list (item :: items)) :: rest
  | cells => .value kind (.list [item]) :: cells

/-- The cells of a raw frame that is a list: separators, and the longest lists between them. -/
def ofItems (kind : FragmentKind) : List Document → Except Fault (List Cell)
  | [] => .ok []
  | .text text :: items => do
      let cells ← ofItems kind items
      pure (if isSeparatorText text then .fragment ⟨.separator, text⟩ :: cells
        else consItem kind (.text text) cells)
  | _ :: _ => .error .notIterable

/-- The cells of a raw frame that is an object, given by its keys.  All of them have to be
separators, because pieces of an object cannot be taken. -/
def ofKeys : List Text → Except Fault (List Cell)
  | [] => .ok []
  | key :: keys =>
      if isSeparatorText key then do
        let cells ← ofKeys keys
        pure (.fragment ⟨.separator, key⟩ :: cells)
      else .error .notIterable

def ofRawFrame (kind : FragmentKind) : Document → Except Fault (List Cell)
  | .text text => .ok ((Fragment.ofName kind text).map .fragment)
  | .list items => ofItems kind items
  | .object fields => ofKeys (fields.map Prod.fst)
  | .null | .bool _ | .integer _ | .float _ => .error .notIterable

end Cell

end ThreadStacks
