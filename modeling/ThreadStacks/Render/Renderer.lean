import ThreadStacks.Document.Display
import ThreadStacks.Render.Cell
import ThreadStacks.Stream

/-!
# Lines of the table

The table stands between vertical borders.  Every line is drawn from cells; a line that gets too
long goes on in a new one, at a cell boundary, behind a wider border.  Only a cell that is too wide
for any line is drawn beyond the right border.
-/

namespace ThreadStacks

/-- How a table is drawn.  The width is that of the space between the borders. -/
structure Renderer where
  color : Bool
  rawFrames : Bool
  width : Int

namespace Renderer

def defaultWidth : Int := 100

/-- The least width that does not fit a machine word. -/
def wordBound : Int := 0x8000000000000000

/-- The least width for which no line can be held.  No rule of the program sets it but the memory
of the machine: a line of this width takes eight gigabytes. -/
def memoryBound : Int := 0x200000000

/-- Choose how to draw a table.  Every width that a line can be held for is allowed. -/
def create (color rawFrames : Bool) (width : Int) : Except Fault Renderer :=
  if width < -wordBound || wordBound ≤ width then .error .widthOutOfRange
  else if memoryBound ≤ width then .error .widthTooLarge
  else .ok ⟨color, rawFrames, width⟩

/-! ## Fragments and lines -/

/-- The text of a fragment as it is written. -/
def fragmentText (renderer : Renderer) (fragment : Fragment) : Text :=
  match fragment.kind.colorCode? with
  | some code => Fragment.inColor fragment.text code renderer.color
  | none => fragment.text

/-- Write a fragment; the answer is its width. -/
def writeFragment (renderer : Renderer) (fragment : Fragment) : Drawn Nat := do
  Written.tell [renderer.fragmentText fragment]
  pure fragment.text.length

/-- Write a value in the place of a fragment's text, which only a color makes possible; the answer
is its width. -/
def writeValue (renderer : Renderer) (kind : FragmentKind) (value : Document) : Drawn Nat := do
  match kind.colorCode?, renderer.color with
  | some code, true => Written.tell [Fragment.inColor value.display code true]
  | _, _ => Written.fail .notWritable
  Written.ofExcept (Cell.valueWidth value)

/-- Write a cell; the answer is its width. -/
def writeCell (renderer : Renderer) : Cell → Drawn Nat
  | .fragment fragment => renderer.writeFragment fragment
  | .value kind value => renderer.writeValue kind value

def writeNewLine : Drawn Unit := Written.tell [[.char '\n']]

def writeBorder (renderer : Renderer) (text : Text) : Drawn Nat :=
  renderer.writeFragment ⟨.border, text⟩

/-- A number of spaces; none if it is negative. -/
def spaces (count : Int) : Text := List.replicate count.toNat (.char ' ')

/-- Write the line between two parts of the table. -/
def writeSeparatorLine (renderer : Renderer) : Drawn Unit := do
  let _ ← renderer.writeBorder
    (.char '|' :: List.replicate renderer.width.toNat (.char '-') ++ [.char '|'])
  writeNewLine

/-- Fill a line up to the width and write its right border. -/
def writeClosingBorder (renderer : Renderer) (width : Nat) : Drawn Unit := do
  let _ ← renderer.writeBorder (spaces (renderer.width - width) ++ " |".toText)
  writeNewLine

/-- The border in front of a line. -/
def firstBorder : Text := "| ".toText

/-- The border in front of a line that goes on from the one before. -/
def nextBorder : Text := "|    ".toText

/-- The width of the border in front of a line, and of the one behind it. -/
def borderWidth : Nat := 2

/-- Whether a cell has to go to a new line.  The first cell of a line never does. -/
def wraps (renderer : Renderer) (width cellWidth : Nat) : Bool :=
  renderer.width < (width + cellWidth + borderWidth : Nat) && width != borderWidth

/-- Write cells on a line that has a width already; the answer is the width in the end. -/
def writeCells (renderer : Renderer) : (width : Nat) → List Cell → Drawn Nat
  | width, [] => pure width
  | width, cell :: rest => do
      let cellWidth ← Written.ofExcept cell.width
      if renderer.wraps width cellWidth then
        renderer.writeClosingBorder width
        let start ← renderer.writeBorder nextBorder
        let written ← renderer.writeCell cell
        renderer.writeCells (start + written) rest
      else
        let written ← renderer.writeCell cell
        renderer.writeCells (width + written) rest

/-- Write a line of cells, and as many more as they need. -/
def writeCellLine (renderer : Renderer) (cells : List Cell) : Drawn Unit := do
  let start ← renderer.writeBorder firstBorder
  let width ← renderer.writeCells start cells
  renderer.writeClosingBorder width

/-- Write a line of fragments, and as many more as they need. -/
def writeLine (renderer : Renderer) (fragments : List Fragment) : Drawn Unit :=
  renderer.writeCellLine (fragments.map .fragment)

/-- The spaces in front of a centered text of a length. -/
def leftSpace (renderer : Renderer) (length : Nat) : Nat :=
  ((renderer.width - length - borderWidth + 1) / 2).toNat

/-- The spaces behind a centered text of a length. -/
def rightSpace (renderer : Renderer) (length : Nat) : Nat :=
  (renderer.width - length - renderer.leftSpace length - borderWidth).toNat

/-- Write a text in the middle of a line. -/
def writeCentered (renderer : Renderer) (kind : FragmentKind) (text : Text) : Drawn Unit := do
  let start ← renderer.writeBorder firstBorder
  let left ← renderer.writeFragment ⟨.text, spaces (renderer.leftSpace text.length)⟩
  let middle ← renderer.writeFragment ⟨kind, text⟩
  let right ← renderer.writeFragment ⟨.text, spaces (renderer.rightSpace text.length)⟩
  renderer.writeClosingBorder (start + left + middle + right)

end Renderer

end ThreadStacks
