import ThreadStacks.Proofs.Render.Fragment
import ThreadStacks.Proofs.Stream
import ThreadStacks.Render.Renderer

/-!
# Lines of fragments

Where only texts are drawn, drawing cannot fail, and what is drawn is a list of lines, each one a
list of fragments with borders at its ends.  How fragments are cut into lines depends on their
lengths and on the width, not on their colors.
-/

namespace ThreadStacks.Renderer

variable {renderer : Renderer} {fragments : List Fragment}

/-- The border behind a line that is filled up to a width. -/
def closingBorder (width : Int) (filled : Nat) : Fragment :=
  ⟨.border, spaces (width - filled) ++ " |".toText⟩

/-- Fragments between the borders of a line. -/
def enclosed (width : Int) (border : Text) (fragments : List Fragment) : List Fragment :=
  ⟨.border, border⟩ :: fragments ++
    [closingBorder width (border.length + (Fragment.shown fragments).length)]

/-- Cut fragments into those that still stand on a line and those of each of the next lines, given
whether a fragment of a length has to go to a new line. -/
def wrapped (wraps : Nat → Nat → Bool) :
    (filled : Nat) → List Fragment → List Fragment × List (List Fragment)
  | _, [] => ([], [])
  | filled, fragment :: rest =>
      if wraps filled fragment.text.length then
        let others := wrapped wraps (nextBorder.length + fragment.text.length) rest
        ([], (fragment :: others.1) :: others.2)
      else
        let others := wrapped wraps (filled + fragment.text.length) rest
        (fragment :: others.1, others.2)

/-- The lines behind one that goes on in them. -/
def laterLines (renderer : Renderer) (blocks : List (List Fragment)) : List (List Fragment) :=
  blocks.map (enclosed renderer.width nextBorder)

/-- The lines that fragments are drawn on. -/
def wrappedLines (renderer : Renderer) (fragments : List Fragment) : List (List Fragment) :=
  let cut := wrapped renderer.wraps firstBorder.length fragments
  enclosed renderer.width firstBorder cut.1 :: renderer.laterLines cut.2

/-- The line between two parts of the table. -/
def separatorLine (width : Int) : List Fragment :=
  [⟨.border, .char '|' :: List.replicate width.toNat (.char '-') ++ [.char '|']⟩]

/-- The line with a text in its middle. -/
def centeredLine (renderer : Renderer) (kind : FragmentKind) (text : Text) : List Fragment :=
  enclosed renderer.width firstBorder [
    ⟨.text, spaces (renderer.leftSpace text.length)⟩, ⟨kind, text⟩,
    ⟨.text, spaces (renderer.rightSpace text.length)⟩]

/-- No fragment is split, lost, repeated or moved. -/
theorem wrapped_flatten (wraps : Nat → Nat → Bool) (filled : Nat) (fragments : List Fragment) :
    (wrapped wraps filled fragments).1 ++ (wrapped wraps filled fragments).2.flatten =
      fragments := by
  induction fragments generalizing filled with
  | nil => rfl
  | cons fragment fragments ih =>
      rw [wrapped]
      split
      next => exact congrArg (fragment :: ·) (ih _)
      next => exact congrArg (fragment :: ·) (ih _)

/-! ## Drawing -/

/-- The pieces of lines as they are written: their fragments, and the ends of the lines. -/
def paintedLines (renderer : Renderer) (lines : List (List Fragment)) : List Text :=
  lines.flatMap fun line => line.map renderer.fragmentText ++ [[.char '\n']]

@[simp] theorem paintedLines_nil : renderer.paintedLines [] = [] := rfl

@[simp] theorem paintedLines_cons (line : List Fragment) (lines : List (List Fragment)) :
    renderer.paintedLines (line :: lines) =
      line.map renderer.fragmentText ++ [.char '\n'] :: renderer.paintedLines lines := by
  rw [paintedLines, List.flatMap_cons, List.append_assoc]
  rfl

theorem flatten_paintedLines_cons (line : List Fragment) (lines : List (List Fragment)) :
    (renderer.paintedLines (line :: lines)).flatten =
      line.flatMap renderer.fragmentText ++
        .char '\n' :: (renderer.paintedLines lines).flatten := by
  rw [paintedLines_cons, List.flatten_append, List.flatten_cons, ← List.flatMap_def]
  rfl

theorem writeFragment_bind {Result : Type} (fragment : Fragment) (next : Nat → Drawn Result) :
    renderer.writeFragment fragment >>= next =
      (do
        Written.tell [renderer.fragmentText fragment]
        next fragment.text.length) := by
  rw [writeFragment, bind_assoc]
  rfl

theorem writeSeparatorLine_eq :
    renderer.writeSeparatorLine =
      Written.tell (renderer.paintedLines [separatorLine renderer.width]) := by
  rw [writeSeparatorLine, writeBorder, writeFragment_bind]
  simp [writeNewLine, separatorLine]

theorem writeClosingBorder_eq (filled : Nat) :
    renderer.writeClosingBorder filled =
      Written.tell (renderer.paintedLines [[closingBorder renderer.width filled]]) := by
  rw [writeClosingBorder, writeBorder, writeFragment_bind]
  simp [writeNewLine, closingBorder]

/-- The rest of a line, and the lines that it goes on in. -/
theorem writeCells_bind_writeClosingBorder (filled : Nat) (fragments : List Fragment) :
    (renderer.writeCells filled (fragments.map .fragment) >>= renderer.writeClosingBorder) =
      let cut := wrapped renderer.wraps filled fragments
      Written.tell (renderer.paintedLines
        ((cut.1 ++ [closingBorder renderer.width (filled + (Fragment.shown cut.1).length)]) ::
          renderer.laterLines cut.2)) := by
  induction fragments generalizing filled with
  | nil => exact writeClosingBorder_eq filled
  | cons fragment fragments ih =>
      rw [List.map_cons, writeCells, wrapped]
      simp only [Cell.width, Written.ofExcept_ok, pure_bind, writeCell]
      split
      next =>
        simp only [bind_assoc, writeClosingBorder_eq, writeBorder, writeFragment_bind]
        simp only [ih, Written.tell_bind_tell]
        simp [laterLines, enclosed, Fragment.shown, Nat.add_assoc]
      next =>
        simp only [bind_assoc, writeFragment_bind, ih, Written.tell_bind_tell]
        simp [Fragment.shown, Nat.add_assoc]

theorem writeLine_eq (fragments : List Fragment) :
    renderer.writeLine fragments =
      Written.tell (renderer.paintedLines (renderer.wrappedLines fragments)) := by
  rw [writeLine, writeCellLine, writeBorder, writeFragment_bind]
  simp only [writeCells_bind_writeClosingBorder, Written.tell_bind_tell]
  simp [wrappedLines, enclosed]

theorem writeCentered_eq (kind : FragmentKind) (text : Text) :
    renderer.writeCentered kind text =
      Written.tell (renderer.paintedLines [renderer.centeredLine kind text]) := by
  rw [writeCentered, writeBorder]
  simp only [writeFragment_bind, writeClosingBorder_eq, Written.tell_bind_tell]
  simp [centeredLine, enclosed, Fragment.shown, Nat.add_assoc]

end ThreadStacks.Renderer
