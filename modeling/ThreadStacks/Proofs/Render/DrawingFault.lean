import ThreadStacks.Proofs.Document.Encoding
import ThreadStacks.Proofs.Render.DrawnText

/-!
# Faults of drawing

The parts of an exception are drawn as the snapshot gives them, and every part is measured before it
is drawn.  Numbers and truth values have no length, so drawing ends in the middle of a line where an
exception has one of them.  It ends as well in front of the first text with a half in it, because no
stream takes that.  With colors and without raw frames nothing else ends it.
-/

namespace ThreadStacks

open Written (EndsWith)

/-- The fault of drawing a value in a color: a text has to be encodable, and any other value has to
have a length. -/
def Document.drawingFault? : Document → Option Fault
  | .text shown => shown.encodingFault?
  | .list _ | .object _ => none
  | .null | .bool _ | .integer _ | .float _ => some .notMeasurable

theorem Document.drawingFault?_mem {value : Document} {fault : Fault}
    (fails : value.drawingFault? = some fault) : fault ∈ [.notMeasurable, .notEncodable] := by
  cases value with
  | list | object => contradiction
  | null | bool | integer | float =>
      cases fails
      decide
  | text shown =>
      rw [drawingFault?, Text.encodingFault?] at fails
      split at fails
      next => contradiction
      next =>
        cases fails
        decide

/-- The parts of an exception that are drawn. -/
def ExceptionObject.drawnParts (exception : ExceptionObject) : List Document :=
  exception.type :: if exception.message.isNull then [] else [exception.message]

namespace ThreadGroup

/-- What is drawn of a group without its raw frames, in order. -/
def drawnParts (group : ThreadGroup) : List Document :=
  .text group.nameText :: (group.drawnException?.elim [] ExceptionObject.drawnParts ++
    group.representative.frames.map fun frame => .text frame.drawnText)

/-- The fault of drawing a group without its raw frames. -/
def drawingFault? (group : ThreadGroup) : Option Fault :=
  group.drawnParts.findSome? Document.drawingFault?

theorem drawingFault?_mem {group : ThreadGroup} {fault : Fault}
    (fails : group.drawingFault? = some fault) : fault ∈ [.notMeasurable, .notEncodable] := by
  obtain ⟨part, -, fails⟩ := List.exists_of_findSome?_eq_some fails
  exact Document.drawingFault?_mem fails

end ThreadGroup

/-! ## Halves in what is drawn -/

theorem isTableCharacter_eq_false {code : CodePoint} (isHalf : code.isCharacter = false) :
    isTableCharacter code = false := by
  cases code with
  | char => contradiction
  | half => rfl

theorem Fragment.isEncodable_shown (fragments : List Fragment) :
    (shown fragments).isEncodable = fragments.all fun fragment => fragment.text.isEncodable := by
  rw [shown, List.flatMap_def, Text.isEncodable_flatten, List.all_map]
  rfl

theorem FragmentKind.isEncodable_of_colorCode? {kind : FragmentKind} {code : Text}
    (isCode : kind.colorCode? = some code) : code.isEncodable = true := by
  cases kind with
  | separator | text => contradiction
  | _ => cases isCode; rfl

theorem Fragment.isEncodable_inColor {code : Text} (encodable : code.isEncodable = true)
    (text : Text) (enabled : Bool) :
    (inColor text code enabled).isEncodable = text.isEncodable := by
  have cons (character : Char) (rest : Text) :
      Text.isEncodable (.char character :: rest) = rest.isEncodable := rfl
  cases enabled with
  | false => rfl
  | true =>
      rw [inColor, if_pos rfl, escape]
      simp only [List.cons_append, Text.isEncodable_append, encodable, cons, Bool.true_and]
      exact Bool.and_true _

namespace Renderer

variable {renderer : Renderer}

theorem isEncodable_fragmentText (fragment : Fragment) :
    (renderer.fragmentText fragment).isEncodable = fragment.text.isEncodable := by
  rw [fragmentText]
  split
  next code isCode =>
    exact Fragment.isEncodable_inColor (FragmentKind.isEncodable_of_colorCode? isCode) _ _
  next => rfl

theorem all_isEncodable_paintedLines (lines : List (List Fragment)) :
    (renderer.paintedLines lines).all Text.isEncodable =
      Text.isEncodable (lines.flatMap Fragment.shown) := by
  induction lines with
  | nil => rfl
  | cons line lines ih =>
      have ending : Text.isEncodable [.char '\n'] = true := rfl
      rw [paintedLines_cons, List.all_append, List.all_cons, ending, Bool.true_and, ih,
        List.flatMap_cons, Text.isEncodable_append, Fragment.isEncodable_shown, List.all_map]
      simp only [Function.comp_def, isEncodable_fragmentText]

/-- A row is encodable if and only if what it shows is. -/
theorem isEncodable_lines (row : Row) :
    Text.isEncodable ((row.lines renderer).flatMap Fragment.shown) = row.shown.isEncodable := by
  refine Text.isEncodable_congr fun code isHalf => ?_
  rw [List.mem_flatMap, exists_mem_lines_iff]
  exact Text.not_mem_of_isEncodable isHalf rfl

/-- Rows are encodable if and only if what they show is. -/
theorem all_isEncodable_paintedRows (rows : List Row) :
    (renderer.paintedRows rows).all Text.isEncodable = (shownRows rows).isEncodable := by
  have sameRow (row : Row) :
      (renderer.paintedLines (row.lines renderer)).all Text.isEncodable =
        row.shown.isEncodable := by
    rw [all_isEncodable_paintedLines, isEncodable_lines]
  rw [paintedRows, shownRows, List.all_flatMap, List.flatMap_def, Text.isEncodable_flatten,
    List.all_map]
  simp only [sameRow, Function.comp_def]

theorem endsWith_writeRow (row : Row) :
    EndsWith row.shown.encodingFault? (renderer.writeRow row) := by
  have ends := EndsWith.tell (renderer.paintedLines (row.lines renderer))
  rw [← writeRow_eq] at ends
  refine Text.encodingFault?_congr ?_ ▸ ends
  rw [Text.isEncodable_flatten, all_isEncodable_paintedLines, isEncodable_lines]

theorem endsWith_tell_paintedRows (rows : List Row) :
    EndsWith (shownRows rows).encodingFault? (Written.tell (renderer.paintedRows rows)) := by
  have ends := EndsWith.tell (renderer.paintedRows rows)
  refine Text.encodingFault?_congr ?_ ▸ ends
  rw [Text.isEncodable_flatten, all_isEncodable_paintedRows]

/-! ## Lines of cells -/

theorem endsWith_writeFragment (fragment : Fragment) :
    EndsWith fragment.text.encodingFault? (renderer.writeFragment fragment) := by
  have ends := (EndsWith.tell [renderer.fragmentText fragment]).bind
    fun _ => .pure fragment.text.length
  rw [Option.or_none, List.flatten_singleton] at ends
  exact Text.encodingFault?_congr (isEncodable_fragmentText fragment) ▸ ends

end Renderer

/-- The fault of measuring a value. -/
def Document.widthFault? (value : Document) : Option Fault :=
  (Written.ofExcept (Cell.valueWidth value) : Drawn Nat).fault?

/-- A value is measured, drawn and measured once more. -/
theorem Document.encodingFault?_display_or (value : Document) :
    value.display.encodingFault?.or value.widthFault? = value.drawingFault? := by
  have inline := Text.encodingFault?_eq_none (isEncodable_inlineText value)
  cases value with
  | text value => exact Option.or_none
  | list | object | null | bool | integer | float => exact congrArg₂ Option.or inline rfl

namespace Cell

/-- Whether a cell shows a text, or a value in a kind that has a color. -/
def isColored : Cell → Bool
  | .fragment _ => true
  | .value kind _ => kind.colorCode?.isSome

/-- The fault of drawing a cell. -/
def drawingFault? : Cell → Option Fault
  | .fragment drawn => drawn.text.encodingFault?
  | .value _ given => given.drawingFault?

/-- The fault of measuring a cell. -/
def widthFault? : Cell → Option Fault
  | .fragment _ => none
  | .value _ given => given.widthFault?

theorem widthFault?_or_drawingFault? (cell : Cell) :
    cell.widthFault?.or cell.drawingFault? = cell.drawingFault? := by
  cases cell with
  | fragment drawn => rfl
  | value kind value => cases value <;> rfl

end Cell

namespace Renderer

variable {renderer : Renderer}

theorem endsWith_width (cell : Cell) :
    EndsWith cell.widthFault? (Written.ofExcept cell.width : Drawn Nat) := by
  cases cell with
  | fragment drawn => exact .ofExcept _
  | value kind value => exact .ofExcept _

/-- A cell is drawn in its color. -/
theorem endsWith_writeCell (colors : renderer.color = true) {cell : Cell}
    (colored : cell.isColored = true) :
    EndsWith cell.drawingFault? (renderer.writeCell cell) := by
  cases cell with
  | fragment drawn => exact endsWith_writeFragment drawn
  | value kind value =>
      obtain ⟨code, isCode⟩ := Option.isSome_iff_exists.1 colored
      have sameText : Text.isEncodable [Fragment.inColor value.display code true].flatten =
          value.display.isEncodable := by
        rw [List.flatten_singleton]
        exact Fragment.isEncodable_inColor (FragmentKind.isEncodable_of_colorCode? isCode) _ _
      have drawn := EndsWith.tell [Fragment.inColor value.display code true]
      rw [Text.encodingFault?_congr sameText] at drawn
      rw [Cell.drawingFault?, ← value.encodingFault?_display_or, writeCell, writeValue, isCode,
        colors]
      exact drawn.bind fun _ => .ofExcept _

theorem endsWith_writeClosingBorder (filled : Nat) :
    EndsWith none (renderer.writeClosingBorder filled) := by
  have encodable :
      Text.isEncodable (Fragment.shown [closingBorder renderer.width filled]) = true := by
    rw [Fragment.isEncodable_shown, List.all_cons, closingBorder, Text.isEncodable_append, spaces,
      Text.isEncodable_replicate]
    rfl
  have ends := EndsWith.tell (renderer.paintedLines [[closingBorder renderer.width filled]])
  rw [← writeClosingBorder_eq, Text.encodingFault?_eq_none] at ends
  · exact ends
  · rw [Text.isEncodable_flatten, all_isEncodable_paintedLines, List.flatMap_singleton, encodable]

theorem endsWith_writeCells (colors : renderer.color = true) {cells : List Cell}
    (colored : ∀ cell ∈ cells, cell.isColored = true) (filled : Nat) :
    EndsWith (cells.findSome? Cell.drawingFault?) (renderer.writeCells filled cells) := by
  induction cells generalizing filled with
  | nil => exact .pure filled
  | cons cell cells ih =>
      have drawn := endsWith_writeCell colors (colored cell List.mem_cons_self)
      have later := ih fun cell member => colored cell (List.mem_cons_of_mem _ member)
      -- A cell is measured once to see whether it fits, and again when it has been drawn.
      rw [EndsWith.findSome?_cons_eq_or, ← cell.widthFault?_or_drawingFault?, Option.or_assoc,
        writeCells]
      refine (endsWith_width cell).bind fun width => ?_
      split
      next =>
        exact (endsWith_writeClosingBorder filled).bind fun _ =>
          (endsWith_writeFragment ⟨.border, nextBorder⟩).bind fun start =>
            drawn.bind fun written => later (start + written)
      next => exact drawn.bind fun written => later (filled + written)

theorem endsWith_writeCellLine (colors : renderer.color = true) {cells : List Cell}
    (colored : ∀ cell ∈ cells, cell.isColored = true) :
    EndsWith (cells.findSome? Cell.drawingFault?) (renderer.writeCellLine cells) := by
  rw [← Option.or_none (o := cells.findSome? _), writeCellLine]
  exact (endsWith_writeFragment ⟨.border, firstBorder⟩).bind fun start =>
    (endsWith_writeCells colors colored start).bind endsWith_writeClosingBorder

/-! ## Groups -/

theorem isColored_ofDocument (kind : FragmentKind) (value : Document)
    (colored : kind.colorCode?.isSome = true) : (Cell.ofDocument kind value).isColored = true := by
  cases value with
  | text => rfl
  | _ => exact colored

theorem drawingFault?_ofDocument (kind : FragmentKind) (value : Document) :
    (Cell.ofDocument kind value).drawingFault? = value.drawingFault? := by
  cases value <;> rfl

theorem isColored_of_mem_cells {exception : ExceptionObject} :
    ∀ cell ∈ exception.cells, cell.isColored = true := by
  refine List.forall_mem_cons.2 ⟨isColored_ofDocument .exceptionType exception.type rfl, ?_⟩
  split
  next => exact nofun
  next =>
    exact List.forall_mem_cons.2 ⟨rfl, List.forall_mem_singleton.2
      (isColored_ofDocument .exceptionMessage exception.message rfl)⟩

theorem findSome?_drawingFault?_cells (exception : ExceptionObject) :
    exception.cells.findSome? Cell.drawingFault? =
      exception.drawnParts.findSome? Document.drawingFault? := by
  rw [ExceptionObject.cells, ExceptionObject.drawnParts, EndsWith.findSome?_cons_eq_or,
    EndsWith.findSome?_cons_eq_or, drawingFault?_ofDocument]
  split
  next => rfl
  next =>
    rw [EndsWith.findSome?_cons_eq_or, EndsWith.findSome?_cons_eq_or, EndsWith.findSome?_cons_eq_or,
      drawingFault?_ofDocument]
    rfl

theorem isColored_of_mem_extraCells {group : ThreadGroup} :
    ∀ cell ∈ extraCells group, cell.isColored = true := by
  intro cell member
  rcases List.mem_append.1 member with inException | inLocks
  · rw [exceptionCells_eq] at inException
    cases drawn : group.drawnException? with
    | none =>
        rw [drawn] at inException
        contradiction
    | some exception =>
        rw [drawn] at inException
        exact isColored_of_mem_cells cell inException
  · obtain ⟨drawn, -, rfl⟩ := List.mem_map.1 inLocks
    rfl

theorem findSome?_drawingFault?_map_fragment {fragments : List Fragment}
    (encodable : (Fragment.shown fragments).isEncodable = true) :
    (fragments.map Cell.fragment).findSome? Cell.drawingFault? = none := by
  rw [Fragment.isEncodable_shown, List.all_eq_true] at encodable
  rw [List.findSome?_eq_none_iff]
  intro cell member
  obtain ⟨fragment, listed, rfl⟩ := List.mem_map.1 member
  exact Text.encodingFault?_eq_none (encodable fragment listed)

theorem findSome?_drawingFault?_extraCells (group : ThreadGroup) :
    (extraCells group).findSome? Cell.drawingFault? =
      (group.drawnException?.elim [] ExceptionObject.drawnParts).findSome?
        Document.drawingFault? := by
  have locks : (Fragment.shown (lockFragments group.representative.lockCount)).isEncodable = true :=
    Text.isEncodable_of_not_mem fun code isHalf =>
      not_mem_shown_lockFragments (isTableCharacter_eq_false isHalf) _
  rw [extraCells, List.findSome?_append, findSome?_drawingFault?_map_fragment, Option.or_none,
    exceptionCells_eq]
  · cases group.drawnException? with
    | none => rfl
    | some exception => exact findSome?_drawingFault?_cells exception
  · rw [Fragment.shown_append, Text.isEncodable_append, locks, Bool.and_true]
    split
    next => rfl
    next => rfl

theorem endsWith_writeExtraInformation (colors : renderer.color = true) (group : ThreadGroup) :
    EndsWith ((group.drawnException?.elim [] ExceptionObject.drawnParts).findSome?
        Document.drawingFault?) (renderer.writeExtraInformation group) := by
  rw [← findSome?_drawingFault?_extraCells, writeExtraInformation]
  split
  next noCells =>
    rw [List.isEmpty_iff.1 noCells]
    exact .pure ()
  next =>
    rw [← Option.or_none (o := List.findSome? _ _)]
    exact (endsWith_writeCellLine colors isColored_of_mem_extraCells).bind fun _ =>
      endsWith_writeRow .separator

theorem encodingFault?_shown_frameRow (frame : StackFrame) :
    (frameRow frame).shown.encodingFault? = frame.drawnText.encodingFault? :=
  Text.encodingFault?_congr (Text.isEncodable_congr fun _ isHalf =>
    mem_shown_ofFrame_iff (isTableCharacter_eq_false isHalf))

theorem encodingFault?_header (group : ThreadGroup) :
    group.header.encodingFault? = group.nameText.encodingFault? :=
  Text.encodingFault?_congr (Text.isEncodable_congr fun _ isHalf =>
    mem_header_iff (isTableCharacter_eq_false isHalf))

theorem endsWith_writeGroup (colors : renderer.color = true)
    (noRawFrames : renderer.rawFrames = false) (group : ThreadGroup) :
    EndsWith group.drawingFault? (renderer.writeGroup group) := by
  have frames : EndsWith (group.representative.frames.findSome? fun frame =>
      frame.drawnText.encodingFault?) (Written.each (fun frame =>
        renderer.writeLine (Fragment.ofFrame frame)) group.representative.frames) :=
    .each fun frame => encodingFault?_shown_frameRow frame ▸ endsWith_writeRow (frameRow frame)
  have header := @endsWith_writeRow renderer (.centered .header group.header)
  rw [Row.shown_centered, encodingFault?_header] at header
  rw [ThreadGroup.drawingFault?, ThreadGroup.drawnParts, EndsWith.findSome?_cons_eq_or,
    List.findSome?_append, List.findSome?_map, writeGroup, noRawFrames]
  rw [← Option.or_none (o := List.findSome? _ group.representative.frames)]
  exact header.bind fun _ => (endsWith_writeRow .separator).bind fun _ =>
    (endsWith_writeExtraInformation colors group).bind fun _ =>
      frames.bind fun _ => endsWith_writeRow .separator

/-! ## The table -/

theorem isEncodable_shownRows_overviewRows (threadCount groupCount : Nat) :
    (shownRows (overviewRows threadCount groupCount)).isEncodable = true :=
  Text.isEncodable_of_not_mem fun _ isHalf =>
    not_mem_shownRows_overviewRows (isTableCharacter_eq_false isHalf) _ _

/-- With colors and without raw frames, drawing a table ends with the first fault of its groups. -/
theorem endsWith_writeTable (colors : renderer.color = true)
    (noRawFrames : renderer.rawFrames = false) (threads : ParallelThreads) (limit : Option Int) :
    EndsWith ((top limit threads.groups).findSome? ThreadGroup.drawingFault?)
      (renderer.writeTable threads limit) := by
  have overview : EndsWith none (renderer.writeOverview threads) := by
    rw [writeOverview_eq,
      ← Text.encodingFault?_eq_none (isEncodable_shownRows_overviewRows _ _)]
    exact endsWith_tell_paintedRows _
  exact overview.bind fun _ => .each fun group => endsWith_writeGroup colors noRawFrames group

end Renderer

end ThreadStacks
