import ThreadStacks.Proofs.Group.Export
import ThreadStacks.Proofs.Group.StackClass
import ThreadStacks.Proofs.Render.Line
import ThreadStacks.Render.View

/-!
# Rows of the table

A table is a sequence of rows: lines between its parts, texts in the middle of a line, and fragments
that take as many lines as they need.  Drawing the rows one after the other draws the table, as long
as what a snapshot gives to be drawn as it is, raw frames and the parts of exceptions, is text.
-/

namespace ThreadStacks

/-- The fragment in a cell. -/
def Cell.fragment? : Cell → Option Fragment
  | .fragment drawn => some drawn
  | .value _ _ => none

/-- The cells of an exception: its type and, if there is one, its message. -/
def ExceptionObject.cells (exception : ExceptionObject) : List Cell :=
  Cell.ofDocument .exceptionType exception.type ::
    if exception.message.isNull then []
    else [.fragment ⟨.separator, ": ".toText⟩,
      Cell.ofDocument .exceptionMessage exception.message]

/-- The exception that is drawn of a group: that of its one thread. -/
def ThreadGroup.drawnException? (group : ThreadGroup) : Option ExceptionObject :=
  match group.kind with
  | .single => group.representative.exception
  | .grouped => none

/-- Whether the raw frames and the exception of a thread are texts. -/
structure Thread.IsTextual (thread : Thread) : Prop where
  rawFrames : ∀ raw ∈ thread.rawFrames, ∃ text, raw = .text text
  exception : thread.hasTextException = true

/-- Whether what is drawn of groups is text.  Of a group, only the first member is drawn. -/
def ParallelThreads.IsTextual (threads : ParallelThreads) : Prop :=
  ∀ group ∈ threads.groups, group.representative.IsTextual

/-- A part of the table. -/
inductive Row where
  | separator
  | centered (kind : FragmentKind) (text : Text)
  | line (fragments : List Fragment)

namespace Row

/-- The fragments that a row is there for. -/
def fragments : Row → List Fragment
  | .separator => []
  | .centered kind text => [⟨kind, text⟩]
  | .line fragments => fragments

/-- The lines that a row takes. -/
def lines (renderer : Renderer) : Row → List (List Fragment)
  | .separator => [Renderer.separatorLine renderer.width]
  | .centered kind text => [renderer.centeredLine kind text]
  | .line fragments => renderer.wrappedLines fragments

end Row

namespace Renderer

variable {renderer : Renderer} {group : ThreadGroup} {threads : ParallelThreads}

/-! ## Drawing rows -/

/-- Write a row. -/
def writeRow (renderer : Renderer) : Row → Drawn Unit
  | .separator => renderer.writeSeparatorLine
  | .centered kind text => renderer.writeCentered kind text
  | .line fragments => renderer.writeLine fragments

/-- The pieces of rows as they are written. -/
def paintedRows (renderer : Renderer) (rows : List Row) : List Text :=
  rows.flatMap fun row => renderer.paintedLines (row.lines renderer)

@[simp] theorem paintedRows_append (front back : List Row) :
    renderer.paintedRows (front ++ back) =
      renderer.paintedRows front ++ renderer.paintedRows back :=
  List.flatMap_append

theorem paintedRows_flatMap {Item : Type} (rows : Item → List Row) (items : List Item) :
    renderer.paintedRows (items.flatMap rows) =
      items.flatMap fun item => renderer.paintedRows (rows item) :=
  List.flatMap_assoc

theorem flatten_paintedRows_flatMap {Item : Type} (rows : Item → List Row) (items : List Item) :
    (renderer.paintedRows (items.flatMap rows)).flatten =
      items.flatMap fun item => (renderer.paintedRows (rows item)).flatten := by
  rw [paintedRows_flatMap, ← List.flatMap_id, List.flatMap_assoc]
  simp only [List.flatMap_id]

theorem paintedRows_eq_paintedLines (rows : List Row) :
    renderer.paintedRows rows = renderer.paintedLines (rows.flatMap (Row.lines renderer)) :=
  List.flatMap_assoc.symm

theorem writeRow_eq (row : Row) :
    renderer.writeRow row = Written.tell (renderer.paintedLines (row.lines renderer)) := by
  cases row with
  | separator => exact writeSeparatorLine_eq
  | centered kind text => exact writeCentered_eq kind text
  | line fragments => exact writeLine_eq fragments

theorem each_writeRow (rows : List Row) :
    Written.each renderer.writeRow rows = Written.tell (renderer.paintedRows rows) :=
  Written.each_tell fun row _ => writeRow_eq row

/-! ## The rows of a group -/

/-- The fragments that tell of a group beside its frames. -/
def extraFragments (group : ThreadGroup) : List Fragment :=
  (extraCells group).filterMap Cell.fragment?

/-- The rows that tell of a group beside its frames. -/
def extraRows (group : ThreadGroup) : List Row :=
  if (extraFragments group).isEmpty then [] else [.line (extraFragments group), .separator]

/-- The raw frames of a group that are texts. -/
def rawTexts (group : ThreadGroup) : List Text :=
  group.representative.rawFrames.filterMap Document.text?

/-- The row of a raw frame. -/
def rawRow (raw : Text) : Row := .line (Fragment.ofName .typeName raw)

/-- The rows of the raw frames of a group, if they are drawn. -/
def rawRows (rawFrames : Bool) (group : ThreadGroup) : List Row :=
  if rawFrames then
    .separator :: .line [⟨.text, "Raw stack frames:".toText⟩] :: (rawTexts group).map rawRow
  else []

/-- The row of a frame. -/
def frameRow (frame : StackFrame) : Row := .line (Fragment.ofFrame frame)

/-- The rows of a group. -/
def groupRows (rawFrames : Bool) (group : ThreadGroup) : List Row :=
  .centered .header group.header :: .separator :: extraRows group ++
    group.representative.frames.map frameRow ++ rawRows rawFrames group ++ [.separator]

theorem map_text_rawTexts (textual : group.representative.IsTextual) :
    (rawTexts group).map .text = group.representative.rawFrames := by
  have allTexts := textual.rawFrames
  rw [rawTexts]
  generalize group.representative.rawFrames = rawFrames at allTexts
  induction rawFrames with
  | nil => rfl
  | cons raw rawFrames ih =>
      obtain ⟨text, rfl⟩ := allTexts raw List.mem_cons_self
      exact congrArg (Document.text text :: ·)
        (ih fun raw member => allTexts raw (List.mem_cons_of_mem _ member))

theorem map_fragment_filterMap (fragments : List Fragment) :
    (fragments.map Cell.fragment).filterMap Cell.fragment? = fragments := by
  rw [List.filterMap_map]
  exact List.filterMap_some

theorem exceptionCells_eq (group : ThreadGroup) :
    exceptionCells group = group.drawnException?.elim [] ExceptionObject.cells := by
  rw [exceptionCells, ThreadGroup.drawnException?]
  cases group.kind with
  | grouped => rfl
  | single =>
      cases group.representative.exception with
      | none => rfl
      | some exception =>
          obtain ⟨type, message⟩ := exception
          cases message <;> rfl

/-- An exception that is made of texts is drawn by fragments. -/
theorem exists_exceptionCells_eq (textual : group.representative.IsTextual) :
    ∃ fragments : List Fragment, exceptionCells group = fragments.map .fragment := by
  have isTextual := textual.exception
  rw [Thread.hasTextException] at isTextual
  rw [exceptionCells_eq, ThreadGroup.drawnException?]
  cases group.kind with
  | grouped => exact ⟨[], rfl⟩
  | single =>
      cases given : group.representative.exception with
      | none => exact ⟨[], rfl⟩
      | some exception =>
          rw [given, Option.all_some, Option.isSome_iff_exists] at isTextual
          obtain ⟨texts, found⟩ := isTextual
          rw [ExceptionObject.texts?_eq_some_iff.1 found]
          obtain ⟨type, message?⟩ := texts
          cases message? with
          | none => exact ⟨[⟨.exceptionType, type⟩], rfl⟩
          | some message =>
              exact ⟨[⟨.exceptionType, type⟩, ⟨.separator, ": ".toText⟩,
                ⟨.exceptionMessage, message⟩], rfl⟩

theorem map_fragment_extraFragments (textual : group.representative.IsTextual) :
    (extraFragments group).map .fragment = extraCells group := by
  obtain ⟨fragments, drawn⟩ := exists_exceptionCells_eq textual
  rw [extraFragments, extraCells, drawn, ← List.map_append, map_fragment_filterMap]

theorem writeExtraInformation_eq (textual : group.representative.IsTextual) :
    renderer.writeExtraInformation group = Written.each renderer.writeRow (extraRows group) := by
  rw [writeExtraInformation, extraRows, ← map_fragment_extraFragments textual, List.isEmpty_map]
  split
  next => rfl
  next => exact bind_congr fun _ => (bind_pure renderer.writeSeparatorLine).symm

theorem writeRawFrames_eq (textual : group.representative.IsTextual) :
    renderer.writeRawFrames group = Written.each renderer.writeRow (rawRows true group) := by
  rw [writeRawFrames, ← map_text_rawTexts textual, Written.each_map, rawRows, if_pos rfl,
    Written.each, Written.each, Written.each_map]
  rfl

/-- A group is drawn row by row. -/
theorem writeGroup_eq (textual : group.representative.IsTextual) :
    renderer.writeGroup group =
      Written.tell (renderer.paintedRows (groupRows renderer.rawFrames group)) := by
  have rawFrames : (if renderer.rawFrames then renderer.writeRawFrames group else pure ()) =
      Written.each renderer.writeRow (rawRows renderer.rawFrames group) := by
    cases renderer.rawFrames with
    | false => rfl
    | true => exact writeRawFrames_eq textual
  rw [← each_writeRow, groupRows, Written.each_append, Written.each_append, Written.each_append,
    ← rawFrames, Written.each_map, Written.each, Written.each, ← writeExtraInformation_eq textual,
    Written.each_singleton]
  simp only [bind_assoc]
  rw [writeGroup]
  cases renderer.rawFrames <;> rfl

/-! ## The rows of the table -/

/-- The rows of the title and the counts. -/
def overviewRows (threadCount groupCount : Nat) : List Row := [
  .separator,
  .centered .header "Parallel Threads".toText,
  .separator,
  .line [
    ⟨.text, "Thread count: ".toText ++ Text.ofNat threadCount⟩,
    ⟨.separator, ", ".toText⟩,
    ⟨.text, "Unique stack traces: ".toText ++ Text.ofNat groupCount⟩],
  .separator]

/-- The rows of the table. -/
def tableRows (rawFrames : Bool) (threads : ParallelThreads) (limit : Option Int) : List Row :=
  overviewRows threads.threadCount threads.uniqueStacks ++
    (top limit threads.groups).flatMap (groupRows rawFrames)

/-- What a limit leaves is a beginning. -/
theorem isPrefix_top {Item : Type} (limit : Option Int) (items : List Item) :
    top limit items <+: items := by
  unfold top
  split
  next => exact List.prefix_refl items
  next => exact List.take_prefix _ items
  next => exact List.take_prefix _ items

theorem writeOverview_eq (threads : ParallelThreads) :
    renderer.writeOverview threads =
      Written.tell
        (renderer.paintedRows (overviewRows threads.threadCount threads.uniqueStacks)) := by
  rw [← each_writeRow, overviewRows]
  simp only [Written.each, bind_pure_unit]
  rfl

theorem flatten_paintedRows_overviewRows_ne_nil (threadCount groupCount : Nat) :
    (renderer.paintedRows (overviewRows threadCount groupCount)).flatten ≠ [] := by
  simp [overviewRows, paintedRows, Row.lines]

/-- The table is drawn row by row. -/
theorem writeTable_eq (textual : threads.IsTextual) (limit : Option Int) :
    renderer.writeTable threads limit =
      Written.tell (renderer.paintedRows (tableRows renderer.rawFrames threads limit)) := by
  have groups : renderer.writeGroups threads limit =
      Written.tell ((top limit threads.groups).flatMap fun group =>
        renderer.paintedRows (groupRows renderer.rawFrames group)) :=
    Written.each_tell fun group member =>
      writeGroup_eq (textual group ((isPrefix_top limit _).subset member))
  rw [writeTable, writeOverview_eq, groups, Written.tell_bind_tell, tableRows, paintedRows_append,
    paintedRows_flatMap]

end Renderer

/-! ## What the lines of a row show -/

/-- What a row shows. -/
def Row.shown (row : Row) : Text := Fragment.shown row.fragments

@[simp] theorem Row.shown_separator : Row.separator.shown = [] := rfl

@[simp] theorem Row.shown_centered (kind : FragmentKind) (text : Text) :
    (Row.centered kind text).shown = text :=
  List.append_nil text

@[simp] theorem Row.shown_line (fragments : List Fragment) :
    (Row.line fragments).shown = Fragment.shown fragments := rfl

/-- What rows show. -/
def shownRows (rows : List Row) : Text := rows.flatMap Row.shown

@[simp] theorem shownRows_nil : shownRows [] = [] := rfl

@[simp] theorem shownRows_cons (row : Row) (rows : List Row) :
    shownRows (row :: rows) = row.shown ++ shownRows rows := rfl

@[simp] theorem shownRows_append (front back : List Row) :
    shownRows (front ++ back) = shownRows front ++ shownRows back :=
  List.flatMap_append

namespace Row

/-- The fragments on each line of a row that is no separator, with the border in front of them. -/
def blocks (renderer : Renderer) : Row → List (Text × List Fragment)
  | .separator => []
  | .centered kind text => [(Renderer.firstBorder, [
      ⟨.text, Renderer.spaces (renderer.leftSpace text.length)⟩, ⟨kind, text⟩,
      ⟨.text, Renderer.spaces (renderer.rightSpace text.length)⟩])]
  | .line fragments =>
      let cut := Renderer.wrapped renderer.wraps Renderer.firstBorder.length fragments
      (Renderer.firstBorder, cut.1) :: cut.2.map (Renderer.nextBorder, ·)

variable {renderer : Renderer} {row : Row} {line : List Fragment} {block : Text × List Fragment}

theorem mem_lines (listed : line ∈ row.lines renderer) :
    line = Renderer.separatorLine renderer.width ∨
      ∃ block ∈ row.blocks renderer, line = Renderer.enclosed renderer.width block.1 block.2 := by
  cases row with
  | separator => exact .inl (List.mem_singleton.1 listed)
  | centered kind text => exact .inr ⟨_, List.mem_singleton_self _, List.mem_singleton.1 listed⟩
  | line fragments =>
      rcases List.mem_cons.1 listed with rfl | later
      · exact .inr ⟨_, List.mem_cons_self, rfl⟩
      · obtain ⟨block, isLater, rfl⟩ := List.mem_map.1 later
        exact .inr ⟨_, List.mem_cons_of_mem _ (List.mem_map_of_mem isLater), rfl⟩

theorem enclosed_mem_lines (listed : block ∈ row.blocks renderer) :
    Renderer.enclosed renderer.width block.1 block.2 ∈ row.lines renderer := by
  cases row with
  | separator => contradiction
  | centered kind text =>
      rw [List.mem_singleton.1 listed]
      exact List.mem_singleton_self _
  | line fragments =>
      rcases List.mem_cons.1 listed with rfl | later
      · exact List.mem_cons_self
      · obtain ⟨fragments, isLater, rfl⟩ := List.mem_map.1 later
        exact List.mem_cons_of_mem _ (List.mem_map_of_mem isLater)

theorem border_of_mem_blocks (listed : block ∈ row.blocks renderer) :
    block.1 = Renderer.firstBorder ∨ block.1 = Renderer.nextBorder := by
  cases row with
  | separator => contradiction
  | centered kind text =>
      rw [List.mem_singleton.1 listed]
      exact .inl rfl
  | line fragments =>
      rcases List.mem_cons.1 listed with rfl | later
      · exact .inl rfl
      · obtain ⟨fragments, -, rfl⟩ := List.mem_map.1 later
        exact .inr rfl

/-- What a row shows stands on its lines, with nothing but spaces around it. -/
theorem exists_mem_blocks_iff {character : CodePoint} (notSpace : character ≠ .char ' ') :
    (∃ block ∈ row.blocks renderer, character ∈ Fragment.shown block.2) ↔
      character ∈ row.shown := by
  have notSpaces (count : Int) : character ∉ Renderer.spaces count := by
    intro member
    exact notSpace (List.eq_of_mem_replicate member)
  cases row with
  | separator => exact ⟨nofun, nofun⟩
  | centered kind text => simp [blocks, Fragment.shown, notSpaces]
  | line fragments =>
      let cut := Renderer.wrapped renderer.wraps Renderer.firstBorder.length fragments
      have whole : cut.1 ++ cut.2.flatten = fragments := Renderer.wrapped_flatten ..
      change (∃ block ∈ (_, cut.1) :: cut.2.map (_, ·), _) ↔ character ∈ Fragment.shown fragments
      rw [← whole, Fragment.shown_append, Fragment.shown_flatten]
      simp only [List.mem_append, List.mem_flatMap, List.mem_cons, List.mem_map, or_and_right,
        exists_or, exists_eq_left, exists_exists_and_eq_and]

end Row

namespace Renderer

variable {renderer : Renderer}

theorem shown_enclosed (width : Int) (border : Text) (fragments : List Fragment) :
    Fragment.shown (enclosed width border fragments) =
      border ++ (Fragment.shown fragments ++
        (spaces (width - (border.length + (Fragment.shown fragments).length : Nat)) ++
          " |".toText)) := by
  simp [enclosed, closingBorder, Fragment.shown]

/-- A character of a line is drawn by a border or stands in what the row shows. -/
theorem mem_shown_of_mem_lines {row : Row} {line : List Fragment} {character : CodePoint}
    (notBorder : character ∉ "| -".toText) (listed : line ∈ row.lines renderer)
    (member : character ∈ Fragment.shown line) : character ∈ row.shown := by
  have notBar : character ≠ .char '|' := fun same => notBorder (same ▸ by decide)
  have notSpace : character ≠ .char ' ' := fun same => notBorder (same ▸ by decide)
  have notDash : character ≠ .char '-' := fun same => notBorder (same ▸ by decide)
  rcases Row.mem_lines listed with rfl | ⟨block, isBlock, rfl⟩
  · have shows : Fragment.shown (separatorLine renderer.width) =
        .char '|' :: (List.replicate renderer.width.toNat (.char '-') ++ [.char '|']) :=
      List.append_nil _
    rw [shows, List.mem_cons, List.mem_append, List.mem_singleton, List.mem_replicate] at member
    rcases member with isBar | (⟨-, isDash⟩ | isBar)
    · exact absurd isBar notBar
    · exact absurd isDash notDash
    · exact absurd isBar notBar
  · rw [shown_enclosed, List.mem_append, List.mem_append, List.mem_append] at member
    rcases member with inBorder | (inBlock | (inSpaces | inClosing))
    · refine absurd ?_ notBorder
      rcases Row.border_of_mem_blocks isBlock with isFirst | isNext
      · rw [isFirst] at inBorder
        exact (by decide : firstBorder ⊆ "| -".toText) inBorder
      · rw [isNext] at inBorder
        exact (by decide : nextBorder ⊆ "| -".toText) inBorder
    · exact (Row.exists_mem_blocks_iff notSpace).1 ⟨block, isBlock, inBlock⟩
    · exact absurd (List.eq_of_mem_replicate inSpaces) notSpace
    · exact absurd ((by decide : " |".toText ⊆ "| -".toText) inClosing) notBorder

/-- What a row shows is drawn on its lines, and nothing else is but their borders. -/
theorem exists_mem_lines_iff {row : Row} {character : CodePoint}
    (notBorder : character ∉ "| -".toText) :
    (∃ line ∈ row.lines renderer, character ∈ Fragment.shown line) ↔ character ∈ row.shown := by
  have notSpace : character ≠ .char ' ' := fun same => notBorder (same ▸ by decide)
  constructor
  · rintro ⟨line, listed, member⟩
    exact mem_shown_of_mem_lines notBorder listed member
  · intro member
    obtain ⟨block, isBlock, inBlock⟩ := (Row.exists_mem_blocks_iff notSpace).2 member
    refine ⟨_, Row.enclosed_mem_lines isBlock, ?_⟩
    rw [shown_enclosed]
    exact List.mem_append_right _ (List.mem_append_left _ inBlock)

end Renderer

end ThreadStacks
