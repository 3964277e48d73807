import ThreadStacks.Proofs.Render.DrawnText

/-!
# The border of the table

Every line that the table is drawn on stands between borders and is as wide as the table.  Nothing
looks at the characters of the texts in it, so a newline in a text of the snapshot breaks the line
that it is drawn on.
-/

namespace ThreadStacks

/-- Whether a line stands between borders around a width. -/
structure IsBordered (width : Int) (line : Text) : Prop where
  starts : line.head? = some (.char '|')
  ends : line.getLast? = some (.char '|')
  wide : width + 2 ≤ line.length

/-- The lines of an output that end with a newline. -/
def terminatedLines (output : Text) : List Text := (Text.splitAt (.char '\n') output).dropLast

/-- Whether every line of an output stands between borders around a width. -/
def KeepsBorder (width : Int) (output : Text) : Prop :=
  ∀ line ∈ terminatedLines output, IsBordered width line

theorem terminatedLines_append_cons (front back : Text) :
    terminatedLines (front ++ .char '\n' :: back) =
      Text.splitAt (.char '\n') front ++ terminatedLines back := by
  have nonempty : Text.splitAt (.char '\n') back ≠ [] := List.cons_ne_nil _ _
  rw [terminatedLines, Text.splitAt_append_cons, List.dropLast_append_of_ne_nil nonempty]
  rfl

namespace Renderer

variable {renderer : Renderer} {threads : ParallelThreads} {rows : List Row}
  {border : Text} {fragments : List Fragment}

/-! ## Lines between borders -/

theorem isBordered_separatorLine (width : Int) :
    IsBordered width (Fragment.shown (separatorLine width)) := by
  have shows : Fragment.shown (separatorLine width) =
      .char '|' :: List.replicate width.toNat (.char '-') ++ [.char '|'] := List.append_nil _
  rw [shows]
  constructor
  case starts => rfl
  case ends => exact List.getLast?_concat
  case wide =>
    simp only [List.length_append, List.length_cons, List.length_replicate, List.length_nil]
    omega

theorem isBordered_enclosed {width : Int} (start : border.head? = some (.char '|')) :
    IsBordered width (Fragment.shown (enclosed width border fragments)) := by
  rw [shown_enclosed]
  constructor
  case starts => rw [List.head?_append, start]; rfl
  case ends => rw [← List.append_assoc, ← List.append_assoc, List.getLast?_append]; rfl
  case wide =>
    have closing : " |".toText.length = 2 := rfl
    simp only [List.length_append, spaces, List.length_replicate, closing]
    omega

theorem isBordered_of_mem_lines {row : Row} {line : List Fragment}
    (listed : line ∈ row.lines renderer) : IsBordered renderer.width (Fragment.shown line) := by
  rcases Row.mem_lines listed with rfl | ⟨block, isBlock, rfl⟩
  · exact isBordered_separatorLine renderer.width
  · refine isBordered_enclosed ?_
    rcases Row.border_of_mem_blocks isBlock with isFirst | isNext
    · rw [isFirst]; rfl
    · rw [isNext]; rfl

/-! ## Newlines in texts -/

/-- A row that shows no newline is drawn on lines that nothing breaks. -/
theorem splitAt_of_mem_lines {row : Row} {line : List Fragment} (listed : line ∈ row.lines renderer)
    (whole : .char '\n' ∉ row.shown) :
    Text.splitAt (.char '\n') (Fragment.shown line) = [Fragment.shown line] :=
  Text.splitAt_eq_singleton fun member =>
    whole (mem_shown_of_mem_lines (by decide) listed member)

/-- What stands in front of the first newline of a line ends with a border only if the texts on the
line have a border of their own. -/
theorem exists_not_isBordered {width : Int} (isBorder : border = firstBorder ∨ border = nextBorder)
    (noBar : .char '|' ∉ Fragment.shown fragments)
    (broken : .char '\n' ∈ Fragment.shown fragments) :
    ∃ piece ∈ Text.splitAt (.char '\n') (Fragment.shown (enclosed width border fragments)),
      ¬IsBordered width piece := by
  have noNewline : .char '\n' ∉ border := by rcases isBorder with rfl | rfl <;> decide
  have ending : border.getLast? = some (.char ' ') := by rcases isBorder with rfl | rfl <;> rfl
  obtain ⟨front, back, cut, isFirst⟩ := List.eq_append_cons_of_mem broken
  have first : Text.splitAt (.char '\n') (border ++ front) = [border ++ front] := by
    refine Text.splitAt_eq_singleton fun member => ?_
    exact (List.mem_append.1 member).elim noNewline isFirst
  rw [cut, List.mem_append, not_or] at noBar
  rw [shown_enclosed, cut, List.append_assoc, ← List.append_assoc, List.cons_append,
    Text.splitAt_append_cons, first]
  refine ⟨border ++ front, List.mem_cons_self, fun bordered => noBar.1 ?_⟩
  have ends := bordered.ends
  rw [List.getLast?_append, ending] at ends
  cases last : front.getLast? with
  | none =>
      rw [last] at ends
      contradiction
  | some character =>
      rw [last] at ends
      exact List.mem_of_getLast? (last.trans ends)

theorem flatMap_fragmentText_eq_shown (plain : renderer.color = false)
    (fragments : List Fragment) :
    fragments.flatMap renderer.fragmentText = Fragment.shown fragments := by
  refine List.flatMap_congr fun fragment _ => ?_
  rw [fragmentText, plain]
  split
  next => rfl
  next => rfl

theorem terminatedLines_paintedLines (plain : renderer.color = false)
    (lines : List (List Fragment)) :
    terminatedLines (renderer.paintedLines lines).flatten =
      lines.flatMap fun line => Text.splitAt (.char '\n') (Fragment.shown line) := by
  induction lines with
  | nil => rfl
  | cons line lines ih =>
      rw [flatten_paintedLines_cons, terminatedLines_append_cons, ih,
        flatMap_fragmentText_eq_shown plain, List.flatMap_cons]

/-- Rows keep the border if and only if every line does once it has been cut at the newlines in
it. -/
theorem keepsBorder_paintedRows_iff (plain : renderer.color = false) :
    KeepsBorder renderer.width (renderer.paintedRows rows).flatten ↔
      ∀ row ∈ rows, ∀ line ∈ row.lines renderer,
        ∀ piece ∈ Text.splitAt (.char '\n') (Fragment.shown line),
          IsBordered renderer.width piece := by
  rw [KeepsBorder, paintedRows_eq_paintedLines, terminatedLines_paintedLines plain]
  simp only [List.forall_mem_flatMap]

theorem keepsBorder_of_newline_not_mem (plain : renderer.color = false)
    (whole : .char '\n' ∉ shownRows rows) :
    KeepsBorder renderer.width (renderer.paintedRows rows).flatten := by
  rw [keepsBorder_paintedRows_iff plain]
  intro row isRow line isLine piece isPiece
  have wholeRow : .char '\n' ∉ row.shown :=
    fun member => whole (List.mem_flatMap.2 ⟨row, isRow, member⟩)
  rw [splitAt_of_mem_lines isLine wholeRow, List.mem_singleton] at isPiece
  rw [isPiece]
  exact isBordered_of_mem_lines isLine

theorem newline_not_mem_of_keepsBorder (plain : renderer.color = false)
    (noBar : .char '|' ∉ shownRows rows)
    (keeps : KeepsBorder renderer.width (renderer.paintedRows rows).flatten) :
    .char '\n' ∉ shownRows rows := by
  rw [keepsBorder_paintedRows_iff plain] at keeps
  intro member
  obtain ⟨row, isRow, inRow⟩ := List.mem_flatMap.1 member
  have noBarInRow : .char '|' ∉ row.shown :=
    fun member => noBar (List.mem_flatMap.2 ⟨row, isRow, member⟩)
  obtain ⟨block, isBlock, inBlock⟩ := (Row.exists_mem_blocks_iff (by decide)).2 inRow
  have noBarInBlock : .char '|' ∉ Fragment.shown block.2 := fun member =>
    noBarInRow ((Row.exists_mem_blocks_iff (by decide)).1 ⟨block, isBlock, member⟩)
  obtain ⟨piece, isPiece, broken⟩ :=
    exists_not_isBordered (Row.border_of_mem_blocks isBlock) noBarInBlock inBlock
  exact broken (keeps row isRow _ (Row.enclosed_mem_lines isBlock) piece isPiece)

/-- A table without colors keeps the border if and only if every line does once it has been cut at
the newlines in it: always if no drawn text of the snapshot has a newline, and where these texts
have no character that looks like a border, only then. -/
theorem keepsBorder_writeTable (rawFrames : Bool) (width : Int) (textual : threads.IsTextual)
    (limit : Option Int) :
    let renderer : Renderer := ⟨false, rawFrames, width⟩
    let table := renderer.writeTable threads limit
    table.outcome = .ok () ∧
      (KeepsBorder width table.text ↔
        ∀ row ∈ tableRows rawFrames threads limit, ∀ line ∈ row.lines renderer,
          ∀ piece ∈ Text.splitAt (.char '\n') (Fragment.shown line), IsBordered width piece) ∧
      (.char '\n' ∉ threads.drawnText rawFrames limit → KeepsBorder width table.text) ∧
      (.char '|' ∉ threads.drawnText rawFrames limit → KeepsBorder width table.text →
        .char '\n' ∉ threads.drawnText rawFrames limit) := by
  intro renderer table
  have plain : renderer.color = false := rfl
  have drawn : table = Written.tell (renderer.paintedRows (tableRows rawFrames threads limit)) :=
    writeTable_eq textual limit
  have newlines : .char '\n' ∈ shownRows (tableRows rawFrames threads limit) ↔
      .char '\n' ∈ threads.drawnText rawFrames limit := mem_shownRows_tableRows_iff (by decide)
  have bars : .char '|' ∈ shownRows (tableRows rawFrames threads limit) ↔
      .char '|' ∈ threads.drawnText rawFrames limit := mem_shownRows_tableRows_iff (by decide)
  rw [drawn, ← newlines, ← bars]
  refine ⟨rfl, ?_, ?_, ?_⟩
  · exact keepsBorder_paintedRows_iff plain
  · exact keepsBorder_of_newline_not_mem plain
  · exact newline_not_mem_of_keepsBorder plain

/-- A thread with an exception whose message has two lines. -/
def twoLineMessage : ParallelThreads := ⟨[
  ⟨⟨[⟨"App".toText, "Run".toText, [], "App.Run()".toText⟩], [.text "App.Run()".toText],
    ⟨.null, 1, 0⟩,
    some ⟨.text "ArgumentNull".toText, .text "Value is null.\nName: x".toText⟩,
    .unsupported⟩, []⟩]⟩

theorem isTextual_twoLineMessage : twoLineMessage.IsTextual := by
  intro group member
  obtain rfl := List.mem_singleton.1 member
  constructor
  · simp
  · rfl

theorem keepsBorder_writeTable_twoLineMessage :
    twoLineMessage.IsTextual ∧
      (KeepsBorder 40 ((Renderer.mk false true 40).writeTable twoLineMessage none).text →
        .char '\n' ∉ twoLineMessage.drawnText true none) :=
  ⟨isTextual_twoLineMessage,
    (keepsBorder_writeTable true 40 isTextual_twoLineMessage none).2.2.2 (by decide +kernel)⟩

/-- A message of two lines breaks the line that it is drawn on. -/
theorem not_forall_keepsBorder :
    ¬∀ (threads : ParallelThreads) (rawFrames : Bool) (width : Int), threads.IsTextual →
      0 ≤ width →
        KeepsBorder width ((Renderer.mk false rawFrames width).writeTable threads none).text := by
  intro keeps
  have kept := keeps twoLineMessage false 40 isTextual_twoLineMessage (by decide)
  have broken : "| ArgumentNull: Value is null.".toText ∈ terminatedLines
      ((Renderer.mk false false 40).writeTable twoLineMessage none).text := by decide +kernel
  have ends := (kept _ broken).ends
  revert ends
  decide +kernel

end Renderer

end ThreadStacks
