import ThreadStacks.Proofs.Render.Border

/-!
# Wrapped lines

Fragments that do not fit on one line go on in the next ones.  The lines cut the fragments into
blocks; a block ends only where the next fragment leaves no room for the right border, and every
line is as wide as the table unless its one visible fragment is too wide for any line.
-/

namespace ThreadStacks

/-- The fragments of one line, and the border in front of them. -/
structure LineBlock where
  border : Text
  fragments : List Fragment

namespace LineBlock

variable {width : Int} {block : LineBlock} {fragment : Fragment}

/-- The width of a line before it is filled up. -/
def filled (block : LineBlock) : Nat :=
  block.border.length + (Fragment.shown block.fragments).length

/-- The line of a block in a table of a width. -/
def text (width : Int) (block : LineBlock) : Text :=
  block.border ++ Fragment.shown block.fragments ++ Renderer.spaces (width - block.filled) ++
    " |".toText

/-- Whether all that a block shows is one fragment, which is too wide for its line. -/
def IsOverWide (width : Int) (block : LineBlock) : Prop :=
  ∃ fragment, block.fragments.filter (!·.text.isEmpty) = [fragment] ∧
    width - block.border.length < fragment.text.length

/-- Whether a block starts with a fragment that would leave no room for the right border on the line
of the block before it. -/
def Follows (width : Int) (previous block : LineBlock) : Prop :=
  ∃ fragment rest, block.fragments = fragment :: rest ∧
    width < (previous.filled + fragment.text.length + 2 : Nat)

/-- A block with one more fragment. -/
def push (block : LineBlock) (fragment : Fragment) : LineBlock :=
  ⟨block.border, block.fragments ++ [fragment]⟩

theorem filled_push (block : LineBlock) (fragment : Fragment) :
    (block.push fragment).filled = block.filled + fragment.text.length := by
  simp [filled, push, Fragment.shown, Nat.add_assoc]

theorem length_text (width : Int) (block : LineBlock) :
    ((block.text width).length : Int) = max (block.filled : Int) width + 2 := by
  have closing : " |".toText.length = 2 := rfl
  have front : (block.border ++ Fragment.shown block.fragments).length = block.filled :=
    List.length_append
  rw [text, List.length_append, List.length_append, front, closing, Renderer.spaces,
    List.length_replicate]
  omega

/-! ## Fragments that are too wide -/

/-- Only the visible fragments of a block are shown. -/
theorem shown_filter (fragments : List Fragment) :
    Fragment.shown (fragments.filter (!·.text.isEmpty)) = Fragment.shown fragments := by
  have visible := @List.flatten_filter_not_isEmpty _ (fragments.map Fragment.text)
  rw [List.filter_map] at visible
  rw [Fragment.shown, Fragment.shown, List.flatMap_def, List.flatMap_def]
  exact visible

theorem IsOverWide.lt_filled (overWide : block.IsOverWide width) : width < block.filled := by
  obtain ⟨fragment, alone, tooWide⟩ := overWide
  have shows : Fragment.shown block.fragments = fragment.text := by
    rw [← shown_filter, alone]
    exact List.append_nil _
  rw [filled, shows]
  omega

/-- Whether a block fits on its line, or cannot be cut any further. -/
def Fits (width : Int) (block : LineBlock) : Prop := width < block.filled → block.IsOverWide width

theorem Fits.length_text_eq_iff (fits : block.Fits width) :
    ((block.text width).length : Int) = width + 2 ↔ ¬block.IsOverWide width := by
  have exactly : ((block.text width).length : Int) = width + 2 ↔ ¬width < block.filled := by
    rw [length_text]
    omega
  rw [exactly]
  exact not_congr ⟨fits, IsOverWide.lt_filled⟩

/-- A fragment is alone among those that show nothing. -/
theorem isOverWide_push (blank : Fragment.shown block.fragments = [])
    (visible : fragment.text ≠ []) (tooWide : width - block.border.length < fragment.text.length) :
    (block.push fragment).IsOverWide width := by
  have noneVisible : block.fragments.filter (!·.text.isEmpty) = [] := by
    rw [List.filter_eq_nil_iff]
    intro other listed
    have isEmpty : other.text = [] := List.flatMap_eq_nil_iff.1 blank other listed
    simp [isEmpty]
  refine ⟨fragment, ?_, tooWide⟩
  rw [push, List.filter_append, noneVisible]
  simp [visible]

end LineBlock

namespace Renderer

variable {renderer : Renderer} {current block : LineBlock} {fragment : Fragment}
  {fragments : List Fragment}

/-! ## Cutting fragments into blocks -/

theorem wraps_iff {filled length : Nat} :
    renderer.wraps filled length = true ↔
      renderer.width < (filled + length + 2 : Nat) ∧ filled ≠ 2 := by
  simp [wraps, borderWidth]

/-- The blocks of fragments that are drawn behind those of a block. -/
def blocksFrom (renderer : Renderer) (current : LineBlock) (fragments : List Fragment) :
    List LineBlock :=
  let cut := wrapped renderer.wraps current.filled fragments
  ⟨current.border, current.fragments ++ cut.1⟩ :: cut.2.map (⟨nextBorder, ·⟩)

/-- The blocks that fragments are drawn in. -/
def lineBlocks (renderer : Renderer) (fragments : List Fragment) : List LineBlock :=
  renderer.blocksFrom ⟨firstBorder, []⟩ fragments

@[simp] theorem blocksFrom_nil (current : LineBlock) :
    renderer.blocksFrom current [] = [current] := by
  simp [blocksFrom, wrapped]

theorem blocksFrom_cons_of_wraps
    (wraps : renderer.wraps current.filled fragment.text.length = true) :
    renderer.blocksFrom current (fragment :: fragments) =
      current :: renderer.blocksFrom ⟨nextBorder, [fragment]⟩ fragments := by
  rw [blocksFrom, wrapped, if_pos wraps]
  simp [blocksFrom, LineBlock.filled, Fragment.shown]

theorem blocksFrom_cons_of_not_wraps
    (stays : ¬renderer.wraps current.filled fragment.text.length = true) :
    renderer.blocksFrom current (fragment :: fragments) =
      renderer.blocksFrom (current.push fragment) fragments := by
  rw [blocksFrom, wrapped, if_neg stays, blocksFrom, LineBlock.filled_push]
  simp [LineBlock.push]

/-- No fragment is split, lost, repeated or moved. -/
theorem flatten_blocksFrom (current : LineBlock) (fragments : List Fragment) :
    ((renderer.blocksFrom current fragments).map LineBlock.fragments).flatten =
      current.fragments ++ fragments := by
  induction fragments generalizing current with
  | nil => simp
  | cons fragment fragments ih =>
      by_cases wraps : renderer.wraps current.filled fragment.text.length
      · rw [blocksFrom_cons_of_wraps wraps, List.map_cons, List.flatten_cons, ih]
        rfl
      · rw [blocksFrom_cons_of_not_wraps wraps, ih, LineBlock.push, List.append_assoc]
        rfl

/-- A line ends only where the next fragment leaves no room for the right border. -/
theorem isChain_blocksFrom (current : LineBlock) (fragments : List Fragment) :
    (renderer.blocksFrom current fragments).IsChain (LineBlock.Follows renderer.width) := by
  induction fragments generalizing current with
  | nil => simp
  | cons fragment fragments ih =>
      by_cases wraps : renderer.wraps current.filled fragment.text.length
      · have others := ih ⟨nextBorder, [fragment]⟩
        rw [blocksFrom_cons_of_wraps wraps]
        rw [blocksFrom] at others ⊢
        rw [wraps_iff] at wraps
        exact .cons_cons ⟨fragment, _, rfl, wraps.1⟩ others
      · rw [blocksFrom_cons_of_not_wraps wraps]
        exact ih _

theorem map_border_blocksFrom (current : LineBlock) (fragments : List Fragment) :
    ∃ later, (renderer.blocksFrom current fragments).map LineBlock.border =
      current.border :: List.replicate later nextBorder := by
  refine ⟨(wrapped renderer.wraps current.filled fragments).2.length, ?_⟩
  rw [blocksFrom, List.map_cons, List.map_map, ← List.map_const']
  rfl

/-! ## The width of lines -/

section Width

variable (wide : 5 ≤ renderer.width)

include wide

/-- A fragment that goes on a line fits on it or is the first one that is visible there. -/
theorem fits_push (border : 2 ≤ current.border.length)
    (stays : ¬renderer.wraps current.filled fragment.text.length = true) :
    (current.push fragment).Fits renderer.width := by
  intro tooWide
  rw [LineBlock.filled_push] at tooWide
  rw [wraps_iff] at stays
  -- Where the right border has no room left, the line goes on only at its start.
  have atStart : current.filled = 2 := by omega
  rw [atStart] at tooWide
  rw [LineBlock.filled] at atStart
  have blank : Fragment.shown current.fragments = [] := List.length_eq_zero_iff.1 (by omega)
  have visible : fragment.text ≠ [] := List.length_pos_iff.1 (by omega)
  exact LineBlock.isOverWide_push blank visible (by omega)

theorem fits_singleton (fragment : Fragment) :
    LineBlock.Fits renderer.width ⟨nextBorder, [fragment]⟩ := by
  intro tooWide
  have border : nextBorder.length = 5 := rfl
  rw [LineBlock.filled, border, Fragment.shown, List.flatMap_singleton] at tooWide
  have visible : fragment.text ≠ [] := List.length_pos_iff.1 (by omega)
  have alone := @LineBlock.isOverWide_push renderer.width ⟨nextBorder, []⟩ fragment rfl visible
  exact alone (by rw [border]; omega)

theorem fits_of_mem_blocksFrom (border : 2 ≤ current.border.length)
    (fits : current.Fits renderer.width) (listed : block ∈ renderer.blocksFrom current fragments) :
    block.Fits renderer.width := by
  induction fragments generalizing current with
  | nil =>
      rw [blocksFrom_nil, List.mem_singleton] at listed
      exact listed ▸ fits
  | cons fragment fragments ih =>
      by_cases wraps : renderer.wraps current.filled fragment.text.length
      · rw [blocksFrom_cons_of_wraps wraps] at listed
        rcases List.mem_cons.1 listed with rfl | later
        · exact fits
        · have nextWide : 2 ≤ nextBorder.length := by decide
          exact @ih ⟨nextBorder, [fragment]⟩ nextWide (fits_singleton wide fragment) later
      · rw [blocksFrom_cons_of_not_wraps wraps] at listed
        exact @ih (current.push fragment) border (fits_push wide border wraps) listed

end Width

/-! ## Drawing blocks -/

/-- What it takes for blocks to lay out fragments in a table of a width. -/
structure IsWrapping (width : Int) (fragments : List Fragment) (blocks : List LineBlock) :
    Prop where
  borders : ∃ later, blocks.map LineBlock.border = firstBorder :: List.replicate later nextBorder
  lossless : (blocks.map LineBlock.fragments).flatten = fragments
  greedy : blocks.IsChain (LineBlock.Follows width)
  exactWidth : ∀ block ∈ blocks,
    ((block.text width).length : Int) = width + 2 ↔ ¬block.IsOverWide width

theorem isWrapping_lineBlocks (wide : 5 ≤ renderer.width) (fragments : List Fragment) :
    IsWrapping renderer.width fragments (renderer.lineBlocks fragments) where
  borders := map_border_blocksFrom _ fragments
  lossless := flatten_blocksFrom _ fragments
  greedy := isChain_blocksFrom _ fragments
  exactWidth := by
    have fits : LineBlock.Fits renderer.width ⟨firstBorder, []⟩ := by
      intro tooWide
      have border : LineBlock.filled ⟨firstBorder, []⟩ = 2 := rfl
      omega
    intro block listed
    exact (fits_of_mem_blocksFrom wide (by decide) fits listed).length_text_eq_iff

theorem shown_enclosed_eq_text (width : Int) (block : LineBlock) :
    Fragment.shown (enclosed width block.border block.fragments) = block.text width := by
  rw [shown_enclosed, LineBlock.text, LineBlock.filled]
  simp only [List.append_assoc]

theorem map_shown_wrappedLines (fragments : List Fragment) :
    (renderer.wrappedLines fragments).map Fragment.shown =
      (renderer.lineBlocks fragments).map (LineBlock.text renderer.width) := by
  have lines : renderer.wrappedLines fragments =
      (renderer.lineBlocks fragments).map fun block =>
        enclosed renderer.width block.border block.fragments := by
    rw [wrappedLines, lineBlocks, blocksFrom, List.map_cons, List.map_map]
    rfl
  rw [lines, List.map_map]
  exact List.map_congr_left fun block _ => shown_enclosed_eq_text renderer.width block

theorem paintedLines_eq_flatMap (plain : renderer.color = false) (lines : List (List Fragment)) :
    (renderer.paintedLines lines).flatten =
      (lines.map Fragment.shown).flatMap (· ++ [.char '\n']) := by
  induction lines with
  | nil => rfl
  | cons line lines ih =>
      rw [flatten_paintedLines_cons, flatMap_fragmentText_eq_shown plain, ih, List.map_cons,
        List.flatMap_cons, List.append_assoc]
      rfl

/-- Without colors, a list of fragments is drawn on lines that keep all of them in their order, end
only where they have to, and are as wide as the table wherever that can be. -/
theorem exists_isWrapping (plain : renderer.color = false) (wide : 5 ≤ renderer.width)
    (whole : ∀ fragment ∈ fragments, .char '\n' ∉ fragment.text) :
    ∃ blocks, IsWrapping renderer.width fragments blocks ∧
      (renderer.writeLine fragments).outcome = .ok () ∧
      (renderer.writeLine fragments).text =
        blocks.flatMap (fun block => block.text renderer.width ++ [.char '\n']) ∧
      terminatedLines (renderer.writeLine fragments).text =
        blocks.map (LineBlock.text renderer.width) := by
  refine ⟨renderer.lineBlocks fragments, isWrapping_lineBlocks wide fragments, ?_, ?_, ?_⟩
  · rw [writeLine_eq]
    rfl
  · rw [writeLine_eq, Written.text_tell, paintedLines_eq_flatMap plain, map_shown_wrappedLines,
      List.flatMap_map]
  · rw [writeLine_eq, Written.text_tell, terminatedLines_paintedLines plain,
      ← map_shown_wrappedLines,
      List.map_eq_flatMap]
    apply List.flatMap_congr
    intro line listed
    have wholeRow : .char '\n' ∉ (Row.line fragments).shown := by
      intro member
      obtain ⟨fragment, isFragment, inFragment⟩ := List.mem_flatMap.1 member
      exact whole fragment isFragment inFragment
    exact @splitAt_of_mem_lines renderer (.line fragments) _ listed wholeRow

/-- Behind a fragment that is too wide, even an empty one goes to a new line. -/
theorem exists_isWrapping_tooWide :
    let renderer : Renderer := ⟨false, false, 8⟩
    let empty : Fragment := ⟨.text, []⟩
    let long : Fragment := ⟨.typeName, "Namespace".toText⟩
    let fragments := [empty, long, empty, long, ⟨.text, "ab".toText⟩]
    let lines := ["| Namespace |".toText, "|        |".toText, "|    Namespace |".toText,
      "|    ab  |".toText]
    renderer.color = false ∧ 5 ≤ renderer.width ∧
      (∀ fragment ∈ fragments, .char '\n' ∉ fragment.text) ∧
      (renderer.writeLine fragments).outcome = .ok () ∧
      terminatedLines (renderer.writeLine fragments).text = lines ∧
      ∃ blocks, IsWrapping 8 fragments blocks ∧ blocks.map (LineBlock.text 8) = lines := by
  intro renderer empty long fragments lines
  have whole : ∀ fragment ∈ fragments, .char '\n' ∉ fragment.text := by decide
  have drawn : terminatedLines (renderer.writeLine fragments).text = lines := by decide
  obtain ⟨blocks, wrapping, succeeds, -, isDrawn⟩ :=
    @exists_isWrapping renderer fragments rfl (by decide) whole
  exact ⟨rfl, by decide, whole, succeeds, drawn, blocks, wrapping, isDrawn.symm.trans drawn⟩

end Renderer

end ThreadStacks
