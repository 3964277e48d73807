import ThreadStacks.Proofs.Render.Wrapping

/-!
# Centered lines

The spaces beside a centered text are computed by a division that rounds down, from a width that may
be negative, and the line is closed afterwards as any other line is.  The three computations fit
together: a line with room for its text is full before it is closed, with the odd space on the left,
and a text that is too long stands between its borders without any space.
-/

namespace ThreadStacks

/-- Numbers of spaces that put a text of a length into the middle of a table of a width, or none
where the text is too long for it. -/
structure IsCentering (width : Int) (length left right : Nat) : Prop where
  full : (length + 2 : Int) ≤ width → (left + right : Int) = width - length - 2
  even : (length + 2 : Int) ≤ width → (left - right : Int) = 0 ∨ (left - right : Int) = 1
  tight : ¬(length + 2 : Int) ≤ width → left = 0 ∧ right = 0

/-- The line of a text with spaces on both sides of it. -/
def centeredText (left right : Nat) (text : Text) : Text :=
  "| ".toText ++ List.replicate left (.char ' ') ++ text ++ List.replicate right (.char ' ') ++
    " |".toText

section Length

variable {width : Int} {left right : Nat} {text : Text}

theorem length_centeredText :
    (centeredText left right text).length = left + text.length + right + 4 := by
  have opening : "| ".toText.length = 2 := rfl
  have closing : " |".toText.length = 2 := rfl
  simp only [centeredText, List.length_append, List.length_replicate, opening, closing]
  omega

theorem IsCentering.length_centeredText (centering : IsCentering width text.length left right) :
    ((centeredText left right text).length : Int) = max (text.length + 2 : Int) width + 2 := by
  obtain ⟨full, -, tight⟩ := centering
  rw [ThreadStacks.length_centeredText]
  omega

theorem newline_not_mem_centeredText (whole : .char '\n' ∉ text) :
    .char '\n' ∉ centeredText left right text := by
  have noSpace (count : Nat) : CodePoint.char '\n' ∉ List.replicate count (CodePoint.char ' ') :=
    fun member =>
    absurd (List.eq_of_mem_replicate member) (by decide)
  simp only [centeredText, List.mem_append, not_or]
  exact ⟨⟨⟨⟨by decide, noSpace left⟩, whole⟩, noSpace right⟩, by decide⟩

end Length

/-- Closing a line that is full adds no space. -/
theorem LineBlock.text_eq_of_full {width : Int} {block : LineBlock} (full : width ≤ block.filled) :
    block.text width = block.border ++ Fragment.shown block.fragments ++ " |".toText := by
  have noRoom : (width - block.filled).toNat = 0 := by omega
  rw [text, Renderer.spaces, noRoom, List.replicate_zero, List.append_nil]

namespace Renderer

variable {renderer : Renderer} {text : Text}

/-- The spaces of a centered text are the only ones that center it. -/
theorem isCentering_iff {length left right : Nat} :
    IsCentering renderer.width length left right ↔
      left = renderer.leftSpace length ∧ right = renderer.rightSpace length := by
  simp only [rightSpace, leftSpace, borderWidth]
  constructor
  · rintro ⟨full, even, tight⟩
    omega
  · rintro ⟨rfl, rfl⟩
    constructor <;> omega

/-- The line of a centered text before it is closed. -/
def centeredBlock (renderer : Renderer) (kind : FragmentKind) (text : Text) : LineBlock :=
  ⟨firstBorder, [⟨.text, spaces (renderer.leftSpace text.length)⟩, ⟨kind, text⟩,
    ⟨.text, spaces (renderer.rightSpace text.length)⟩]⟩

theorem centeredText_eq_append (kind : FragmentKind) :
    centeredText (renderer.leftSpace text.length) (renderer.rightSpace text.length) text =
      (renderer.centeredBlock kind text).border ++
        Fragment.shown (renderer.centeredBlock kind text).fragments ++ " |".toText := by
  simp [centeredText, centeredBlock, firstBorder, Fragment.shown, spaces]

theorem shown_centeredLine (kind : FragmentKind) :
    Fragment.shown (renderer.centeredLine kind text) =
      centeredText (renderer.leftSpace text.length) (renderer.rightSpace text.length) text := by
  have centering : IsCentering renderer.width text.length _ _ := isCentering_iff.2 ⟨rfl, rfl⟩
  have full : renderer.width ≤ (renderer.centeredBlock kind text).filled := by
    have closing : " |".toText.length = 2 := rfl
    have wide := centering.length_centeredText
    rw [centeredText_eq_append kind, List.length_append, List.length_append, closing] at wide
    rw [LineBlock.filled]
    omega
  rw [centeredText_eq_append kind, ← LineBlock.text_eq_of_full full, ← shown_enclosed_eq_text]
  rfl

/-- Without colors, a text is written in the middle of one line, which is as wide as the table or
exactly holds the text. -/
theorem exists_isCentering (plain : renderer.color = false) (kind : FragmentKind)
    (whole : .char '\n' ∉ text) :
    ∃ left right, IsCentering renderer.width text.length left right ∧
      ((centeredText left right text).length : Int) =
        max (text.length + 2 : Int) renderer.width + 2 ∧
      (renderer.writeCentered kind text).outcome = .ok () ∧
      (renderer.writeCentered kind text).text = centeredText left right text ++ [.char '\n'] ∧
      terminatedLines (renderer.writeCentered kind text).text =
        [centeredText left right text] := by
  have centering : IsCentering renderer.width text.length _ _ := isCentering_iff.2 ⟨rfl, rfl⟩
  refine ⟨_, _, centering, centering.length_centeredText, ?_, ?_, ?_⟩
  · rw [writeCentered_eq]
    rfl
  · rw [writeCentered_eq, Written.text_tell, paintedLines_eq_flatMap plain, List.map_singleton,
      List.flatMap_singleton, shown_centeredLine]
  · rw [writeCentered_eq, Written.text_tell, terminatedLines_paintedLines plain,
      List.flatMap_singleton,
      shown_centeredLine]
    exact Text.splitAt_eq_singleton (newline_not_mem_centeredText whole)

/-- The odd space stands on the left. -/
theorem exists_isCentering_odd :
    let renderer : Renderer := ⟨false, false, 9⟩
    let text := "Main".toText
    let line := "|   Main  |".toText
    renderer.color = false ∧ .char '\n' ∉ text ∧ IsCentering 9 text.length 2 1 ∧
      ((line.length : Int) = max (text.length + 2 : Int) 9 + 2) ∧
      (renderer.writeCentered .header text).outcome = .ok () ∧
      (renderer.writeCentered .header text).text = line ++ [.char '\n'] ∧
      terminatedLines (renderer.writeCentered .header text).text = [line] := by
  intro renderer text line
  have whole : .char '\n' ∉ text := by decide
  obtain ⟨left, right, centering, wide, succeeds, drawn, lines⟩ :=
    @exists_isCentering renderer text rfl .header whole
  obtain ⟨rfl, rfl⟩ : left = 2 ∧ right = 1 := isCentering_iff.1 centering
  exact ⟨rfl, whole, centering, wide, succeeds, drawn, lines⟩

end Renderer

end ThreadStacks
