import ThreadStacks.Proofs.Render.DrawnText
import ThreadStacks.Render.Operation

/-!
# Colors and layout

Colors are codes around the text of a fragment.  Widths are those of the texts, so deleting the
codes of what is drawn with colors leaves what is drawn without them.
-/

namespace ThreadStacks

namespace Text

/-! ## Terminal codes -/

/-- Whether a character may stand between the bracket and the end of a color code. -/
def isCodeParameter (character : CodePoint) : Bool :=
  isAsciiDigit character || character == .char ';'

/-- The number of characters behind the escape character of the color code that a text starts
with. -/
def codeTail? : Text → Option Nat
  | first :: .char '[' :: rest =>
      if first = Fragment.escape ∧ (rest.dropWhile isCodeParameter).head? = some (.char 'm') then
        some ((rest.takeWhile isCodeParameter).length + 2)
      else none
  | _ => none

/-- Delete every color code, with `consumed` characters at the front that belong to a code already
deleted. -/
def withoutCodesFrom : (consumed : Nat) → Text → Text
  | _, [] => []
  | consumed + 1, _ :: rest => withoutCodesFrom consumed rest
  | 0, character :: rest =>
      match codeTail? (character :: rest) with
      | some tail => withoutCodesFrom tail rest
      | none => character :: withoutCodesFrom 0 rest

/-- Delete every color code: an escape character, a bracket, digits and semicolons, and an `m`. -/
def withoutCodes (text : Text) : Text := withoutCodesFrom 0 text

@[simp] theorem withoutCodes_nil : withoutCodes [] = [] := rfl

theorem withoutCodesFrom_append (consumed rest : Text) :
    withoutCodesFrom consumed.length (consumed ++ rest) = withoutCodes rest := by
  induction consumed with
  | nil => rfl
  | cons character consumed ih => exact ih

theorem withoutCodes_cons {character : CodePoint} (plain : character ≠ Fragment.escape)
    (rest : Text) :
    withoutCodes (character :: rest) = character :: withoutCodes rest := by
  have noCode : codeTail? (character :: rest) = none := by
    unfold codeTail?
    split
    next same =>
      rw [List.cons.injEq] at same
      rw [if_neg]
      rintro ⟨isEscape, -⟩
      exact plain (same.1.trans isEscape)
    next => rfl
  rw [withoutCodes, withoutCodesFrom, noCode, withoutCodes]

/-- A text without escape characters stays. -/
theorem withoutCodes_append {text : Text} (plain : Fragment.escape ∉ text) (rest : Text) :
    withoutCodes (text ++ rest) = text ++ withoutCodes rest := by
  induction text with
  | nil => rfl
  | cons character text ih =>
      rw [List.mem_cons, not_or] at plain
      rw [List.cons_append, withoutCodes_cons (Ne.symm plain.1), ih plain.2]
      rfl

/-- A code is deleted. -/
theorem withoutCodes_code {code : Text} (parameters : code.all isCodeParameter = true)
    (rest : Text) :
    withoutCodes (Fragment.escape :: .char '[' :: code ++ .char 'm' :: rest) =
      withoutCodes rest := by
  have isCode : codeTail? (Fragment.escape :: .char '[' :: code ++ .char 'm' :: rest) =
      some (CodePoint.char '[' :: code ++ [CodePoint.char 'm']).length := by
    have allParameters := List.all_eq_true.1 parameters
    have dropped : (code ++ .char 'm' :: rest).dropWhile isCodeParameter = .char 'm' :: rest := by
      rw [List.dropWhile_append_of_pos allParameters]
      rfl
    have taken : (code ++ .char 'm' :: rest).takeWhile isCodeParameter = code := by
      rw [List.takeWhile_append_of_pos allParameters]
      exact List.append_nil code
    change codeTail? (Fragment.escape :: .char '[' :: (code ++ .char 'm' :: rest)) = _
    rw [codeTail?, dropped, taken, if_pos ⟨rfl, rfl⟩]
    simp
  have behind : .char '[' :: code ++ .char 'm' :: rest = .char '[' :: code ++ [.char 'm'] ++ rest :=
    by simp
  rw [withoutCodes, List.cons_append, withoutCodesFrom, ← List.cons_append, isCode]
  change withoutCodesFrom (CodePoint.char '[' :: code ++ [CodePoint.char 'm']).length
    (.char '[' :: code ++ .char 'm' :: rest) = _
  rw [behind, withoutCodesFrom_append]

end Text

/-- Whether two pieces of work end with the same result, and the second one writes what is left of
the output of the first one when its color codes are deleted. -/
structure AgreesBesideCodes {Result : Type} (colored plain : Drawn Result) : Prop where
  outcome : ∃ result, colored.outcome = .ok result ∧ plain.outcome = .ok result
  text : ∀ rest, Text.withoutCodes (colored.text ++ rest) = plain.text ++ Text.withoutCodes rest

namespace AgreesBesideCodes

variable {Result Next : Type}

theorem pure (result : Result) : AgreesBesideCodes (Pure.pure result) (Pure.pure result) :=
  ⟨⟨result, rfl, rfl⟩, fun _ => rfl⟩

theorem bind {colored plain : Drawn Result} {coloredNext plainNext : Result → Drawn Next}
    (first : AgreesBesideCodes colored plain)
    (next : ∀ result, AgreesBesideCodes (coloredNext result) (plainNext result)) :
    AgreesBesideCodes (colored >>= coloredNext) (plain >>= plainNext) := by
  obtain ⟨coloredOutput, coloredOutcome⟩ := colored
  obtain ⟨plainOutput, plainOutcome⟩ := plain
  obtain ⟨⟨result, rfl, rfl⟩, text⟩ := first
  refine ⟨(next result).outcome, fun rest => ?_⟩
  change Text.withoutCodes ((coloredOutput ++ (coloredNext result).output).flatten ++ rest) =
    (plainOutput ++ (plainNext result).output).flatten ++ Text.withoutCodes rest
  rw [List.flatten_append, List.flatten_append, List.append_assoc, List.append_assoc]
  exact (text _).trans (congrArg (plainOutput.flatten ++ ·) ((next result).text rest))

/-- Items are worked on one after the other. -/
theorem collect {Item : Type} {colored plain : Item → Drawn Result} {items : List Item}
    (agree : ∀ item ∈ items, AgreesBesideCodes (colored item) (plain item)) :
    AgreesBesideCodes (Written.collect colored items) (Written.collect plain items) := by
  induction items with
  | nil => exact pure []
  | cons item items ih =>
      have later := ih fun item member => agree item (List.mem_cons_of_mem _ member)
      exact (agree item List.mem_cons_self).bind fun result =>
        later.bind fun results => pure (result :: results)

end AgreesBesideCodes

namespace Renderer

variable {rawFrames : Bool} {width : Int} {fragments : List Fragment}

/-! ## Drawing with colors and without -/

theorem withoutCodes_fragmentText {fragment : Fragment} (absent : Fragment.escape ∉ fragment.text)
    (rest : Text) :
    Text.withoutCodes ((Renderer.mk true rawFrames width).fragmentText fragment ++ rest) =
      (Renderer.mk false rawFrames width).fragmentText fragment ++ Text.withoutCodes rest := by
  unfold fragmentText
  split
  next code isCode =>
    have parameters : code.all Text.isCodeParameter = true := by
      obtain ⟨kind, text⟩ := fragment
      cases kind <;> cases isCode <;> rfl
    have shape : Fragment.inColor fragment.text code true ++ rest =
        Fragment.escape :: .char '[' :: code ++
          .char 'm' ::
            (fragment.text ++ (Fragment.escape :: .char '[' :: [.char '0'] ++
              .char 'm' :: rest)) := by
      simp [Fragment.inColor]
    rw [shape, Text.withoutCodes_code parameters, Text.withoutCodes_append absent,
      Text.withoutCodes_code rfl]
    rfl
  next => exact Text.withoutCodes_append absent rest

theorem withoutCodes_flatMap_fragmentText (absent : Fragment.escape ∉ Fragment.shown fragments)
    (rest : Text) :
    Text.withoutCodes (fragments.flatMap (Renderer.mk true rawFrames width).fragmentText ++ rest) =
      fragments.flatMap (Renderer.mk false rawFrames width).fragmentText ++
        Text.withoutCodes rest := by
  induction fragments with
  | nil => rfl
  | cons fragment fragments ih =>
      rw [Fragment.shown, List.flatMap_cons, List.mem_append, not_or] at absent
      rw [List.flatMap_cons, List.flatMap_cons, List.append_assoc,
        withoutCodes_fragmentText absent.1,
        ih absent.2, List.append_assoc]

theorem withoutCodes_paintedLines {lines : List (List Fragment)}
    (absent : ∀ line ∈ lines, Fragment.escape ∉ Fragment.shown line) (rest : Text) :
    Text.withoutCodes (((Renderer.mk true rawFrames width).paintedLines lines).flatten ++ rest) =
      ((Renderer.mk false rawFrames width).paintedLines lines).flatten ++
        Text.withoutCodes rest := by
  induction lines with
  | nil => rfl
  | cons line lines ih =>
      rw [List.forall_mem_cons] at absent
      rw [flatten_paintedLines_cons, flatten_paintedLines_cons, List.append_assoc,
        withoutCodes_flatMap_fragmentText absent.1,
        List.cons_append, Text.withoutCodes_cons (by decide), ih absent.2, List.append_assoc,
        List.cons_append]

/-- The lines of rows do not depend on colors. -/
theorem withoutCodes_paintedRows {rows : List Row} (absent : Fragment.escape ∉ shownRows rows)
    (rest : Text) :
    Text.withoutCodes (((Renderer.mk true rawFrames width).paintedRows rows).flatten ++ rest) =
      ((Renderer.mk false rawFrames width).paintedRows rows).flatten ++ Text.withoutCodes rest := by
  have sameLines : Row.lines (Renderer.mk false rawFrames width) =
      Row.lines (Renderer.mk true rawFrames width) := by
    funext row
    cases row <;> rfl
  rw [paintedRows_eq_paintedLines, paintedRows_eq_paintedLines, sameLines]
  refine withoutCodes_paintedLines (fun line isLine member => absent ?_) rest
  obtain ⟨row, isRow, isLine⟩ := List.mem_flatMap.1 isLine
  exact List.mem_flatMap.2 ⟨row, isRow, mem_shown_of_mem_lines (by decide) isLine member⟩

theorem agreesBesideCodes_tell_paintedRows {rows : List Row}
    (absent : Fragment.escape ∉ shownRows rows) :
    AgreesBesideCodes (Written.tell ((Renderer.mk true rawFrames width).paintedRows rows))
      (Written.tell ((Renderer.mk false rawFrames width).paintedRows rows)) :=
  ⟨⟨(), rfl, rfl⟩, withoutCodes_paintedRows absent⟩

theorem agreesBesideCodes_writeRow (row : Row) (absent : Fragment.escape ∉ row.shown) :
    AgreesBesideCodes ((Renderer.mk true rawFrames width).writeRow row)
      ((Renderer.mk false rawFrames width).writeRow row) := by
  rw [← Written.each_singleton (writeRow _) row, ← Written.each_singleton (writeRow _) row,
    each_writeRow, each_writeRow]
  refine agreesBesideCodes_tell_paintedRows ?_
  rwa [shownRows_cons, shownRows_nil, List.append_nil]

theorem agreesBesideCodes_writeFragment {fragment : Fragment}
    (absent : Fragment.escape ∉ fragment.text) :
    AgreesBesideCodes ((Renderer.mk true rawFrames width).writeFragment fragment)
      ((Renderer.mk false rawFrames width).writeFragment fragment) :=
by
  refine AgreesBesideCodes.bind ⟨⟨(), rfl, rfl⟩, fun rest => ?_⟩ fun _ => .pure fragment.text.length
  rw [Written.text_tell, Written.text_tell, List.flatten_singleton, List.flatten_singleton]
  exact withoutCodes_fragmentText absent rest

theorem agreesBesideCodes_writeGroup {group : ThreadGroup}
    (textual : group.representative.IsTextual)
    (absent : Fragment.escape ∉ group.drawnText rawFrames) :
    AgreesBesideCodes ((Renderer.mk true rawFrames width).writeGroup group)
      ((Renderer.mk false rawFrames width).writeGroup group) := by
  rw [writeGroup_eq textual, writeGroup_eq textual]
  exact agreesBesideCodes_tell_paintedRows
    (mt (mem_shownRows_groupRows_iff (by decide)).1 absent)

theorem agreesBesideCodes_writeTable {threads : ParallelThreads} (textual : threads.IsTextual)
    {limit : Option Int} (absent : Fragment.escape ∉ threads.drawnText rawFrames limit) :
    AgreesBesideCodes ((Renderer.mk true rawFrames width).writeTable threads limit)
      ((Renderer.mk false rawFrames width).writeTable threads limit) := by
  rw [writeTable_eq textual, writeTable_eq textual]
  exact agreesBesideCodes_tell_paintedRows
    (mt (mem_shownRows_tableRows_iff (by decide)).1 absent)

end Renderer

namespace RenderOperation

/-- Whether the texts that an operation draws are texts without an escape character. -/
def HasPlainTexts (rawFrames : Bool) : RenderOperation → Prop
  | .fragment drawn => Fragment.escape ∉ drawn.text
  | .newLine => True
  | .separatorLine => True
  | .line fragments => Fragment.escape ∉ Fragment.shown fragments
  | .centered _ text => Fragment.escape ∉ text
  | .group drawn =>
      drawn.representative.IsTextual ∧ Fragment.escape ∉ drawn.drawnText rawFrames
  | .table threads limit =>
      threads.IsTextual ∧ Fragment.escape ∉ threads.drawnText rawFrames limit

variable {rawFrames : Bool} {operation : RenderOperation} {operations : List RenderOperation}

theorem agreesBesideCodes_silently {colored plain : Drawn Unit}
    (agree : AgreesBesideCodes colored plain) :
    AgreesBesideCodes (silently colored) (silently plain) :=
  agree.bind fun _ => .pure none

/-- An operation draws the same with colors and without, beside the codes, and answers the same. -/
theorem agreesBesideCodes_perform (width : Int) (plain : operation.HasPlainTexts rawFrames) :
    AgreesBesideCodes (perform ⟨true, rawFrames, width⟩ operation)
      (perform ⟨false, rawFrames, width⟩ operation) := by
  cases operation with
  | fragment drawn =>
      exact (Renderer.agreesBesideCodes_writeFragment plain).bind fun answer => .pure (some answer)
  | newLine =>
      exact agreesBesideCodes_silently
        ⟨⟨(), rfl, rfl⟩, fun rest => Text.withoutCodes_cons (by decide) rest⟩
  | separatorLine =>
      exact agreesBesideCodes_silently
        (Renderer.agreesBesideCodes_writeRow .separator List.not_mem_nil)
  | line fragments =>
      exact agreesBesideCodes_silently
        (Renderer.agreesBesideCodes_writeRow (.line fragments) plain)
  | centered kind text =>
      rw [HasPlainTexts, ← Row.shown_centered kind text] at plain
      exact agreesBesideCodes_silently
        (Renderer.agreesBesideCodes_writeRow (.centered kind text) plain)
  | group drawn =>
      exact agreesBesideCodes_silently (Renderer.agreesBesideCodes_writeGroup plain.1 plain.2)
  | table threads limit =>
      exact agreesBesideCodes_silently (Renderer.agreesBesideCodes_writeTable plain.1 plain.2)

/-- Colors change nothing but the codes: a renderer with colors writes what one without writes, and
gives the same answers. -/
theorem performAll_color (rawFrames : Bool) (width : Int)
    (plainTexts : ∀ operation ∈ operations, operation.HasPlainTexts rawFrames) :
    let colored := performAll ⟨true, rawFrames, width⟩ operations
    let plain := performAll ⟨false, rawFrames, width⟩ operations
    Text.withoutCodes colored.text = plain.text ∧
      ∃ answers, colored.outcome = .ok answers ∧ plain.outcome = .ok answers := by
  have agree := AgreesBesideCodes.collect fun operation member =>
    agreesBesideCodes_perform width (plainTexts operation member)
  constructor
  · have text := agree.text []
    rwa [List.append_nil, Text.withoutCodes_nil, List.append_nil] at text
  · exact agree.outcome

/-- A thread that waits with an exception in flight. -/
def failingThread : ThreadGroup := ⟨
  ⟨[⟨"Pool".toText, "Wait".toText, "int".toText, "Pool.Wait(int)".toText⟩],
    [.text "Pool.Wait(Int32)".toText], ⟨.text "worker".toText, 4, 44⟩,
    some ⟨.text "Timeout".toText, .text "no answer".toText⟩, .unsupported⟩, []⟩

/-- A fragment by itself and a table. -/
def fragmentAndTable : List RenderOperation :=
  [.fragment ⟨.methodName, "Wait".toText⟩, .newLine, .table ⟨[failingThread]⟩ none]

theorem performAll_color_fragmentAndTable :
    (∀ operation ∈ fragmentAndTable, operation.HasPlainTexts true) ∧
      Text.withoutCodes (performAll ⟨true, true, 30⟩ fragmentAndTable).text =
        (performAll ⟨false, true, 30⟩ fragmentAndTable).text := by
  have plainTexts : ∀ operation ∈ fragmentAndTable, operation.HasPlainTexts true := by
    intro operation member
    rcases List.mem_cons.1 member with rfl | member
    · exact (by decide : Fragment.escape ∉ "Wait".toText)
    rcases List.mem_cons.1 member with rfl | member
    · trivial
    obtain rfl := List.mem_singleton.1 member
    refine ⟨fun group isGroup => ?_, by decide +kernel⟩
    obtain rfl := List.mem_singleton.1 isGroup
    constructor
    · simp [failingThread]
    · rfl
  exact ⟨plainTexts, (performAll_color true 30 plainTexts).1⟩

end RenderOperation

end ThreadStacks
