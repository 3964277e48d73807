import ThreadStacks.Proofs.Render.Row

/-!
# What is drawn of a snapshot

The table shows texts of a snapshot beside texts of its own.  A character that the table does not
have by itself is drawn if and only if it stands in what is drawn of the snapshot.
-/

namespace ThreadStacks

/-! ## The drawn texts -/

/-- What is drawn of a frame: a frame without type and method shows its signature. -/
def StackFrame.drawnText (frame : StackFrame) : Text :=
  if frame.type.isEmpty && frame.method.isEmpty then frame.signature
  else frame.type ++ frame.method ++ frame.arguments

/-- What is drawn of the name of a thread. -/
def ThreadId.drawnText (id : ThreadId) : Text := if id.name.isTruthy then id.name.display else []

/-- What is drawn of an exception that is made of texts. -/
def ExceptionObject.drawnText (exception : ExceptionObject) : Text :=
  exception.type.text?.getD [] ++ exception.message.text?.getD []

namespace ThreadGroup

/-- What is drawn of the name of the one thread of a group. -/
def nameText (group : ThreadGroup) : Text :=
  match group.kind with
  | .single => group.representative.id.drawnText
  | .grouped => []

/-- What is drawn of the exception of the one thread of a group. -/
def exceptionText (group : ThreadGroup) : Text :=
  group.drawnException?.elim [] ExceptionObject.drawnText

/-- What is drawn of a group. -/
def drawnText (rawFrames : Bool) (group : ThreadGroup) : Text :=
  group.nameText ++ group.exceptionText ++
    group.representative.frames.flatMap StackFrame.drawnText ++
    if rawFrames then (Renderer.rawTexts group).flatten else []

end ThreadGroup

/-- What is drawn of the groups that a limit leaves. -/
def ParallelThreads.drawnText (rawFrames : Bool) (limit : Option Int) (threads : ParallelThreads) :
    Text :=
  (Renderer.top limit threads.groups).flatMap (ThreadGroup.drawnText rawFrames)

/-! ## Characters of the table -/

/-- Whether the table may have a character by itself. -/
def isTableCharacter (character : CodePoint) : Bool :=
  character.satisfies Char.isAlphanum || " #():,.-".toText.contains character

namespace Renderer

variable {character : CodePoint} {group : ThreadGroup} {threads : ParallelThreads}

section Foreign

variable (foreign : isTableCharacter character = false)

include foreign

theorem not_mem_of_all {text : Text} (own : text.all isTableCharacter = true) :
    character ∉ text := by
  intro member
  rw [List.all_eq_true.1 own character member] at foreign
  contradiction

theorem ne_of_own {own : CodePoint} (isOwn : isTableCharacter own = true) : character ≠ own := by
  rintro rfl
  rw [isOwn] at foreign
  contradiction

theorem not_mem_ofNat (number : Nat) : character ∉ Text.ofNat number := by
  refine not_mem_of_all foreign (List.all_eq_true.2 fun digit member => ?_)
  obtain ⟨digit, inDigits, rfl⟩ := List.mem_map.1 member
  have isDigit := Nat.isDigit_of_mem_toDigits (by decide) (by decide) inDigits
  rw [isTableCharacter, CodePoint.satisfies, Char.isAlphanum, isDigit, Bool.or_true, Bool.true_or]

theorem not_mem_ofInt (number : Int) : character ∉ Text.ofInt number := by
  cases number with
  | ofNat number => exact not_mem_ofNat foreign number
  | negSucc number =>
      have notMinus : character ≠ .char '-' := ne_of_own foreign (by decide)
      rw [Text.ofInt, List.mem_cons, or_iff_right notMinus]
      exact not_mem_ofNat foreign (number + 1)

/-! ## Frames -/

theorem mem_shown_ofArguments_iff {arguments : Text} :
    character ∈ Fragment.shown (Fragment.ofArguments arguments) ↔ character ∈ arguments := by
  have notComma : character ≠ .char ',' := by
    rintro rfl
    contradiction
  have notSpace : character ≠ .char ' ' := by
    rintro rfl
    contradiction
  rw [Fragment.shown_ofArguments, Token.shown_ofArguments,
    Text.mem_intercalate_iff (not_mem_of_all foreign rfl),
    ← Text.exists_mem_splitAt_iff notComma]
  constructor
  · rintro ⟨shown, listed, member⟩
    obtain ⟨argument, inPieces, rfl⟩ := List.mem_map.1 listed
    exact ⟨argument, inPieces, (Token.mem_shownArgument_iff notSpace).1 member⟩
  · rintro ⟨argument, inPieces, member⟩
    exact ⟨_, List.mem_map_of_mem inPieces, (Token.mem_shownArgument_iff notSpace).2 member⟩

theorem mem_joinMethod_iff {type method : Text} :
    character ∈ Name.joinMethod type method ↔ character ∈ type ++ method := by
  rw [Name.joinMethod]
  split
  next noMethod => rw [List.isEmpty_iff.1 noMethod, List.append_nil]
  next =>
    split
    next noType => rw [List.isEmpty_iff.1 noType, List.nil_append]
    next =>
      have notDot : character ≠ .char '.' := ne_of_own foreign (by decide)
      rw [List.mem_append, List.mem_cons, or_iff_right notDot, List.mem_append]

theorem mem_shown_ofFrame_iff {frame : StackFrame} :
    character ∈ Fragment.shown (Fragment.ofFrame frame) ↔ character ∈ frame.drawnText := by
  rw [StackFrame.drawnText]
  split
  next unnamed =>
    rw [Fragment.ofFrame, if_pos unnamed, Fragment.shown, List.flatMap_singleton]
  next named =>
    have isNamed : ¬(frame.type = [] ∧ frame.method = []) := by
      rwa [Bool.and_eq_true, List.isEmpty_iff, List.isEmpty_iff] at named
    have notOpening : character ≠ .char '(' := ne_of_own foreign (by decide)
    have notClosing : character ∉ [.char ')'] := not_mem_of_all foreign rfl
    rw [Fragment.shown_ofFrame isNamed, List.mem_append, List.mem_append, List.mem_cons,
      or_iff_right notOpening, List.mem_append, or_iff_left notClosing,
      mem_joinMethod_iff foreign, mem_shown_ofArguments_iff foreign]

/-! ## Groups -/

theorem not_mem_shown_lockFragments (lockCount : LockCount) :
    character ∉ Fragment.shown (lockFragments lockCount) := by
  rw [lockFragments]
  split
  next => exact List.not_mem_nil
  next =>
    have notLabel : character ∉ "LockCount: ".toText := not_mem_of_all foreign rfl
    have shows : Fragment.shown [⟨.typeName, "LockCount".toText⟩, ⟨.separator, ": ".toText⟩,
        ⟨.methodName, lockCount.text⟩] = "LockCount: ".toText ++ (lockCount.text ++ []) := rfl
    rw [shows, List.mem_append, or_iff_right notLabel, List.append_nil, LockCount.text]
    cases lockCount.count? with
    | none => exact not_mem_of_all foreign rfl
    | some count => exact not_mem_ofNat foreign count

omit foreign in
theorem shown_ofDocument (kind : FragmentKind) (value : Document) :
    Fragment.shown ([Cell.ofDocument kind value].filterMap Cell.fragment?) =
      value.text?.getD [] := by
  cases value with
  | text value => exact List.append_nil value
  | null | bool | integer | float | list | object => rfl

theorem mem_shown_cells_iff {exception : ExceptionObject} :
    character ∈ Fragment.shown (exception.cells.filterMap Cell.fragment?) ↔
      character ∈ exception.drawnText := by
  have notColon : character ∉ Fragment.shown [⟨.separator, ": ".toText⟩] :=
    not_mem_of_all foreign rfl
  obtain ⟨type, message⟩ := exception
  rw [ExceptionObject.cells, ← List.singleton_append, List.filterMap_append,
    Fragment.shown_append, shown_ofDocument, ExceptionObject.drawnText, List.mem_append,
    List.mem_append]
  refine or_congr_right ?_
  cases message with
  | null => rfl
  | text | bool | integer | float | list | object =>
      split
      next isNull => contradiction
      next =>
        rw [← List.singleton_append, List.filterMap_append, Fragment.shown_append,
          shown_ofDocument, List.mem_append]
        exact or_iff_right notColon

theorem mem_shown_exceptionCells_iff :
    character ∈ Fragment.shown ((exceptionCells group).filterMap Cell.fragment?) ↔
      character ∈ group.exceptionText := by
  rw [exceptionCells_eq, ThreadGroup.exceptionText]
  cases group.drawnException? with
  | none => rfl
  | some exception => exact mem_shown_cells_iff foreign

theorem mem_shown_extraFragments_iff :
    character ∈ Fragment.shown (extraFragments group) ↔ character ∈ group.exceptionText := by
  rw [extraFragments, extraCells, List.filterMap_append, map_fragment_filterMap,
    Fragment.shown_append, List.mem_append, mem_shown_exceptionCells_iff foreign,
    or_iff_left]
  rw [Fragment.shown_append, List.mem_append, not_or]
  constructor
  · split
    next => exact List.not_mem_nil
    next => exact not_mem_of_all foreign rfl
  · exact not_mem_shown_lockFragments foreign _

theorem mem_threadHeader_iff {id : ThreadId} :
    character ∈ ThreadGroup.threadHeader id ↔ character ∈ id.drawnText := by
  have notFirst : character ∉ "Thread #".toText := not_mem_of_all foreign rfl
  have notSecond : character ∉ " (OsId: #".toText := not_mem_of_all foreign rfl
  have notOpening : character ∉ " (".toText := not_mem_of_all foreign rfl
  have notClosing : character ≠ .char ')' := ne_of_own foreign (by decide)
  unfold ThreadGroup.threadHeader ThreadId.drawnText
  simp only [List.mem_append, List.mem_cons, notFirst, notSecond, notClosing,
    not_mem_ofInt foreign, false_or]
  split
  next =>
    simp only [List.mem_append, List.mem_singleton, notOpening, notClosing, false_or, or_false]
  next => rfl

theorem not_mem_idsHeader (ids : List Int) : character ∉ ThreadGroup.idsHeader ids := by
  have notComma : character ∉ ", ".toText := not_mem_of_all foreign rfl
  have notMiddle : character ∉ " Threads. (Ids: ".toText :=
    not_mem_of_all foreign rfl
  have notClosing : character ∉ [.char ')'] := not_mem_of_all foreign rfl
  rw [ThreadGroup.idsHeader]
  simp only [List.mem_append, not_mem_ofNat foreign, notMiddle, notClosing,
    Text.mem_intercalate_iff notComma, false_or, or_false, not_or]
  constructor
  · rintro ⟨listed, isListed, member⟩
    obtain ⟨id, -, rfl⟩ := List.mem_map.1 isListed
    exact not_mem_ofInt foreign id member
  · split
    next => exact not_mem_of_all foreign rfl
    next => exact List.not_mem_nil

theorem mem_header_iff : character ∈ group.header ↔ character ∈ group.nameText := by
  rw [ThreadGroup.header, ThreadGroup.nameText]
  cases group.kind with
  | single => exact mem_threadHeader_iff foreign
  | grouped => exact iff_of_false (not_mem_idsHeader foreign _) List.not_mem_nil

/-! ## Rows -/

omit foreign in
theorem mem_shownRows_map_iff {Item : Type} {row : Item → Row} {text : Item → Text}
    {items : List Item}
    (same : ∀ item, character ∈ (row item).shown ↔ character ∈ text item) :
    character ∈ shownRows (items.map row) ↔ character ∈ items.flatMap text := by
  rw [shownRows, List.flatMap_map, List.mem_flatMap, List.mem_flatMap]
  simp only [same]

theorem mem_shownRows_rawRows_iff {rawFrames : Bool} :
    character ∈ shownRows (rawRows rawFrames group) ↔
      character ∈ if rawFrames then (rawTexts group).flatten else [] := by
  have notTitle : character ∉ Fragment.shown [⟨.text, "Raw stack frames:".toText⟩] :=
    not_mem_of_all foreign rfl
  rw [rawRows]
  split
  next =>
    rw [shownRows_cons, shownRows_cons, Row.shown_separator, List.nil_append, Row.shown_line,
      List.mem_append, or_iff_right notTitle, ← List.flatMap_id]
    refine mem_shownRows_map_iff fun raw => ?_
    rw [rawRow, Row.shown_line, Fragment.shown_ofName, id]
  next => rfl

theorem mem_shownRows_extraRows_iff :
    character ∈ shownRows (extraRows group) ↔ character ∈ group.exceptionText := by
  rw [← mem_shown_extraFragments_iff foreign, extraRows]
  split
  next noFragment => rw [List.isEmpty_iff.1 noFragment]; rfl
  next =>
    rw [shownRows_cons, shownRows_cons, Row.shown_line, Row.shown_separator, shownRows_nil,
      List.nil_append, List.append_nil]

theorem mem_shownRows_groupRows_iff {rawFrames : Bool} :
    character ∈ shownRows (groupRows rawFrames group) ↔ character ∈ group.drawnText rawFrames := by
  have frames : character ∈ shownRows (group.representative.frames.map frameRow) ↔
      character ∈ group.representative.frames.flatMap StackFrame.drawnText :=
    mem_shownRows_map_iff fun frame => mem_shown_ofFrame_iff foreign
  rw [groupRows, ThreadGroup.drawnText]
  simp only [shownRows_append, shownRows_cons, shownRows_nil, Row.shown_centered,
    Row.shown_separator, List.nil_append, List.append_nil, List.mem_append, mem_header_iff foreign,
    mem_shownRows_extraRows_iff foreign, frames, mem_shownRows_rawRows_iff foreign]

theorem not_mem_shownRows_overviewRows (threadCount groupCount : Nat) :
    character ∉ shownRows (overviewRows threadCount groupCount) := by
  have notTitle : character ∉ "Parallel Threads".toText :=
    not_mem_of_all foreign rfl
  have notFirst : character ∉ "Thread count: ".toText := not_mem_of_all foreign rfl
  have notSecond : character ∉ "Unique stack traces: ".toText :=
    not_mem_of_all foreign rfl
  have notComma : character ∉ ", ".toText := not_mem_of_all foreign rfl
  rw [overviewRows]
  simp only [shownRows_cons, shownRows_nil, Row.shown_centered, Row.shown_separator,
    Row.shown_line, List.nil_append, List.append_nil, Fragment.shown, List.flatMap_cons,
    List.flatMap_nil, List.mem_append, not_mem_ofNat foreign, notTitle, notFirst, notSecond,
    notComma, or_false, not_false_eq_true]

/-- A character that the table does not have by itself is drawn if and only if it stands in what is
drawn of the snapshot. -/
theorem mem_shownRows_tableRows_iff {rawFrames : Bool} {limit : Option Int} :
    character ∈ shownRows (tableRows rawFrames threads limit) ↔
      character ∈ threads.drawnText rawFrames limit := by
  rw [tableRows, shownRows_append, List.mem_append,
    or_iff_right (not_mem_shownRows_overviewRows foreign _ _), shownRows, List.flatMap_assoc,
    ParallelThreads.drawnText, List.mem_flatMap, List.mem_flatMap]
  exact exists_congr fun group => and_congr_right fun _ => mem_shownRows_groupRows_iff foreign

end Foreign

end Renderer

end ThreadStacks
