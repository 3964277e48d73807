import Mathlib.Data.List.Basic
import ThreadStacks.Name.Argument
import ThreadStacks.Proofs.Name.Characters
import ThreadStacks.Proofs.Text.Pieces
import ThreadStacks.Proofs.Text.Words

/-!
# Readable argument lists

An argument list is read piece by piece between commas, and of a piece only the words count: the
space behind a comma does not.
-/

namespace ThreadStacks.Name

variable {argument arguments : Text}

theorem displayArguments_eq (visible : arguments.all Text.isBlank = false) :
    displayArguments arguments =
      ", ".toText.intercalate ((Text.splitAt (.char ',') arguments).map displayArgument) := by
  rw [displayArguments, if_neg (by simp [visible])]

@[simp] theorem displayArgument_space :
    displayArgument (.char ' ' :: argument) = displayArgument argument := by
  have isBlank : Text.isBlank (.char ' ') = true := by decide
  rw [displayArgument, displayArgument, Text.words_blank_cons isBlank]

/-- A list of blanks has one argument, which shows nothing. -/
theorem displayArguments_eq_intercalate (arguments : Text) :
    displayArguments arguments =
      ", ".toText.intercalate ((Text.splitAt (.char ',') arguments).map displayArgument) := by
  cases visible : arguments.all Text.isBlank with
  | false => exact displayArguments_eq visible
  | true =>
      have noComma : .char ',' ∉ arguments := fun member =>
        absurd (List.all_eq_true.1 visible (.char ',') member) (by decide)
      have noWords : Text.words arguments = [] := Text.words_eq_nil_iff.2 visible
      rw [displayArguments, if_pos visible, Text.splitAt_eq_singleton noComma, List.map_singleton,
        List.intercalate_singleton, displayArgument, noWords]
      rfl

theorem displayArgument_splitAt_space (text : Text) :
    (Text.splitAt (.char ',') (.char ' ' :: text)).map displayArgument =
      (Text.splitAt (.char ',') text).map displayArgument := by
  have noCut : CodePoint.char ' ' ≠ .char ',' := by decide
  simp [Text.splitAt, Text.piecesAt, noCut]

theorem intercalate_commaSpace_cons (first second : Text) (texts : List Text) :
    ", ".toText.intercalate (first :: second :: texts) =
      first ++ .char ',' :: .char ' ' :: ", ".toText.intercalate (second :: texts) := by
  rw [List.intercalate_cons_cons, List.append_assoc]
  rfl

/-- The pieces of joined texts are made readable text by text. -/
theorem map_displayArgument_splitAt_intercalate {texts : List Text} (nonempty : texts ≠ []) :
    (Text.splitAt (.char ',') (", ".toText.intercalate texts)).map displayArgument =
      texts.flatMap fun text => (Text.splitAt (.char ',') text).map displayArgument := by
  induction texts with
  | nil => contradiction
  | cons first texts ih =>
      cases texts with
      | nil => simp
      | cons second texts =>
          have later := ih (List.cons_ne_nil _ _)
          rw [intercalate_commaSpace_cons, Text.splitAt_append_cons, List.map_append,
            displayArgument_splitAt_space, later]
          rfl

theorem intercalate_commaSpace (piece : Text) (pieces : List Text) :
    ", ".toText.intercalate (piece :: pieces) =
      [.char ','].intercalate (piece :: pieces.map (.char ' ' :: ·)) := by
  induction pieces generalizing piece with
  | nil => simp
  | cons second pieces ih =>
      rw [List.intercalate_cons_cons, ih, List.map_cons, List.intercalate_cons_cons]
      cases pieces with
      | nil => simp
      | cons third pieces => simp [List.intercalate_cons_cons]

/-- Cutting at commas gives back texts without commas, the later ones behind a space. -/
theorem splitAt_commaSpace {piece : Text} {pieces : List Text}
    (noComma : ∀ other ∈ piece :: pieces, .char ',' ∉ other) :
    Text.splitAt (.char ',') (", ".toText.intercalate (piece :: pieces)) =
      piece :: pieces.map (.char ' ' :: ·) := by
  have spaced : ∀ other ∈ piece :: pieces.map (.char ' ' :: ·), .char ',' ∉ other := by
    intro other listed
    rcases List.mem_cons.1 listed with rfl | later
    · exact noComma other List.mem_cons_self
    · obtain ⟨second, inPieces, rfl⟩ := List.mem_map.1 later
      rw [List.mem_cons, not_or]
      exact ⟨by decide, noComma second (List.mem_cons_of_mem _ inPieces)⟩
  rw [intercalate_commaSpace, Text.splitAt_eq_splitOn,
    List.splitOn_intercalate (CodePoint.char ',') spaced (List.cons_ne_nil _ _)]

/-- Arguments joined by commas and spaces are made readable one by one. -/
theorem displayArguments_intercalate {pieces : List Text}
    (noComma : ∀ piece ∈ pieces, .char ',' ∉ piece) :
    displayArguments (", ".toText.intercalate pieces) =
      ", ".toText.intercalate (pieces.map displayArgument) := by
  cases pieces with
  | nil => rfl
  | cons piece pieces =>
      have uncut : ∀ text ∈ piece :: pieces,
          (Text.splitAt (.char ',') text).map displayArgument = [displayArgument text] := by
        intro text listed
        rw [Text.splitAt_eq_singleton (noComma text listed), List.map_singleton]
      rw [displayArguments_eq_intercalate,
        map_displayArgument_splitAt_intercalate (List.cons_ne_nil _ _), List.flatMap_congr uncut,
        List.map_eq_flatMap]

/-- Texts without commas are told apart when they are joined by commas and spaces. -/
theorem intercalate_commaSpace_inj {pieces others : List Text} (nonempty : pieces ≠ [])
    (nonemptyOthers : others ≠ []) (noComma : ∀ piece ∈ pieces, .char ',' ∉ piece)
    (noCommaOthers : ∀ other ∈ others, .char ',' ∉ other) :
    ", ".toText.intercalate pieces = ", ".toText.intercalate others ↔ pieces = others := by
  constructor
  · intro same
    obtain ⟨piece, pieces, rfl⟩ := List.exists_cons_of_ne_nil nonempty
    obtain ⟨other, others, rfl⟩ := List.exists_cons_of_ne_nil nonemptyOthers
    have sameCut := congrArg (Text.splitAt (.char ',')) same
    rw [splitAt_commaSpace noComma, splitAt_commaSpace noCommaOthers] at sameCut
    obtain ⟨samePiece, sameLater⟩ := List.cons.inj sameCut
    rw [samePiece, (List.map_inj_right fun _ _ => List.tail_eq_of_cons_eq).1 sameLater]
  · exact congrArg _

/-! ## Arguments by reference -/

/-- A word, with the mark behind it or without. -/
def encodeMarked (marked : Bool) (word : Text) : Text :=
  word ++ if marked then .char ' ' :: byReferenceMark else []

/-- The modifier and a space, or nothing. -/
def modifierIf (marked : Bool) : Text := if marked then byReferenceModifier ++ [.char ' '] else []

/-- The readable form of a word with the mark behind it or without.  The mark in place of a type is
a mark all the same, and shows no type. -/
def displayMarked (marked : Bool) (word : Text) : Text :=
  if word = byReferenceMark then modifierIf true else modifierIf marked ++ displayTypeName word

theorem displayArgument_encodeMarked {word : Text}
    (noBlank : ∀ character ∈ word, Text.isBlank character = false) (marked : Bool) :
    displayArgument (encodeMarked marked word) = displayMarked marked word := by
  have spaceIsBlank : Text.isBlank (.char ' ') = true := by decide
  have mark : Text.words byReferenceMark = [byReferenceMark] := by decide
  have isWords : Text.words (encodeMarked marked word) =
      Text.words word ++ if marked then [byReferenceMark] else [] := by
    cases marked with
    | false => simp [encodeMarked]
    | true => simp [encodeMarked, Text.words_append_blank spaceIsBlank, mark]
  rw [displayArgument, isWords, displayMarked]
  by_cases empty : word = []
  · subst empty
    cases marked with
    | false => rfl
    | true => rfl
  · rw [Text.words_of_not_blank empty noBlank]
    by_cases isMark : word = byReferenceMark
    · subst isMark
      cases marked with
      | false => rfl
      | true => rfl
    · cases marked with
      | false => simp [displayArgumentWords, modifierIf, isMark, Ne.symm isMark]
      | true => simp [displayArgumentWords, modifierIf, isMark]

/-- The readable type of a raw argument. -/
def argumentType (argument : Text) : Text :=
  (((Text.words argument).find? (· != byReferenceMark)).map displayTypeName).getD []

/-- Whether an argument is marked as passed by reference but shows no type: its first other word is
missing, or has an empty readable form. -/
def IsBareReference (argument : Text) : Prop :=
  byReferenceMark ∈ Text.words argument ∧
    ∀ word, (Text.words argument).find? (· != byReferenceMark) = some word →
      displayTypeName word = []

theorem displayArgument_eq (argument : Text) :
    displayArgument argument =
      if byReferenceMark ∈ Text.words argument then
        byReferenceModifier ++ .char ' ' :: argumentType argument
      else argumentType argument := by
  rw [displayArgument, displayArgumentWords, argumentType]
  simp only [List.contains_iff_mem]

theorem isBareReference_iff :
    IsBareReference argument ↔
      byReferenceMark ∈ Text.words argument ∧ argumentType argument = [] := by
  apply and_congr_right
  intro _
  rw [argumentType]
  cases (Text.words argument).find? (· != byReferenceMark) with
  | none => simp
  | some word => simp

instance (argument : Text) : Decidable (IsBareReference argument) :=
  decidable_of_iff _ isBareReference_iff.symm

/-- The readable type of an argument holds no space, and a comma only if the argument does. -/
theorem not_mem_argumentType {character : CodePoint} (foreign : IsForeign character)
    (absent : ∀ word ∈ Text.words argument, character ∉ word) :
    character ∉ argumentType argument := by
  rw [argumentType]
  cases found : (Text.words argument).find? (· != byReferenceMark) with
  | none => exact List.not_mem_nil
  | some word =>
      exact not_mem_displayTypeName foreign (absent word (List.mem_of_find?_eq_some found))

theorem space_not_mem_argumentType : .char ' ' ∉ argumentType argument := by
  apply not_mem_argumentType (by decide)
  intro word listed inWord
  have notBlank := ((Text.mem_words listed).2 (.char ' ') inWord).2
  exact absurd notBlank (by decide)

theorem comma_not_mem_displayArgument (noComma : .char ',' ∉ argument) :
    .char ',' ∉ displayArgument argument := by
  have absent : .char ',' ∉ argumentType argument := by
    apply not_mem_argumentType (by decide)
    intro word listed inWord
    exact noComma ((Text.mem_words listed).2 (.char ',') inWord).1
  rw [displayArgument_eq]
  split
  next =>
    intro member
    rcases List.mem_append.1 member with inModifier | behind
    · exact absurd inModifier (by decide)
    · rcases List.mem_cons.1 behind with isSpace | inType
      · exact absurd isSpace (by decide)
      · exact absent inType
  next => exact absent

end ThreadStacks.Name
