import Mathlib.Data.List.Forall2
import ThreadStacks.Proofs.Token.Argument
import ThreadStacks.Proofs.Token.Tokenization

/-!
# Blocks of argument tokens

A raw argument list is cut at its commas into pieces, and the tokens of its readable form are cut
at the separators between arguments into blocks.  The two cuts agree: there is one block for each
piece, and what it holds is settled by the words of the piece alone.
-/

namespace ThreadStacks.Token

open Name

variable {separators name argument arguments piece : Text} {token : Token} {tokens : List Token}

/-- Which block of tokens the readable form of a raw argument has. -/
inductive ReadsAs (separators : Text) : Text → List Token → Prop where
  | blank {piece : Text} (isBlank : piece.all Text.isBlank = true) : ReadsAs separators piece []
  | value {piece word : Text} (unmarked : byReferenceMark ∉ Text.words piece)
      (leads : (Text.words piece).find? (· != byReferenceMark) = some word) :
      ReadsAs separators piece (ofName separators (displayTypeName word))
  | reference {piece word : Text} (marked : byReferenceMark ∈ Text.words piece)
      (leads : (Text.words piece).find? (· != byReferenceMark) = some word) :
      ReadsAs separators piece
        (⟨.modifier, modifierWord⟩ ::
          separator (.char ' ') :: ofName separators (displayTypeName word))

/-! ## Tokens of names -/

theorem countP_modifier_ofName (separators name : Text) :
    (ofName separators name).countP (·.kind = .modifier) = 0 := by
  rw [List.countP_eq_zero]
  intro token listed
  exact mt of_decide_eq_true (kind_ne_modifier_of_mem_ofName listed)

/-- The separator between arguments shows a comma. -/
theorem argumentSeparator_not_mem (noComma : .char ',' ∉ shown tokens) :
    argumentSeparator ∉ tokens := by
  intro listed
  exact noComma (List.mem_flatMap.2 ⟨argumentSeparator, listed, by decide⟩)

/-! ## Tokens of arguments -/

theorem ofArgument_of_not_mem (noSpace : .char ' ' ∉ argument) :
    ofArgument separators argument = ofName separators argument := by
  rw [ofArgument, Text.trimSpaces_of_not_mem noSpace, afterModifier?_of_not_mem noSpace]

/-! ## Readable arguments -/

/-- Every argument that shows a type, or is not marked, is read by its words. -/
theorem readsAs_ofRawArgument (notBare : ¬IsBareReference piece) :
    ReadsAs separators piece (ofRawArgument separators piece) := by
  have noSpace : .char ' ' ∉ argumentType piece := space_not_mem_argumentType
  rw [isBareReference_iff, not_and] at notBare
  rw [ofRawArgument, displayArgument_eq]
  cases leads : (Text.words piece).find? (· != byReferenceMark) with
  | none =>
      have noType : argumentType piece = [] := by rw [argumentType, leads]; rfl
      have unmarked : byReferenceMark ∉ Text.words piece := fun marked => notBare marked noType
      have noWords : Text.words piece = [] := by
        apply List.eq_nil_iff_forall_not_mem.2
        intro word listed
        have isMark : word = byReferenceMark := by
          simpa using List.find?_eq_none.1 leads word listed
        exact unmarked (isMark ▸ listed)
      rw [if_neg unmarked, noType]
      exact .blank (Text.words_eq_nil_iff.1 noWords)
  | some word =>
      have isType : argumentType piece = displayTypeName word := by rw [argumentType, leads]; rfl
      rw [isType] at notBare noSpace ⊢
      split
      next marked =>
        rw [byReferenceModifier, ← modifierWord,
          ofArgument_modifier (notBare marked) (Text.trimSpaces_of_not_mem noSpace)]
        exact .reference marked leads
      next unmarked =>
        rw [ofArgument_of_not_mem noSpace]
        exact .value unmarked leads

theorem ReadsAs.countP_modifier (reads : ReadsAs separators piece tokens) :
    tokens.countP (·.kind = .modifier) =
      if byReferenceMark ∈ Text.words piece then 1 else 0 := by
  cases reads with
  | blank isBlank =>
      rw [Text.words_eq_nil_iff.2 isBlank]
      rfl
  | value unmarked leads => rw [countP_modifier_ofName, if_neg unmarked]
  | reference marked leads =>
      rw [List.countP_cons_of_pos rfl, List.countP_cons_of_neg (by decide), countP_modifier_ofName,
        if_pos marked]

theorem shown_ofRawArgument (notBare : ¬IsBareReference piece) :
    shown (ofRawArgument separators piece) = displayArgument piece := by
  rw [ofRawArgument, shown_ofArgument, shownArgument_displayArgument notBare]

theorem countP_intercalate_ofRawArgument {pieces : List Text}
    (noneBare : ∀ piece ∈ pieces, ¬IsBareReference piece) :
    ([argumentSeparator].intercalate (pieces.map (ofRawArgument separators))).countP
        (·.kind = .modifier) =
      pieces.countP (byReferenceMark ∈ Text.words ·) := by
  induction pieces with
  | nil => rfl
  | cons piece pieces ih =>
      have first := (@readsAs_ofRawArgument separators _
        (noneBare piece List.mem_cons_self)).countP_modifier
      have later := ih fun other listed => noneBare other (List.mem_cons_of_mem _ listed)
      rw [List.countP_cons, ← later, Nat.add_comm]
      cases pieces with
      | nil => simpa using first
      | cons second pieces =>
          rw [List.map_cons, List.map_cons, List.intercalate_cons_cons, List.countP_append,
            List.countP_append, first]
          simp [argumentSeparator]

/-- The tokens of a readable argument list show it, fall into one block for each raw argument, and
hold a modifier for each argument by reference and no other. -/
theorem blocks_displayArguments (visible : arguments.all Text.isBlank = false)
    (noneBare : ∀ piece ∈ Text.splitAt (.char ',') arguments, ¬IsBareReference piece) :
    shown (ofArguments separators (displayArguments arguments)) = displayArguments arguments ∧
      List.Forall₂ (ReadsAs separators) (Text.splitAt (.char ',') arguments)
        ((ofArguments separators (displayArguments arguments)).splitOn argumentSeparator) ∧
      (ofArguments separators (displayArguments arguments)).countP (·.kind = .modifier) =
        (Text.splitAt (.char ',') arguments).countP (byReferenceMark ∈ Text.words ·) := by
  refine ⟨(shown_displayArguments separators arguments).2.2 noneBare, ?_, ?_⟩
  · have separated : ∀ block ∈ (Text.splitAt (.char ',') arguments).map (ofRawArgument separators),
        argumentSeparator ∉ block := by
      intro block listed
      obtain ⟨piece, inPieces, rfl⟩ := List.mem_map.1 listed
      apply argumentSeparator_not_mem
      rw [shown_ofRawArgument (noneBare piece inPieces)]
      exact comma_not_mem_displayArgument (Text.not_mem_of_mem_splitAt inPieces)
    rw [ofArguments_displayArguments visible,
      List.splitOn_intercalate argumentSeparator separated (List.cons_ne_nil _ _),
      List.forall₂_map_right_iff, List.forall₂_same]
    intro piece listed
    exact readsAs_ofRawArgument (noneBare piece listed)
  · rw [ofArguments_displayArguments visible, countP_intercalate_ofRawArgument noneBare]

theorem blocks_displayArguments_unusualPieces :
    let raw := "System.Int32 ByRef, ,ref,ByRef A.B+C x".toText
    let pieces := ["System.Int32 ByRef".toText, " ".toText, "ref".toText, "ByRef A.B+C x".toText]
    let tokens := ofArguments nameSeparators (displayArguments raw)
    let modifier : Token := ⟨.modifier, "ref".toText⟩
    let blocks := [[modifier, separator (.char ' '), ⟨.word, "int".toText⟩], [],
      [⟨.word, "ref".toText⟩],
      [modifier, separator (.char ' '), ⟨.word, "A".toText⟩, separator (.char '.'),
        ⟨.word, "B".toText⟩,
        separator (.char '.'), ⟨.word, "C".toText⟩]]
    raw.all Text.isBlank = false ∧ (∀ piece ∈ pieces, ¬IsBareReference piece) ∧
      shown tokens = "ref int, , ref, ref A.B.C".toText ∧
      List.Forall₂ (ReadsAs nameSeparators) pieces blocks ∧
      tokens.countP (·.kind = .modifier) = 2 := by
  intro raw pieces tokens modifier blocks
  have visible : raw.all Text.isBlank = false := by decide
  have noneBare : ∀ piece ∈ pieces, ¬IsBareReference piece := by decide
  have isCut : Text.splitAt (.char ',') raw = pieces := by decide
  have isList : displayArguments raw = "ref int, , ref, ref A.B.C".toText := by decide
  have agree := @blocks_displayArguments nameSeparators raw visible (isCut ▸ noneBare)
  rw [isCut, isList] at agree
  have isBlocks : (ofArguments nameSeparators "ref int, , ref, ref A.B.C".toText).splitOn
      argumentSeparator = blocks := by decide
  have references : pieces.countP (byReferenceMark ∈ Text.words ·) = 2 := by decide
  rw [isBlocks, references] at agree
  simp only [tokens, isList]
  exact ⟨visible, noneBare, agree⟩

end ThreadStacks.Token
