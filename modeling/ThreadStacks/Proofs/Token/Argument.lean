import ThreadStacks.Proofs.Name.Argument
import ThreadStacks.Proofs.Token.Text

/-!
# Tokens of readable arguments

The tokens of a readable argument list show it again, unless an argument is marked as passed by
reference and shows no type: the space behind its modifier is lost, and nothing is put in its place.
-/

namespace ThreadStacks.Token

open Name

variable {separators argument arguments : Text}

theorem shownArgument_displayArgument (notBare : ¬IsBareReference argument) :
    shownArgument (displayArgument argument) = displayArgument argument := by
  have noSpace : .char ' ' ∉ argumentType argument := space_not_mem_argumentType
  rw [isBareReference_iff, not_and] at notBare
  rw [displayArgument_eq]
  split
  next marked => exact shownArgument_modifier (notBare marked) (Text.trimSpaces_of_not_mem noSpace)
  next => exact shownArgument_of_not_mem noSpace

theorem length_shownArgument_displayArgument (bare : IsBareReference argument) :
    (shownArgument (displayArgument argument)).length + 1 = (displayArgument argument).length := by
  obtain ⟨marked, noType⟩ := isBareReference_iff.1 bare
  rw [displayArgument_eq, if_pos marked, noType]
  decide

/-! ## Lists of arguments -/

/-- Shortening texts shortens the joined text, and keeps its length only if it keeps all of
theirs. -/
theorem length_intercalate_map (separator : Text) {shorten : Text → Text} {texts : List Text}
    (shorter : ∀ text ∈ texts, (shorten text).length ≤ text.length) :
    (separator.intercalate (texts.map shorten)).length ≤ (separator.intercalate texts).length ∧
      ((separator.intercalate (texts.map shorten)).length =
          (separator.intercalate texts).length →
        ∀ text ∈ texts, (shorten text).length = text.length) := by
  induction texts with
  | nil => simp
  | cons first texts ih =>
      have atFirst := shorter first List.mem_cons_self
      have shorterLater : ∀ text ∈ texts, (shorten text).length ≤ text.length := by
        intro text listed
        exact shorter text (List.mem_cons_of_mem _ listed)
      obtain ⟨notLonger, keeps⟩ := ih shorterLater
      cases texts with
      | nil => simpa using atFirst
      | cons second texts =>
          rw [List.map_cons] at notLonger keeps
          rw [List.map_cons, List.map_cons, List.intercalate_cons_cons, List.intercalate_cons_cons]
          simp only [List.length_append]
          constructor
          · omega
          · intro same text listed
            rcases List.mem_cons.1 listed with rfl | later
            · omega
            · exact keeps (by omega) text later

theorem ofArguments_intercalate {pieces : List Text}
    (noComma : ∀ other ∈ piece :: pieces, .char ',' ∉ other) :
    ofArguments separators (", ".toText.intercalate (piece :: pieces)) =
      [argumentSeparator].intercalate ((piece :: pieces).map (ofArgument separators)) := by
  have spaced : ofArgument separators ∘ (.char ' ' :: ·) = ofArgument separators := by
    funext other
    exact ofArgument_space
  rw [ofArguments_eq, splitAt_commaSpace noComma, List.map_cons, List.map_map, spaced,
    List.map_cons]

/-- The tokens of the readable form of a raw argument. -/
def ofRawArgument (separators piece : Text) : List Token :=
  ofArgument separators (displayArgument piece)

theorem ofArguments_displayArguments (visible : arguments.all Text.isBlank = false) :
    ofArguments separators (displayArguments arguments) =
      [argumentSeparator].intercalate
        ((Text.splitAt (.char ',') arguments).map (ofRawArgument separators)) := by
  rw [displayArguments_eq visible]
  have noComma : ∀ other ∈ (Text.splitAt (.char ',') arguments).map displayArgument,
      .char ',' ∉ other := by
    intro other listed
    obtain ⟨piece, inPieces, rfl⟩ := List.mem_map.1 listed
    exact comma_not_mem_displayArgument (Text.not_mem_of_mem_splitAt inPieces)
  rw [Text.splitAt, List.map_cons] at noComma
  rw [Text.splitAt, List.map_cons, ofArguments_intercalate noComma, ← List.map_cons, List.map_map]
  rfl

theorem shown_ofArguments_displayArguments (visible : arguments.all Text.isBlank = false) :
    shown (ofArguments separators (displayArguments arguments)) =
      ", ".toText.intercalate
        (((Text.splitAt (.char ',') arguments).map displayArgument).map shownArgument) := by
  have shows : shown ∘ ofRawArgument separators = shownArgument ∘ displayArgument := by
    funext piece
    exact shown_ofArgument separators (displayArgument piece)
  rw [ofArguments_displayArguments visible, shown_intercalate, List.map_map, List.map_map, shows]

theorem not_isBareReference_of_blank (blank : arguments.all Text.isBlank = true) :
    ∀ piece ∈ Text.splitAt (.char ',') arguments, ¬IsBareReference piece := by
  rintro piece listed ⟨marked, -⟩
  have isBlank : piece.all Text.isBlank = true := by
    rw [List.all_eq_true] at blank ⊢
    intro character member
    exact blank character ((Text.infix_of_mem_splitAt listed).subset member)
  rw [Text.words_eq_nil_iff.2 isBlank] at marked
  contradiction

/-- What the tokens of a readable argument list show is never longer than the list, and is the list
unless an argument by reference shows no type. -/
theorem shown_displayArguments (separators arguments : Text) :
    (shown (ofArguments separators (displayArguments arguments))).length ≤
        (displayArguments arguments).length ∧
      (shown (ofArguments separators (displayArguments arguments)) = displayArguments arguments ↔
        ∀ piece ∈ Text.splitAt (.char ',') arguments, ¬IsBareReference piece) := by
  cases visible : arguments.all Text.isBlank with
  | true =>
      have noList : displayArguments arguments = [] := by rw [displayArguments, if_pos visible]
      rw [noList]
      constructor
      · exact Nat.le_refl _
      · exact iff_of_true rfl (not_isBareReference_of_blank visible)
  | false =>
      have shorter : ∀ text ∈ (Text.splitAt (.char ',') arguments).map displayArgument,
          (shownArgument text).length ≤ text.length := by
        intro text listed
        obtain ⟨piece, -, rfl⟩ := List.mem_map.1 listed
        by_cases bare : IsBareReference piece
        · have shortens := length_shownArgument_displayArgument bare
          omega
        · exact Nat.le_of_eq (congrArg List.length (shownArgument_displayArgument bare))
      obtain ⟨notLonger, keeps⟩ := length_intercalate_map ", ".toText shorter
      rw [shown_ofArguments_displayArguments visible, displayArguments_eq visible]
      refine ⟨notLonger, ?_, ?_⟩
      · intro same piece listed bare
        have kept := keeps (congrArg List.length same) _ (List.mem_map_of_mem listed)
        have shortens := length_shownArgument_displayArgument bare
        omega
      · intro noneBare
        rw [List.map_map]
        congr 1
        apply List.map_congr_left
        intro piece listed
        exact shownArgument_displayArgument (noneBare piece listed)

end ThreadStacks.Token
