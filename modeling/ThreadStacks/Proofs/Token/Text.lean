import ThreadStacks.Proofs.Text.Pieces
import ThreadStacks.Proofs.Text.Trim
import ThreadStacks.Token.Basic

/-!
# What tokens show

The tokens of a name show the name.  The tokens of an argument list show its arguments without the
spaces around them: a modifier with nothing behind it loses its space and is no modifier any more.
-/

namespace ThreadStacks.Token

variable {separators name argument : Text}

/-- The texts of tokens one after the other. -/
def shown (tokens : List Token) : Text := tokens.flatMap Token.text

@[simp] theorem shown_append {front back : List Token} :
    shown (front ++ back) = shown front ++ shown back :=
  List.flatMap_append

theorem shown_consCharacter (character : CodePoint) (tokens : List Token) :
    shown (consCharacter character tokens) = character :: shown tokens := by
  cases tokens with
  | nil => rfl
  | cons token rest =>
      cases token with
      | mk kind text =>
          cases kind with
          | word => rfl
          | separator => rfl
          | modifier => rfl

/-- No character of a name is lost. -/
@[simp] theorem shown_ofName (separators name : Text) : shown (ofName separators name) = name := by
  induction name with
  | nil => rfl
  | cons character name ih =>
      rw [ofName]
      split
      next =>
        rw [shown, List.flatMap_cons]
        exact congrArg (character :: ·) ih
      next => rw [shown_consCharacter, ih]

/-! ## Arguments -/

/-- What the tokens of one argument show. -/
def shownArgument (argument : Text) : Text :=
  match afterModifier? argument.trimSpaces with
  | some type => modifierWord ++ .char ' ' :: type
  | none => argument.trimSpaces

theorem shown_ofArgument (separators argument : Text) :
    shown (ofArgument separators argument) = shownArgument argument := by
  rw [ofArgument, shownArgument]
  cases afterModifier? argument.trimSpaces with
  | some type =>
      rw [shown, List.flatMap_cons, List.flatMap_cons]
      exact congrArg (modifierWord ++ .char ' ' :: ·) (shown_ofName separators type)
  | none => exact shown_ofName separators argument.trimSpaces

/-- A character that is no space is shown if and only if the argument holds it. -/
theorem mem_shownArgument_iff {character : CodePoint} (notSpace : character ≠ .char ' ') :
    character ∈ shownArgument argument ↔ character ∈ argument := by
  have trimmed {text : Text} := @Text.mem_trimSpaces_iff text _ notSpace
  rw [shownArgument]
  split
  next type found =>
    rw [afterModifier?] at found
    split at found
    next starts =>
      obtain ⟨behind, cut⟩ := List.isPrefixOf_iff_prefix.1 starts
      have isType : Text.trimSpaces behind = type := by
        rw [← Option.some.inj found, ← cut]
        rfl
      rw [← isType, ← List.singleton_append, ← List.append_assoc, List.mem_append, trimmed,
        ← List.mem_append, cut, trimmed]
    next => contradiction
  next => exact trimmed

/-! ## Argument lists -/

@[simp] theorem ofArgument_space :
    ofArgument separators (.char ' ' :: argument) = ofArgument separators argument := by
  rw [ofArgument, ofArgument, Text.trimSpaces_space_cons]

theorem ofArgument_append_ofLaterArguments (first : Text) (arguments : List Text) :
    ofArgument separators first ++ ofLaterArguments separators arguments =
      [argumentSeparator].intercalate ((first :: arguments).map (ofArgument separators)) := by
  induction arguments generalizing first with
  | nil => simp [ofLaterArguments]
  | cons second arguments ih =>
      rw [List.map_cons, List.map_cons, List.intercalate_cons_cons, ← List.map_cons, ← ih]
      rw [ofLaterArguments, List.flatMap_cons, ← ofLaterArguments, List.append_assoc]
      rfl

/-- The tokens of an argument list are those of its arguments, with separators between them. -/
theorem ofArguments_eq (separators arguments : Text) :
    ofArguments separators arguments =
      [argumentSeparator].intercalate
        ((Text.splitAt (.char ',') arguments).map (ofArgument separators)) := by
  rw [ofArguments, Text.splitAt]
  cases arguments with
  | nil => rfl
  | cons character arguments =>
      rw [if_neg (by simp)]
      exact ofArgument_append_ofLaterArguments _ _

theorem shown_intercalate (blocks : List (List Token)) :
    shown ([argumentSeparator].intercalate blocks) =
      ", ".toText.intercalate (blocks.map shown) := by
  induction blocks with
  | nil => rfl
  | cons first blocks ih =>
      cases blocks with
      | nil => simp
      | cons second blocks =>
          rw [List.map_cons] at ih
          rw [List.map_cons, List.map_cons, List.intercalate_cons_cons, List.intercalate_cons_cons,
            shown_append, shown_append, ih]
          rfl

/-- The tokens of an argument list show its arguments one by one. -/
theorem shown_ofArguments (separators arguments : Text) :
    shown (ofArguments separators arguments) =
      ", ".toText.intercalate ((Text.splitAt (.char ',') arguments).map shownArgument) := by
  have shows : shown ∘ ofArgument separators = shownArgument := by
    funext argument
    exact shown_ofArgument separators argument
  rw [ofArguments_eq, shown_intercalate, List.map_map, shows]

/-! ## Modifiers -/

/-- An argument without a space has no modifier. -/
theorem afterModifier?_of_not_mem (noSpace : .char ' ' ∉ argument) :
    afterModifier? argument = none := by
  rw [afterModifier?, if_neg]
  intro starts
  exact noSpace ((List.isPrefixOf_iff_prefix.1 starts).subset (by simp))

/-- An argument without a space is shown as it stands. -/
theorem shownArgument_of_not_mem (noSpace : .char ' ' ∉ argument) :
    shownArgument argument = argument := by
  rw [shownArgument, Text.trimSpaces_of_not_mem noSpace, afterModifier?_of_not_mem noSpace]

section Modifier

variable {type : Text} (nonempty : type ≠ []) (trimmed : type.trimSpaces = type)

include trimmed

theorem afterModifier?_modifier :
    afterModifier? (modifierWord ++ .char ' ' :: type) = some type := by
  have starts : (modifierWord ++ [CodePoint.char ' ']).isPrefixOf
      (modifierWord ++ .char ' ' :: type) = true :=
    List.isPrefixOf_iff_prefix.2 ⟨type, rfl⟩
  have behind : (modifierWord ++ .char ' ' :: type).drop (modifierWord.length + 1) = type := rfl
  rw [afterModifier?, if_pos starts, behind, trimmed]

include nonempty

/-- The space behind a modifier is no end of the argument, so it is not trimmed. -/
theorem trimSpaces_modifier :
    Text.trimSpaces (modifierWord ++ .char ' ' :: type) = modifierWord ++ .char ' ' :: type := by
  have start : (modifierWord ++ .char ' ' :: type).head? = some (.char 'r') := rfl
  have ending : (modifierWord ++ .char ' ' :: type).getLast? = type.getLast? := by
    rw [List.getLast?_append, List.getLast?_cons, List.getLast?_eq_some_getLast nonempty]
    rfl
  apply Text.trimSpaces_eq_self
  · rw [start]
    decide
  · rw [ending, ← trimmed]
    exact Text.getLast?_trimSpaces_ne

/-- A type behind a modifier is shown with it. -/
theorem shownArgument_modifier :
    shownArgument (modifierWord ++ .char ' ' :: type) = modifierWord ++ .char ' ' :: type := by
  rw [shownArgument, trimSpaces_modifier nonempty trimmed, afterModifier?_modifier trimmed]

theorem ofArgument_modifier :
    ofArgument separators (modifierWord ++ .char ' ' :: type) =
      ⟨.modifier, modifierWord⟩ :: separator (.char ' ') :: ofName separators type := by
  rw [ofArgument, trimSpaces_modifier nonempty trimmed, afterModifier?_modifier trimmed]

end Modifier

end ThreadStacks.Token
