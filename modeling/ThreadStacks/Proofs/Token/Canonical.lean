import ThreadStacks.Proofs.Token.Block

/-!
# Canonical argument lists

The tokens of any argument list show it in a canonical form, which differs from it in spaces only:
an argument has none around it, and there is one between a modifier and its type.  A list in this
form is cut into the tokens that it came from.
-/

namespace ThreadStacks.Token

variable {separators argument arguments type : Text} {token : Token} {tokens : List Token}

/-- An argument without the spaces around it, and with one space behind the modifier if it starts
with one. -/
def canonicalArgument (argument : Text) : Text :=
  let trimmed := argument.trimSpaces
  if (modifierWord ++ [CodePoint.char ' ']).isPrefixOf trimmed then
    modifierWord ++ CodePoint.char ' ' ::
      (trimmed.drop modifierWord.length).dropWhile (· == CodePoint.char ' ')
  else trimmed

/-- Whether tokens belong to an argument: they show it, none of them is empty, and a modifier among
them is followed by a space and by something to modify. -/
structure IsArgumentBlock (argument : Text) (tokens : List Token) : Prop where
  canonical : shown tokens = canonicalArgument argument
  nonempty : ∀ token ∈ tokens, token.text ≠ []
  modifies : ∀ front token back, tokens = front ++ token :: back → token.kind = .modifier →
    token.text = modifierWord ∧ ∃ next later, back = separator (.char ' ') :: next :: later

/-! ## One argument -/

/-- What stands behind a modifier is not empty, and has no spaces around it. -/
theorem afterModifier?_trimSpaces_eq_some
    (found : afterModifier? argument.trimSpaces = some type) :
    type ≠ [] ∧ type.trimSpaces = type ∧
      canonicalArgument argument = modifierWord ++ .char ' ' :: type := by
  have ending : argument.trimSpaces.getLast? ≠ some (.char ' ') := Text.getLast?_trimSpaces_ne
  rw [canonicalArgument]
  generalize argument.trimSpaces = trimmed at found ending ⊢
  rw [afterModifier?] at found
  split at found
  next starts =>
    obtain ⟨behind, rfl⟩ := List.isPrefixOf_iff_prefix.1 starts
    have isType : Text.trimSpaces behind = type := Option.some.inj found
    rw [List.getLast?_append] at ending
    cases isLast : behind.getLast? with
    | none =>
        rw [isLast] at ending
        contradiction
    | some last =>
        rw [isLast, Option.some_or] at ending
        have notSpace : last ≠ .char ' ' := fun same => ending (same ▸ rfl)
        have kept : last ∈ Text.trimSpaces behind :=
          (Text.mem_trimSpaces_iff notSpace).2 (List.mem_of_getLast? isLast)
        refine ⟨isType ▸ List.ne_nil_of_mem kept, isType ▸ Text.trimSpaces_trimSpaces, ?_⟩
        have rest : (modifierWord ++ [CodePoint.char ' '] ++ behind).drop modifierWord.length =
            .char ' ' :: behind := rfl
        have noEnd : behind.getLast? ≠ some (.char ' ') := isLast ▸ ending
        simp only [if_pos starts, rest, ← isType, Text.trimSpaces_eq_dropWhile noEnd]
        rfl
  next => contradiction

theorem canonicalArgument_of_afterModifier?_eq_none
    (missing : afterModifier? argument.trimSpaces = none) :
    canonicalArgument argument = argument.trimSpaces := by
  rw [afterModifier?, ite_eq_right_iff] at missing
  rw [canonicalArgument, if_neg]
  exact fun starts => Option.some_ne_none _ (missing starts)

theorem shownArgument_eq_canonicalArgument (argument : Text) :
    shownArgument argument = canonicalArgument argument := by
  rw [shownArgument]
  cases found : afterModifier? argument.trimSpaces with
  | some type => exact (afterModifier?_trimSpaces_eq_some found).2.2.symm
  | none => exact (canonicalArgument_of_afterModifier?_eq_none found).symm

/-- The tokens of an argument are also those of its canonical form. -/
theorem ofArgument_canonicalArgument :
    ofArgument separators (canonicalArgument argument) = ofArgument separators argument := by
  cases found : afterModifier? argument.trimSpaces with
  | some type =>
      obtain ⟨nonempty, trimmed, isCanonical⟩ := afterModifier?_trimSpaces_eq_some found
      rw [isCanonical, ofArgument_modifier nonempty trimmed, ofArgument, found]
  | none =>
      rw [canonicalArgument_of_afterModifier?_eq_none found, ofArgument,
        Text.trimSpaces_trimSpaces, ofArgument]

theorem isArgumentBlock_ofArgument (separators argument : Text) :
    IsArgumentBlock argument (ofArgument separators argument) := by
  have shows : shown (ofArgument separators argument) = canonicalArgument argument :=
    (shown_ofArgument separators argument).trans (shownArgument_eq_canonicalArgument argument)
  refine ⟨shows, ?_, ?_⟩
  · rw [ofArgument]
    cases afterModifier? argument.trimSpaces with
    | some type =>
        refine List.forall_mem_cons.2 ⟨by decide, List.forall_mem_cons.2 ⟨by decide, ?_⟩⟩
        exact fun token listed => (isNameToken_of_mem_ofName listed).text_ne_nil
    | none => exact fun token listed => (isNameToken_of_mem_ofName listed).text_ne_nil
  · intro front token back split isModifier
    rw [ofArgument] at split
    cases found : afterModifier? argument.trimSpaces with
    | none =>
        rw [found] at split
        have listed : token ∈ ofName separators argument.trimSpaces := by
          simp only [split, List.mem_append, List.mem_cons, true_or, or_true]
        exact absurd isModifier (kind_ne_modifier_of_mem_ofName listed)
    | some type =>
        rw [found] at split
        cases front with
        | nil =>
            obtain ⟨rfl, rfl⟩ := List.cons.inj split
            refine ⟨rfl, ?_⟩
            cases isTokens : ofName separators type with
            | nil =>
                have noType : shown [] = type := isTokens ▸ shown_ofName separators type
                exact absurd noType.symm (afterModifier?_trimSpaces_eq_some found).1
            | cons next later => exact ⟨next, later, rfl⟩
        | cons first front =>
            have listed : token ∈ separator (.char ' ') :: ofName separators type := by
              rw [(List.cons.inj split).2]
              exact List.mem_append_right front List.mem_cons_self
            rcases List.mem_cons.1 listed with rfl | inType
            · contradiction
            · exact absurd isModifier (kind_ne_modifier_of_mem_ofName inType)

/-! ## Argument lists -/

theorem eq_or_mem_of_mem_ofArguments (listed : token ∈ ofArguments separators arguments) :
    token = argumentSeparator ∨
      ∃ argument ∈ Text.splitAt (.char ',') arguments, token ∈ ofArgument separators argument := by
  rw [ofArguments] at listed
  split at listed
  next => contradiction
  next =>
    rcases List.mem_append.1 listed with first | later
    · exact .inr ⟨_, List.mem_cons_self, first⟩
    · obtain ⟨argument, inLater, listed⟩ := List.mem_flatMap.1 later
      rcases List.mem_cons.1 listed with isSeparator | inArgument
      · exact .inl isSeparator
      · exact .inr ⟨argument, List.mem_cons_of_mem _ inLater, inArgument⟩

/-- The separators between arguments stand nowhere else. -/
theorem splitOn_ofArguments (separators arguments : Text) :
    (ofArguments separators arguments).splitOn argumentSeparator =
      (Text.splitAt (.char ',') arguments).map (ofArgument separators) := by
  rw [ofArguments_eq]
  apply List.splitOn_intercalate
  · intro block listed
    obtain ⟨argument, inPieces, rfl⟩ := List.mem_map.1 listed
    apply argumentSeparator_not_mem
    rw [shown_ofArgument, mem_shownArgument_iff (by decide)]
    exact Text.not_mem_of_mem_splitAt inPieces
  · exact List.cons_ne_nil _ _

/-- The tokens of an argument list show its arguments in their canonical form with a comma and a
space between them.  None is empty; cut at the separators between arguments, they are blocks that
belong to the arguments one by one, with a modifier only in front of a type; and the text that they
show has the same tokens. -/
theorem ofArguments_canonical (separators arguments : Text) :
    let tokens := ofArguments separators arguments
    shown tokens =
        ", ".toText.intercalate ((Text.splitAt (.char ',') arguments).map canonicalArgument) ∧
      (∀ token ∈ tokens, token.text ≠ []) ∧
      List.Forall₂ IsArgumentBlock (Text.splitAt (.char ',') arguments)
        (tokens.splitOn argumentSeparator) ∧
      ofArguments separators (shown tokens) = tokens := by
  intro tokens
  have isCanonical : shown tokens =
      ", ".toText.intercalate ((Text.splitAt (.char ',') arguments).map canonicalArgument) := by
    rw [shown_ofArguments, funext shownArgument_eq_canonicalArgument]
  refine ⟨isCanonical, ?_, ?_, ?_⟩
  · intro token listed
    rcases eq_or_mem_of_mem_ofArguments listed with rfl | ⟨argument, -, inArgument⟩
    · decide
    · exact (isArgumentBlock_ofArgument separators argument).nonempty token inArgument
  · simp only [tokens, splitOn_ofArguments]
    rw [List.forall₂_map_right_iff, List.forall₂_same]
    exact fun argument _ => isArgumentBlock_ofArgument separators argument
  · have noComma : ∀ shown ∈ (Text.splitAt (.char ',') arguments).map canonicalArgument,
        .char ',' ∉ shown := by
      intro shown listed
      obtain ⟨argument, inPieces, rfl⟩ := List.mem_map.1 listed
      rw [← shownArgument_eq_canonicalArgument, mem_shownArgument_iff (by decide)]
      exact Text.not_mem_of_mem_splitAt inPieces
    have again : ofArgument separators ∘ canonicalArgument = ofArgument separators :=
      funext fun argument => ofArgument_canonicalArgument
    rw [isCanonical, Text.splitAt, List.map_cons, ofArguments_intercalate noComma, ← List.map_cons,
      ← Text.splitAt, List.map_map, again, ← ofArguments_eq]

/-- A modifier alone, one that is repeated, a blank argument, and a space as a separator. -/
example : ofArguments " .".toText " ref , ref  ref A.B ,,out x ".toText =
    [⟨.word, "ref".toText⟩, argumentSeparator, ⟨.modifier, "ref".toText⟩, separator (.char ' '),
      ⟨.word, "ref".toText⟩, separator (.char ' '), ⟨.word, "A".toText⟩, separator (.char '.'),
      ⟨.word, "B".toText⟩, argumentSeparator, argumentSeparator, ⟨.word, "out".toText⟩,
      separator (.char ' '), ⟨.word, "x".toText⟩] := by
  decide

end ThreadStacks.Token
