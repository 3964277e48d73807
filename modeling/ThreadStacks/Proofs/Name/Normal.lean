import ThreadStacks.Proofs.Name.Arity
import ThreadStacks.Proofs.Name.Generated
import ThreadStacks.Proofs.Name.Predefined

/-!
# Readable type names read again

Making a readable type name readable once more should change nothing.  It does exactly where
dropping the bars of a name brings a bracket to the front of a part, or an arity together: both are
looked for before the bars go, and found the second time.
-/

namespace ThreadStacks.Name

/-! ## The parts of a type name that are shown -/

/-- The text of a section that is shown, if the section is shown at all. -/
def shownPart? (nameSection : Text) : Option Text :=
  if closureMark.isPrefixOf nameSection then Text.afterFirst? dottedBracket nameSection
  else some nameSection

/-- The parts of a type name that are shown, before their marks are resolved. -/
def shownParts (typeName : Text) : List Text :=
  (Text.splitAt (.char '+') (dropArities false typeName)).filterMap shownPart?

/-- Whether dropping the bars of a part brings a bracket to its front, or an arity together. -/
def barsHideMark (part : Text) : Bool :=
  [.char '<'].isPrefixOf (unmark part) || hasArity (unmark part)

/-- A name in which no leading bracket, no bracket behind a dot and no arity is left. -/
structure IsSettled (name : Text) : Prop where
  noBracket : ¬[.char '<'] <+: name
  noDottedBracket : ¬dottedBracket <:+: name
  noArity : hasArity name = false

theorem displaySection?_eq (nameSection : Text) :
    displaySection? nameSection = (shownPart? nameSection).map displayGenerated := by
  rw [displaySection?, shownPart?]
  split
  next => rfl
  next => rfl

theorem displayPath_eq (typeName : Text) :
    displayPath typeName =
      [.char '.'].intercalate ((shownParts typeName).map displayGenerated) := by
  have sections : displaySection? = fun nameSection =>
      (shownPart? nameSection).map displayGenerated := funext displaySection?_eq
  rw [displayPath, shownParts, List.map_filterMap, sections]

section Parts

variable {typeName part : Text}

theorem infix_of_shownPart? {nameSection : Text} (shown : shownPart? nameSection = some part) :
    part <:+: nameSection := by
  rw [shownPart?] at shown
  split at shown
  next => exact (Text.suffix_of_afterFirst? shown).isInfix
  next =>
    cases shown
    exact List.infix_rfl

theorem infix_of_mem_shownParts (shown : part ∈ shownParts typeName) :
    part <:+: dropArities false typeName := by
  obtain ⟨nameSection, listed, shown⟩ := List.mem_filterMap.1 shown
  exact (infix_of_shownPart? shown).trans (Text.infix_of_mem_splitAt listed)

theorem plus_not_mem_shownPart (shown : part ∈ shownParts typeName) : .char '+' ∉ part := by
  obtain ⟨nameSection, listed, shown⟩ := List.mem_filterMap.1 shown
  intro member
  exact Text.not_mem_of_mem_splitAt listed ((infix_of_shownPart? shown).subset member)

theorem hasArity_shownPart (shown : part ∈ shownParts typeName) : hasArity part = false :=
  hasArity_eq_false_of_infix (infix_of_mem_shownParts shown) (hasArity_dropArities false typeName)

theorem mem_of_mem_shownPart (shown : part ∈ shownParts typeName) {character : CodePoint}
    (member : character ∈ part) : character ∈ typeName :=
  (dropArities_sublist false typeName).subset ((infix_of_mem_shownParts shown).subset member)

theorem mem_of_mem_unmark {character : CodePoint} (member : character ∈ unmark part) :
    character ∈ part :=
  (List.dropWhile_suffix _).subset (List.mem_filter.1 member).1

theorem bar_not_mem_unmark : .char '|' ∉ unmark part := by
  intro member
  have kept := (List.mem_filter.1 member).2
  contradiction

theorem unmark_eq_dropWhile (noBar : .char '|' ∉ part) :
    unmark part = part.dropWhile (· == .char '<') := by
  apply List.filter_eq_self.2
  intro character member
  have isIn := (List.dropWhile_suffix _).subset member
  apply bne_iff_ne.2
  intro same
  subst same
  exact noBar isIn

/-- Where there are no bars, none hide a mark. -/
theorem barsHideMark_eq_false (noBar : .char '|' ∉ part) (noArity : hasArity part = false) :
    barsHideMark part = false := by
  rw [barsHideMark, Bool.or_eq_false_iff, unmark_eq_dropWhile noBar]
  constructor
  · cases rest : part.dropWhile (· == .char '<') with
    | nil => rfl
    | cons first others =>
        have stops := List.head?_dropWhile_not (· == .char '<') part
        rw [rest] at stops
        have different : .char '<' ≠ first := by
          intro same
          subst same
          simp at stops
        simp [List.isPrefixOf, different]
  · exact hasArity_eq_false_of_infix (List.dropWhile_suffix _).isInfix noArity

end Parts

/-! ## Settled names -/

section Settled

variable {name : Text}

/-- Resolving marks neither makes nor breaks an arity. -/
theorem hasArity_resolveMarks : hasArity (resolveMarks name) = hasArity name := by
  have marksForeign : ∀ mark ∈ Mark.all,
      arityMark ∉ mark.text ++ .char '.' :: mark.path ∧
        (mark.text ++ .char '.' :: mark.path).all (fun other => !Text.isDecimalDigit other) =
          true := by
    decide
  rw [Bool.eq_iff_iff, hasArity_iff, hasArity_iff]
  apply exists_congr
  intro digit
  apply and_congr_right
  intro isDigit
  apply infix_resolveMarks_iff
  · have notDigit : digit ∉ [.char '<'] := digit_not_mem isDigit (by decide)
    simp only [List.mem_cons, List.not_mem_nil, or_false, not_or] at notDigit ⊢
    exact ⟨by decide, Ne.symm notDigit⟩
  · intro mark listed character member
    obtain ⟨noMark, noDigit⟩ := marksForeign mark listed
    have absent : character ∉ mark.text ++ .char '.' :: mark.path := by
      rcases List.mem_cons.1 member with rfl | isLast
      · exact noMark
      · rw [List.mem_singleton.1 isLast]
        exact digit_not_mem isDigit noDigit
    rwa [List.mem_append, not_or] at absent

/-- A part is settled once its marks are resolved, unless its bars hide a mark. -/
theorem isSettled_displayGenerated_iff {part : Text} :
    IsSettled (displayGenerated part) ↔ barsHideMark part = false := by
  rw [displayGenerated_eq_resolveMarks, barsHideMark, Bool.or_eq_false_iff, ← Bool.not_eq_true,
    List.isPrefixOf_iff_prefix]
  constructor
  · intro settled
    have noBracket := settled.noBracket
    have noArity := settled.noArity
    rw [bracket_prefix_resolveMarks_iff] at noBracket
    rw [hasArity_resolveMarks] at noArity
    exact ⟨noBracket, noArity⟩
  · rintro ⟨noBracket, noArity⟩
    constructor
    · rwa [bracket_prefix_resolveMarks_iff]
    · exact not_dottedBracket_infix_resolveMarks
    · rwa [hasArity_resolveMarks]

theorem dottedBracket_infix_append_dot_iff {front back : Text} :
    dottedBracket <:+: front ++ .char '.' :: back ↔
      dottedBracket <:+: front ∨ [.char '<'] <+: back ∨ dottedBracket <:+: back := by
  have behind : dottedBracket <:+: .char '.' :: back ↔
      [.char '<'] <+: back ∨ dottedBracket <:+: back := by
    rw [List.infix_cons_iff, dottedBracket, List.cons_prefix_cons]
    simp
  constructor
  · intro occurs
    rcases List.infix_append_iff.1 occurs with inFront | inBack | ⟨left, right, split, atEnd, atDot⟩
    · exact .inl inFront
    · exact .inr (behind.1 inBack)
    · cases right with
      | nil =>
          rw [split, List.append_nil]
          exact .inl atEnd.isInfix
      | cons first others =>
          -- The first character behind the front is a dot, so it is the one of the pattern.
          obtain ⟨rfl, inBack⟩ := List.cons_prefix_cons.1 atDot
          cases left with
          | nil =>
              rw [List.nil_append, dottedBracket, List.cons.injEq] at split
              rw [← split.2] at inBack
              exact .inr (.inl inBack)
          | cons second left =>
              rw [dottedBracket, List.cons_append, List.cons.injEq] at split
              have isIn : .char '.' ∈ left ++ .char '.' :: others := by simp
              rw [← split.2] at isIn
              exact absurd isIn (by decide)
  · intro occurs
    rcases occurs with inFront | inBack
    · exact inFront.trans (List.prefix_append _ _).isInfix
    · exact (behind.2 inBack).trans (List.suffix_append _ _).isInfix

theorem hasArity_append_dot {front back : Text} :
    hasArity (front ++ .char '.' :: back) = (hasArity front || hasArity back) := by
  rw [Bool.eq_iff_iff, Bool.or_eq_true, hasArity_iff, hasArity_iff, hasArity_iff, ← exists_or]
  apply exists_congr
  intro digit
  rw [← and_or_left]
  apply and_congr_right
  intro isDigit
  apply Text.infix_append_cut_iff
  have notDigit : digit ∉ [.char '.'] := digit_not_mem isDigit (by decide)
  simp only [List.mem_cons, List.not_mem_nil, or_false, not_or] at notDigit ⊢
  exact ⟨by decide, Ne.symm notDigit⟩

theorem isSettled_nil : IsSettled [] := ⟨by decide, by decide, rfl⟩

/-- Two names joined by a dot are settled if and only if both are. -/
theorem isSettled_append_dot_iff {front back : Text} :
    IsSettled (front ++ .char '.' :: back) ↔ IsSettled front ∧ IsSettled back := by
  have bracket : [.char '<'] <+: front ++ .char '.' :: back ↔ [.char '<'] <+: front := by
    cases front with
    | nil => simp
    | cons first rest => simp [List.cons_prefix_cons]
  have dotted : dottedBracket <:+: front ++ .char '.' :: back ↔
      dottedBracket <:+: front ∨ [.char '<'] <+: back ∨ dottedBracket <:+: back :=
    dottedBracket_infix_append_dot_iff
  have arity : hasArity (front ++ .char '.' :: back) = (hasArity front || hasArity back) :=
    hasArity_append_dot
  constructor
  · rintro ⟨noBracket, noDotted, noArity⟩
    rw [bracket] at noBracket
    rw [dotted, not_or, not_or] at noDotted
    rw [arity, Bool.or_eq_false_iff] at noArity
    exact ⟨⟨noBracket, noDotted.1, noArity.1⟩, ⟨noDotted.2.1, noDotted.2.2, noArity.2⟩⟩
  · rintro ⟨frontSettled, backSettled⟩
    constructor
    · rw [bracket]
      exact frontSettled.noBracket
    · rw [dotted, not_or, not_or]
      exact ⟨frontSettled.noDottedBracket, backSettled.noBracket, backSettled.noDottedBracket⟩
    · rw [arity, frontSettled.noArity, backSettled.noArity]
      rfl

theorem isSettled_intercalate_iff {names : List Text} :
    IsSettled ([.char '.'].intercalate names) ↔ ∀ name ∈ names, IsSettled name := by
  induction names with
  | nil => simp [isSettled_nil]
  | cons first names ih =>
      cases names with
      | nil => simp
      | cons second names =>
          rw [List.intercalate_cons_cons, List.append_assoc, List.singleton_append,
            isSettled_append_dot_iff, ih]
          simp

/-- The path of a type name is settled unless bars hide a mark. -/
theorem isSettled_displayPath_iff {typeName : Text} :
    IsSettled (displayPath typeName) ↔ ∀ part ∈ shownParts typeName, barsHideMark part = false := by
  rw [displayPath_eq, isSettled_intercalate_iff]
  simp [isSettled_displayGenerated_iff]

end Settled

end ThreadStacks.Name
