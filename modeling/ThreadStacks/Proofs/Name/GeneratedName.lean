import ThreadStacks.Proofs.Name.Plain

/-!
# Names that a compiler generates

A compiler makes up the name of a lambda, of a state machine or of a local function from the name
of what is around it, which it may have made up as well.  The brackets that open such names all
stand in front of the innermost one, and the marks behind it in the order of the levels.  So it
makes no difference whether the levels are read one by one, or each kind of mark is resolved in the
whole name.
-/

namespace ThreadStacks.Name

/-- A text of letters, digits and underscores that does not start with a digit. -/
structure Identifier where
  text : Text
  valid : isIdentifier text = true

/-- A text of letters, digits and underscores, possibly empty. -/
structure NameSuffix where
  text : Text
  valid : text.all isIdentifierCharacter = true

theorem NameSuffix.isPlainText (suffix : NameSuffix) : IsPlainText suffix.text := by
  intro character member
  exact .inl (List.all_eq_true.1 suffix.valid character member)

/-- A name in source code, or one that the compiler made up from the name around it. -/
inductive GeneratedName where
  | identifier (name : Identifier)
  | lambda (outer : GeneratedName) (suffix : NameSuffix)
  | stateMachine (outer : GeneratedName) (suffix : NameSuffix)
  | localFunction (outer : GeneratedName) (name : Identifier) (suffix : NameSuffix)

namespace GeneratedName

/-- The name in a raw signature. -/
def encode : GeneratedName → Text
  | identifier name => name.text
  | lambda outer suffix => .char '<' :: (outer.encode ++ (">b".toText ++ suffix.text))
  | stateMachine outer suffix => .char '<' :: (outer.encode ++ (">d".toText ++ suffix.text))
  | localFunction outer name suffix =>
      .char '<' :: (outer.encode ++ (">g__".toText ++ (name.text ++ .char '|' :: suffix.text)))

/-- The readable name. -/
def display : GeneratedName → Text
  | identifier name => name.text
  | lambda outer suffix => outer.display ++ (".AnonymousMethod".toText ++ suffix.text)
  | stateMachine outer suffix => outer.display ++ (".StateMachine".toText ++ suffix.text)
  | localFunction outer name suffix => outer.display ++ .char '.' :: (name.text ++ suffix.text)

end GeneratedName

/-! ## Resolving levels -/

theorem IsPlainText.filter_bar {text : Text} (plain : IsPlainText text) :
    text.filter (· != .char '|') = text := by
  have noBar : .char '|' ∉ text := plain.not_mem (by decide) (by decide)
  apply List.filter_eq_self.2
  intro character member
  apply bne_iff_ne.2
  rintro rfl
  exact noBar member

/-- One level of a generated name: a mark, and a tail without brackets, behind another name. -/
theorem displayGenerated_level {mark : Mark} {outer tail : Text} (listed : mark ∈ Mark.all)
    (noOpening : .char '<' ∉ tail) (noClosing : .char '>' ∉ tail) :
    displayGenerated (.char '<' :: (outer ++ (mark.text ++ tail))) =
      displayGenerated outer ++ (.char '.' :: mark.path ++ tail.filter (· != .char '|')) := by
  have cut : displayGenerated (outer ++ (mark.text ++ tail)) =
      displayGenerated outer ++ displayGenerated (mark.text ++ tail) :=
    displayGenerated_append_cons (by decide)
  rw [← displayGenerated_mark listed noOpening noClosing, ← cut]
  rfl

theorem displayGenerated_plain_level {mark : Mark} {outer tail : Text} (listed : mark ∈ Mark.all)
    (plain : IsPlainText tail) :
    displayGenerated (.char '<' :: (outer ++ (mark.text ++ tail))) =
      displayGenerated outer ++ (.char '.' :: mark.path ++ tail) := by
  rw [displayGenerated_level listed (plain.not_mem (by decide) (by decide))
    (plain.not_mem (by decide) (by decide)), plain.filter_bar]

namespace GeneratedName

/-- Each level is made readable behind the levels in it. -/
theorem displayGenerated_encode (name : GeneratedName) :
    displayGenerated name.encode = name.display := by
  induction name with
  | identifier name => exact (isPlainText_of_isIdentifier name.valid).displayMethodName_eq
  | lambda outer suffix ih =>
      have isMark : ⟨[.char 'b'], "AnonymousMethod".toText⟩ ∈ Mark.all := by simp [Mark.all]
      have level := @displayGenerated_plain_level _ outer.encode _ isMark suffix.isPlainText
      rwa [ih] at level
  | stateMachine outer suffix ih =>
      have isMark : ⟨[.char 'd'], "StateMachine".toText⟩ ∈ Mark.all := by simp [Mark.all]
      have level := @displayGenerated_plain_level _ outer.encode _ isMark suffix.isPlainText
      rwa [ih] at level
  | localFunction outer name suffix ih =>
      have isMark : ⟨"g__".toText, []⟩ ∈ Mark.all := by simp [Mark.all]
      have plainName := isPlainText_of_isIdentifier name.valid
      have plain := suffix.isPlainText
      have noBracket {bracket : CodePoint} (other : isIdentifierCharacter bracket = false)
          (noDot : bracket ≠ .char '.') (noBar : bracket ≠ .char '|') :
          bracket ∉ name.text ++ .char '|' :: suffix.text := by
        simp [plainName.not_mem other noDot, plain.not_mem other noDot, noBar]
      have kept : (name.text ++ .char '|' :: suffix.text).filter (· != .char '|') =
          name.text ++ suffix.text := by
        rw [List.filter_append, plainName.filter_bar, List.filter_cons_of_neg (by decide),
          plain.filter_bar]
      have level := @displayGenerated_level _ outer.encode _ isMark
        (noBracket (by decide) (by decide) (by decide))
        (noBracket (by decide) (by decide) (by decide))
      rwa [ih, kept] at level

end GeneratedName

/-! ## Characters of generated names -/

/-- Whether a character may stand in a generated name. -/
def isGeneratedCharacter (character : CodePoint) : Bool :=
  isIdentifierCharacter character || [.char '<', .char '>', .char '|'].contains character

theorem all_isGeneratedCharacter {text : Text}
    (valid : ∀ character ∈ text, isIdentifierCharacter character = true) :
    text.all isGeneratedCharacter = true := by
  apply List.all_eq_true.2
  intro character member
  rw [isGeneratedCharacter, valid character member, Bool.true_or]

theorem Identifier.all_isGeneratedCharacter (name : Identifier) :
    name.text.all isGeneratedCharacter = true :=
  Name.all_isGeneratedCharacter (isIdentifierCharacter_of_mem name.valid)

theorem NameSuffix.all_isGeneratedCharacter (suffix : NameSuffix) :
    suffix.text.all isGeneratedCharacter = true :=
  Name.all_isGeneratedCharacter (List.all_eq_true.1 suffix.valid)

theorem not_mem_of_all_isGeneratedCharacter {character : CodePoint} {text : Text}
    (foreign : isGeneratedCharacter character = false)
    (own : text.all isGeneratedCharacter = true) : character ∉ text := by
  intro member
  rw [List.all_eq_true.1 own character member] at foreign
  contradiction

namespace GeneratedName

variable (name : GeneratedName)

theorem all_isGeneratedCharacter_encode : name.encode.all isGeneratedCharacter = true := by
  induction name with
  | identifier name => exact name.all_isGeneratedCharacter
  | lambda outer suffix ih =>
      have mark : ">b".toText.all isGeneratedCharacter = true := by decide
      simp only [encode, List.all_cons, List.all_append, ih, mark, suffix.all_isGeneratedCharacter]
      rfl
  | stateMachine outer suffix ih =>
      have mark : ">d".toText.all isGeneratedCharacter = true := by decide
      simp only [encode, List.all_cons, List.all_append, ih, mark, suffix.all_isGeneratedCharacter]
      rfl
  | localFunction outer name suffix ih =>
      have mark : ">g__".toText.all isGeneratedCharacter = true := by decide
      simp only [encode, List.all_cons, List.all_append, ih, mark, name.all_isGeneratedCharacter,
        suffix.all_isGeneratedCharacter]
      rfl

theorem not_mem_encode {character : CodePoint} (foreign : isGeneratedCharacter character = false) :
    character ∉ name.encode :=
  not_mem_of_all_isGeneratedCharacter foreign name.all_isGeneratedCharacter_encode

/-- A generated name starts with a letter, an underscore or an opening bracket. -/
theorem exists_encode : ∃ first rest, name.encode = first :: rest ∧ first ≠ .char '>' := by
  cases name with
  | identifier name =>
      obtain ⟨first, rest, split⟩ := List.exists_cons_of_ne_nil (ne_nil_of_isIdentifier name.valid)
      have noBracket : .char '>' ∉ name.text :=
        (isPlainText_of_isIdentifier name.valid).not_mem (by decide) (by decide)
      rw [split, List.mem_cons, not_or] at noBracket
      exact ⟨first, rest, split, Ne.symm noBracket.1⟩
  | lambda | stateMachine | localFunction => exact ⟨.char '<', _, rfl, by decide⟩

end GeneratedName

end ThreadStacks.Name
