import ThreadStacks.Proofs.Name.Idempotence
import ThreadStacks.Proofs.Name.Signature
import ThreadStacks.Proofs.Name.TypeTree

/-!
# Plain names

A plain name is made of identifiers and dots.  None of the rules on names applies to it, so its
readable form is the alias of a primitive type, or the name as it stands.
-/

namespace ThreadStacks.Name

/-- Whether a character may stand in an identifier. -/
def isIdentifierCharacter (character : CodePoint) : Bool :=
  character.satisfies Char.isAlphanum || character == .char '_'

/-- Whether a text is an identifier: letters, digits and underscores, with no digit in front. -/
def isIdentifier : Text → Bool
  | [] => false
  | first :: rest =>
      (first.satisfies Char.isAlpha || first == .char '_') && rest.all isIdentifierCharacter

/-- Whether a text is made of identifiers with dots between them. -/
def isDottedName (name : Text) : Bool := (Text.splitAt (.char '.') name).all isIdentifier

/-- Whether a text holds nothing but characters of identifiers and dots. -/
def IsPlainText (text : Text) : Prop :=
  ∀ character ∈ text, isIdentifierCharacter character = true ∨ character = .char '.'

theorem CodePoint.isAlphanum_of_isAlpha {character : CodePoint}
    (isLetter : character.satisfies Char.isAlpha = true) :
    character.satisfies Char.isAlphanum = true := by
  cases character with
  | char character => exact Bool.or_eq_true_iff.2 (.inl isLetter)
  | half => contradiction

section Identifiers

variable {name : Text}

theorem isIdentifierCharacter_of_mem (valid : isIdentifier name = true) :
    ∀ character ∈ name, isIdentifierCharacter character = true := by
  cases name with
  | nil => contradiction
  | cons first rest =>
      rw [isIdentifier, Bool.and_eq_true] at valid
      obtain ⟨start, others⟩ := valid
      intro character member
      rcases List.mem_cons.1 member with rfl | later
      · rw [isIdentifierCharacter]
        rcases Bool.or_eq_true_iff.1 start with isLetter | isLine
        · rw [CodePoint.isAlphanum_of_isAlpha isLetter, Bool.true_or]
        · rw [isLine, Bool.or_true]
      · exact List.all_eq_true.1 others character later

theorem isPlainText_of_isIdentifier (valid : isIdentifier name = true) : IsPlainText name := by
  intro character member
  exact .inl (isIdentifierCharacter_of_mem valid character member)

theorem isPlainText_of_isDottedName (valid : isDottedName name = true) : IsPlainText name := by
  intro character member
  rw [← Text.intercalate_splitAt (.char '.') name] at member
  rcases Text.mem_intercalate member with isDot | ⟨piece, listed, inPiece⟩
  · exact .inr isDot
  · exact isPlainText_of_isIdentifier (List.all_eq_true.1 valid piece listed) character inPiece

theorem isPlainText_nil : IsPlainText [] := by
  intro character member
  contradiction

theorem isPlainText_append_dot {back : Text} (front : IsPlainText name)
    (behind : IsPlainText back) : IsPlainText (name ++ .char '.' :: back) := by
  intro character member
  rcases List.mem_append.1 member with inFront | member
  · exact front character inFront
  · rcases List.mem_cons.1 member with isDot | inBack
    · exact .inr isDot
    · exact behind character inBack

theorem ne_nil_of_isIdentifier (valid : isIdentifier name = true) : name ≠ [] := by
  intro same
  subst same
  contradiction

theorem ne_nil_of_isDottedName (valid : isDottedName name = true) : name ≠ [] := by
  intro same
  subst same
  contradiction

theorem dot_not_mem_of_isIdentifier (valid : isIdentifier name = true) : .char '.' ∉ name := by
  intro member
  have isCharacter := isIdentifierCharacter_of_mem valid (.char '.') member
  contradiction

end Identifiers

section Plain

variable {name : Text} (plain : IsPlainText name)

include plain

theorem IsPlainText.not_mem {character : CodePoint}
    (other : isIdentifierCharacter character = false)
    (noDot : character ≠ .char '.') : character ∉ name := by
  intro member
  rcases plain character member with isCharacter | isDot
  · rw [isCharacter] at other
    contradiction
  · exact noDot isDot

theorem IsPlainText.not_mem_ruleCharacters :
    ∀ character ∈ PredefinedType.ruleCharacters, character ∉ name := by
  intro character inRules
  have foreign : ∀ character ∈ PredefinedType.ruleCharacters,
      isIdentifierCharacter character = false ∧ character ≠ .char '.' :=
    PredefinedType.forall_ruleCharacters (by decide)
  exact plain.not_mem (foreign character inRules).1 (foreign character inRules).2

theorem IsPlainText.isFlat : IsFlat name := by
  constructor
  · exact plain.not_mem (by decide) (by decide)
  · exact plain.not_mem (by decide) (by decide)

theorem IsPlainText.displayMethodName_eq : displayMethodName name = name :=
  displayGenerated_eq_self (isPath_of_plain plain.not_mem_ruleCharacters)
    (isSettled_of_plain plain.not_mem_ruleCharacters)

omit plain in
theorem isFlat_sourceName (type : PredefinedType) : IsFlat type.sourceName := by
  constructor
  · exact plain_sourceName type (.char '<') (by decide)
  · exact plain_sourceName type (.char '>') (by decide)

/-- A plain type name only changes if it stands for a primitive type. -/
theorem IsPlainText.displayTypeName_eq :
    displayTypeName name = (PredefinedType.aliasOf? name).getD name := by
  have kept := displayPath_eq_self (isPath_of_plain plain.not_mem_ruleCharacters)
    (isSettled_of_plain plain.not_mem_ruleCharacters)
  rw [displayTypeName, kept]
  cases found : PredefinedType.aliasOf? name with
  | some aliasName => rfl
  | none => simp only [found]

theorem IsPlainText.isFlat_displayTypeName : IsFlat (displayTypeName name) := by
  rw [plain.displayTypeName_eq]
  cases found : PredefinedType.aliasOf? name with
  | some aliasName =>
      obtain ⟨type, -, rfl⟩ := PredefinedType.exists_of_aliasOf? found
      exact isFlat_sourceName type
  | none => exact plain.isFlat

theorem IsPlainText.displayTypeName_ne_nil (nonempty : name ≠ []) : displayTypeName name ≠ [] := by
  rw [plain.displayTypeName_eq]
  cases found : PredefinedType.aliasOf? name with
  | some aliasName =>
      obtain ⟨type, -, rfl⟩ := PredefinedType.exists_of_aliasOf? found
      exact PredefinedType.sourceName_ne_nil type
  | none => exact nonempty

end Plain

/-! ## Plain names in signatures -/

section Markup

variable {name : Text}

theorem isBracket_eq_false (plain : IsPlainText name) {character : CodePoint}
    (member : character ∈ name) : Bracket.isBracket character = false := by
  cases isBracket : Bracket.ofCharacter? character with
  | none => exact Bracket.isBracket_eq_false_iff.2 isBracket
  | some bracket =>
      rw [Bracket.eq_character isBracket] at member
      have absent : bracket.character ∉ name := by
        cases bracket with
        | opening => exact plain.not_mem (by decide) (by decide)
        | closing => exact plain.not_mem (by decide) (by decide)
      exact absurd member absent

theorem isMarkupName_of_isPlainText (plain : IsPlainText name) : isMarkupName name = true := by
  apply List.all_eq_true.2
  intro character member
  have noComma : .char ',' ∉ name := plain.not_mem (by decide) (by decide)
  rw [isBracket_eq_false plain member, Bool.not_false, Bool.and_true]
  apply bne_iff_ne.2
  intro same
  subst same
  exact noComma member

theorem isUnbracketed_of_isPlainText (plain : IsPlainText name) : IsUnbracketed name :=
  isUnbracketed_of_isMarkupName (isMarkupName_of_isPlainText plain)

section Method

variable {method : Text} (isMethod : isIdentifier method = true)

include isMethod

theorem isPlainText_dot : IsPlainText (.char '.' :: method) := by
  exact isPlainText_append_dot isPlainText_nil (isPlainText_of_isIdentifier isMethod)

/-- The alias of a primitive type is not looked for behind a dot. -/
theorem displayTypeName_dot : displayTypeName (.char '.' :: method) = .char '.' :: method := by
  rw [(isPlainText_dot isMethod).displayTypeName_eq, PredefinedType.aliasOf?_dot]
  rfl

/-- A signature that ends in a plain method. -/
theorem displaySignature_of_tail {signature type : Text} (plain : IsPlainText type)
    (tail : spansTail signature = type ++ .char '.' :: method) :
    displaySignature signature =
      joinMethod (shownSpans signature ++ displayTypeName type) method := by
  have uncut : IsUncut 0 method := isUncut_of_not_mem (dot_not_mem_of_isIdentifier isMethod)
  have kept : displayMethodName method = method :=
    (isPlainText_of_isIdentifier isMethod).displayMethodName_eq
  have level := plain.isFlat.depthAfter_eq_zero
  rw [displaySignature_eq, tail, splitFullName_append_dot level uncut, kept]

/-- A plain type and method without any brackets. -/
theorem displaySignature_of_plain {type : Text} (plain : IsPlainText type) :
    displaySignature (type ++ .char '.' :: method) = joinMethod (displayTypeName type) method := by
  have noSpans := spans_eq_of_isUnbracketed (isUnbracketed_of_isPlainText
    (isPlainText_append_dot plain (isPlainText_of_isIdentifier isMethod)))
  have tail : spansTail (type ++ .char '.' :: method) = type ++ .char '.' :: method := by
    rw [spansTail, noSpans]
  rw [displaySignature_of_tail isMethod plain tail, shownSpans, noSpans]
  rfl

theorem spans_dot : spans (.char '.' :: method) = ([], .char '.' :: method) :=
  spans_eq_of_isUnbracketed (isUnbracketed_of_isPlainText (isPlainText_dot isMethod))

theorem shownSpans_dot : shownSpans (.char '.' :: method) = [] := by
  rw [shownSpans, spans_dot isMethod]
  rfl

theorem spansTail_dot : spansTail (.char '.' :: method) = .char '.' :: method := by
  rw [spansTail, spans_dot isMethod]

/-- A plain method behind the last bracket belongs to what the spans show. -/
theorem displaySignature_of_dot {signature : Text}
    (tail : spansTail signature = .char '.' :: method) :
    displaySignature signature = joinMethod (shownSpans signature) method := by
  rw [displaySignature_of_tail isMethod isPlainText_nil tail, displayTypeName_nil, List.append_nil]

end Method

end Markup

end ThreadStacks.Name
