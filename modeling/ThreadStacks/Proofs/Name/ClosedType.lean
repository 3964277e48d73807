import ThreadStacks.Proofs.Name.ArrayType

/-!
# Which types show the same

The readable form of a closed generic type still has its tree: angle brackets and commas stand
where the argument lists were, and no name holds any of them.  So two types show the same only if
they are the same up to what is not shown at all, namely assemblies and array brackets.
-/

namespace ThreadStacks.Name

/-! ## Names in front of other text -/

/-- Whether a plain name may hold a character. -/
def isNameCharacter (character : CodePoint) : Bool :=
  isIdentifierCharacter character || character == .char '.'

/-- Whether a text starts with no character that a plain name may hold. -/
def EndsName (text : Text) : Prop := ∀ character ∈ text.head?, isNameCharacter character = false

section Names

variable {name other text otherText : Text} {character : CodePoint}

theorem endsName_nil : EndsName [] := by
  intro character first
  contradiction

theorem endsName_cons (ends : isNameCharacter character = false) :
    EndsName (character :: text) := by
  intro first isFirst
  cases isFirst
  exact ends

theorem IsPlainText.takeWhile_append (plain : IsPlainText name) (ends : EndsName text) :
    (name ++ text).takeWhile isNameCharacter = name := by
  have all : ∀ character ∈ name, isNameCharacter character = true := by
    intro character member
    rw [isNameCharacter, Bool.or_eq_true, beq_iff_eq]
    exact plain character member
  rw [List.takeWhile_append_of_pos all]
  cases text with
  | nil => exact List.append_nil name
  | cons first text =>
      rw [List.takeWhile_cons_of_neg (by simp [ends first rfl]), List.append_nil]

/-- A text starts with one plain name at most that ends there. -/
theorem IsPlainText.append_inj (plain : IsPlainText name) (otherPlain : IsPlainText other)
    (ends : EndsName text) (otherEnds : EndsName otherText)
    (same : name ++ text = other ++ otherText) : name = other ∧ text = otherText := by
  have sameName : name = other := by
    rw [← plain.takeWhile_append ends, same, otherPlain.takeWhile_append otherEnds]
  subst sameName
  exact ⟨rfl, List.append_cancel_left same⟩

end Names

/-! ## Readable trees -/

/-- Whether a list of type arguments shows its names as they are, and nothing else is in it. -/
def TypeArguments.isOutline (arguments : TypeArguments) : Bool :=
  arguments.all isOwnName Option.isNone

namespace TypeArguments

theorem isOutline_outline {arguments : TypeArguments}
    (valid : arguments.all isArrayName namesAssembly = true) :
    (arguments.outline elementName).isOutline = true := by
  induction arguments with
  | nil => rfl
  | cons name arguments assembly others ihArguments ihOthers =>
      obtain ⟨validName, validArguments, -, validOthers⟩ := all_cons_iff.1 valid
      exact all_cons_iff.2 ⟨isOwnName_elementName validName, ihArguments validArguments, rfl,
        ihOthers validOthers⟩

theorem endsName_displayRest (others : TypeArguments) (rest : Text) :
    EndsName (others.displayRest ++ rest) := by
  cases others with
  | nil => exact endsName_cons (by decide)
  | cons name arguments assembly others =>
      rw [displayRest_cons]
      exact endsName_cons (by decide)

theorem endsName_display (arguments : TypeArguments) {rest : Text} (ends : EndsName rest) :
    EndsName (arguments.display ++ rest) := by
  cases arguments with
  | nil => exact ends
  | cons name arguments assembly others =>
      rw [display_cons]
      exact endsName_cons (by decide)

theorem head?_displayRest (others : TypeArguments) (rest : Text) :
    (others.displayRest ++ rest).head? ≠ some (.char '<') := by
  intro opens
  cases others with
  | nil => exact absurd (Option.some.inj opens) (by decide)
  | cons name arguments assembly others =>
      rw [displayRest_cons] at opens
      exact absurd (Option.some.inj opens) (by decide)

/-- Whether a list of arguments and what remains of one can be read back: other arguments that show
the same are the same ones. -/
structure IsReadable (arguments : TypeArguments) : Prop where
  list : ∀ {other : TypeArguments} {rest otherRest : Text}, other.isOutline = true →
    rest.head? ≠ some (.char '<') → otherRest.head? ≠ some (.char '<') →
    arguments.display ++ rest = other.display ++ otherRest →
      arguments = other ∧ rest = otherRest
  ends : ∀ {other : TypeArguments} {rest otherRest : Text}, other.isOutline = true →
    arguments.displayRest ++ rest = other.displayRest ++ otherRest →
      arguments = other ∧ rest = otherRest

/-- An argument and the arguments behind it can be read back if both of their lists can. -/
theorem eq_cons_of_display {name otherName rest otherRest : Text} {otherAssembly : Option Text}
    {arguments others otherArguments otherOthers : TypeArguments}
    (list : IsReadable arguments) (ends : IsReadable others) (isName : isOwnName name = true)
    (valid : (cons otherName otherArguments otherAssembly otherOthers).isOutline = true)
    (same : displayTypeName name ++ (arguments.display ++ (others.displayRest ++ rest)) =
      displayTypeName otherName ++
        (otherArguments.display ++ (otherOthers.displayRest ++ otherRest))) :
    cons name arguments none others = cons otherName otherArguments otherAssembly otherOthers ∧
      rest = otherRest := by
  obtain ⟨isOther, validArguments, noAssembly, validOthers⟩ := all_cons_iff.1 valid
  rw [displayTypeName_of_isOwnName isName, displayTypeName_of_isOwnName isOther] at same
  obtain ⟨sameName, sameLists⟩ := (isPlainText_of_isOwnName isName).append_inj
    (isPlainText_of_isOwnName isOther)
    (endsName_display arguments (endsName_displayRest others rest))
    (endsName_display otherArguments (endsName_displayRest otherOthers otherRest)) same
  obtain ⟨sameArguments, sameRests⟩ := list.list validArguments
    (head?_displayRest others rest) (head?_displayRest otherOthers otherRest) sameLists
  obtain ⟨sameOthers, sameRest⟩ := ends.ends validOthers sameRests
  rw [Option.isNone_iff_eq_none.1 noAssembly, sameName, sameArguments, sameOthers]
  exact ⟨rfl, sameRest⟩

theorem isReadable {arguments : TypeArguments} (valid : arguments.isOutline = true) :
    IsReadable arguments := by
  -- The first character tells whether a list, or what remains of one, holds another argument.
  induction arguments with
  | nil =>
      constructor
      · intro other rest otherRest _ notOpened _ same
        cases other with
        | nil => exact ⟨rfl, same⟩
        | cons name arguments assembly others =>
            rw [display_cons] at same
            exact absurd (congrArg List.head? same) notOpened
      · intro other rest otherRest _ same
        cases other with
        | nil => exact ⟨rfl, (List.cons.inj same).2⟩
        | cons name arguments assembly others =>
            rw [displayRest_cons] at same
            exact absurd (List.cons.inj same).1 (by decide)
  | cons name arguments assembly others ihArguments ihOthers =>
      obtain ⟨validName, validArguments, noAssembly, validOthers⟩ := all_cons_iff.1 valid
      rw [Option.isNone_iff_eq_none.1 noAssembly]
      have list := ihArguments validArguments
      have ends := ihOthers validOthers
      constructor
      · intro other rest otherRest validOther _ notOpened same
        cases other with
        | nil =>
            rw [display_cons] at same
            exact absurd (congrArg List.head? same).symm notOpened
        | cons otherName otherArguments otherAssembly otherOthers =>
            rw [display_cons, display_cons] at same
            simp only [List.cons_append, List.append_assoc, List.cons.injEq, true_and] at same
            exact eq_cons_of_display list ends validName validOther same
      · intro other rest otherRest validOther same
        cases other with
        | nil =>
            rw [displayRest_cons] at same
            exact absurd (List.cons.inj same).1 (by decide)
        | cons otherName otherArguments otherAssembly otherOthers =>
            rw [displayRest_cons, displayRest_cons] at same
            simp only [List.cons_append, List.append_assoc, List.cons.injEq, true_and] at same
            exact eq_cons_of_display list ends validName validOther same

end TypeArguments

namespace TypeTree

/-- Whether a type shows its names as they are, and nothing else is in it. -/
def isOutline (type : TypeTree) : Bool := isOwnName type.name && type.arguments.isOutline

variable {type other : TypeTree}

theorem isOutline_outline (valid : type.all isArrayName namesAssembly = true) :
    (type.outline elementName).isOutline = true := by
  obtain ⟨validName, validArguments⟩ := Bool.and_eq_true_iff.1 valid
  exact Bool.and_eq_true_iff.2
    ⟨isOwnName_elementName validName, TypeArguments.isOutline_outline validArguments⟩

theorem isEnclosed_of_isOutline (valid : type.isOutline = true) : IsEnclosed type.arguments := by
  apply isEnclosed _ (Bool.and_eq_true_iff.1 valid).2
  intro name isName
  exact (isPlainText_of_isOwnName isName).isFlat_displayTypeName

theorem depthAfter_display (valid : type.isOutline = true) : depthAfter type.display = 0 := by
  have isName := isPlainText_of_isOwnName (Bool.and_eq_true_iff.1 valid).1
  rw [display, depthAfter_append, isName.isFlat_displayTypeName.depthAfter_eq_zero,
    (isEnclosed_of_isOutline valid).level]
  rfl

/-- A type can be read back from its readable form. -/
theorem eq_of_display (valid : type.isOutline = true) (validOther : other.isOutline = true)
    (same : type.display = other.display) : type = other := by
  obtain ⟨name, arguments⟩ := type
  obtain ⟨otherName, otherArguments⟩ := other
  obtain ⟨isName, validArguments⟩ := Bool.and_eq_true_iff.1 valid
  obtain ⟨isOther, validOtherArguments⟩ := Bool.and_eq_true_iff.1 validOther
  have ends (arguments : TypeArguments) : EndsName arguments.display := by
    rw [← List.append_nil arguments.display]
    exact arguments.endsName_display endsName_nil
  have notOpened : ([] : Text).head? ≠ some (.char '<') := by decide
  rw [display, display, displayTypeName_of_isOwnName isName,
    displayTypeName_of_isOwnName isOther] at same
  obtain ⟨sameName, sameLists⟩ := (isPlainText_of_isOwnName isName).append_inj
    (isPlainText_of_isOwnName isOther) (ends arguments) (ends otherArguments) same
  obtain ⟨sameArguments, -⟩ := (TypeArguments.isReadable validArguments).list
    validOtherArguments notOpened notOpened (congrArg (· ++ []) sameLists)
  rw [TypeTree.mk.injEq]
  exact ⟨sameName, sameArguments⟩

end TypeTree

/-! ## Methods of closed types -/

/-- A method of a closed type that may have array types in it. -/
structure ClosedMethod where
  type : TypeTree
  method : Text
  closed : type.all isArrayName namesAssembly = true
  isMethod : isIdentifier method = true

namespace ClosedMethod

/-- The raw signature in front of its argument list. -/
def raw (signature : ClosedMethod) : Text := signature.type.encode ++ .char '.' :: signature.method

/-- The readable signature is cut into the tree of element types and the method. -/
theorem splitFullName_raw (signature : ClosedMethod) :
    splitFullName (displaySignature signature.raw) =
      ((signature.type.outline elementName).display, signature.method) := by
  have uncut : IsUncut 0 signature.method :=
    isUncut_of_not_mem (dot_not_mem_of_isIdentifier signature.isMethod)
  have level := TypeTree.depthAfter_display (TypeTree.isOutline_outline signature.closed)
  rw [raw, TypeTree.displaySignature_encode signature.isMethod signature.closed,
    splitFullName_joinMethod level uncut (ne_nil_of_isIdentifier signature.isMethod)]

/-- Two methods show the same if and only if they have the same name, and their types are the same
up to the names of assemblies and to array brackets. -/
theorem displaySignature_raw_eq_iff (first second : ClosedMethod) :
    displaySignature first.raw = displaySignature second.raw ↔
      first.type.outline elementName = second.type.outline elementName ∧
        first.method = second.method := by
  constructor
  · intro same
    have parts := congrArg splitFullName same
    rw [first.splitFullName_raw, second.splitFullName_raw, Prod.mk.injEq] at parts
    obtain ⟨sameType, sameMethod⟩ := parts
    exact ⟨TypeTree.eq_of_display (TypeTree.isOutline_outline first.closed)
      (TypeTree.isOutline_outline second.closed) sameType, sameMethod⟩
  · rintro ⟨sameType, sameMethod⟩
    rw [raw, raw, TypeTree.displaySignature_encode first.isMethod first.closed,
      TypeTree.displaySignature_encode second.isMethod second.closed, sameType, sameMethod]

/-- A generic type with one type argument. -/
def boxOf (argument : Text) : TypeTree :=
  ⟨"Ns.Box".toText, .cons argument .nil (some "Lib".toText) .nil⟩

/-- A type argument may be an array in one type and its element in another that shows the same. -/
theorem not_forall_outline_eq :
    ¬∀ first second : ClosedMethod, first.method = "M".toText → second.method = "M".toText →
      displaySignature first.raw = displaySignature second.raw →
        first.type.outline id = second.type.outline id := by
  intro readable
  have sameType := readable ⟨boxOf "Ns.A[]".toText, "M".toText, by decide, by decide⟩
    ⟨boxOf "Ns.A".toText, "M".toText, by decide, by decide⟩ rfl rfl (by decide)
  have sameText := congrArg TypeTree.encode sameType
  revert sameText
  decide

end ClosedMethod

end ThreadStacks.Name
