import ThreadStacks.Proofs.Frame.PlainSignature

/-!
# Array types in type trees

The name of an array type is that of its elements with pairs of brackets behind.  A single bracket
only ends a segment, so these pairs are read and shown as nothing: a type tree shows the same as
the tree of its element types.  The pairs never touch the brackets of an argument list, because the
name of an assembly stands between them.
-/

namespace ThreadStacks.Name

/-! ## Names of array types -/

/-- The brackets of arrays of arrays, as often as there are arrays. -/
def arrayBrackets : (arrays : Nat) → Text
  | 0 => []
  | arrays + 1 => .char '[' :: .char ']' :: arrayBrackets arrays

/-- The name of the elements of an array type; all of the name of a type that is no array. -/
def elementName (name : Text) : Text :=
  name.takeWhile fun character => !Bracket.isBracket character

/-- Whether a name is that of a predefined type. -/
def isPredefined (name : Text) : Bool := (PredefinedType.aliasOf? name).isSome

/-- Whether a name is dotted and not that of a predefined type. -/
def isOwnName (name : Text) : Bool := isDottedName name && !isPredefined name

/-- Whether a name is that of a type of one's own, or of an array of such a type. -/
def isArrayName (name : Text) : Bool :=
  let brackets := name.drop (elementName name).length
  isOwnName (elementName name) && brackets == arrayBrackets (brackets.length / 2)

section Names

variable {name : Text}

theorem isPlainText_of_isOwnName (own : isOwnName name = true) : IsPlainText name :=
  isPlainText_of_isDottedName (Bool.and_eq_true_iff.1 own).1

theorem ne_nil_of_isOwnName (own : isOwnName name = true) : name ≠ [] :=
  ne_nil_of_isDottedName (Bool.and_eq_true_iff.1 own).1

theorem displayTypeName_of_isOwnName (own : isOwnName name = true) :
    displayTypeName name = name := by
  have noAlias : PredefinedType.aliasOf? name = none := by
    simpa [isPredefined] using (Bool.and_eq_true_iff.1 own).2
  rw [(isPlainText_of_isOwnName own).displayTypeName_eq, noAlias]
  rfl

theorem isOwnName_elementName (valid : isArrayName name = true) :
    isOwnName (elementName name) = true :=
  (Bool.and_eq_true_iff.1 valid).1

theorem exists_arrayBrackets (valid : isArrayName name = true) :
    ∃ arrays, name = elementName name ++ arrayBrackets arrays := by
  have brackets := beq_iff_eq.1 (Bool.and_eq_true_iff.1 valid).2
  have split : elementName name ++ name.drop (elementName name).length = name :=
    List.prefix_iff_eq_append.1 (List.takeWhile_prefix _)
  rw [brackets] at split
  exact ⟨_, split.symm⟩

end Names

/-! ## What a scan shows of array brackets -/

/-- Whether a closing bracket in front of a text would be a run of its own. -/
def IsApart (text : Text) : Prop := Span.leading .closing (spans text).1 = 0

/-- A text that ends every name in front of it, and shows the same behind each of them. -/
structure ShowsBehind (text shown : Text) : Prop where
  apart : IsApart text
  behind : ∀ name, isMarkupName name = true →
    shownSpans (name ++ text) = displayTypeName name ++ shown

section Brackets

variable {text shown : Text}

theorem isApart_cons {character : CodePoint} (different : character ≠ .char ']') :
    IsApart (character :: text) :=
  leading_of_ne different

theorem isApart_arrayBrackets (apart : IsApart text) (arrays : Nat) :
    IsApart (arrayBrackets arrays ++ text) := by
  cases arrays with
  | zero => exact apart
  | succ arrays => exact isApart_cons (by decide)

theorem ShowsBehind.shownSpans_eq (shows : ShowsBehind text shown) : shownSpans text = shown := by
  have alone := shows.behind [] isMarkupName_nil
  rwa [displayTypeName_nil] at alone

/-- A pair of array brackets ends the name in front of it and shows nothing. -/
theorem showsBehind_pair (apart : IsApart text) :
    ShowsBehind (.char '[' :: .char ']' :: text) (shownSpans text) := by
  refine ⟨isApart_cons (by decide), ?_⟩
  intro name valid
  have closes : shownSpans ([] ++ .char ']' :: text) = displayTypeName [] ++ shownSpans text :=
    shownSpans_single .closing isUnbracketed_nil (congrArg (· % 2) apart)
  rw [displayTypeName_nil, List.nil_append, List.nil_append] at closes
  rw [← closes]
  exact shownSpans_single .opening (isUnbracketed_of_isMarkupName valid)
    (congrArg (· % 2) (leading_of_ne (by decide)))

theorem shownSpans_arrayBrackets (apart : IsApart text) (arrays : Nat) :
    shownSpans (arrayBrackets arrays ++ text) = shownSpans text := by
  induction arrays with
  | zero => rfl
  | succ arrays ih =>
      rw [← ih]
      exact (showsBehind_pair (isApart_arrayBrackets apart arrays)).shownSpans_eq

/-- Array brackets change nothing between a name and what shows the same behind every name. -/
theorem ShowsBehind.arrayBrackets (shows : ShowsBehind text shown) (arrays : Nat) :
    ShowsBehind (arrayBrackets arrays ++ text) shown := by
  cases arrays with
  | zero => exact shows
  | succ arrays =>
      have pair := showsBehind_pair (isApart_arrayBrackets shows.apart arrays)
      rwa [shownSpans_arrayBrackets shows.apart, shows.shownSpans_eq] at pair

end Brackets

/-! ## Trees of element types -/

/-- The list of type arguments with other names and without assemblies. -/
def TypeArguments.outline (rename : Text → Text) : TypeArguments → TypeArguments
  | .nil => .nil
  | .cons name arguments _ others =>
      .cons (rename name) (arguments.outline rename) none (others.outline rename)

/-- The type tree with other names and without assemblies. -/
def TypeTree.outline (rename : Text → Text) (type : TypeTree) : TypeTree :=
  ⟨rename type.name, type.arguments.outline rename⟩

section Scan

variable {name text shown : Text} {arguments others : TypeArguments}
  {assembly : Option Text}

theorem isMarkupName_elementName (valid : isArrayName name = true) :
    isMarkupName (elementName name) = true :=
  isMarkupName_of_isPlainText (isPlainText_of_isOwnName (isOwnName_elementName valid))

/-- What stands behind the name of an array type shows the same behind the name of its elements. -/
theorem ShowsBehind.shownSpans_name (shows : ShowsBehind text shown)
    (valid : isArrayName name = true) :
    shownSpans (name ++ text) = displayTypeName (elementName name) ++ shown := by
  obtain ⟨arrays, split⟩ := exists_arrayBrackets valid
  have behind := (shows.arrayBrackets arrays).behind _ (isMarkupName_elementName valid)
  rwa [← List.append_assoc, ← split] at behind

/-- The name of an assembly keeps array brackets apart from the end of the list. -/
theorem showsBehind_assemblySuffix (named : namesAssembly assembly = true)
    (ends : EndsArgument text shown) : ShowsBehind (assemblySuffix assembly ++ text) shown := by
  constructor
  · cases assembly with
    | none => contradiction
    | some assembly => exact isApart_cons (by decide)
  · intro name valid
    exact isShown_nil name assembly text shown valid (isMarkupAssembly_of_namesAssembly named) ends

/-- A scan of a list of arguments shows their element types, where something opens the list and
where the list goes on. -/
structure ShowsElements (arguments : TypeArguments) : Prop where
  list : arguments.isEmpty = false → ∀ text,
    ShowsBehind (arguments.encode ++ text)
      ((arguments.outline elementName).display ++ shownSpans text)
  ends : ∀ rest, EndsArgument (arguments.encodeRest ++ rest)
    ((arguments.outline elementName).displayRest ++ shownSpans rest)

theorem ShowsElements.shownSpans_argument (shows : ShowsElements arguments)
    (valid : isArrayName name = true) (named : namesAssembly assembly = true)
    (ends : EndsArgument text shown) :
    shownSpans (name ++ (arguments.encode ++ (assemblySuffix assembly ++ text))) =
      displayTypeName (elementName name) ++
        ((arguments.outline elementName).display ++ shown) := by
  have suffix := showsBehind_assemblySuffix named ends
  apply ShowsBehind.shownSpans_name _ valid
  cases generic : arguments.isEmpty with
  | true =>
      rw [TypeArguments.eq_nil_of_isEmpty generic]
      exact suffix
  | false =>
      rw [← suffix.shownSpans_eq]
      exact shows.list generic _

theorem leading_arrayName (valid : isArrayName name = true) :
    Span.leading .opening (spans (name ++ text)).1 = 0 := by
  obtain ⟨arrays, split⟩ := exists_arrayBrackets valid
  obtain ⟨first, element, isElement⟩ :=
    List.exists_cons_of_ne_nil (ne_nil_of_isOwnName (isOwnName_elementName valid))
  have isMarkup := isMarkupName_elementName valid
  rw [split, isElement, List.append_assoc]
  rw [isElement] at isMarkup
  exact leading_name isMarkup

theorem showsElements (valid : arguments.all isArrayName namesAssembly = true) :
    ShowsElements arguments := by
  -- The first argument needs the list that it opens and how the others go on, so both are shown
  -- together.
  induction arguments with
  | nil =>
      constructor
      · intro generic
        contradiction
      · exact endsArgument_nil
  | cons inner arguments assembly others ihArguments ihOthers =>
      obtain ⟨validInner, validArguments, named, validOthers⟩ :=
        TypeArguments.all_cons_iff.1 valid
      have first (rest : Text) := (ihArguments validArguments).shownSpans_argument validInner named
        ((ihOthers validOthers).ends rest)
      constructor
      · intro _ text
        rw [TypeArguments.outline, TypeArguments.encode_cons, TypeArguments.display_cons]
        simp only [List.cons_append, List.append_assoc]
        rw [← first]
        refine ⟨isApart_cons (by decide), ?_⟩
        intro name validName
        exact shownSpans_pair .opening (isUnbracketed_of_isMarkupName validName)
      · intro rest
        rw [TypeArguments.outline, TypeArguments.encodeRest_cons, TypeArguments.displayRest_cons]
        simp only [List.cons_append, List.append_assoc]
        rw [← first]
        exact endsArgument_separator (congrArg (· % 2) (leading_arrayName validInner))

theorem spansTail_arrayBrackets (front : Text) (arrays : Nat) (rest : Text) :
    spansTail (front ++ (arrayBrackets (arrays + 1) ++ rest)) = spansTail rest := by
  induction arrays generalizing front with
  | zero =>
      have closes : spansTail (front ++ [.char '['] ++ .char ']' :: rest) = spansTail rest :=
        spansTail_append .closing (front ++ [.char '['])
      rwa [List.append_assoc] at closes
  | succ arrays ih =>
      rw [← ih (front ++ [.char '[', .char ']']), List.append_assoc]
      rfl

section Method

variable {method : Text} (isMethod : isIdentifier method = true)

include isMethod

theorem displaySignature_arrayName (valid : isArrayName name = true) :
    displaySignature (name ++ .char '.' :: method) =
      joinMethod (displayTypeName (elementName name)) method := by
  obtain ⟨arrays, split⟩ := exists_arrayBrackets valid
  have plain := isPlainText_of_isOwnName (isOwnName_elementName valid)
  generalize elementName name = element at split plain ⊢
  subst split
  cases arrays with
  | zero =>
      -- Without brackets the name is no span but part of the tail.
      rw [arrayBrackets, List.append_nil]
      exact displaySignature_of_plain isMethod plain
  | succ arrays =>
      have apart : IsApart (.char '.' :: method) := isApart_cons (by decide)
      have pair := showsBehind_pair (isApart_arrayBrackets apart arrays)
      have shown := pair.behind _ (isMarkupName_of_isPlainText plain)
      have tail := spansTail_arrayBrackets element arrays (.char '.' :: method)
      rw [shownSpans_arrayBrackets apart, shownSpans_dot isMethod, List.append_nil] at shown
      rw [List.append_assoc, displaySignature_of_dot isMethod (tail.trans (spansTail_dot isMethod))]
      exact congrArg (joinMethod · method) shown

/-- A type with a plain method shows the tree of its element types and the method. -/
theorem TypeTree.displaySignature_encode {type : TypeTree}
    (valid : type.all isArrayName namesAssembly = true) :
    displaySignature (type.encode ++ .char '.' :: method) =
      joinMethod (type.outline elementName).display method := by
  obtain ⟨name, arguments⟩ := type
  obtain ⟨validName, validArguments⟩ := Bool.and_eq_true_iff.1 valid
  cases generic : arguments.isEmpty with
  | true =>
      have noArguments := TypeArguments.eq_nil_of_isEmpty generic
      subst noArguments
      rw [TypeTree.encode_of_isEmpty generic, TypeTree.display_of_isEmpty rfl]
      exact displaySignature_arrayName isMethod validName
  | false =>
      have tail := @TypeTree.spansTail_encode ⟨name, arguments⟩ generic (.char '.' :: method)
      have list := (showsElements validArguments).list generic (.char '.' :: method)
      have shown := list.shownSpans_name validName
      rw [shownSpans_dot isMethod, List.append_nil] at shown
      rw [displaySignature_of_dot isMethod (tail.trans (spansTail_dot isMethod)), TypeTree.encode,
        List.append_assoc, shown]
      rfl

end Method

end Scan

end ThreadStacks.Name
