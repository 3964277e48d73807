import ThreadStacks.Frame.Basic
import ThreadStacks.Proofs.Name.Argument
import ThreadStacks.Proofs.Name.Plain
import ThreadStacks.Proofs.Name.Signature
import ThreadStacks.Proofs.Name.TypeTree

/-!
# Plain signatures

A plain signature is a type tree over dotted names, a method with type arguments of its own and a
list of arguments.  Demangling its text gives the readable form of each part, with one exception: if
only the method has type arguments, the name of the type and the method are one segment in front of
them, and the alias of a primitive type is looked up for the whole segment.
-/

namespace ThreadStacks

open Name

/-- One argument in a raw signature: a word, and whether the mark follows it. -/
structure PlainArgument where
  word : Text
  byReference : Bool
  nonempty : word ≠ []
  notMark : word ≠ byReferenceMark
  noBlank : ∀ character ∈ word, Text.isBlank character = false
  noComma : .char ',' ∉ word
  noParenthesis : .char '(' ∉ word

namespace PlainArgument

/-- The argument in a raw signature. -/
def encode (argument : PlainArgument) : Text :=
  if argument.byReference then argument.word ++ .char ' ' :: byReferenceMark else argument.word

/-- The readable argument. -/
def display (argument : PlainArgument) : Text :=
  if argument.byReference then byReferenceModifier ++ .char ' ' :: displayTypeName argument.word
  else displayTypeName argument.word

/-- The argument list in a raw signature. -/
def encodeAll (arguments : List PlainArgument) : Text :=
  ", ".toText.intercalate (arguments.map encode)

/-- The readable argument list. -/
def displayAll (arguments : List PlainArgument) : Text :=
  ", ".toText.intercalate (arguments.map display)

variable (argument : PlainArgument)

theorem mem_encode {character : CodePoint} (member : character ∈ argument.encode) :
    character ∈ argument.word ∨ character ∈ .char ' ' :: byReferenceMark := by
  rw [encode] at member
  split at member
  next => exact List.mem_append.1 member
  next => exact .inl member

theorem comma_not_mem_encode : .char ',' ∉ argument.encode := by
  intro member
  rcases argument.mem_encode member with inWord | inMark
  · exact argument.noComma inWord
  · exact absurd inMark (by decide)

theorem parenthesis_not_mem_encode : .char '(' ∉ argument.encode := by
  intro member
  rcases argument.mem_encode member with inWord | inMark
  · exact argument.noParenthesis inWord
  · exact absurd inMark (by decide)

theorem displayArgument_encode : displayArgument argument.encode = argument.display := by
  have isMarked : argument.encode = encodeMarked argument.byReference argument.word := by
    rw [encode, encodeMarked]
    cases argument.byReference <;> simp
  rw [isMarked, displayArgument_encodeMarked argument.noBlank, displayMarked,
    if_neg argument.notMark, display]
  cases argument.byReference with
  | true => rfl
  | false => rfl

theorem displayArguments_encodeAll (arguments : List PlainArgument) :
    displayArguments (encodeAll arguments) = displayAll arguments := by
  rw [encodeAll, displayArguments_intercalate, displayAll, List.map_map]
  · have each : displayArgument ∘ encode = display := funext displayArgument_encode
    rw [each]
  · intro piece listed
    obtain ⟨argument, -, rfl⟩ := List.mem_map.1 listed
    exact argument.comma_not_mem_encode

end PlainArgument

/-- Whether a type argument names its assembly, by a text without brackets. -/
def namesAssembly (assembly : Option Text) : Bool :=
  assembly.any fun text => text.all fun character => !Bracket.isBracket character

/-- The parts of a plain signature. -/
structure PlainSignature where
  type : TypeTree
  method : Text
  typeArguments : TypeArguments
  arguments : List PlainArgument
  plainType : type.all isDottedName namesAssembly = true
  isMethod : isIdentifier method = true
  plainTypeArguments : typeArguments.all isDottedName namesAssembly = true

namespace PlainSignature

variable (signature : PlainSignature)

/-- The raw signature in front of its argument list. -/
def body : Text :=
  signature.type.encode ++ .char '.' :: (signature.method ++ signature.typeArguments.encode)

/-- The raw signature. -/
def raw : Text :=
  signature.body ++ .char '(' :: (PlainArgument.encodeAll signature.arguments ++ [.char ')'])

/-- Whether the name of the type and the method are one segment of the markup: the type has no
arguments that would end the segment, and the method has some. -/
def sharesSegment : Bool :=
  signature.type.arguments.isEmpty && !signature.typeArguments.isEmpty

/-- The readable type and the readable method. -/
def displayParts : Text × Text :=
  let shared := signature.type.name ++ .char '.' :: signature.method
  if signature.sharesSegment then
    match PredefinedType.aliasOf? shared with
    | some aliasName => ([], aliasName ++ signature.typeArguments.display)
    | none => (signature.type.name, signature.method ++ signature.typeArguments.display)
  else (signature.type.display, signature.method ++ signature.typeArguments.display)

end PlainSignature

/-- The frame of a readable type, method and argument list. -/
def StackFrame.ofParts (type method arguments : Text) : StackFrame :=
  ⟨type, method, arguments, joinMethod type method ++ .char '(' :: (arguments ++ [.char ')'])⟩

/-! ## Cutting a raw signature -/

namespace StackFrame

theorem cutAtLast?_eq_none {cut : CodePoint} {text : Text} (absent : cut ∉ text) :
    cutAtLast? cut text = none := by
  induction text with
  | nil => rfl
  | cons character text ih =>
      rw [List.mem_cons, not_or] at absent
      rw [cutAtLast?, ih absent.2]
      exact if_neg (Ne.symm absent.1)

theorem cutAtLast?_append {cut : CodePoint} {front back : Text} (absent : cut ∉ back) :
    cutAtLast? cut (front ++ cut :: back) = some (front, back) := by
  induction front with
  | nil =>
      rw [List.nil_append, cutAtLast?, cutAtLast?_eq_none absent]
      exact if_pos rfl
  | cons character front ih => rw [List.cons_append, cutAtLast?, ih]

/-- A text that holds the character is cut. -/
theorem exists_cutAtLast? {cut : CodePoint} {text : Text} (member : cut ∈ text) :
    ∃ before after, cutAtLast? cut text = some (before, after) := by
  induction text with
  | nil => contradiction
  | cons character text ih =>
      rw [cutAtLast?]
      cases later : cutAtLast? cut text with
      | some parts => exact ⟨_, _, rfl⟩
      | none =>
          rcases List.mem_cons.1 member with rfl | inRest
          · exact ⟨[], text, if_pos rfl⟩
          · obtain ⟨before, after, isCut⟩ := ih inRest
            rw [isCut] at later
            contradiction

theorem splitSignature?_append {body arguments : Text} (absent : .char '(' ∉ arguments) :
    splitSignature? (body ++ .char '(' :: (arguments ++ [.char ')'])) = some (body, arguments) := by
  have noOpening : .char '(' ∉ arguments ++ [.char ')'] := by
    intro member
    rcases List.mem_append.1 member with inArguments | isClosing
    · exact absent inArguments
    · exact absurd isClosing (by decide)
  have closed : dropClosing (arguments ++ [.char ')']) = arguments := by
    rw [dropClosing, List.getLast?_concat, if_pos rfl, List.dropLast_concat]
  rw [splitSignature?, cutAtLast?_append noOpening, Option.map_some, closed]

end StackFrame

/-! ## The readable body -/

theorem isMarkupAssembly_of_namesAssembly {assembly : Option Text}
    (valid : namesAssembly assembly = true) : isMarkupAssembly assembly = true := by
  cases assembly with
  | none => rfl
  | some text => exact valid

theorem isMarkup_of_isPlain {arguments : TypeArguments}
    (plain : arguments.all isDottedName namesAssembly = true) :
    arguments.all isMarkupName isMarkupAssembly = true := by
  apply TypeArguments.all_mono _ _ plain
  · intro name valid
    exact isMarkupName_of_isPlainText (isPlainText_of_isDottedName valid)
  · intro assembly valid
    exact isMarkupAssembly_of_namesAssembly valid

theorem isEnclosed_of_isPlain {arguments : TypeArguments}
    (plain : arguments.all isDottedName namesAssembly = true) : IsEnclosed arguments := by
  apply isEnclosed _ plain
  intro name valid
  exact (isPlainText_of_isDottedName valid).isFlat_displayTypeName

namespace PlainSignature

variable (signature : PlainSignature)

theorem isPlainText_method : IsPlainText signature.method :=
  isPlainText_of_isIdentifier signature.isMethod

theorem isDottedName_name : isDottedName signature.type.name = true :=
  (Bool.and_eq_true_iff.1 signature.plainType).1

theorem isPlainText_name : IsPlainText signature.type.name :=
  isPlainText_of_isDottedName signature.isDottedName_name

theorem isMarkup_type : signature.type.all isMarkupName isMarkupAssembly = true := by
  rw [TypeTree.all, isMarkupName_of_isPlainText signature.isPlainText_name, Bool.true_and]
  exact isMarkup_of_isPlain (Bool.and_eq_true_iff.1 signature.plainType).2

theorem isMarkup_prefixed {name : Text} (plain : IsPlainText name) :
    TypeTree.all isMarkupName isMarkupAssembly ⟨name, signature.typeArguments⟩ = true := by
  rw [TypeTree.all, isMarkupName_of_isPlainText plain, Bool.true_and]
  exact isMarkup_of_isPlain signature.plainTypeArguments

/-- The readable method closes its brackets and has no dot outside of them. -/
theorem isUncut_method {name : Text} (noDot : .char '.' ∉ name) (flat : IsFlat name) :
    IsUncut 0 (name ++ signature.typeArguments.display) := by
  have enclosed := isEnclosed_of_isPlain signature.plainTypeArguments
  apply isUncut_append (isUncut_of_not_mem noDot)
  rw [flat.depthAfter_eq_zero]
  exact enclosed.uncut 0 (Int.le_refl 0)

theorem level_type : depthAfter signature.type.display = 0 := by
  have enclosed := isEnclosed_of_isPlain (Bool.and_eq_true_iff.1 signature.plainType).2
  rw [TypeTree.display, depthAfter_append, enclosed.level,
    signature.isPlainText_name.isFlat_displayTypeName.depthAfter_eq_zero]
  rfl

theorem displayMethod_ne_nil : signature.method ++ signature.typeArguments.display ≠ [] :=
  List.append_ne_nil_of_left_ne_nil (ne_nil_of_isIdentifier signature.isMethod) _

theorem splitFullName_displayParts :
    splitFullName (joinMethod signature.displayParts.1 signature.displayParts.2) =
      signature.displayParts := by
  have nonempty := signature.displayMethod_ne_nil
  have uncut := signature.isUncut_method (dot_not_mem_of_isIdentifier signature.isMethod)
    signature.isPlainText_method.isFlat
  rw [displayParts]
  split
  next shares =>
    cases found : PredefinedType.aliasOf? (signature.type.name ++
      .char '.' :: signature.method) with
    | some aliasName =>
        obtain ⟨type, -, rfl⟩ := PredefinedType.exists_of_aliasOf? found
        apply splitFullName_joinMethod rfl
        · apply signature.isUncut_method
          · cases type <;> decide
          · exact isFlat_sourceName type
        · exact List.append_ne_nil_of_left_ne_nil (PredefinedType.sourceName_ne_nil type) _
    | none =>
        exact splitFullName_joinMethod signature.isPlainText_name.isFlat.depthAfter_eq_zero uncut
          nonempty
  next => exact splitFullName_joinMethod signature.level_type uncut nonempty

/-- The type arguments of a method end the segment in front of them. -/
theorem shownSpans_typeArguments {name : Text} (plain : IsPlainText name)
    (generic : signature.typeArguments.isEmpty = false) :
    shownSpans (name ++ signature.typeArguments.encode) =
      displayTypeName name ++ signature.typeArguments.display := by
  have shown := @TypeTree.shownSpans_encode ⟨name, signature.typeArguments⟩ generic
    (signature.isMarkup_prefixed plain) []
  simpa [TypeTree.encode, TypeTree.display, shownSpans, spans] using shown

theorem spansTail_typeArguments (name : Text)
    (generic : signature.typeArguments.isEmpty = false) :
    spansTail (name ++ signature.typeArguments.encode) = [] := by
  have tail := @TypeTree.spansTail_encode ⟨name, signature.typeArguments⟩ generic []
  simpa [TypeTree.encode, spansTail, spans] using tail

/-- Without type arguments of its own the method is the tail. -/
theorem displaySignature_body_of_bare (bare : signature.typeArguments.isEmpty = true) :
    displaySignature signature.body = joinMethod signature.type.display signature.method := by
  have isBody : signature.body = signature.type.encode ++ .char '.' :: signature.method := by
    rw [body, TypeArguments.eq_nil_of_isEmpty bare]
    exact congrArg (signature.type.encode ++ .char '.' :: ·) (List.append_nil _)
  rw [isBody]
  cases generic : signature.type.arguments.isEmpty with
  | true =>
      rw [TypeTree.encode_of_isEmpty generic, TypeTree.display_of_isEmpty generic]
      exact displaySignature_of_plain signature.isMethod signature.isPlainText_name
  | false =>
      have tail : spansTail (signature.type.encode ++ .char '.' :: signature.method) =
          .char '.' :: signature.method := by
        rw [TypeTree.spansTail_encode generic, spansTail_dot signature.isMethod]
      rw [displaySignature_of_dot signature.isMethod tail,
        TypeTree.shownSpans_encode generic signature.isMarkup_type,
        shownSpans_dot signature.isMethod, List.append_nil]

theorem displaySignature_body_of_generic (genericType : signature.type.arguments.isEmpty = false)
    (genericMethod : signature.typeArguments.isEmpty = false) :
    displaySignature signature.body =
      joinMethod signature.type.display (signature.method ++ signature.typeArguments.display) := by
  have tail : spansTail (.char '.' :: (signature.method ++ signature.typeArguments.encode)) = [] :=
    signature.spansTail_typeArguments (.char '.' :: signature.method) genericMethod
  have plainDot := isPlainText_dot signature.isMethod
  have shown := signature.shownSpans_typeArguments plainDot genericMethod
  rw [displayTypeName_dot signature.isMethod] at shown
  have nonempty : signature.type.display ≠ [] := List.append_ne_nil_of_left_ne_nil
    (signature.isPlainText_name.displayTypeName_ne_nil
      (ne_nil_of_isDottedName signature.isDottedName_name)) _
  rw [displaySignature_of_no_tail, joinMethod_of_ne_nil nonempty signature.displayMethod_ne_nil]
  · rw [body, TypeTree.shownSpans_encode genericType signature.isMarkup_type]
    exact congrArg (signature.type.display ++ ·) shown
  · rw [body, TypeTree.spansTail_encode genericType]
    exact tail

/-- The name of a type without arguments and a method with some are read as one type name. -/
theorem displaySignature_body_of_shares (bareType : signature.type.arguments.isEmpty = true)
    (genericMethod : signature.typeArguments.isEmpty = false) :
    displaySignature signature.body =
      displayTypeName (signature.type.name ++ .char '.' :: signature.method) ++
        signature.typeArguments.display := by
  have plain := isPlainText_append_dot signature.isPlainText_name signature.isPlainText_method
  have isBody : signature.body =
      (signature.type.name ++ .char '.' :: signature.method) ++ signature.typeArguments.encode := by
    rw [body, TypeTree.encode_of_isEmpty bareType, List.append_assoc]
    rfl
  rw [isBody, displaySignature_of_no_tail (signature.spansTail_typeArguments _ genericMethod),
    signature.shownSpans_typeArguments plain genericMethod]

theorem displaySignature_body :
    displaySignature signature.body =
      joinMethod signature.displayParts.1 signature.displayParts.2 := by
  have plain := isPlainText_append_dot signature.isPlainText_name signature.isPlainText_method
  rw [displayParts, sharesSegment]
  cases genericMethod : signature.typeArguments.isEmpty with
  | true =>
      have noList := TypeArguments.eq_nil_of_isEmpty genericMethod
      have noDisplay : signature.typeArguments.display = [] := by rw [noList]; rfl
      rw [signature.displaySignature_body_of_bare genericMethod, noDisplay]
      simp
  | false =>
      cases genericType : signature.type.arguments.isEmpty with
      | true =>
          rw [signature.displaySignature_body_of_shares genericType genericMethod,
            plain.displayTypeName_eq]
          cases PredefinedType.aliasOf? (signature.type.name ++ .char '.' :: signature.method) with
          | some aliasName =>
              exact (joinMethod_nil (aliasName ++ signature.typeArguments.display)).symm
          | none =>
              have hasType := ne_nil_of_isDottedName signature.isDottedName_name
              have joined := joinMethod_of_ne_nil hasType signature.displayMethod_ne_nil
              exact (List.append_assoc _ _ _).trans joined.symm
      | false => exact signature.displaySignature_body_of_generic genericType genericMethod

theorem parenthesis_not_mem_encodeAll (arguments : List PlainArgument) :
    .char '(' ∉ PlainArgument.encodeAll arguments := by
  rw [PlainArgument.encodeAll]
  cases arguments with
  | nil => decide
  | cons argument arguments =>
      rw [List.map_cons, intercalate_commaSpace]
      apply Text.not_mem_intercalate (by decide)
      intro piece listed
      rcases List.mem_cons.1 listed with rfl | later
      · exact argument.parenthesis_not_mem_encode
      · obtain ⟨other, inArguments, rfl⟩ := List.mem_map.1 later
        obtain ⟨second, -, rfl⟩ := List.mem_map.1 inArguments
        rw [List.mem_cons, not_or]
        exact ⟨by decide, second.parenthesis_not_mem_encode⟩

/-- Demangling a plain signature gives the readable form of each of its parts. -/
theorem demangle_raw :
    StackFrame.demangle signature.raw =
      StackFrame.ofParts signature.displayParts.1 signature.displayParts.2
        (PlainArgument.displayAll signature.arguments) := by
  have cut : StackFrame.splitSignature? signature.raw =
      some (signature.body, PlainArgument.encodeAll signature.arguments) :=
    StackFrame.splitSignature?_append (parenthesis_not_mem_encodeAll signature.arguments)
  rw [StackFrame.demangle, cut]
  simp only [signature.displaySignature_body, signature.splitFullName_displayParts,
    PlainArgument.displayArguments_encodeAll]
  rfl

/-- A method with type arguments of a primitive type that is written by its qualified name. -/
def genericParse : PlainSignature where
  type := ⟨"System.Int32".toText, .nil⟩
  method := "Parse".toText
  typeArguments := .cons "Ns.A".toText .nil (some "Lib".toText) .nil
  arguments := []
  plainType := by decide
  isMethod := by decide
  plainTypeArguments := by decide

/-- The readable type of a frame is not always the readable form of the type in the signature. -/
theorem not_forall_demangle_raw_eq_display :
    ¬∀ signature : PlainSignature, StackFrame.demangle signature.raw =
      StackFrame.ofParts signature.type.display
        (signature.method ++ signature.typeArguments.display)
        (PlainArgument.displayAll signature.arguments) := by
  intro separate
  have sameType := congrArg StackFrame.type (separate genericParse)
  revert sameType
  decide

end PlainSignature

end ThreadStacks
