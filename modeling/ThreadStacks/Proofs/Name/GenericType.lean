import ThreadStacks.Proofs.Name.Signature
import ThreadStacks.Proofs.Name.TypeTree

/-!
# Generic types with arbitrary names

What the names in a generic type are does not matter to the markup around them: they may be empty or
made up by the compiler, and each is made readable on its own.  Nor do assemblies have to be named.
Where none is, the brackets that close arguments and lists of several levels run together, and half
of them are still the lists that end there.
-/

namespace ThreadStacks.Name

/-- A type with type arguments, in whose names nothing can be taken for markup. -/
structure GenericType where
  type : TypeTree
  generic : type.arguments.isEmpty = false
  markup : type.all isMarkupName isMarkupAssembly = true

namespace GenericType

variable (type : GenericType) {rest method : Text}

/-- The type in a raw signature. -/
def encode : Text := type.type.encode

/-- The readable type. -/
def display : Text := type.type.display

theorem shownSpans_encode (rest : Text) :
    shownSpans (type.encode ++ rest) = type.display ++ shownSpans rest :=
  type.type.shownSpans_encode type.generic type.markup rest

theorem spansTail_encode (rest : Text) : spansTail (type.encode ++ rest) = spansTail rest :=
  type.type.spansTail_encode type.generic rest

theorem display_ne_nil : type.display ≠ [] := by
  obtain ⟨⟨name, arguments⟩, generic, -⟩ := type
  cases arguments with
  | nil => contradiction
  | cons inner arguments assembly others =>
      rw [display, TypeTree.display, TypeArguments.display_cons]
      exact List.append_ne_nil_of_right_ne_nil _ (List.cons_ne_nil _ _)

/-- A text that ends in a bracket itself is shown behind a generic type as it is alone. -/
theorem displaySignature_append (noTail : spansTail rest = []) :
    displaySignature (type.encode ++ rest) = type.display ++ shownSpans rest := by
  rw [displaySignature_of_no_tail ((type.spansTail_encode rest).trans noTail),
    type.shownSpans_encode]

theorem displaySignature_encode : displaySignature type.encode = type.display := by
  have alone := @displaySignature_append type [] rfl
  rwa [List.append_nil, shownSpans, spans, List.flatMap_nil, List.append_nil] at alone

/-- A method is joined to the type, unless nothing of it is shown. -/
theorem displaySignature_append_method (uncut : .char '.' ∉ method)
    (unbracketed : IsUnbracketed method) :
    displaySignature (type.encode ++ .char '.' :: method) =
      joinMethod type.display (displayMethodName method) := by
  have dotted : IsUnbracketed (.char '.' :: method) := List.forall_mem_cons.2 ⟨rfl, unbracketed⟩
  have noSpans : shownSpans (.char '.' :: method) = [] := by
    rw [shownSpans, spans_eq_of_isUnbracketed dotted]
    rfl
  have tail : spansTail (type.encode ++ .char '.' :: method) = .char '.' :: method := by
    rw [type.spansTail_encode, spansTail, spans_eq_of_isUnbracketed dotted]
  have parts : splitFullName (.char '.' :: method) = ([], method) :=
    @splitFullName_append_dot [] method rfl (isUncut_of_not_mem uncut)
  rw [displaySignature_eq, tail, parts, type.shownSpans_encode, noSpans, displayTypeName_nil,
    List.append_nil, List.append_nil]

/-- A method with type arguments of its own is read like another type behind the first one. -/
theorem displaySignature_append_encode (method : GenericType) :
    displaySignature (type.encode ++ method.encode) = type.display ++ method.display := by
  have noTail : spansTail method.encode = [] := by
    have tail := method.spansTail_encode []
    rwa [List.append_nil] at tail
  have alone := method.displaySignature_encode
  rw [displaySignature_of_no_tail noTail] at alone
  rw [type.displaySignature_append noTail, alone]

/-- The markup of a generic type is resolved name by name: alone, in front of a method, and in front
of a method with type arguments, whose name starts with the dot. -/
theorem displaySignature_eq_display :
    displaySignature type.encode = type.display ∧
      (∀ method, .char '.' ∉ method → IsUnbracketed method →
        displaySignature (type.encode ++ .char '.' :: method) =
          type.display ++ if displayMethodName method = [] then []
            else .char '.' :: displayMethodName method) ∧
      ∀ method : GenericType,
        displaySignature (type.encode ++ method.encode) = type.display ++ method.display := by
  refine ⟨type.displaySignature_encode, ?_, type.displaySignature_append_encode⟩
  intro method uncut unbracketed
  rw [type.displaySignature_append_method uncut unbracketed]
  split
  next noMethod => rw [noMethod, joinMethod, List.append_nil]; rfl
  next hasMethod => exact joinMethod_of_ne_nil type.display_ne_nil hasMethod

/-- A generic type without assemblies, one of whose arguments is a generic type without a name. -/
def nameless : GenericType where
  type := ⟨"Ns.P+<>c".toText, .cons "System.Int32".toText .nil none
    (.cons [] (.cons "<M>d".toText .nil none .nil) none .nil)⟩
  generic := rfl
  markup := by decide

theorem displaySignature_eq_display_nameless :
    (.char '.' ∉ "<Run>b__0".toText ∧ IsUnbracketed "<Run>b__0".toText) ∧
      displaySignature (nameless.encode ++ ".<Run>b__0".toText) =
        "Ns.P<int,<M.StateMachine>>.Run.AnonymousMethod__0".toText := by
  have uncut : .char '.' ∉ "<Run>b__0".toText := by decide
  have noBracket : ("<Run>b__0".toText.all fun character =>
      (Bracket.ofCharacter? character).isNone) = true := by decide
  have unbracketed : IsUnbracketed "<Run>b__0".toText := fun character member =>
    Option.isNone_iff_eq_none.1 (List.all_eq_true.1 noBracket character member)
  obtain ⟨-, inFront, -⟩ := nameless.displaySignature_eq_display
  exact ⟨⟨uncut, unbracketed⟩, (inFront _ uncut unbracketed).trans (by decide)⟩

end GenericType

end ThreadStacks.Name
