import ThreadStacks.Proofs.Name.Markup
import ThreadStacks.Proofs.Name.Qualified

/-!
# Type trees

A closed generic type is a tree: a name and a list of type arguments, each of which is a tree again
and may name its assembly.  Scanning the runs of brackets never builds the tree, yet shows it at any
depth: every opening pair lists the arguments of the name in front of it, and what follows an
argument up to its bracket names an assembly at most.
-/

namespace ThreadStacks.Name

/-! ## Trees and their texts -/

/-- Texts with a separator between them, enclosed if there are any. -/
def enclose (first separator last : Text) : List Text → Text
  | [] => []
  | text :: texts => first ++ (separator.intercalate (text :: texts) ++ last)

/-- What stands behind a text of an enclosed list. -/
def encloseRest (separator last : Text) : List Text → Text
  | [] => last
  | text :: texts => separator ++ (text ++ encloseRest separator last texts)

theorem enclose_cons {first separator last text : Text} {texts : List Text} :
    enclose first separator last (text :: texts) =
      first ++ (text ++ encloseRest separator last texts) := by
  rw [enclose]
  congr 1
  induction texts generalizing text with
  | nil => simp [encloseRest]
  | cons second texts ih =>
      rw [List.intercalate_cons_cons, encloseRest, ← ih]
      simp only [List.append_assoc]

/-- The name of an assembly behind a type. -/
def assemblySuffix : Option Text → Text
  | none => []
  | some assembly => ", ".toText ++ assembly

/-- A list of type arguments.  Each has a name, type arguments of its own and an assembly. -/
inductive TypeArguments where
  | nil
  | cons (name : Text) (arguments : TypeArguments) (assembly : Option Text)
      (others : TypeArguments)

namespace TypeArguments

/-- The arguments as raw signatures write them. -/
def entries : TypeArguments → List Text
  | .nil => []
  | .cons name arguments assembly others =>
      (name ++ (enclose "[[".toText "],[".toText "]]".toText arguments.entries ++
        assemblySuffix assembly)) :: others.entries

/-- The readable arguments. -/
def displays : TypeArguments → List Text
  | .nil => []
  | .cons name arguments _ others =>
      (displayTypeName name ++ enclose [.char '<'] [.char ','] [.char '>'] arguments.displays) ::
        others.displays

/-- The argument list in a raw signature. -/
def encode (arguments : TypeArguments) : Text :=
  enclose "[[".toText "],[".toText "]]".toText arguments.entries

/-- The readable argument list. -/
def display (arguments : TypeArguments) : Text :=
  enclose [.char '<'] [.char ','] [.char '>'] arguments.displays

/-- What follows an argument in a raw argument list, where `others` are still to come. -/
def encodeRest (others : TypeArguments) : Text :=
  encloseRest "],[".toText "]]".toText others.entries

/-- What follows an argument in a readable argument list. -/
def displayRest (others : TypeArguments) : Text :=
  encloseRest [.char ','] [.char '>'] others.displays

/-- Whether all names and assemblies of a tree pass a test. -/
def all (testName : Text → Bool) (testAssembly : Option Text → Bool) : TypeArguments → Bool
  | .nil => true
  | .cons name arguments assembly others =>
      testName name && arguments.all testName testAssembly && testAssembly assembly &&
        others.all testName testAssembly

/-- Whether there are no arguments. -/
def isEmpty : TypeArguments → Bool
  | .nil => true
  | .cons _ _ _ _ => false

theorem eq_nil_of_isEmpty {arguments : TypeArguments} (empty : arguments.isEmpty = true) :
    arguments = nil := by
  cases arguments with
  | nil => rfl
  | cons name arguments assembly others => contradiction

section Equations

variable {name : Text} {arguments others : TypeArguments} {assembly : Option Text}

@[simp] theorem encode_cons : (cons name arguments assembly others).encode =
    .char '[' :: .char '[' ::
      (name ++ (arguments.encode ++ (assemblySuffix assembly ++ others.encodeRest))) := by
  rw [encode, entries, enclose_cons]
  simp only [List.append_assoc]
  rfl

@[simp] theorem encodeRest_cons : (cons name arguments assembly others).encodeRest =
    .char ']' :: .char ',' :: .char '[' ::
      (name ++ (arguments.encode ++ (assemblySuffix assembly ++ others.encodeRest))) := by
  rw [encodeRest, entries, encloseRest]
  simp only [List.append_assoc]
  rfl

@[simp] theorem display_cons : (cons name arguments assembly others).display =
    .char '<' :: (displayTypeName name ++ (arguments.display ++ others.displayRest)) := by
  rw [display, displays, enclose_cons]
  simp only [List.append_assoc]
  rfl

@[simp] theorem displayRest_cons : (cons name arguments assembly others).displayRest =
    .char ',' :: (displayTypeName name ++ (arguments.display ++ others.displayRest)) := by
  rw [displayRest, displays, encloseRest]
  simp only [List.append_assoc]
  rfl

theorem all_cons_iff {testName : Text → Bool} {testAssembly : Option Text → Bool} :
    (cons name arguments assembly others).all testName testAssembly = true ↔
      testName name = true ∧ arguments.all testName testAssembly = true ∧
        testAssembly assembly = true ∧ others.all testName testAssembly = true := by
  simp only [all, Bool.and_eq_true, and_assoc]

theorem all_mono {testName otherName : Text → Bool}
    {testAssembly otherAssembly : Option Text → Bool}
    (names : ∀ name, testName name = true → otherName name = true)
    (assemblies : ∀ assembly, testAssembly assembly = true → otherAssembly assembly = true)
    (valid : arguments.all testName testAssembly = true) :
    arguments.all otherName otherAssembly = true := by
  induction arguments with
  | nil => rfl
  | cons name arguments assembly others ihArguments ihOthers =>
      obtain ⟨validName, validArguments, validAssembly, validOthers⟩ := all_cons_iff.1 valid
      exact all_cons_iff.2 ⟨names name validName, ihArguments validArguments,
        assemblies assembly validAssembly, ihOthers validOthers⟩

end Equations

end TypeArguments

/-- A type with its type arguments. -/
structure TypeTree where
  name : Text
  arguments : TypeArguments

namespace TypeTree

/-- The type in a raw signature. -/
def encode (type : TypeTree) : Text := type.name ++ type.arguments.encode

/-- The readable type. -/
def display (type : TypeTree) : Text := displayTypeName type.name ++ type.arguments.display

/-- Whether all names and assemblies of a type pass a test. -/
def all (testName : Text → Bool) (testAssembly : Option Text → Bool) (type : TypeTree) : Bool :=
  testName type.name && type.arguments.all testName testAssembly

variable {type : TypeTree}

theorem encode_of_isEmpty (bare : type.arguments.isEmpty = true) : type.encode = type.name := by
  rw [encode, TypeArguments.eq_nil_of_isEmpty bare]
  exact List.append_nil _

theorem display_of_isEmpty (bare : type.arguments.isEmpty = true) :
    type.display = displayTypeName type.name := by
  rw [display, TypeArguments.eq_nil_of_isEmpty bare]
  exact List.append_nil _

end TypeTree

/-! ## What a scan shows -/

/-- Whether a name holds neither a comma nor a bracket. -/
def isMarkupName (name : Text) : Bool :=
  name.all fun character => character != .char ',' && !Bracket.isBracket character

/-- Whether an assembly, if there is one, holds no bracket. -/
def isMarkupAssembly (assembly : Option Text) : Bool :=
  (assembly.getD []).all fun character => !Bracket.isBracket character

/-- Whether a text ends a type argument: whatever segment it ends, the part before a comma is shown
as a type name. -/
def EndsArgument (text shown : Text) : Prop :=
  ∀ segment, IsUnbracketed segment →
    shownSpans (segment ++ text) = displayTypeName (segment.takeWhile (· != .char ',')) ++ shown

/-- Whether a scan shows an argument list together with the argument that it belongs to. -/
def IsShown (arguments : TypeArguments) : Prop :=
  ∀ name assembly text shown, isMarkupName name = true → isMarkupAssembly assembly = true →
    EndsArgument text shown →
    shownSpans (name ++ (arguments.encode ++ (assemblySuffix assembly ++ text))) =
      displayTypeName name ++ (arguments.display ++ shown)

section Scan

variable {name rest text shown : Text} {arguments others : TypeArguments}

theorem isUnbracketed_of_isMarkupName (valid : isMarkupName name = true) :
    IsUnbracketed name := by
  intro character member
  have test := List.all_eq_true.1 valid character member
  rw [Bool.and_eq_true, Bracket.not_isBracket_iff] at test
  exact test.2

theorem isUnbracketed_assemblySuffix {assembly : Option Text}
    (valid : isMarkupAssembly assembly = true) : IsUnbracketed (assemblySuffix assembly) := by
  cases assembly with
  | none => exact isUnbracketed_nil
  | some assembly =>
      apply isUnbracketed_append
      · exact List.forall_mem_cons.2 ⟨rfl, List.forall_mem_singleton.2 rfl⟩
      · intro character member
        have test := List.all_eq_true.1 valid character member
        rw [Bracket.not_isBracket_iff] at test
        exact test

/-- The name of an assembly is not shown. -/
theorem takeWhile_append_assemblySuffix (valid : isMarkupName name = true)
    (assembly : Option Text) :
    (name ++ assemblySuffix assembly).takeWhile (· != .char ',') = name := by
  have noComma : ∀ character ∈ name, (character != .char ',') = true := by
    intro character member
    have test := List.all_eq_true.1 valid character member
    exact (Bool.and_eq_true_iff.1 test).1
  rw [List.takeWhile_append_of_pos noComma]
  cases assembly with
  | none => exact List.append_nil name
  | some assembly => exact List.append_nil name

theorem leading_name {first : CodePoint} (valid : isMarkupName (first :: name) = true) :
    Span.leading .opening (spans (first :: name ++ rest)).1 = 0 := by
  apply leading_of_ne
  intro same
  subst same
  simp [isMarkupName, Bracket.isBracket] at valid

theorem leading_encodeRest :
    Span.leading .opening (spans (others.encodeRest ++ rest)).1 = 0 := by
  cases others with
  | nil => exact leading_of_ne (by decide)
  | cons name arguments assembly others =>
      rw [TypeArguments.encodeRest_cons]
      exact leading_of_ne (by decide)

/-- An argument starts with an even number of opening brackets, so the one in front of it pairs with
none of them. -/
theorem leading_argument {assembly : Option Text} (validName : isMarkupName name = true)
    (valid : arguments.all isMarkupName isMarkupAssembly = true)
    (closed : Span.leading .opening (spans text).1 = 0) :
    Span.leading .opening
      (spans (name ++ (arguments.encode ++ (assemblySuffix assembly ++ text)))).1 % 2 = 0 := by
  induction arguments generalizing name assembly text with
  | nil =>
      cases name with
      | nil =>
          cases assembly with
          | none => exact congrArg (· % 2) closed
          | some assembly => exact congrArg (· % 2) (leading_of_ne (by decide))
      | cons first name => exact congrArg (· % 2) (leading_name validName)
  | cons inner arguments innerAssembly others ihArguments ihOthers =>
      cases name with
      | nil =>
          obtain ⟨validInner, validArguments, -, -⟩ := TypeArguments.all_cons_iff.1 valid
          have even : Span.leading .opening (spans (inner ++ (arguments.encode ++
              (assemblySuffix innerAssembly ++
                (others.encodeRest ++ (assemblySuffix assembly ++ text)))))).1 % 2 = 0 :=
            ihArguments validInner validArguments leading_encodeRest
          rw [List.nil_append, TypeArguments.encode_cons]
          simp only [List.cons_append, List.append_assoc]
          change Span.leading .opening (spans (Bracket.opening.character ::
            Bracket.opening.character :: _)).1 % 2 = 0
          rw [leading_bracket, leading_bracket]
          omega
      | cons first name => exact congrArg (· % 2) (leading_name validName)

/-- A list of arguments is shown whatever stands behind it. -/
theorem shownSpans_cons {inner : Text} {assembly : Option Text} (unbracketed : IsUnbracketed name)
    (first : shownSpans
        (inner ++ (arguments.encode ++ (assemblySuffix assembly ++ (others.encodeRest ++ rest)))) =
      displayTypeName inner ++ (arguments.display ++ (others.displayRest ++ shownSpans rest))) :
    shownSpans (name ++ ((TypeArguments.cons inner arguments assembly others).encode ++ rest)) =
      displayTypeName name ++
        ((TypeArguments.cons inner arguments assembly others).display ++ shownSpans rest) := by
  rw [TypeArguments.encode_cons, TypeArguments.display_cons]
  simp only [List.cons_append, List.append_assoc]
  rw [← first]
  exact shownSpans_pair .opening unbracketed

theorem isMarkupName_nil : isMarkupName [] = true := rfl

theorem endsArgument_nil (rest : Text) :
    EndsArgument (TypeArguments.nil.encodeRest ++ rest)
      (TypeArguments.nil.displayRest ++ shownSpans rest) :=
  fun _ unbracketed => shownSpans_pair .closing unbracketed

theorem isShown_nil : IsShown .nil := by
  intro name assembly text shown validName validAssembly ends
  have unbracketed := isUnbracketed_append (isUnbracketed_of_isMarkupName validName)
    (isUnbracketed_assemblySuffix validAssembly)
  have whole := ends (name ++ assemblySuffix assembly) unbracketed
  rw [takeWhile_append_assemblySuffix validName, List.append_assoc] at whole
  exact whole

/-- The separator of a list ends an argument: its closing bracket ends the segment, its comma stands
alone, and its opening bracket pairs with nothing. -/
theorem endsArgument_separator {next : Text}
    (even : Span.leading .opening (spans next).1 % 2 = 0) :
    EndsArgument (.char ']' :: .char ',' :: .char '[' :: next) (.char ',' :: shownSpans next) := by
  intro segment unbracketed
  have separator : IsUnbracketed [.char ','] := List.forall_mem_singleton.2 rfl
  have isComma : displayTypeName [.char ','] = [.char ','] := by decide
  calc
    _ = displayTypeName (segment.takeWhile (· != .char ',')) ++
      shownSpans ([.char ','] ++ .char '[' :: next) :=
      shownSpans_single .closing unbracketed (congrArg (· % 2) (leading_of_ne (by decide)))
    _ = _ := by
      rw [← List.singleton_append (x := CodePoint.char ',')]
      congr 1
      rw [← isComma]
      exact shownSpans_single .opening separator even

section Cons

variable {inner : Text} {assembly : Option Text} (validInner : isMarkupName inner = true)
  (validAssembly : isMarkupAssembly assembly = true) (isShown : IsShown arguments)
  (ends : ∀ rest, EndsArgument (others.encodeRest ++ rest) (others.displayRest ++ shownSpans rest))

include validInner validAssembly isShown ends

theorem isShown_cons : IsShown (.cons inner arguments assembly others) := by
  intro name outerAssembly text shown validName validOuter outerEnds
  have suffixShown : shownSpans (assemblySuffix outerAssembly ++ text) = shown := by
    rw [outerEnds _ (isUnbracketed_assemblySuffix validOuter)]
    have noName : (assemblySuffix outerAssembly).takeWhile (· != .char ',') = [] :=
      takeWhile_append_assemblySuffix isMarkupName_nil outerAssembly
    rw [noName, displayTypeName_nil, List.nil_append]
  have first := isShown inner assembly _ _ validInner validAssembly
    (ends (assemblySuffix outerAssembly ++ text))
  rw [shownSpans_cons (isUnbracketed_of_isMarkupName validName) first, suffixShown]

theorem endsArgument_cons (valid : arguments.all isMarkupName isMarkupAssembly = true)
    (rest : Text) :
    EndsArgument ((TypeArguments.cons inner arguments assembly others).encodeRest ++ rest)
      ((TypeArguments.cons inner arguments assembly others).displayRest ++ shownSpans rest) := by
  have first := isShown inner assembly _ _ validInner validAssembly (ends rest)
  have even : Span.leading .opening (spans (inner ++ (arguments.encode ++
      (assemblySuffix assembly ++ (others.encodeRest ++ rest))))).1 % 2 = 0 :=
    leading_argument validInner valid leading_encodeRest
  rw [TypeArguments.encodeRest_cons, TypeArguments.displayRest_cons]
  simp only [List.cons_append, List.append_assoc]
  rw [← first]
  exact endsArgument_separator even

end Cons

theorem isShown_and_endsArgument (valid : arguments.all isMarkupName isMarkupAssembly = true) :
    IsShown arguments ∧ ∀ rest,
      EndsArgument (arguments.encodeRest ++ rest) (arguments.displayRest ++ shownSpans rest) := by
  induction arguments with
  | nil => exact ⟨isShown_nil, endsArgument_nil⟩
  | cons inner arguments assembly others ihArguments ihOthers =>
      obtain ⟨validInner, validArguments, validAssembly, validOthers⟩ :=
        TypeArguments.all_cons_iff.1 valid
      obtain ⟨isShown, -⟩ := ihArguments validArguments
      obtain ⟨-, ends⟩ := ihOthers validOthers
      exact ⟨isShown_cons validInner validAssembly isShown ends,
        endsArgument_cons validInner validAssembly isShown ends validArguments⟩

/-- A generic type is shown as its tree, whatever stands behind it. -/
theorem TypeTree.shownSpans_encode {type : TypeTree} (generic : type.arguments.isEmpty = false)
    (valid : type.all isMarkupName isMarkupAssembly = true) (rest : Text) :
    shownSpans (type.encode ++ rest) = type.display ++ shownSpans rest := by
  obtain ⟨name, arguments⟩ := type
  cases arguments with
  | nil => contradiction
  | cons inner arguments assembly others =>
      rw [TypeTree.all, Bool.and_eq_true] at valid
      obtain ⟨validName, validList⟩ := valid
      obtain ⟨validInner, validArguments, validAssembly, validOthers⟩ :=
        TypeArguments.all_cons_iff.1 validList
      have first := (isShown_and_endsArgument validArguments).1 inner assembly _ _ validInner
        validAssembly ((isShown_and_endsArgument validOthers).2 rest)
      rw [TypeTree.encode, TypeTree.display, List.append_assoc, List.append_assoc]
      exact shownSpans_cons (isUnbracketed_of_isMarkupName validName) first

theorem exists_encodeRest (others : TypeArguments) :
    ∃ front, others.encodeRest = front ++ [Bracket.closing.character] := by
  induction others with
  | nil => exact ⟨[.char ']'], rfl⟩
  | cons name arguments assembly others ihArguments ihOthers =>
      obtain ⟨front, ends⟩ := ihOthers
      rw [TypeArguments.encodeRest_cons, ends]
      simp only [← List.append_assoc, ← List.cons_append]
      exact ⟨_, rfl⟩

/-- The tail behind a generic type does not depend on the type. -/
theorem TypeTree.spansTail_encode {type : TypeTree} (generic : type.arguments.isEmpty = false)
    (rest : Text) : spansTail (type.encode ++ rest) = spansTail rest := by
  obtain ⟨name, arguments⟩ := type
  cases arguments with
  | nil => contradiction
  | cons inner arguments assembly others =>
      obtain ⟨front, ends⟩ := exists_encodeRest others
      rw [TypeTree.encode, TypeArguments.encode_cons, ends]
      simp only [List.append_assoc, List.singleton_append, ← List.cons_append]
      simp only [← List.append_assoc]
      exact spansTail_append .closing _

end Scan

/-! ## Depth -/

/-- A readable argument list closes what it opens, and has no dot outside of its brackets. -/
structure IsEnclosed (arguments : TypeArguments) : Prop where
  level : depthAfter arguments.display = 0
  levelRest : depthAfter arguments.displayRest = -1
  uncut : ∀ depth, 0 ≤ depth → IsUncut depth arguments.display
  uncutRest : ∀ depth, 0 < depth → IsUncut depth arguments.displayRest

theorem isEnclosed {testName : Text → Bool} {testAssembly : Option Text → Bool}
    (flat : ∀ name, testName name = true → IsFlat (displayTypeName name))
    {arguments : TypeArguments} (valid : arguments.all testName testAssembly = true) :
    IsEnclosed arguments := by
  induction arguments with
  | nil =>
      refine ⟨rfl, rfl, fun _ _ => isUncut_nil, fun _ _ => ?_⟩
      exact isUncut_cons (by simp) isUncut_nil
  | cons name arguments assembly others ihArguments ihOthers =>
      obtain ⟨validName, validArguments, -, validOthers⟩ := TypeArguments.all_cons_iff.1 valid
      have flatName := flat name validName
      have list := ihArguments validArguments
      have rest := ihOthers validOthers
      have level : depthAfter
          (displayTypeName name ++ (arguments.display ++ others.displayRest)) = -1 := by
        rw [depthAfter_append, depthAfter_append, flatName.depthAfter_eq_zero, list.level,
          rest.levelRest]
        rfl
      have uncut (depth : Int) (inside : 0 < depth) : IsUncut depth
          (displayTypeName name ++ (arguments.display ++ others.displayRest)) := by
        apply isUncut_append (flatName.isUncut (by omega))
        rw [flatName.depthAfter_eq_zero, Int.add_zero]
        apply isUncut_append (list.uncut depth (by omega))
        rw [list.level, Int.add_zero]
        exact rest.uncutRest depth inside
      have opens : depthChange (.char '<') = 1 := rfl
      have separates : depthChange (.char ',') = 0 := rfl
      refine ⟨?_, ?_, ?_, ?_⟩
      · rw [TypeArguments.display_cons, depthAfter, level, opens]
        rfl
      · rw [TypeArguments.displayRest_cons, depthAfter, level, separates]
        rfl
      · intro depth notBelow
        rw [TypeArguments.display_cons]
        apply isUncut_cons (by simp)
        rw [opens]
        exact uncut (depth + 1) (by omega)
      · intro depth inside
        rw [TypeArguments.displayRest_cons]
        apply isUncut_cons (by simp)
        rw [separates, Int.add_zero]
        exact uncut depth inside

end ThreadStacks.Name
