import ThreadStacks.Proofs.Name.GeneratedName

/-!
# Sections of type names

The raw name of a nested type is a list of sections, one for each level: a type of the source code
with its number of parameters, a name that the compiler made up, or a class for captured variables,
which is only shown where a name follows its dot.  Dropping the numbers, cutting at plus signs and
resolving marks in the whole name shows each section as it is on its own.
-/

namespace ThreadStacks.Name

/-- Identifiers with dots between them. -/
structure DottedName where
  text : Text
  valid : isDottedName text = true

/-- The digits of a number of type parameters. -/
structure Arity where
  digits : Text
  nonempty : digits ≠ []
  valid : digits.all Text.isDecimalDigit = true

/-- A number of type parameters behind a name, if there is one. -/
def Arity.encode : Option Arity → Text
  | none => []
  | some arity => arityMark :: arity.digits

/-- The name of a class for captured variables. -/
def closureName (suffix : NameSuffix) : Text := "<>c".toText ++ suffix.text

/-- One section of the raw name of a type. -/
inductive TypeSection where
  | generated (name : GeneratedName)
  | dotted (name : DottedName) (arity : Option Arity)
  | closure (suffix : NameSuffix) (arity : Option Arity)
  | member (suffix : NameSuffix) (arity : Option Arity) (name : GeneratedName)
      (bracketed : name.encode.head? = some (.char '<'))

namespace TypeSection

/-- The section in a raw name. -/
def encode : TypeSection → Text
  | generated name => name.encode
  | dotted name arity => name.text ++ Arity.encode arity
  | closure suffix arity => closureName suffix ++ Arity.encode arity
  | member suffix arity name _ =>
      closureName suffix ++ (Arity.encode arity ++ .char '.' :: name.encode)

/-- The readable section; a class for captured variables has none of its own. -/
def display? : TypeSection → Option Text
  | generated name => some name.display
  | dotted name _ => some name.text
  | closure _ _ => none
  | member _ _ name _ => some name.display

/-- The raw name of a type. -/
def encodeAll (sections : List TypeSection) : Text := [.char '+'].intercalate (sections.map encode)

/-- The readable path of a type. -/
def displayAll (sections : List TypeSection) : Text :=
  [.char '.'].intercalate (sections.filterMap display?)

/-- The section without its number of type parameters. -/
def withoutArity : TypeSection → TypeSection
  | generated name => generated name
  | dotted name _ => dotted name none
  | closure suffix _ => closure suffix none
  | member suffix _ name bracketed => member suffix none name bracketed

end TypeSection

theorem all_isGeneratedCharacter_closureName (suffix : NameSuffix) :
    (closureName suffix).all isGeneratedCharacter = true := by
  have mark : "<>c".toText.all isGeneratedCharacter = true := by decide
  rw [closureName, List.all_append, mark, suffix.all_isGeneratedCharacter]
  rfl

theorem not_mem_closureName {character : CodePoint}
    (foreign : isGeneratedCharacter character = false)
    (suffix : NameSuffix) : character ∉ closureName suffix :=
  not_mem_of_all_isGeneratedCharacter foreign (all_isGeneratedCharacter_closureName suffix)

/-! ## Sections on their own -/

/-- A generated name is not taken for a class for captured variables: there is a name behind its
opening brackets. -/
theorem not_closureMark_prefix_encode (name : GeneratedName) : ¬closureMark <+: name.encode := by
  intro occurs
  cases name with
  | identifier name =>
      have noBracket : .char '<' ∉ name.text :=
        (isPlainText_of_isIdentifier name.valid).not_mem (by decide) (by decide)
      exact noBracket (occurs.subset (by decide))
  | lambda outer | stateMachine outer | localFunction outer =>
      obtain ⟨first, rest, split, notClosing⟩ := outer.exists_encode
      have behind := (List.cons_prefix_cons.1 occurs).2
      rw [split, List.cons_append] at behind
      exact notClosing (List.cons_prefix_cons.1 behind).1.symm

theorem displaySection?_of_not_prefix {part : Text} (noClosure : ¬closureMark <+: part) :
    displaySection? part = some (displayGenerated part) := by
  rw [displaySection?, if_neg (mt List.isPrefixOf_iff_prefix.1 noClosure)]

theorem displaySection?_closure (suffix : NameSuffix) (rest : Text) :
    displaySection? (closureName suffix ++ rest) =
      (Text.afterFirst? dottedBracket (closureName suffix ++ rest)).map displayGenerated := by
  have isClosure : closureMark <+: closureName suffix ++ rest :=
    (List.prefix_append closureMark suffix.text).trans (List.prefix_append _ rest)
  rw [displaySection?, if_pos (List.isPrefixOf_iff_prefix.2 isClosure)]
  rfl

namespace TypeSection

theorem displaySection?_withoutArity (part : TypeSection) :
    displaySection? part.withoutArity.encode = part.display? := by
  cases part with
  | generated name =>
      rw [display?, ← name.displayGenerated_encode]
      exact displaySection?_of_not_prefix (not_closureMark_prefix_encode name)
  | dotted name arity =>
      have plain := isPlainText_of_isDottedName name.valid
      have noClosure : ¬closureMark <+: name.text := by
        intro occurs
        have noBracket : .char '<' ∉ name.text := plain.not_mem (by decide) (by decide)
        exact noBracket (occurs.subset (by decide))
      rw [withoutArity, encode, Arity.encode, List.append_nil,
        displaySection?_of_not_prefix noClosure]
      exact congrArg some plain.displayMethodName_eq
  | closure suffix arity =>
      have noDot : .char '.' ∉ closureName suffix ++ [] := by
        rw [List.append_nil]
        exact not_mem_closureName (by decide) suffix
      have absent : Text.afterFirst? dottedBracket (closureName suffix ++ []) = none :=
        Text.afterFirst?_eq_none noDot
      rw [withoutArity, encode, Arity.encode, displaySection?_closure, absent]
      rfl
  | member suffix arity name bracketed =>
      obtain ⟨rest, split⟩ := List.head?_eq_some_iff.1 bracketed
      have noDot : .char '.' ∉ closureName suffix := not_mem_closureName (by decide) suffix
      have found :
          Text.afterFirst? dottedBracket (closureName suffix ++ .char '.' :: .char '<' :: rest) =
            some rest :=
        Text.afterFirst?_append noDot
      rw [withoutArity, encode, Arity.encode, List.nil_append, split, displaySection?_closure,
        found, display?, ← name.displayGenerated_encode, split]
      rfl

/-! ## Sections in a name -/

theorem dropArities_arity (arity : Option Arity) {back : Text}
    (behind : startsWithDigit back = false) :
    dropArities false (Arity.encode arity ++ back) = dropArities false back := by
  cases arity with
  | none => rfl
  | some arity => exact dropArities_mark arity.nonempty arity.valid behind

theorem dropArities_encode (part : TypeSection) {back : Text}
    (behind : startsWithDigit back = false) :
    dropArities false (part.encode ++ back) =
      part.withoutArity.encode ++ dropArities false back := by
  cases part with
  | generated name => exact dropArities_append (name.not_mem_encode (by decide))
  | dotted name arity =>
      have noMark : arityMark ∉ name.text :=
        (isPlainText_of_isDottedName name.valid).not_mem (by decide) (by decide)
      rw [encode, List.append_assoc, dropArities_append noMark, dropArities_arity arity behind]
      exact congrArg (· ++ _) (List.append_nil _).symm
  | closure suffix arity =>
      have noMark : arityMark ∉ closureName suffix := not_mem_closureName (by decide) suffix
      rw [encode, List.append_assoc, dropArities_append noMark, dropArities_arity arity behind]
      exact congrArg (· ++ _) (List.append_nil _).symm
  | member suffix arity name bracketed =>
      have noMark : arityMark ∉ closureName suffix := not_mem_closureName (by decide) suffix
      have noMarkBehind : arityMark ∉ .char '.' :: name.encode := by
        rw [List.mem_cons, not_or]
        exact ⟨by decide, name.not_mem_encode (by decide)⟩
      rw [encode, List.append_assoc, dropArities_append noMark, List.append_assoc,
        dropArities_arity arity rfl, dropArities_append noMarkBehind, ← List.append_assoc]
      rfl

theorem plus_not_mem_withoutArity (part : TypeSection) : .char '+' ∉ part.withoutArity.encode := by
  cases part with
  | generated name => exact name.not_mem_encode (by decide)
  | dotted name arity =>
      rw [withoutArity, encode, Arity.encode, List.append_nil]
      exact (isPlainText_of_isDottedName name.valid).not_mem (by decide) (by decide)
  | closure suffix arity =>
      rw [withoutArity, encode, Arity.encode, List.append_nil]
      exact not_mem_closureName (by decide) suffix
  | member suffix arity name bracketed =>
      rw [withoutArity, encode, Arity.encode, List.nil_append, List.mem_append, List.mem_cons,
        not_or, not_or]
      exact ⟨not_mem_closureName (by decide) suffix, by decide, name.not_mem_encode (by decide)⟩

theorem encodeAll_cons_cons (part second : TypeSection) (sections : List TypeSection) :
    encodeAll (part :: second :: sections) =
      part.encode ++ ([.char '+'] ++ encodeAll (second :: sections)) := by
  rw [encodeAll, List.map_cons, List.map_cons, List.intercalate_cons_cons, List.append_assoc]
  rfl

theorem dropArities_encodeAll (sections : List TypeSection) :
    dropArities false (encodeAll sections) = encodeAll (sections.map withoutArity) := by
  induction sections with
  | nil => rfl
  | cons part sections ih =>
      cases sections with
      | nil =>
          have alone := @dropArities_encode part [] rfl
          rw [List.append_nil, dropArities, List.append_nil] at alone
          simpa [encodeAll] using alone
      | cons second sections =>
          have noMark : arityMark ∉ [.char '+'] := by decide
          rw [encodeAll_cons_cons, dropArities_encode part rfl, dropArities_append noMark, ih]
          exact (encodeAll_cons_cons _ _ _).symm

/-- Each section is shown as it is on its own. -/
theorem displayPath_encodeAll (sections : List TypeSection) :
    displayPath (encodeAll sections) = displayAll sections := by
  cases sections with
  | nil => rfl
  | cons part sections =>
      have noPlus : ∀ text ∈ ((part :: sections).map withoutArity).map encode,
          .char '+' ∉ text := by
        intro text listed
        obtain ⟨bare, isBare, rfl⟩ := List.mem_map.1 listed
        obtain ⟨other, -, rfl⟩ := List.mem_map.1 isBare
        exact other.plus_not_mem_withoutArity
      have each : (displaySection? ∘ encode) ∘ withoutArity = display? :=
        funext displaySection?_withoutArity
      rw [displayPath, dropArities_encodeAll, encodeAll, Text.splitAt_eq_splitOn,
        List.splitOn_intercalate (CodePoint.char '+') noPlus (by simp), List.filterMap_map,
        List.filterMap_map, each,
        displayAll]

/-- The rules on names follow the structure of type names and of method names: a type name shows its
sections one by one, or the alias of the primitive type that these name together, and a generated
method name shows its levels one by one. -/
theorem displayTypeName_encodeAll :
    (∀ sections : List TypeSection,
      displayTypeName (encodeAll sections) =
        (PredefinedType.aliasOf? (displayAll sections)).getD (displayAll sections)) ∧
      ∀ name : GeneratedName, displayMethodName name.encode = name.display := by
  constructor
  · intro sections
    rw [displayTypeName_eq_getD, displayPath_encodeAll]
  · exact GeneratedName.displayGenerated_encode

/-- The state machine of a lambda in a class for captured variables. -/
example :
    let runAsync : GeneratedName := .identifier ⟨"RunAsync".toText, by decide⟩
    let lambda : GeneratedName := .lambda runAsync ⟨"__1_0".toText, by decide⟩
    let sections : List TypeSection := [
      .dotted ⟨"Ns.Program".toText, by decide⟩ none, .closure ⟨[], rfl⟩ none,
      .generated (.stateMachine lambda ⟨[], rfl⟩)]
    encodeAll sections = "Ns.Program+<>c+<<RunAsync>b__1_0>d".toText ∧
      displayAll sections = "Ns.Program.RunAsync.AnonymousMethod__1_0.StateMachine".toText := by
  decide

end TypeSection

end ThreadStacks.Name
