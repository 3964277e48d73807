import ThreadStacks.Name.TypeName

/-!
# Names of predefined types

A name that stands for a primitive type holds no character but those of the qualifier and of the
runtime names, up to letter case.  The alias of a primitive type is its own readable form.  Names
that are too long are refused before the table is looked at; none of them is in it.
-/

namespace ThreadStacks

/-- A character that is its own lower-case form is in the lower-case form of its text. -/
theorem Text.mem_lower {character : CodePoint} {text : Text}
    (own : lowerCharacter character = [character]) (notSigma : character ≠ capitalSigma)
    (member : character ∈ text) : character ∈ lower text := by
  have everywhere (afterCased : Bool) : character ∈ lowerAfter afterCased text := by
    induction text generalizing afterCased with
    | nil => contradiction
    | cons first rest ih =>
        rw [lowerAfter, List.mem_append]
        rcases List.mem_cons.1 member with rfl | later
        · left
          rw [if_neg notSigma, own]
          exact List.mem_singleton_self _
        · exact .inr (ih later _)
  exact everywhere false

theorem Text.head?_lower {character : CodePoint} {rest : Text}
    (own : lowerCharacter character = [character]) (notSigma : character ≠ capitalSigma) :
    (lower (character :: rest)).head? = some character := by
  rw [lower, lowerAfter, if_neg notSigma, own]
  rfl

namespace PredefinedType

theorem lower_eq_of_ofName? {name : Text} {type : PredefinedType}
    (found : ofName? name = some type) :
    Text.lower (dropQualifier name) = type.runtimeName := by
  rw [ofName?] at found
  split at found
  next => contradiction
  next =>
    have same := List.find?_some found
    exact (beq_iff_eq.1 same).symm

/-- A character that no qualified runtime name holds is in no name of a primitive type. -/
theorem not_mem_of_ofName? {name : Text} {type : PredefinedType} {character : CodePoint}
    (found : ofName? name = some type) (own : Text.lowerCharacter character = [character])
    (notSigma : character ≠ Text.capitalSigma) (noQualifier : character ∉ Text.lower qualifier)
    (noName : ∀ type : PredefinedType, character ∉ type.runtimeName) : character ∉ name := by
  have same := lower_eq_of_ofName? found
  have notBehind : character ∉ dropQualifier name := by
    intro member
    apply noName type
    rw [← same]
    exact Text.mem_lower own notSigma member
  intro member
  rw [dropQualifier] at notBehind
  split at notBehind
  next qualified =>
    rw [← List.take_append_drop qualifier.length name, List.mem_append] at member
    rcases member with inQualifier | behind
    · apply noQualifier
      rw [← qualified]
      exact Text.mem_lower own notSigma inQualifier
    · exact notBehind behind
  next => exact notBehind member

theorem exists_of_aliasOf? {name aliasName : Text} (found : aliasOf? name = some aliasName) :
    ∃ type, ofName? name = some type ∧ type.sourceName = aliasName :=
  Option.map_eq_some_iff.1 found

/-- The characters that the rules on names look for. -/
def ruleCharacters : List CodePoint :=
  [.char '<', .char '>', .char '|', .char '+', .char ',', .char '[', .char ']', Name.arityMark]

theorem forall_ruleCharacters {property : CodePoint → Prop} [DecidablePred property]
    (every : ruleCharacters.all (fun character => decide (property character)) = true) :
    ∀ character ∈ ruleCharacters, property character := by
  intro character inRules
  exact of_decide_eq_true (List.all_eq_true.1 every character inRules)

/-- The rules on names have nothing to look for in a name of a primitive type. -/
theorem not_mem_of_aliasOf? {name aliasName : Text} (found : aliasOf? name = some aliasName)
    {character : CodePoint} (inRules : character ∈ ruleCharacters) : character ∉ name := by
  obtain ⟨type, found, -⟩ := exists_of_aliasOf? found
  have plain : ∀ character ∈ ruleCharacters, Text.lowerCharacter character = [character] ∧
      character ≠ Text.capitalSigma ∧ character ∉ Text.lower qualifier :=
    forall_ruleCharacters (by decide)
  have noName : ∀ type : PredefinedType, character ∉ type.runtimeName := by
    intro type
    have plainName : ∀ character ∈ ruleCharacters, character ∉ type.runtimeName := by
      cases type <;> exact forall_ruleCharacters (by decide)
    exact plainName character inRules
  obtain ⟨own, notSigma, noQualifier⟩ := plain character inRules
  exact not_mem_of_ofName? found own notSigma noQualifier noName

/-- A name with a dot in front is no name of a primitive type. -/
theorem aliasOf?_dot (name : Text) : aliasOf? (.char '.' :: name) = none := by
  have own : Text.lowerCharacter (.char '.') = [.char '.'] := by decide
  have notSigma : .char '.' ≠ Text.capitalSigma := by decide
  have notQualified :
      Text.lower ((.char '.' :: name).take qualifier.length) ≠ Text.lower qualifier := by
    intro same
    have first : (Text.lower ((.char '.' :: name).take qualifier.length)).head? =
        some (.char '.') :=
      Text.head?_lower own notSigma
    rw [same] at first
    revert first
    decide
  cases found : aliasOf? (.char '.' :: name) with
  | none => rfl
  | some aliasName =>
      obtain ⟨type, found, -⟩ := exists_of_aliasOf? found
      have same := lower_eq_of_ofName? found
      rw [dropQualifier, if_neg notQualified] at same
      have isIn := Text.mem_lower own notSigma (List.mem_cons_self (a := .char '.') (l := name))
      have noDot : .char '.' ∉ type.runtimeName := by
        cases type <;> decide
      rw [same] at isIn
      exact absurd isIn noDot

theorem sourceName_ne_nil (type : PredefinedType) : type.sourceName ≠ [] := by
  cases type <;> decide

theorem displayTypeName_sourceName (type : PredefinedType) :
    Name.displayTypeName type.sourceName = type.sourceName := by
  cases type <;> decide

/-! ## Looking up names of any length -/

/-- The table of the primitive types: runtime names in lower case, with their aliases. -/
def table : List (Text × Text) := all.map fun type => (type.runtimeName, type.sourceName)

/-- The alias that the table has for a name of any length, without its qualifier. -/
def tableAlias? (name : Text) : Option Text :=
  let bareName := if Text.lower (name.take 7) = "system.".toText then name.drop 7 else name
  table.lookup (Text.lower bareName)

theorem lookup_table (key : Text) : table.lookup key = (ofRuntimeName? key).map sourceName := by
  rw [table, ofRuntimeName?]
  induction all with
  | nil => rfl
  | cons type types ih =>
      rw [List.map_cons, List.lookup_cons, List.find?_cons, ih]
      by_cases same : key = type.runtimeName
      · subst same
        simp
      · rw [beq_false_of_ne same, beq_false_of_ne (Ne.symm same)]

theorem tableAlias?_eq (name : Text) :
    tableAlias? name = (ofRuntimeName? (Text.lower (dropQualifier name))).map sourceName := by
  have qualifierLower : Text.lower qualifier = "system.".toText := by decide
  rw [← lookup_table, dropQualifier, qualifierLower]
  rfl

theorem length_le_of_ofRuntimeName? {key : Text} {type : PredefinedType}
    (found : ofRuntimeName? key = some type) : qualifier.length + key.length ≤ maxNameLength := by
  have isName := List.find?_some found
  have same : type.runtimeName = key := beq_iff_eq.1 isName
  subst same
  cases type <;> decide

/-- A name that is longer than every qualified runtime name is none of them in any letter case:
its lower-case form is at least as long. -/
theorem ofRuntimeName?_eq_none_of_length {name : Text} (tooLong : maxNameLength < name.length) :
    ofRuntimeName? (Text.lower (dropQualifier name)) = none := by
  have dropped : name.length ≤ qualifier.length + (dropQualifier name).length := by
    rw [dropQualifier]
    split
    next =>
      rw [List.length_drop]
      omega
    next => exact Nat.le_add_left _ _
  have lowered : (dropQualifier name).length ≤ (Text.lower (dropQualifier name)).length :=
    Text.length_le_length_lowerAfter false _
  cases found : ofRuntimeName? (Text.lower (dropQualifier name)) with
  | none => rfl
  | some type =>
      have short := length_le_of_ofRuntimeName? found
      omega

/-- Refusing long names loses no alias, and an alias is the readable form of its name and of
itself. -/
theorem aliasOf?_eq_tableAlias? (name : Text) :
    aliasOf? name = tableAlias? name ∧
      ∀ shown, aliasOf? name = some shown →
        Name.displayTypeName name = shown ∧ Name.displayTypeName shown = shown := by
  constructor
  · rw [aliasOf?, ofName?, tableAlias?_eq]
    split
    next tooLong => rw [ofRuntimeName?_eq_none_of_length tooLong]
    next => rfl
  · intro shown isAlias
    obtain ⟨type, -, rfl⟩ := exists_of_aliasOf? isAlias
    refine ⟨?_, displayTypeName_sourceName type⟩
    rw [Name.displayTypeName, isAlias]

/-- The longest names that have an alias are as long as the longest qualified runtime name. -/
theorem aliasOf?_eq_tableAlias?_longest :
    let name := "sYSTEM.DECIMAL".toText
    let shown := "decimal".toText
    name.length = maxNameLength ∧ aliasOf? name = some shown ∧ tableAlias? name = some shown ∧
      Name.displayTypeName name = shown ∧ Name.displayTypeName shown = shown := by
  intro name shown
  have isAlias : aliasOf? name = some shown := by decide
  obtain ⟨same, readable⟩ := aliasOf?_eq_tableAlias? name
  exact ⟨by decide, isAlias, same.symm.trans isAlias, readable shown isAlias⟩

end PredefinedType

end ThreadStacks
