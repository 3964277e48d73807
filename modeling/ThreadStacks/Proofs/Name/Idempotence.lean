import ThreadStacks.Proofs.Name.Normal
import ThreadStacks.Proofs.Text.Trim

/-!
# Readable names read again

The readable form of a type name is a path: the rules that cut at plus signs, drop bars and resolve
marks find nothing in it.  So a second reading changes it exactly where it is not settled, and what
the second reading gives is settled, because there are no bars left to hide a mark.
-/

namespace ThreadStacks.Name

/-- A name without the characters that the rules cut at or drop, and without marks. -/
structure IsPath (name : Text) : Prop where
  noPlus : .char '+' ∉ name
  noBar : .char '|' ∉ name
  noMark : ∀ mark ∈ Mark.all, ¬mark.text <:+: name

variable {name : Text}

/-! ## Names that hold none of the characters that the rules look for -/

section Plain

variable (plain : ∀ character ∈ PredefinedType.ruleCharacters, character ∉ name)

include plain

theorem isPath_of_plain : IsPath name := by
  constructor
  · exact plain (.char '+') (by decide)
  · exact plain (.char '|') (by decide)
  · intro mark listed occurs
    exact plain (.char '>') (by decide) (occurs.subset List.mem_cons_self)

theorem isSettled_of_plain : IsSettled name := by
  have noBracket := plain (.char '<') (by decide)
  constructor
  · intro occurs
    exact noBracket (occurs.subset List.mem_cons_self)
  · intro occurs
    exact noBracket (occurs.subset (List.mem_cons_of_mem _ List.mem_cons_self))
  · exact hasArity_eq_false_of_not_mem (plain arityMark (by decide))

end Plain

theorem plain_sourceName (type : PredefinedType) :
    ∀ character ∈ PredefinedType.ruleCharacters, character ∉ type.sourceName := by
  cases type <;> exact PredefinedType.forall_ruleCharacters (by decide)

/-! ## Paths -/

theorem isPath_displayGenerated {part : Text} (noPlus : .char '+' ∉ part) :
    IsPath (displayGenerated part) := by
  rw [displayGenerated_eq_resolveMarks]
  constructor
  · apply not_mem_resolveMarks (by decide)
    intro member
    exact noPlus (mem_of_mem_unmark member)
  · exact not_mem_resolveMarks (by decide) bar_not_mem_unmark
  · intro mark listed
    exact not_mark_infix_resolveMarks listed

theorem isPath_intercalate {names : List Text} (paths : ∀ name ∈ names, IsPath name) :
    IsPath ([.char '.'].intercalate names) := by
  constructor
  · apply Text.not_mem_intercalate (by decide)
    intro name listed
    exact (paths name listed).noPlus
  · apply Text.not_mem_intercalate (by decide)
    intro name listed
    exact (paths name listed).noBar
  · intro mark listed occurs
    have noDot : .char '.' ∉ mark.text := Mark.dot_not_mem_text (Mark.all_isPlain mark listed)
    obtain ⟨name, inNames, inName⟩ :=
      (Text.infix_intercalate_iff mark.text_ne_nil noDot).1 occurs
    exact (paths name inNames).noMark mark listed inName

theorem isPath_displayPath (typeName : Text) : IsPath (displayPath typeName) := by
  rw [displayPath_eq]
  apply isPath_intercalate
  intro name listed
  obtain ⟨part, shown, rfl⟩ := List.mem_map.1 listed
  exact isPath_displayGenerated (plus_not_mem_shownPart shown)

section Settled

variable (path : IsPath name) (settled : IsSettled name)

include path settled

theorem displayGenerated_eq_self : displayGenerated name = name := by
  have noLeading : name.dropWhile (· == .char '<') = name := by
    apply Text.dropWhile_eq_self
    intro first isFirst
    obtain ⟨rest, rfl⟩ := List.head?_eq_some_iff.1 isFirst
    apply beq_eq_false_iff_ne.2
    intro same
    subst same
    exact settled.noBracket (List.prefix_append [.char '<'] rest)
  rw [displayGenerated_eq_resolveMarks, unmark_eq_dropWhile path.noBar, noLeading,
    resolveMarks_eq_self path.noMark settled.noDottedBracket]

/-- The rules find nothing in a settled path. -/
theorem displayPath_eq_self : displayPath name = name := by
  have noClosure : ¬closureMark.isPrefixOf name = true := by
    rw [List.isPrefixOf_iff_prefix]
    intro occurs
    have bracket : [.char '<'] <+: closureMark := by decide
    exact settled.noBracket (bracket.trans occurs)
  rw [displayPath_eq, shownParts, dropArities_eq_self settled.noArity,
    Text.splitAt_eq_singleton path.noPlus, List.filterMap_cons, shownPart?, if_neg noClosure,
    List.filterMap_nil, List.map_singleton, List.intercalate_singleton,
    displayGenerated_eq_self path settled]

end Settled

/-! ## Type names -/

/-- The path of a name without bars is settled. -/
theorem isSettled_displayPath {typeName : Text} (noBar : .char '|' ∉ typeName) :
    IsSettled (displayPath typeName) := by
  rw [isSettled_displayPath_iff]
  intro part shown
  apply barsHideMark_eq_false _ (hasArity_shownPart shown)
  intro member
  exact noBar (mem_of_mem_shownPart shown member)

/-- A name that stands for a primitive type is its own path, so the alias is that of the path. -/
theorem displayTypeName_eq_getD (typeName : Text) :
    displayTypeName typeName =
      (PredefinedType.aliasOf? (displayPath typeName)).getD (displayPath typeName) := by
  rw [displayTypeName]
  cases found : PredefinedType.aliasOf? typeName with
  | none => rfl
  | some aliasName =>
      have plain : ∀ character ∈ PredefinedType.ruleCharacters, character ∉ typeName := by
        intro character inRules
        exact PredefinedType.not_mem_of_aliasOf? found inRules
      rw [displayPath_eq_self (isPath_of_plain plain) (isSettled_of_plain plain), found]
      rfl

/-- A readable type name is the alias of a primitive type, or a path that has no alias. -/
theorem displayTypeName_cases (typeName : Text) :
    (∃ type : PredefinedType, displayTypeName typeName = type.sourceName) ∨
      displayTypeName typeName = displayPath typeName ∧
        PredefinedType.aliasOf? (displayPath typeName) = none := by
  rw [displayTypeName]
  cases found : PredefinedType.aliasOf? typeName with
  | some aliasName =>
      obtain ⟨type, -, rfl⟩ := PredefinedType.exists_of_aliasOf? found
      exact .inl ⟨type, rfl⟩
  | none =>
      cases shown : PredefinedType.aliasOf? (displayPath typeName) with
      | some aliasName =>
          obtain ⟨type, -, rfl⟩ := PredefinedType.exists_of_aliasOf? shown
          exact .inl ⟨type, by simp [shown]⟩
      | none => exact .inr ⟨by simp [shown], rfl⟩

theorem isPath_displayTypeName (typeName : Text) : IsPath (displayTypeName typeName) := by
  rcases displayTypeName_cases typeName with ⟨type, isAlias⟩ | ⟨isPath, -⟩
  · rw [isAlias]
    exact isPath_of_plain (plain_sourceName type)
  · rw [isPath]
    exact isPath_displayPath typeName

/-- Looking up aliases does not settle a name, and an alias is only found for a settled one. -/
theorem isSettled_displayTypeName_iff {typeName : Text} :
    IsSettled (displayTypeName typeName) ↔ IsSettled (displayPath typeName) := by
  rw [displayTypeName]
  cases found : PredefinedType.aliasOf? typeName with
  | some aliasName =>
      obtain ⟨type, -, rfl⟩ := PredefinedType.exists_of_aliasOf? found
      have noBar : .char '|' ∉ typeName := PredefinedType.not_mem_of_aliasOf? found (by decide)
      exact iff_of_true (isSettled_of_plain (plain_sourceName type)) (isSettled_displayPath noBar)
  | none =>
      cases shown : PredefinedType.aliasOf? (displayPath typeName) with
      | some aliasName =>
          obtain ⟨type, -, rfl⟩ := PredefinedType.exists_of_aliasOf? shown
          have plain : ∀ character ∈ PredefinedType.ruleCharacters,
              character ∉ displayPath typeName := by
            intro character inRules
            exact PredefinedType.not_mem_of_aliasOf? shown inRules
          simp only [shown, Option.getD_some]
          exact iff_of_true (isSettled_of_plain (plain_sourceName type)) (isSettled_of_plain plain)
      | none => simp only [shown, Option.getD_none]

/-- A second reading keeps a readable type name if and only if it is settled. -/
theorem displayTypeName_displayTypeName_eq_iff_isSettled {typeName : Text} :
    displayTypeName (displayTypeName typeName) = displayTypeName typeName ↔
      IsSettled (displayTypeName typeName) := by
  constructor
  · intro same
    rw [← same, isSettled_displayTypeName_iff]
    exact isSettled_displayPath (isPath_displayTypeName typeName).noBar
  · intro settled
    have kept := displayPath_eq_self (isPath_displayTypeName typeName) settled
    rcases displayTypeName_cases typeName with ⟨type, isAlias⟩ | ⟨isPath, noAlias⟩
    · rw [isAlias, PredefinedType.displayTypeName_sourceName]
    · rw [isPath] at kept ⊢
      rw [displayTypeName, noAlias]
      simp only [kept, noAlias, Option.getD_none]

/-- Reading a readable type name again changes nothing unless dropping the bars of a part has
brought a bracket to its front or an arity together.  What a second reading gives always stays. -/
theorem displayTypeName_displayTypeName_eq_iff (typeName : Text) :
    (displayTypeName (displayTypeName typeName) = displayTypeName typeName ↔
      ∀ part ∈ shownParts typeName, barsHideMark part = false) ∧
    displayTypeName (displayTypeName (displayTypeName typeName)) =
      displayTypeName (displayTypeName typeName) := by
  constructor
  · rw [displayTypeName_displayTypeName_eq_iff_isSettled, isSettled_displayTypeName_iff,
      isSettled_displayPath_iff]
  · rw [displayTypeName_displayTypeName_eq_iff_isSettled, isSettled_displayTypeName_iff]
    exact isSettled_displayPath (isPath_displayTypeName typeName).noBar

/-- A bar in front of a bracket makes a second reading drop the bracket. -/
theorem not_forall_displayTypeName_displayTypeName_eq :
    ¬∀ typeName, displayTypeName (displayTypeName typeName) = displayTypeName typeName := by
  intro idempotent
  have same := idempotent "|<a".toText
  revert same
  decide

/-! ## The normal form -/

/-- A name in which the rules on type names find nothing: a settled path. -/
structure IsNormal (name : Text) : Prop extends IsPath name, IsSettled name

/-- Reading a type name settles all that its bars do not hide, and reading it twice settles the
rest. -/
theorem isNormal_displayTypeName (typeName : Text) :
    IsPath (displayTypeName typeName) ∧
      IsNormal (displayTypeName (displayTypeName typeName)) ∧
      displayTypeName (displayTypeName (displayTypeName typeName)) =
        displayTypeName (displayTypeName typeName) ∧
      (.char '|' ∉ typeName →
        IsNormal (displayTypeName typeName) ∧
          displayTypeName (displayTypeName typeName) = displayTypeName typeName) := by
  have settles {name : Text} (noBar : .char '|' ∉ name) : IsSettled (displayTypeName name) :=
    isSettled_displayTypeName_iff.2 (isSettled_displayPath noBar)
  have once := isPath_displayTypeName typeName
  have twice := isPath_displayTypeName (displayTypeName typeName)
  refine ⟨once, ⟨twice, settles once.noBar⟩, ?_, ?_⟩
  · exact displayTypeName_displayTypeName_eq_iff_isSettled.2 (settles once.noBar)
  · intro noBar
    exact ⟨⟨once, settles noBar⟩,
      displayTypeName_displayTypeName_eq_iff_isSettled.2 (settles noBar)⟩

/-- A name with a mark that an arity hides, and with a section left out behind another arity
mark. -/
theorem isNormal_displayTypeName_hiddenMark :
    .char '|' ∉ "<<A>\x601b__0>d\x60+<>c+1.<<B>g__C".toText ∧
      IsNormal (displayTypeName "<<A>\x601b__0>d\x60+<>c+1.<<B>g__C".toText) ∧
      displayTypeName "<<A>\x601b__0>d\x60+<>c+1.<<B>g__C".toText =
        "A.AnonymousMethod__0.StateMachine\x60.1.B.C".toText :=
  have noBar : .char '|' ∉ "<<A>\x601b__0>d\x60+<>c+1.<<B>g__C".toText := by decide
  ⟨noBar, ((isNormal_displayTypeName _).2.2.2 noBar).1, by decide⟩

end ThreadStacks.Name
