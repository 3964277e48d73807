import ThreadStacks.Proofs.Name.Idempotence

/-!
# Characters of readable names

Making a name readable only writes dots, the paths of marks and aliases.  A character that none of
them holds is in the readable name only if it was in the raw one.
-/

namespace ThreadStacks.Name

/-- Whether a character is never written by the rules on names. -/
def IsForeign (character : CodePoint) : Prop :=
  (∀ mark ∈ Mark.all, character ∉ .char '.' :: mark.path) ∧
    ∀ type ∈ PredefinedType.all, character ∉ type.sourceName

instance (character : CodePoint) : Decidable (IsForeign character) :=
  inferInstanceAs (Decidable (_ ∧ _))

section Foreign

variable {character : CodePoint} (foreign : IsForeign character) {name : Text}
  (absent : character ∉ name)

include foreign absent

theorem not_mem_displayGenerated : character ∉ displayGenerated name := by
  rw [displayGenerated_eq_resolveMarks]
  apply not_mem_resolveMarks foreign.1
  intro member
  exact absent (mem_of_mem_unmark member)

theorem not_mem_displayPath : character ∉ displayPath name := by
  rw [displayPath_eq]
  apply Text.not_mem_intercalate
  · intro same
    subst same
    exact foreign.1 _ List.mem_cons_self List.mem_cons_self
  · intro shown listed
    obtain ⟨part, inParts, rfl⟩ := List.mem_map.1 listed
    apply not_mem_displayGenerated foreign
    intro inPart
    exact absent (mem_of_mem_shownPart inParts inPart)

theorem not_mem_displayTypeName : character ∉ displayTypeName name := by
  rcases displayTypeName_cases name with ⟨type, isAlias⟩ | ⟨isPath, -⟩
  · rw [isAlias]
    apply foreign.2 type
    cases type <;> decide
  · rw [isPath]
    exact not_mem_displayPath foreign absent

end Foreign

end ThreadStacks.Name
