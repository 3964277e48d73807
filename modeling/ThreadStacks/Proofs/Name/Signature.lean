import ThreadStacks.Proofs.Name.Markup
import ThreadStacks.Proofs.Name.Qualified

/-!
# Types and methods of readable signatures

A readable signature joins a type and a method, and is cut again afterwards.  Cutting undoes
joining; joining again never gives more than there was, but a dot at an end of the signature is
lost.
-/

namespace ThreadStacks.Name

variable {type method : Text}

@[simp] theorem joinMethod_nil (method : Text) : joinMethod [] method = method := by
  rw [joinMethod]
  split
  next empty => exact (List.isEmpty_iff.1 empty).symm
  next => rfl

theorem joinMethod_of_ne_nil (hasType : type ≠ []) (hasMethod : method ≠ []) :
    joinMethod type method = type ++ .char '.' :: method := by
  rw [joinMethod, if_neg (by simpa using hasMethod), if_neg (by simpa using hasType)]

/-- Joining adds nothing but a dot. -/
theorem count_joinMethod {character : CodePoint} (notDot : character ≠ .char '.') :
    (joinMethod type method).count character = type.count character + method.count character := by
  rw [joinMethod]
  split
  next noMethod => rw [List.isEmpty_iff.1 noMethod]; rfl
  next =>
    split
    next noType => rw [List.isEmpty_iff.1 noType, List.count_nil, Nat.zero_add]
    next => rw [List.count_append, List.count_cons_of_ne (Ne.symm notDot)]

/-- Cutting what was joined, also where there is no type. -/
theorem splitFullName_joinMethod (level : depthAfter type = 0)
    (uncut : IsUncut 0 method) (nonempty : method ≠ []) :
    splitFullName (joinMethod type method) = (type, method) := by
  cases type with
  | nil =>
      rw [joinMethod_nil]
      exact splitFullName_of_isUncut uncut
  | cons first type =>
      rw [joinMethod_of_ne_nil (List.cons_ne_nil _ _) nonempty]
      exact splitFullName_append_dot level uncut

theorem length_joinMethod_splitFullName (name : Text) :
    (joinMethod (splitFullName name).1 (splitFullName name).2).length ≤ name.length := by
  rw [splitFullName]
  cases cut : cutAtLastDot? 0 name with
  | none =>
      exact Nat.le_of_eq (congrArg List.length (joinMethod_nil name))
  | some parts =>
      obtain ⟨before, after⟩ := parts
      rw [Option.getD_some, joinMethod, eq_append_dot_of_cutAtLastDot? cut]
      split
      next => simp
      next =>
        split
        next => simp; omega
        next => exact Nat.le_refl _

/-- Whether the last dot at depth zero is the first character of a name, or the last one. -/
def HasOuterCut (name : Text) : Prop :=
  ∃ other, name = .char '.' :: other ∧ IsUncut 0 other ∨
    name = other ++ [.char '.'] ∧ depthAfter other = 0

theorem hasOuterCut_iff {name : Text} :
    HasOuterCut name ↔
      ∃ before after, cutAtLastDot? 0 name = some (before, after) ∧ (before = [] ∨ after = []) := by
  constructor
  · rintro ⟨other, ⟨rfl, uncut⟩ | ⟨rfl, level⟩⟩
    · exact ⟨[], other, @cutAtLastDot?_append_dot [] other 0 rfl uncut, .inl rfl⟩
    · exact ⟨other, [], cutAtLastDot?_append_dot (by rw [level]; rfl) isUncut_nil, .inr rfl⟩
  · rintro ⟨before, after, cut, outer⟩
    have split := eq_append_dot_of_cutAtLastDot? cut
    obtain ⟨level, uncut⟩ := isUncut_of_cutAtLastDot? cut
    rw [Int.zero_add] at level
    rcases outer with rfl | rfl
    · exact ⟨after, .inl ⟨split, uncut⟩⟩
    · exact ⟨before, .inr ⟨split, level⟩⟩

/-- Joining undoes cutting unless the cut is at an end. -/
theorem joinMethod_splitFullName_eq_iff {name : Text} :
    joinMethod (splitFullName name).1 (splitFullName name).2 = name ↔ ¬HasOuterCut name := by
  rw [hasOuterCut_iff, splitFullName]
  cases cut : cutAtLastDot? 0 name with
  | none => simp
  | some parts =>
      obtain ⟨before, after⟩ := parts
      have split := eq_append_dot_of_cutAtLastDot? cut
      rw [Option.getD_some, split]
      constructor
      · rintro joined ⟨_, _, same, outer⟩
        cases same
        have lengths := congrArg List.length joined
        rcases outer with rfl | rfl
        · simp at lengths
        · simp [joinMethod] at lengths
      · intro inner
        apply joinMethod_of_ne_nil
        · intro noType
          exact inner ⟨before, after, rfl, .inl noType⟩
        · intro noMethod
          exact inner ⟨before, after, rfl, .inr noMethod⟩

/-- A signature that ends in a bracket is shown by its spans alone. -/
theorem displaySignature_of_no_tail {signature : Text} (tail : spansTail signature = []) :
    displaySignature signature = shownSpans signature := by
  have noMethod : displayMethodName (splitFullName []).2 = [] := rfl
  have noType : (splitFullName []).1 = [] := rfl
  rw [displaySignature_eq, tail, noMethod, noType, displayTypeName_nil, List.append_nil]
  rfl

end ThreadStacks.Name
