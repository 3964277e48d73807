import ThreadStacks.Name.Qualified

/-!
# Cuts at depth zero

Cutting a readable signature undoes joining a type and a method, as long as the type closes every
angle bracket that it opens and the method has no dot at depth zero.  A text behind the cut only
counts by its own depth, so both facts are shown piece by piece.  The depth may fall below zero and
come back, so only the numbers of brackets in front of a dot matter, not how they are nested.
-/

namespace ThreadStacks.Name

/-- Whether a text has no dot at depth zero, where it starts at a depth. -/
def IsUncut (depth : Int) (text : Text) : Prop := cutAtLastDot? depth text = none

/-- Whether a text holds no angle bracket. -/
def IsFlat (text : Text) : Prop := .char '<' ∉ text ∧ .char '>' ∉ text

variable {front back text : Text} {depth : Int} {character : CodePoint}

@[simp] theorem depthAfter_append :
    depthAfter (front ++ back) = depthAfter front + depthAfter back := by
  induction front with
  | nil => rw [List.nil_append, depthAfter, Int.zero_add]
  | cons character front ih => rw [List.cons_append, depthAfter, depthAfter, ih, Int.add_assoc]

theorem depthChange_of_ne (noOpening : character ≠ .char '<') (noClosing : character ≠ .char '>') :
    depthChange character = 0 := by
  rw [depthChange, if_neg noOpening, if_neg noClosing]

/-! ## Texts without a cut -/

@[simp] theorem isUncut_nil : IsUncut depth [] := rfl

theorem isUncut_cons (noCut : ¬(character = .char '.' ∧ depth = 0))
    (later : IsUncut (depth + depthChange character) text) : IsUncut depth (character :: text) := by
  rw [IsUncut] at later
  rw [IsUncut, cutAtLastDot?, later]
  simpa using noCut

theorem isUncut_of_not_mem (noDot : .char '.' ∉ text) : IsUncut depth text := by
  induction text generalizing depth with
  | nil => exact isUncut_nil
  | cons character text ih =>
      rw [List.mem_cons, not_or] at noDot
      apply isUncut_cons _ (ih noDot.2)
      intro cut
      exact noDot.1 cut.1.symm

theorem cutAtLastDot?_append (behind : IsUncut (depth + depthAfter front) back) :
    cutAtLastDot? depth (front ++ back) =
      (cutAtLastDot? depth front).map fun parts => (parts.1, parts.2 ++ back) := by
  induction front generalizing depth with
  | nil =>
      rw [depthAfter, Int.add_zero] at behind
      exact behind
  | cons character front ih =>
      rw [depthAfter, ← Int.add_assoc] at behind
      rw [List.cons_append, cutAtLastDot?, cutAtLastDot?, ih behind]
      cases cutAtLastDot? (depth + depthChange character) front with
      | some parts => rfl
      | none =>
          simp only [Option.map_none]
          split
          next => rfl
          next => rfl

theorem isUncut_append (inFront : IsUncut depth front)
    (behind : IsUncut (depth + depthAfter front) back) : IsUncut depth (front ++ back) := by
  rw [IsUncut] at inFront
  rw [IsUncut, cutAtLastDot?_append behind, inFront]
  rfl

/-! ## Texts without angle brackets -/

theorem IsFlat.tail (flat : IsFlat (character :: text)) :
    depthChange character = 0 ∧ IsFlat text := by
  obtain ⟨noOpening, noClosing⟩ := flat
  rw [List.mem_cons, not_or] at noOpening noClosing
  exact ⟨depthChange_of_ne (Ne.symm noOpening.1) (Ne.symm noClosing.1), noOpening.2, noClosing.2⟩

theorem IsFlat.depthAfter_eq_zero (flat : IsFlat text) : depthAfter text = 0 := by
  induction text with
  | nil => rfl
  | cons character text ih =>
      obtain ⟨level, flat⟩ := flat.tail
      rw [depthAfter, level, ih flat]
      rfl

/-- Within brackets nothing is cut. -/
theorem IsFlat.isUncut (flat : IsFlat text) (inside : depth ≠ 0) : IsUncut depth text := by
  induction text with
  | nil => exact isUncut_nil
  | cons character text ih =>
      obtain ⟨level, flat⟩ := flat.tail
      apply isUncut_cons
      · intro cut
        exact inside cut.2
      · rw [level, Int.add_zero]
        exact ih flat

/-! ## Cutting what was joined -/

theorem cutAtLastDot?_append_dot (level : depth + depthAfter front = 0) (uncut : IsUncut 0 back) :
    cutAtLastDot? depth (front ++ .char '.' :: back) = some (front, back) := by
  induction front generalizing depth with
  | nil =>
      rw [depthAfter, Int.add_zero] at level
      subst level
      rw [IsUncut] at uncut
      have atDot : cutAtLastDot? (0 + depthChange (.char '.')) back = none := uncut
      rw [List.nil_append, cutAtLastDot?, atDot]
      rfl
  | cons character front ih =>
      rw [depthAfter, ← Int.add_assoc] at level
      rw [List.cons_append, cutAtLastDot?, ih level]

theorem eq_append_dot_of_cutAtLastDot? {before after : Text}
    (cut : cutAtLastDot? depth text = some (before, after)) :
    text = before ++ .char '.' :: after := by
  induction text generalizing depth before with
  | nil => contradiction
  | cons character text ih =>
      rw [cutAtLastDot?] at cut
      cases later : cutAtLastDot? (depth + depthChange character) text with
      | some parts =>
          simp only [later, Option.some.injEq, Prod.mk.injEq] at cut
          obtain ⟨rfl, rfl⟩ := cut
          exact congrArg (character :: ·) (ih later)
      | none =>
          simp only [later] at cut
          split at cut
          next atDot =>
            simp only [Bool.and_eq_true, decide_eq_true_eq] at atDot
            cases cut
            rw [atDot.1]
            rfl
          next => contradiction

/-- The cut lies at depth zero, and nothing behind it does. -/
theorem isUncut_of_cutAtLastDot? {before after : Text}
    (cut : cutAtLastDot? depth text = some (before, after)) :
    depth + depthAfter before = 0 ∧ IsUncut 0 after := by
  induction text generalizing depth before with
  | nil => contradiction
  | cons character text ih =>
      rw [cutAtLastDot?] at cut
      cases later : cutAtLastDot? (depth + depthChange character) text with
      | some parts =>
          simp only [later, Option.some.injEq, Prod.mk.injEq] at cut
          obtain ⟨rfl, rfl⟩ := cut
          rw [depthAfter, ← Int.add_assoc]
          exact ih later
      | none =>
          simp only [later] at cut
          split at cut
          next atDot =>
            simp only [Bool.and_eq_true, decide_eq_true_eq] at atDot
            obtain ⟨rfl, rfl⟩ := atDot
            cases cut
            exact ⟨rfl, later⟩
          next => contradiction

/-- Cutting a full name gives back the type and the method that it was joined from. -/
theorem splitFullName_append_dot (level : depthAfter front = 0) (uncut : IsUncut 0 back) :
    splitFullName (front ++ .char '.' :: back) = (front, back) := by
  rw [splitFullName, cutAtLastDot?_append_dot (by rw [level]; rfl) uncut]
  rfl

theorem mem_of_mem_splitFullName
    (member : character ∈ (splitFullName text).1 ∨ character ∈ (splitFullName text).2) :
    character ∈ text := by
  rw [splitFullName] at member
  cases cut : cutAtLastDot? 0 text with
  | none =>
      rw [cut] at member
      exact member.resolve_left List.not_mem_nil
  | some parts =>
      rw [cut] at member
      rw [eq_append_dot_of_cutAtLastDot? cut, List.mem_append]
      exact member.imp_right (List.mem_cons_of_mem _)

theorem splitFullName_of_isUncut (uncut : IsUncut 0 text) : splitFullName text = ([], text) := by
  rw [IsUncut] at uncut
  rw [splitFullName, uncut]
  rfl

/-! ## Dots that are as deep as the start -/

/-- Whether a text opens as many angle brackets as it closes. -/
def IsLevel (text : Text) : Prop := text.count (.char '<') = text.count (.char '>')

/-- Whether a text has a dot in front of which as many angle brackets are opened as are closed. -/
def HasLevelDot (text : Text) : Prop :=
  ∃ front back, text = front ++ .char '.' :: back ∧ IsLevel front

theorem depthAfter_eq_sub_count (text : Text) :
    depthAfter text = (text.count (.char '<') : Int) - text.count (.char '>') := by
  induction text with
  | nil => rfl
  | cons character text ih =>
      rw [depthAfter, ih, List.count_cons, List.count_cons, depthChange]
      by_cases opening : character = .char '<'
      · subst opening
        simp
        omega
      · by_cases closing : character = .char '>'
        · subst closing
          simp
          omega
        · simp [opening, closing]

theorem isLevel_iff : IsLevel text ↔ depthAfter text = 0 := by
  rw [depthAfter_eq_sub_count, IsLevel]
  omega

theorem isUncut_cons_iff :
    IsUncut depth (character :: text) ↔
      ¬(character = .char '.' ∧ depth = 0) ∧ IsUncut (depth + depthChange character) text := by
  constructor
  · intro uncut
    rw [IsUncut, cutAtLastDot?] at uncut
    cases later : cutAtLastDot? (depth + depthChange character) text with
    | some parts => simp [later] at uncut
    | none => exact ⟨by simpa [later] using uncut, later⟩
  · intro uncut
    exact isUncut_cons uncut.1 uncut.2

theorem IsUncut.depth_ne_zero (uncut : IsUncut depth (front ++ .char '.' :: back)) :
    depth + depthAfter front ≠ 0 := by
  induction front generalizing depth with
  | nil =>
      intro level
      rw [depthAfter, Int.add_zero] at level
      exact (isUncut_cons_iff.1 uncut).1 ⟨rfl, level⟩
  | cons character front ih =>
      rw [depthAfter, ← Int.add_assoc]
      exact ih (isUncut_cons_iff.1 uncut).2

theorem isUncut_zero_iff : IsUncut 0 text ↔ ¬HasLevelDot text := by
  constructor
  · rintro uncut ⟨front, back, rfl, level⟩
    apply uncut.depth_ne_zero
    rw [Int.zero_add]
    exact isLevel_iff.1 level
  · intro noDot
    cases cut : cutAtLastDot? 0 text with
    | none => exact cut
    | some parts =>
        obtain ⟨before, after⟩ := parts
        have level := (isUncut_of_cutAtLastDot? cut).1
        rw [Int.zero_add] at level
        exact absurd ⟨before, after, eq_append_dot_of_cutAtLastDot? cut, isLevel_iff.2 level⟩ noDot

/-- A name without such a dot is all method; any other is the type and the method around the last
one, and nothing else joins to it. -/
theorem splitFullName_eq_iff (name type method : Text) :
    splitFullName name = (type, method) ↔
      (¬HasLevelDot name ∧ type = [] ∧ method = name) ∨
        (type ++ .char '.' :: method = name ∧ IsLevel type ∧ ¬HasLevelDot method) := by
  constructor
  · intro split
    rw [splitFullName] at split
    cases cut : cutAtLastDot? 0 name with
    | none =>
        rw [cut] at split
        cases split
        exact .inl ⟨isUncut_zero_iff.1 cut, rfl, rfl⟩
    | some parts =>
        rw [cut] at split
        cases split
        obtain ⟨level, uncut⟩ := isUncut_of_cutAtLastDot? cut
        rw [Int.zero_add] at level
        exact .inr ⟨(eq_append_dot_of_cutAtLastDot? cut).symm, isLevel_iff.2 level,
          isUncut_zero_iff.1 uncut⟩
  · rintro (⟨noDot, rfl, rfl⟩ | ⟨rfl, level, noDot⟩)
    · exact splitFullName_of_isUncut (isUncut_zero_iff.2 noDot)
    · exact splitFullName_append_dot (isLevel_iff.1 level) (isUncut_zero_iff.2 noDot)

-- The depth falls below zero and is zero again at the second dot only.
example : splitFullName "A>.B<.C>.D".toText = ("A>.B<".toText, "C>.D".toText) := by decide

end ThreadStacks.Name
