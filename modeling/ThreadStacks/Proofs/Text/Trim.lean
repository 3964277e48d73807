import ThreadStacks.Text.Basic

/-!
# Trimming

Trimming takes plain spaces off the two ends of a text and nothing else, and leaves none there.
-/

namespace ThreadStacks.Text

variable {test : CodePoint → Bool} {text : Text}

theorem mem_dropWhile_iff {character : CodePoint} (kept : test character = false) :
    character ∈ text.dropWhile test ↔ character ∈ text := by
  induction text with
  | nil => rfl
  | cons first text ih =>
      rw [List.dropWhile_cons]
      split
      next dropped =>
        have isOther : character ≠ first := by
          rintro rfl
          rw [kept] at dropped
          contradiction
        rw [ih, List.mem_cons, or_iff_right isOther]
      next => rfl

theorem mem_trimWhile_iff {character : CodePoint} (kept : test character = false) :
    character ∈ trimWhile test text ↔ character ∈ text := by
  rw [trimWhile, dropEndWhile, List.mem_reverse, mem_dropWhile_iff kept, List.mem_reverse,
    mem_dropWhile_iff kept]

theorem mem_trimSpaces_iff {character : CodePoint} (notSpace : character ≠ .char ' ') :
    character ∈ trimSpaces text ↔ character ∈ text :=
  mem_trimWhile_iff (beq_eq_false_iff_ne.2 notSpace)

theorem dropWhile_eq_self (start : ∀ first, text.head? = some first → test first = false) :
    text.dropWhile test = text := by
  cases text with
  | nil => rfl
  | cons first rest =>
      apply List.dropWhile_cons_of_neg
      rw [start first rfl]
      exact Bool.false_ne_true

theorem dropEndWhile_eq_self (ending : ∀ last, text.getLast? = some last → test last = false) :
    dropEndWhile test text = text := by
  rw [dropEndWhile, dropWhile_eq_self, List.reverse_reverse]
  intro last isLast
  rw [List.head?_reverse] at isLast
  exact ending last isLast

theorem trimSpaces_eq_self (start : text.head? ≠ some (.char ' '))
    (ending : text.getLast? ≠ some (.char ' ')) :
    trimSpaces text = text := by
  have noStart : text.dropWhile (· == .char ' ') = text := by
    apply dropWhile_eq_self
    intro first isFirst
    apply beq_eq_false_iff_ne.2
    intro same
    subst same
    exact start isFirst
  rw [trimSpaces, trimWhile, noStart]
  apply dropEndWhile_eq_self
  intro last isLast
  apply beq_eq_false_iff_ne.2
  intro same
  subst same
  exact ending isLast

theorem trimSpaces_of_not_mem (noSpace : .char ' ' ∉ text) : trimSpaces text = text := by
  apply trimSpaces_eq_self
  · intro isFirst
    exact noSpace (List.mem_of_mem_head? isFirst)
  · intro isLast
    exact noSpace (List.mem_of_getLast? isLast)

/-! ## What is left -/

/-- What dropping stops at fails the test. -/
theorem head?_dropWhile_eq_some {first : CodePoint}
    (isFirst : (text.dropWhile test).head? = some first) :
    test first = false := by
  have stops := List.head?_dropWhile_not test text
  rwa [isFirst] at stops

theorem getLast?_dropEndWhile_eq_some {last : CodePoint}
    (isLast : (dropEndWhile test text).getLast? = some last) : test last = false := by
  rw [dropEndWhile, List.getLast?_reverse] at isLast
  exact head?_dropWhile_eq_some isLast

theorem dropEndWhile_prefix (test : CodePoint → Bool) (text : Text) :
    dropEndWhile test text <+: text := by
  rw [dropEndWhile, ← List.reverse_suffix, List.reverse_reverse]
  exact List.dropWhile_suffix test

/-- Nothing is left to trim after trimming. -/
@[simp] theorem trimWhile_trimWhile :
    trimWhile test (trimWhile test text) = trimWhile test text := by
  have noStart : (trimWhile test text).dropWhile test = trimWhile test text := by
    apply dropWhile_eq_self
    intro first isFirst
    rw [trimWhile] at isFirst
    obtain ⟨rest, whole⟩ := dropEndWhile_prefix test (text.dropWhile test)
    have leads : (text.dropWhile test).head? = some first := by
      rw [← whole, List.head?_append, isFirst, Option.some_or]
    exact head?_dropWhile_eq_some leads
  rw [trimWhile, noStart]
  exact dropEndWhile_eq_self fun last isLast => getLast?_dropEndWhile_eq_some isLast

@[simp] theorem trimSpaces_trimSpaces : trimSpaces (trimSpaces text) = trimSpaces text :=
  trimWhile_trimWhile

theorem getLast?_trimSpaces_ne : (trimSpaces text).getLast? ≠ some (.char ' ') := by
  intro isLast
  exact absurd (getLast?_dropEndWhile_eq_some isLast) (by decide)

/-- Without a space at the end there are only those at the start to drop. -/
theorem trimSpaces_eq_dropWhile (ending : text.getLast? ≠ some (.char ' ')) :
    trimSpaces text = text.dropWhile (· == .char ' ') := by
  apply dropEndWhile_eq_self
  intro last isLast
  have whole : text.takeWhile (· == .char ' ') ++ text.dropWhile (· == .char ' ') = text :=
    List.takeWhile_append_dropWhile
  have isEnd : text.getLast? = some last := by
    rw [← whole, List.getLast?_append, isLast, Option.some_or]
  apply beq_eq_false_iff_ne.2
  rintro rfl
  exact ending isEnd

@[simp] theorem trimSpaces_space_cons : trimSpaces (.char ' ' :: text) = trimSpaces text := by
  have spaceDropped : (.char ' ' :: text).dropWhile (· == .char ' ') =
      text.dropWhile (· == .char ' ') :=
    List.dropWhile_cons_of_pos rfl
  rw [trimSpaces, trimSpaces, trimWhile, trimWhile, spaceDropped]

end ThreadStacks.Text
