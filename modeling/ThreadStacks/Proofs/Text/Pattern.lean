import ThreadStacks.Text.Basic

/-!
# Occurrences of patterns

A pattern occurs in a text if it is an infix of it.  Replacing a pattern removes all of its
occurrences, and neither makes nor breaks an occurrence of another pattern that shares no
character with what is taken out or put in.
-/

namespace ThreadStacks.Text

variable {pattern replacement text rest : Text}

/-- An occurrence that cannot start in the front of a text lies behind it. -/
theorem infix_of_infix_append {first : CodePoint} {others front : Text} (absent : first ∉ front)
    (occurs : first :: others <:+: front ++ rest) : first :: others <:+: rest := by
  induction front with
  | nil => exact occurs
  | cons character front ih =>
      simp only [List.mem_cons, not_or] at absent
      rw [List.cons_append, List.infix_cons_iff] at occurs
      rcases occurs with atStart | later
      · exact absurd (List.cons_prefix_cons.1 atStart).1 absent.1
      · exact ih absent.2 later

theorem suffix_of_afterFirst? (found : afterFirst? pattern text = some rest) : rest <:+ text := by
  induction text with
  | nil =>
      rw [afterFirst?] at found
      split at found
      next =>
        cases found
        exact List.suffix_rfl
      next => contradiction
  | cons character text ih =>
      rw [afterFirst?] at found
      split at found
      next =>
        cases found
        exact List.drop_suffix _ _
      next => exact (ih found).trans (List.suffix_cons _ _)

theorem afterFirst?_eq_none {first : CodePoint} {others : Text} (absent : first ∉ text) :
    afterFirst? (first :: others) text = none := by
  induction text with
  | nil => rfl
  | cons character text ih =>
      rw [List.mem_cons, not_or] at absent
      have noStart : ¬(first :: others).isPrefixOf (character :: text) = true := by
        simp [List.isPrefixOf, absent.1]
      rw [afterFirst?, if_neg noStart, ih absent.2]

/-- The first occurrence is where the first character of the pattern is first. -/
theorem afterFirst?_append {first : CodePoint} {others front : Text} (absent : first ∉ front) :
    afterFirst? (first :: others) (front ++ first :: (others ++ rest)) = some rest := by
  induction front with
  | nil =>
      have starts : (first :: others).isPrefixOf (first :: (others ++ rest)) = true :=
        List.isPrefixOf_iff_prefix.2 (List.prefix_append (first :: others) rest)
      rw [List.nil_append, afterFirst?, if_pos starts, List.length_cons, List.drop_succ_cons,
        List.drop_left]
  | cons character front ih =>
      rw [List.mem_cons, not_or] at absent
      have noStart :
          ¬(first :: others).isPrefixOf (character :: (front ++ first :: (others ++ rest))) =
            true := by
        simp [List.isPrefixOf, absent.1]
      rw [List.cons_append, afterFirst?, if_neg noStart, ih absent.2]

/-- A pattern does not reach over a character that it does not hold. -/
theorem prefix_append_cons_iff {boundary : CodePoint} {front back : Text}
    (apart : boundary ∉ pattern) :
    pattern <+: front ++ boundary :: back ↔ pattern <+: front := by
  induction front generalizing pattern with
  | nil =>
      cases pattern with
      | nil => simp
      | cons first others =>
          have different : first ≠ boundary := fun same => apart (same ▸ List.mem_cons_self)
          simp [List.cons_prefix_cons, different]
  | cons character front ih =>
      cases pattern with
      | nil => simp
      | cons first others =>
          rw [List.mem_cons, not_or] at apart
          rw [List.cons_append, List.cons_prefix_cons, List.cons_prefix_cons, ih apart.2]

/-! ## Counting -/

/-- How often a pattern that is not empty occurs in a text. -/
def occurrences (pattern : Text) : Text → Nat
  | [] => 0
  | character :: rest =>
      occurrences pattern rest + if pattern.isPrefixOf (character :: rest) then 1 else 0

theorem occurrences_cons {character : CodePoint} (absent : ¬pattern <+: character :: rest) :
    occurrences pattern (character :: rest) = occurrences pattern rest := by
  rw [occurrences, if_neg (absent ∘ List.isPrefixOf_iff_prefix.1), Nat.add_zero]

theorem occurrences_eq_zero (absent : ¬pattern <:+: text) : occurrences pattern text = 0 := by
  induction text with
  | nil => rfl
  | cons character text ih =>
      rw [List.infix_cons_iff, not_or] at absent
      rw [occurrences_cons absent.1, ih absent.2]

/-- Where a character stands that the pattern does not hold, each occurrence is in front of it or
behind it. -/
theorem occurrences_append_cons {boundary : CodePoint} {front back : Text} (nonempty : pattern ≠ [])
    (apart : boundary ∉ pattern) :
    occurrences pattern (front ++ boundary :: back) =
      occurrences pattern front + occurrences pattern back := by
  induction front with
  | nil =>
      have noStart : ¬pattern <+: boundary :: back := by
        have same := @prefix_append_cons_iff pattern boundary [] back apart
        simpa [nonempty] using same
      rw [List.nil_append, occurrences_cons noStart, occurrences, Nat.zero_add]
  | cons character front ih =>
      have sameStart : pattern.isPrefixOf (character :: front ++ boundary :: back) =
          pattern.isPrefixOf (character :: front) := by
        rw [Bool.eq_iff_iff, List.isPrefixOf_iff_prefix, List.isPrefixOf_iff_prefix]
        exact prefix_append_cons_iff apart
      rw [List.cons_append] at sameStart
      rw [List.cons_append, occurrences, occurrences, ih, sameStart]
      omega

/-! ## Replacing -/

@[simp] theorem replaceAll_nil : replaceAll pattern replacement [] = [] := rfl

theorem replaceAll_append (nonempty : pattern ≠ []) :
    replaceAll pattern replacement (pattern ++ rest) =
      replacement ++ replaceAll pattern replacement rest := by
  obtain ⟨first, others, rfl⟩ := List.exists_cons_of_ne_nil nonempty
  have occurs : (first :: others).isPrefixOf (first :: (others ++ rest)) = true :=
    List.isPrefixOf_iff_prefix.2 (List.prefix_append _ rest)
  rw [replaceAll, List.cons_append, replaceFrom, if_pos occurs, replaceFrom_eq_drop, replaceAll]
  simp

theorem replaceAll_cons {character : CodePoint} (absent : ¬pattern <+: character :: rest) :
    replaceAll pattern replacement (character :: rest) =
      character :: replaceAll pattern replacement rest := by
  rw [replaceAll, replaceFrom, if_neg (absent ∘ List.isPrefixOf_iff_prefix.1), replaceAll]

/-- Induction along a replacement: the text is empty, or starts with the pattern, or with a
character where the pattern does not occur. -/
theorem replaceInduction (pattern : Text) (nonempty : pattern ≠ []) {motive : Text → Prop}
    (nil : motive [])
    (found : ∀ rest, motive rest → motive (pattern ++ rest))
    (other : ∀ character rest, ¬pattern <+: character :: rest → motive rest →
      motive (character :: rest))
    (text : Text) : motive text := by
  match text with
  | [] => exact nil
  | character :: rest =>
      by_cases occurs : pattern <+: character :: rest
      · obtain ⟨left, split⟩ := occurs
        rw [← split]
        exact found left (replaceInduction pattern nonempty nil found other left)
      · exact other character rest occurs
          (replaceInduction pattern nonempty nil found other rest)
termination_by text.length
decreasing_by
  · have longer := congrArg List.length split
    have positive := List.length_pos_iff.2 nonempty
    rw [List.length_append] at longer
    omega
  · simp

theorem mem_replaceAll {character : CodePoint} (nonempty : pattern ≠ [])
    (member : character ∈ replaceAll pattern replacement text) :
    character ∈ replacement ∨ character ∈ text := by
  induction text using replaceInduction pattern nonempty with
  | nil => exact .inr member
  | found rest ih =>
      rw [replaceAll_append nonempty, List.mem_append] at member
      rcases member with putIn | later
      · exact .inl putIn
      · exact (ih later).imp_right (List.mem_append_right pattern)
  | other first rest absent ih =>
      rw [replaceAll_cons absent, List.mem_cons] at member
      rcases member with rfl | later
      · exact .inr List.mem_cons_self
      · exact (ih later).imp_right (List.mem_cons_of_mem _)

/-- A text without the pattern is not changed. -/
theorem replaceAll_eq_self (absent : ¬pattern <:+: text) :
    replaceAll pattern replacement text = text := by
  induction text with
  | nil => rfl
  | cons character rest ih =>
      rw [List.infix_cons_iff, not_or] at absent
      rw [replaceAll_cons absent.1, ih absent.2]

/-- A text can be cut in front of a character that the pattern holds at most as its first one: each
side is replaced on its own. -/
theorem replaceAll_append_cons {boundary first : CodePoint} {others front back : Text}
    (apart : boundary ∉ others) :
    replaceAll (first :: others) replacement (front ++ boundary :: back) =
      replaceAll (first :: others) replacement front ++
        replaceAll (first :: others) replacement (boundary :: back) := by
  have nonempty : first :: others ≠ [] := List.cons_ne_nil _ _
  induction front using replaceInduction (first :: others) nonempty with
  | nil => rfl
  | found rest ih =>
      rw [List.append_assoc, replaceAll_append nonempty, ih, replaceAll_append nonempty,
        List.append_assoc]
  | other character rest absent ih =>
      have stillAbsent : ¬first :: others <+: character :: (rest ++ boundary :: back) := by
        rwa [List.cons_prefix_cons, prefix_append_cons_iff apart, ← List.cons_prefix_cons]
      rw [List.cons_append, replaceAll_cons stillAbsent, ih, replaceAll_cons absent,
        List.cons_append]

/-! ### Occurrences in the result -/

section Occurrences

variable {dot first : CodePoint} {others tail : Text}

theorem prefix_of_prefix_replaceAll (nonempty : pattern ≠ []) (apart : dot ∉ others)
    (occurs : others <+: replaceAll pattern (dot :: tail) text) : others <+: text := by
  induction others generalizing text with
  | nil => exact List.nil_prefix
  | cons second others ih =>
      simp only [List.mem_cons, not_or] at apart
      cases text using replaceInduction pattern nonempty with
      | nil => exact occurs
      | found rest =>
          rw [replaceAll_append nonempty, List.cons_append, List.cons_prefix_cons] at occurs
          exact absurd occurs.1.symm apart.1
      | other character rest absent =>
          rw [replaceAll_cons absent, List.cons_prefix_cons] at occurs
          exact List.cons_prefix_cons.2 ⟨occurs.1, ih apart.2 occurs.2⟩

/-- An occurrence in the result that can neither start in what was put in nor run into it was
there before. -/
theorem infix_of_infix_replaceAll (nonempty : pattern ≠ []) (outside : first ∉ dot :: tail)
    (apart : dot ∉ others) (occurs : first :: others <:+: replaceAll pattern (dot :: tail) text) :
    first :: others <:+: text := by
  induction text using replaceInduction pattern nonempty with
  | nil => exact occurs
  | found rest ih =>
      rw [replaceAll_append nonempty] at occurs
      exact (ih (infix_of_infix_append outside occurs)).trans
        (List.suffix_append pattern rest).isInfix
  | other character rest absent ih =>
      rw [replaceAll_cons absent, List.infix_cons_iff] at occurs
      rw [List.infix_cons_iff]
      rcases occurs with atStart | later
      · left
        obtain ⟨rfl, behind⟩ := List.cons_prefix_cons.1 atStart
        exact List.cons_prefix_cons.2 ⟨rfl, prefix_of_prefix_replaceAll nonempty apart behind⟩
      · exact .inr (ih later)

/-- The pattern itself does not occur any more. -/
theorem not_infix_replaceAll (outside : first ∉ dot :: tail) (apart : dot ∉ others) :
    ¬first :: others <:+: replaceAll (first :: others) (dot :: tail) text := by
  have nonempty : first :: others ≠ [] := List.cons_ne_nil _ _
  induction text using replaceInduction (first :: others) nonempty with
  | nil => simp
  | found rest ih =>
      rw [replaceAll_append nonempty]
      intro occurs
      exact ih (infix_of_infix_append outside occurs)
  | other character rest absent ih =>
      rw [replaceAll_cons absent, List.infix_cons_iff]
      intro occurs
      rcases occurs with atStart | later
      · obtain ⟨rfl, behind⟩ := List.cons_prefix_cons.1 atStart
        exact absent (List.cons_prefix_cons.2
          ⟨rfl, prefix_of_prefix_replaceAll nonempty apart behind⟩)
      · exact ih later

theorem prefix_replaceAll (nonempty : pattern ≠ [])
    (apart : ∀ character ∈ others, character ∉ pattern) (occurs : others <+: text) :
    others <+: replaceAll pattern replacement text := by
  induction others generalizing text with
  | nil => exact List.nil_prefix
  | cons second others ih =>
      cases text using replaceInduction pattern nonempty with
      | nil => exact occurs
      | found rest =>
          obtain ⟨head, tail, rfl⟩ := List.exists_cons_of_ne_nil nonempty
          rw [List.cons_append, List.cons_prefix_cons] at occurs
          exact absurd (occurs.1 ▸ List.mem_cons_self) (apart second List.mem_cons_self)
      | other character rest absent =>
          rw [replaceAll_cons absent]
          obtain ⟨rfl, behind⟩ := List.cons_prefix_cons.1 occurs
          have apartOthers : ∀ other ∈ others, other ∉ pattern := by
            intro other member
            exact apart other (List.mem_cons_of_mem _ member)
          exact List.cons_prefix_cons.2 ⟨rfl, ih apartOthers behind⟩

/-- An occurrence that shares no character with the pattern stays. -/
theorem infix_replaceAll (nonempty : pattern ≠ [])
    (apart : ∀ character ∈ first :: others, character ∉ pattern)
    (occurs : first :: others <:+: text) :
    first :: others <:+: replaceAll pattern replacement text := by
  have outside := apart first List.mem_cons_self
  induction text using replaceInduction pattern nonempty with
  | nil => exact occurs
  | found rest ih =>
      rw [replaceAll_append nonempty]
      exact (ih (infix_of_infix_append outside occurs)).trans (List.suffix_append _ _).isInfix
  | other character rest absent ih =>
      rw [replaceAll_cons absent, List.infix_cons_iff]
      rcases List.infix_cons_iff.1 occurs with atStart | later
      · left
        have kept : first :: others <+: replaceAll pattern replacement (character :: rest) :=
          prefix_replaceAll nonempty apart atStart
        rwa [replaceAll_cons absent] at kept
      · exact .inr (ih later)

end Occurrences

end ThreadStacks.Text
