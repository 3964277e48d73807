import ThreadStacks.Text.Blank

/-!
# Words of a text

The words of a text are cut at blanks: a blank belongs to no word, and what stands on its two sides
has nothing to do with each other.  All else about words follows from that.
-/

namespace ThreadStacks.Text

variable {blank : CodePoint} {front back word text : Text}

theorem leadingWord_blank (isBlank : isBlank blank = true) :
    leadingWord (blank :: back) = ([], words back) := by
  rw [leadingWord, if_pos isBlank, words]

theorem leadingWord_other {character : CodePoint} (notBlank : isBlank character = false) :
    leadingWord (character :: back) =
      (character :: (leadingWord back).1, (leadingWord back).2) := by
  rw [leadingWord, if_neg (by simp [notBlank])]

theorem leadingWord_append_blank (isBlank : isBlank blank = true) :
    leadingWord (front ++ blank :: back) =
      ((leadingWord front).1, (leadingWord front).2 ++ words back) := by
  induction front with
  | nil => exact leadingWord_blank isBlank
  | cons character front ih =>
      rw [List.cons_append]
      cases kind : Text.isBlank character with
      | true =>
          rw [leadingWord_blank kind, leadingWord_blank kind, words, words, ih]
          split
          next => rfl
          next => rfl
      | false => rw [leadingWord_other kind, leadingWord_other kind, ih]

theorem words_append_blank (isBlank : isBlank blank = true) :
    words (front ++ blank :: back) = words front ++ words back := by
  rw [words, leadingWord_append_blank isBlank]
  cases first : (leadingWord front).1 with
  | nil => simp [words, first]
  | cons character word => simp [words, first]

theorem words_blank_cons (isBlank : isBlank blank = true) : words (blank :: back) = words back := by
  have split : words ([] ++ blank :: back) = words [] ++ words back := words_append_blank isBlank
  exact split

theorem leadingWord_of_not_blank (noBlank : ∀ character ∈ word, isBlank character = false) :
    leadingWord word = (word, []) := by
  induction word with
  | nil => rfl
  | cons character word ih =>
      have noBlankLater : ∀ other ∈ word, isBlank other = false := by
        intro other member
        exact noBlank other (List.mem_cons_of_mem _ member)
      rw [leadingWord_other (noBlank character List.mem_cons_self), ih noBlankLater]

theorem words_of_not_blank (nonempty : word ≠ [])
    (noBlank : ∀ character ∈ word, isBlank character = false) : words word = [word] := by
  rw [words, leadingWord_of_not_blank noBlank, if_neg (by simpa using nonempty)]

theorem mem_leadingWord :
    (∀ character ∈ (leadingWord text).1, character ∈ text ∧ isBlank character = false) ∧
      ∀ word ∈ (leadingWord text).2,
        word ≠ [] ∧ ∀ character ∈ word, character ∈ text ∧ isBlank character = false := by
  induction text with
  | nil => simp [leadingWord]
  | cons first text ih =>
      have leads : ∀ character ∈ (leadingWord text).1,
          character ∈ first :: text ∧ isBlank character = false := by
        intro character member
        exact (ih.1 character member).imp_left (List.mem_cons_of_mem first)
      have follow : ∀ word ∈ (leadingWord text).2, word ≠ [] ∧
          ∀ character ∈ word, character ∈ first :: text ∧ isBlank character = false := by
        intro word listed
        obtain ⟨nonempty, inText⟩ := ih.2 word listed
        constructor
        · exact nonempty
        · intro character member
          exact (inText character member).imp_left (List.mem_cons_of_mem first)
      cases kind : isBlank first with
      | true =>
          rw [leadingWord_blank kind, words]
          constructor
          · intro character member
            contradiction
          · split
            next => exact follow
            next nonempty =>
              intro word listed
              rcases List.mem_cons.1 listed with rfl | later
              · exact ⟨by simpa using nonempty, leads⟩
              · exact follow word later
      | false =>
          rw [leadingWord_other kind]
          constructor
          · intro character member
            rcases List.mem_cons.1 member with rfl | later
            · exact ⟨List.mem_cons_self, kind⟩
            · exact leads character later
          · exact follow

/-- A word is not empty and holds characters of the text that are no blanks. -/
theorem mem_words (listed : word ∈ words text) :
    word ≠ [] ∧ ∀ character ∈ word, character ∈ text ∧ isBlank character = false := by
  obtain ⟨leads, follow⟩ := @mem_leadingWord text
  rw [words] at listed
  split at listed
  next => exact follow word listed
  next nonempty =>
    rcases List.mem_cons.1 listed with rfl | later
    · exact ⟨by simpa using nonempty, leads⟩
    · exact follow word later

/-- A text has no words if and only if it holds blanks only. -/
theorem words_eq_nil_iff : words text = [] ↔ text.all isBlank = true := by
  induction text with
  | nil => exact iff_of_true rfl rfl
  | cons character text ih =>
      cases kind : isBlank character with
      | true => rw [words_blank_cons kind, ih, List.all_cons, kind, Bool.true_and]
      | false =>
          rw [words, leadingWord_other kind, List.all_cons, kind, Bool.false_and]
          exact iff_of_false nofun Bool.false_ne_true

end ThreadStacks.Text
