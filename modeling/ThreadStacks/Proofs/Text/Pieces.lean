import ThreadStacks.Proofs.Text.Pattern

/-!
# Pieces of a text

Cutting a text at a character is the split of the standard library, so its laws hold.  What does
not hold the character that the pieces are joined with occurs in the joined text if and only if it
occurs in a piece.
-/

namespace ThreadStacks.Text

variable {cut : CodePoint} {text : Text} {pieces : List Text}

theorem splitAt_eq_splitOn (cut : CodePoint) (text : Text) :
    splitAt cut text = text.splitOn cut := by
  induction text with
  | nil => rfl
  | cons character rest ih =>
      rw [List.splitOn_cons_eq_if_modifyHead, ← ih, splitAt, piecesAt]
      by_cases same : character = cut
      · simp [same, splitAt]
      · simp [same, splitAt]

theorem splitAt_eq_singleton (absent : cut ∉ text) : splitAt cut text = [text] := by
  rw [splitAt_eq_splitOn, List.splitOn_eq_singleton absent]

/-- A piece does not hold the character that the text was cut at. -/
theorem not_mem_of_mem_splitAt {piece : Text} (listed : piece ∈ splitAt cut text) :
    cut ∉ piece := by
  induction text generalizing piece with
  | nil => simp_all [splitAt, piecesAt]
  | cons character rest ih =>
      rw [splitAt, piecesAt] at listed
      simp only [splitAt, List.mem_cons] at ih
      split at listed
      next =>
        rcases List.mem_cons.1 listed with rfl | later
        · exact List.not_mem_nil
        · exact ih (List.mem_cons.1 later)
      next different =>
        rcases List.mem_cons.1 listed with rfl | later
        · rw [List.mem_cons, not_or]
          exact ⟨Ne.symm different, ih (.inl rfl)⟩
        · exact ih (.inr later)

theorem not_mem_of_splitAt_eq_singleton {piece : Text} (alone : splitAt cut text = [piece]) :
    cut ∉ text := by
  have whole := intercalate_splitAt cut text
  rw [alone, List.intercalate_singleton] at whole
  rw [← whole]
  exact not_mem_of_mem_splitAt (alone ▸ List.mem_singleton_self piece)

theorem infix_intercalate_of_mem {piece : Text} (listed : piece ∈ pieces) :
    piece <:+: [cut].intercalate pieces := by
  induction pieces with
  | nil => contradiction
  | cons first pieces ih =>
      cases pieces with
      | nil =>
          simp only [List.mem_singleton.1 listed, List.intercalate_singleton]
          exact List.infix_rfl
      | cons second pieces =>
          rw [List.intercalate_cons_cons]
          rcases List.mem_cons.1 listed with rfl | later
          · rw [List.append_assoc]
            exact (List.prefix_append _ _).isInfix
          · exact (ih later).trans (List.suffix_append _ _).isInfix

theorem infix_of_mem_splitAt {piece : Text} (listed : piece ∈ splitAt cut text) :
    piece <:+: text := by
  have joined : piece <:+: [cut].intercalate (splitAt cut text) := infix_intercalate_of_mem listed
  rwa [intercalate_splitAt] at joined

theorem mem_intercalate {character : CodePoint} (member : character ∈ [cut].intercalate pieces) :
    character = cut ∨ ∃ piece ∈ pieces, character ∈ piece := by
  induction pieces with
  | nil => contradiction
  | cons first pieces ih =>
      cases pieces with
      | nil =>
          rw [List.intercalate_singleton] at member
          exact .inr ⟨first, List.mem_cons_self, member⟩
      | cons second pieces =>
          rw [List.intercalate_cons_cons, List.mem_append, List.mem_append] at member
          rcases member with (inFirst | atCut) | later
          · exact .inr ⟨first, List.mem_cons_self, inFirst⟩
          · exact .inl (List.mem_singleton.1 atCut)
          · rcases ih later with isCut | ⟨piece, listed, inPiece⟩
            · exact .inl isCut
            · exact .inr ⟨piece, List.mem_cons_of_mem _ listed, inPiece⟩

theorem not_mem_intercalate {character : CodePoint} (notCut : character ≠ cut)
    (absent : ∀ piece ∈ pieces, character ∉ piece) : character ∉ [cut].intercalate pieces := by
  intro member
  rcases mem_intercalate member with isCut | ⟨piece, listed, inPiece⟩
  · exact notCut isCut
  · exact absent piece listed inPiece

/-- A character that does not stand between the pieces stands in one of them. -/
theorem mem_intercalate_iff {character : CodePoint} {separator : Text}
    (apart : character ∉ separator) :
    character ∈ separator.intercalate pieces ↔ ∃ piece ∈ pieces, character ∈ piece := by
  induction pieces with
  | nil => exact ⟨nofun, nofun⟩
  | cons first pieces ih =>
      cases pieces with
      | nil => simp
      | cons second pieces =>
          rw [List.intercalate_cons_cons, List.mem_append, List.mem_append, or_iff_left apart, ih]
          simp only [List.mem_cons, or_and_right, exists_or, exists_eq_left]

theorem exists_mem_splitAt_iff {character : CodePoint} (notCut : character ≠ cut) :
    (∃ piece ∈ splitAt cut text, character ∈ piece) ↔ character ∈ text := by
  rw [← mem_intercalate_iff (mt List.mem_singleton.1 notCut), intercalate_splitAt]

/-- At a cut, the pieces in front of it are apart from those behind it. -/
theorem splitAt_append_cons (front back : Text) :
    splitAt cut (front ++ cut :: back) = splitAt cut front ++ splitAt cut back := by
  induction front with
  | nil => simp [splitAt, piecesAt]
  | cons character front ih =>
      rw [splitAt, splitAt, List.cons_append] at ih
      obtain ⟨first, others⟩ := List.cons.inj ih
      rw [splitAt, splitAt, List.cons_append, piecesAt, piecesAt, first, others]
      split
      next => rfl
      next => rfl

/-- What is put behind a text belongs to its last piece. -/
theorem exists_splitAt_append {suffix : Text} (apart : cut ∉ suffix) (text : Text) :
    ∃ front last, splitAt cut text = front ++ [last] ∧
      splitAt cut (text ++ suffix) = front ++ [last ++ suffix] := by
  by_cases member : cut ∈ text
  · obtain ⟨back, front, split, notInBack⟩ :=
      List.eq_append_cons_of_mem (List.mem_reverse.2 member)
    have notInLast : cut ∉ back.reverse := mt List.mem_reverse.1 notInBack
    have whole : text = front.reverse ++ cut :: back.reverse := by
      simpa using congrArg List.reverse split
    refine ⟨splitAt cut front.reverse, back.reverse, ?_, ?_⟩
    · rw [whole, splitAt_append_cons, splitAt_eq_singleton notInLast]
    · have notBehind : cut ∉ back.reverse ++ suffix := by
        rw [List.mem_append, not_or]
        exact ⟨notInLast, apart⟩
      rw [whole, List.append_assoc, List.cons_append, splitAt_append_cons,
        splitAt_eq_singleton notBehind]
  · have notBehind : cut ∉ text ++ suffix := by
      rw [List.mem_append, not_or]
      exact ⟨member, apart⟩
    exact ⟨[], text, splitAt_eq_singleton member, splitAt_eq_singleton notBehind⟩

/-! ## Joined texts -/

theorem intercalate_append {separator : Text} {front back : List Text} (nonempty : front ≠ [])
    (nonemptyBack : back ≠ []) :
    separator.intercalate (front ++ back) =
      separator.intercalate front ++ separator ++ separator.intercalate back := by
  induction front with
  | nil => contradiction
  | cons first front ih =>
      cases front with
      | nil => simp [List.intercalate_cons_of_ne_nil nonemptyBack]
      | cons second front =>
          rw [List.cons_append, List.cons_append, List.intercalate_cons_cons, ← List.cons_append,
            ih (List.cons_ne_nil _ _), List.intercalate_cons_cons]
          simp only [List.append_assoc]

theorem intercalate_flatMap {Item : Type} {separator : Text} {parts : Item → List Text}
    (nonempty : ∀ item, parts item ≠ []) (items : List Item) :
    separator.intercalate (items.flatMap parts) =
      separator.intercalate (items.map fun item => separator.intercalate (parts item)) := by
  induction items with
  | nil => rfl
  | cons first items ih =>
      cases items with
      | nil => simp
      | cons second items =>
          have nonemptyLater : (second :: items).flatMap parts ≠ [] := by
            simp [nonempty second]
          rw [List.flatMap_cons, intercalate_append (nonempty first) nonemptyLater, ih]
          exact List.intercalate_cons_cons.symm

/-! ## Occurrences -/

/-- What does not hold the cut and starts with it is empty. -/
theorem eq_nil_of_prefix_cut {pattern rest : Text} (apart : cut ∉ pattern)
    (occurs : pattern <+: cut :: rest) : pattern = [] := by
  cases pattern with
  | nil => rfl
  | cons first others =>
      exact absurd ((List.cons_prefix_cons.1 occurs).1 ▸ List.mem_cons_self) apart

theorem infix_append_cut_iff {pattern front back : Text} (apart : cut ∉ pattern) :
    pattern <:+: front ++ cut :: back ↔ pattern <:+: front ∨ pattern <:+: back := by
  constructor
  · intro occurs
    rcases List.infix_append_iff.1 occurs with inFront | behind | ⟨left, right, rfl, atEnd, atCut⟩
    · exact .inl inFront
    · rcases List.infix_cons_iff.1 behind with atCut | inBack
      · rw [eq_nil_of_prefix_cut apart atCut]
        exact .inl List.nil_infix
      · exact .inr inBack
    · rw [List.mem_append, not_or] at apart
      rw [eq_nil_of_prefix_cut apart.2 atCut, List.append_nil]
      exact .inl atEnd.isInfix
  · intro occurs
    rcases occurs with inFront | inBack
    · exact inFront.trans (List.prefix_append _ _).isInfix
    · exact inBack.trans ((List.suffix_cons cut back).trans (List.suffix_append _ _)).isInfix

/-- A pattern without the cut occurs in the joined text if and only if it occurs in a piece. -/
theorem infix_intercalate_iff {pattern : Text} (nonempty : pattern ≠ []) (apart : cut ∉ pattern) :
    pattern <:+: [cut].intercalate pieces ↔ ∃ piece ∈ pieces, pattern <:+: piece := by
  induction pieces with
  | nil => simp [nonempty]
  | cons first pieces ih =>
      cases pieces with
      | nil => simp
      | cons second pieces =>
          rw [List.intercalate_cons_cons, List.append_assoc, List.singleton_append,
            infix_append_cut_iff apart, ih]
          simp

end ThreadStacks.Text
