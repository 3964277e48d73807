import ThreadStacks.Name.Markup

/-!
# Readable spans

A bracket shows an angle bracket exactly when it completes a pair of its run.  From this one step
follows what a segment with its brackets shows, whatever stands behind: only how long a run the text
behind starts with matters.
-/

namespace ThreadStacks.Name

/-- Whether a text holds no square bracket. -/
def IsUnbracketed (text : Text) : Prop := ∀ character ∈ text, Bracket.ofCharacter? character = none

/-- The readable form of the spans of a signature. -/
def shownSpans (signature : Text) : Text := (spans signature).1.flatMap Span.display

/-- The tail of a signature behind its last bracket. -/
def spansTail (signature : Text) : Text := (spans signature).2

theorem displaySignature_eq (signature : Text) :
    displaySignature signature =
      joinMethod (shownSpans signature ++ displayTypeName (splitFullName (spansTail signature)).1)
        (displayMethodName (splitFullName (spansTail signature)).2) := rfl

@[simp] theorem displayTypeName_nil : displayTypeName [] = [] := by decide

namespace Bracket

@[simp] theorem ofCharacter?_character (bracket : Bracket) :
    ofCharacter? bracket.character = some bracket := by
  cases bracket <;> rfl

theorem isBracket_eq_false_iff {character : CodePoint} :
    isBracket character = false ↔ ofCharacter? character = none := by
  rw [isBracket, Option.isSome_eq_false_iff, Option.isNone_iff_eq_none]

theorem not_isBracket_iff {character : CodePoint} :
    (!isBracket character) = true ↔ ofCharacter? character = none := by
  rw [Bool.not_eq_true', isBracket_eq_false_iff]

theorem eq_character {character : CodePoint} {bracket : Bracket}
    (found : ofCharacter? character = some bracket) : character = bracket.character := by
  unfold ofCharacter? at found
  split at found
  next =>
    cases found
    rfl
  next =>
    cases found
    rfl
  next => contradiction

end Bracket

section Segments

variable {segment rest : Text}

theorem isUnbracketed_nil : IsUnbracketed [] := by
  intro character member
  contradiction

theorem isUnbracketed_append {back : Text} (front : IsUnbracketed segment)
    (behind : IsUnbracketed back) : IsUnbracketed (segment ++ back) := by
  intro character member
  rcases List.mem_append.1 member with inFront | inBack
  · exact front character inFront
  · exact behind character inBack

end Segments

namespace Span

/-- How long a run of a bracket spans start with. -/
def leading (bracket : Bracket) : List Span → Nat
  | [] => 0
  | span :: _ => if span.segment.isEmpty && span.bracket == bracket then span.count else 0

/-- Put a text without brackets in front of spans and the text after them. -/
def consText (text : Text) : List Span × Text → List Span × Text
  | ([], tail) => ([], text ++ tail)
  | (span :: spans, tail) => ({ span with segment := text ++ span.segment } :: spans, tail)

variable {bracket : Bracket}

theorem display_run (count : Nat) :
    display ⟨[], bracket, count⟩ = List.replicate (count / 2) bracket.angle := by
  have noName : typeName ⟨[], bracket, count⟩ = [] := by
    cases bracket with
    | opening => rfl
    | closing => rfl
  rw [display, noName, displayTypeName_nil, List.nil_append]
  rfl

/-- A bracket in front starts a run, which is one longer than the one behind it. -/
theorem exists_consBracket (bracket : Bracket) (found : List Span) :
    ∃ others, consBracket bracket found = ⟨[], bracket, leading bracket found + 1⟩ :: others ∧
      found.flatMap display =
        List.replicate (leading bracket found / 2) bracket.angle ++ others.flatMap display := by
  cases found with
  | nil => exact ⟨[], rfl, by simp [leading]⟩
  | cons span found =>
      obtain ⟨segment, other, count⟩ := span
      rw [consBracket, leading]
      split
      next joins =>
        simp only [Bool.and_eq_true, List.isEmpty_iff, beq_iff_eq] at joins
        obtain ⟨rfl, rfl⟩ := joins
        exact ⟨found, rfl, by rw [List.flatMap_cons, display_run]⟩
      next => exact ⟨⟨segment, other, count⟩ :: found, rfl, rfl⟩

@[simp] theorem leading_consBracket (found : List Span) :
    leading bracket (consBracket bracket found) = leading bracket found + 1 := by
  obtain ⟨others, split, -⟩ := exists_consBracket bracket found
  rw [split, leading]
  simp

theorem leading_consBracket_of_ne {other : Bracket} (different : other ≠ bracket)
    (found : List Span) : leading bracket (consBracket other found) = 0 := by
  obtain ⟨others, split, -⟩ := exists_consBracket other found
  rw [split, leading]
  simp [different]

@[simp] theorem leading_consCharacter (character : CodePoint) (found : List Span × Text) :
    leading bracket (consCharacter character found).1 = 0 := by
  obtain ⟨found, tail⟩ := found
  cases found with
  | nil => rfl
  | cons span found => rfl

/-- A bracket in front of spans adds an angle bracket if it completes a pair. -/
theorem flatMap_display_consText_consBracket (segment : Text) (found : List Span) (tail : Text) :
    (consText segment (consBracket bracket found, tail)).1.flatMap display =
      displayTypeName (typeName ⟨segment, bracket, 1⟩) ++
        (List.replicate (leading bracket found % 2) bracket.angle ++ found.flatMap display) := by
  obtain ⟨others, split, shown⟩ := exists_consBracket bracket found
  have pairs : (leading bracket found + 1) / 2 =
      leading bracket found % 2 + leading bracket found / 2 := by omega
  rw [split, shown, consText, List.append_nil, List.flatMap_cons, display, Span.pairs]
  simp only [pairs, ← List.replicate_append_replicate, List.append_assoc]
  rfl

end Span

/-! ## Spans of a text -/

section Texts

variable {bracket : Bracket} {segment rest : Text}

theorem spans_bracket (bracket : Bracket) (rest : Text) :
    spans (bracket.character :: rest) =
      (Span.consBracket bracket (spans rest).1, spansTail rest) := by
  rw [spans, Bracket.ofCharacter?_character]
  rfl

theorem spans_cons {character : CodePoint} (isOther : Bracket.ofCharacter? character = none) :
    spans (character :: rest) = Span.consCharacter character (spans rest) := by
  rw [spans, isOther]

theorem spans_append (unbracketed : IsUnbracketed segment) :
    spans (segment ++ rest) = Span.consText segment (spans rest) := by
  induction segment with
  | nil =>
      rw [List.nil_append]
      cases spans rest with
      | mk found tail =>
          cases found with
          | nil => rfl
          | cons span found => rfl
  | cons character segment ih =>
      have isOther := unbracketed character List.mem_cons_self
      have unbracketedLater : IsUnbracketed segment := by
        intro other member
        exact unbracketed other (List.mem_cons_of_mem _ member)
      rw [List.cons_append, spans_cons isOther, ih unbracketedLater]
      cases spans rest with
      | mk found tail =>
          cases found with
          | nil => rfl
          | cons span found => rfl

theorem spans_eq_of_isUnbracketed (unbracketed : IsUnbracketed segment) :
    spans segment = ([], segment) := by
  have split : spans (segment ++ []) = Span.consText segment (spans []) :=
    spans_append unbracketed
  rw [List.append_nil] at split
  rw [split, spans, Span.consText, List.append_nil]

theorem leading_bracket :
    Span.leading bracket (spans (bracket.character :: rest)).1 =
      Span.leading bracket (spans rest).1 + 1 := by
  rw [spans_bracket, Span.leading_consBracket]

theorem leading_of_ne {character : CodePoint} (different : character ≠ bracket.character) :
    Span.leading bracket (spans (character :: rest)).1 = 0 := by
  rw [spans]
  cases isBracket : Bracket.ofCharacter? character with
  | none => exact Span.leading_consCharacter character (spans rest)
  | some other =>
      apply Span.leading_consBracket_of_ne
      intro same
      subst same
      exact different (Bracket.eq_character isBracket)

/-- What a segment and the bracket behind it show. -/
theorem shownSpans_segment (bracket : Bracket) (unbracketed : IsUnbracketed segment) :
    shownSpans (segment ++ bracket.character :: rest) =
      displayTypeName (Span.typeName ⟨segment, bracket, 1⟩) ++
        (List.replicate (Span.leading bracket (spans rest).1 % 2) bracket.angle ++
          shownSpans rest) := by
  rw [shownSpans, spans_append unbracketed, spans_bracket,
    Span.flatMap_display_consText_consBracket]
  rfl

/-- A bracket that is not doubled only ends its segment. -/
theorem shownSpans_single (bracket : Bracket) (unbracketed : IsUnbracketed segment)
    (even : Span.leading bracket (spans rest).1 % 2 = 0) :
    shownSpans (segment ++ bracket.character :: rest) =
      displayTypeName (Span.typeName ⟨segment, bracket, 1⟩) ++ shownSpans rest := by
  rw [shownSpans_segment bracket unbracketed, even, List.replicate_zero, List.nil_append]

/-- Two brackets show one angle bracket. -/
theorem shownSpans_pair (bracket : Bracket) (unbracketed : IsUnbracketed segment) :
    shownSpans (segment ++ bracket.character :: bracket.character :: rest) =
      displayTypeName (Span.typeName ⟨segment, bracket, 1⟩) ++
        bracket.angle :: shownSpans rest := by
  have inner : shownSpans ([] ++ bracket.character :: rest) = _ :=
    shownSpans_segment bracket isUnbracketed_nil
  have noName : Span.typeName ⟨[], bracket, 1⟩ = [] := by
    cases bracket with
    | opening => rfl
    | closing => rfl
  rw [noName, displayTypeName_nil, List.nil_append, List.nil_append] at inner
  rw [shownSpans_segment bracket unbracketed, leading_bracket, inner]
  rcases Nat.mod_two_eq_zero_or_one (Span.leading bracket (spans rest).1) with even | odd
  · have completes : (Span.leading bracket (spans rest).1 + 1) % 2 = 1 := by omega
    rw [even, completes]
    rfl
  · have starts : (Span.leading bracket (spans rest).1 + 1) % 2 = 0 := by omega
    rw [odd, starts]
    rfl

/-- Nothing in front of a bracket changes the tail. -/
theorem spansTail_append (bracket : Bracket) (front : Text) :
    spansTail (front ++ bracket.character :: rest) = spansTail rest := by
  have ends : ∃ span others,
      spans (front ++ bracket.character :: rest) = (span :: others, spansTail rest) := by
    induction front with
    | nil =>
        obtain ⟨others, split, -⟩ := Span.exists_consBracket bracket (spans rest).1
        rw [List.nil_append, spans_bracket, split]
        exact ⟨_, others, rfl⟩
    | cons character front ih =>
        obtain ⟨span, others, same⟩ := ih
        rw [List.cons_append, spans, same]
        cases isBracket : Bracket.ofCharacter? character with
        | none => exact ⟨_, others, rfl⟩
        | some other =>
            obtain ⟨later, split, -⟩ := Span.exists_consBracket other (span :: others)
            simp only [split]
            exact ⟨_, later, rfl⟩
  obtain ⟨span, others, same⟩ := ends
  rw [spansTail, same]

end Texts

end ThreadStacks.Name
