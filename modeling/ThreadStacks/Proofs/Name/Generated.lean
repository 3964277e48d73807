import ThreadStacks.Name.Generated
import ThreadStacks.Proofs.Text.Pattern

/-!
# Marks of generated names

Making a generated name readable drops its leading brackets and its bars, then resolves the marks
and the brackets behind dots.  The bars go before the marks are looked for, so no mark survives; but
they go after the leading brackets, so a bracket behind a leading bar does.
-/

namespace ThreadStacks.Name

/-- A mark: what follows its bracket, and what is written behind a dot in its place. -/
structure Mark where
  tail : Text
  path : Text

namespace Mark

def text (mark : Mark) : Text := .char '>' :: mark.tail

def resolve (mark : Mark) (name : Text) : Text :=
  Text.replaceAll mark.text (.char '.' :: mark.path) name

/-- The marks in the order in which they are resolved. -/
def all : List Mark := [
  ⟨[.char 'b'], "AnonymousMethod".toText⟩, ⟨[.char 'd'], "StateMachine".toText⟩, ⟨"g__".toText, []⟩]

/-- Resolve marks one after the other. -/
def resolveEach (marks : List Mark) (name : Text) : Text :=
  marks.foldl (fun name mark => mark.resolve name) name

end Mark

/-- A dot with a bracket behind it. -/
def dottedBracket : Text := [.char '.', .char '<']

/-- A name without its leading brackets and without bars. -/
def unmark (name : Text) : Text := (name.dropWhile (· == .char '<')).filter (· != .char '|')

/-- Resolve the marks of a name, and the brackets behind dots. -/
def resolveMarks (name : Text) : Text := collapseDots false (Mark.resolveEach Mark.all name)

theorem displayGenerated_eq_resolveMarks (name : Text) :
    displayGenerated name = resolveMarks (unmark name) := rfl

/-! ## Brackets behind dots -/

section CollapseDots

variable {afterDot : Bool} {character : CodePoint} {front back pattern rest text : Text}

theorem collapseDots_cons (kept : ¬(character = .char '<' ∧ afterDot = true)) :
    collapseDots afterDot (character :: rest) =
      character :: collapseDots (character = .char '.') rest := by
  rw [collapseDots, if_neg (by simpa using kept)]

@[simp] theorem collapseDots_bracket :
    collapseDots true (.char '<' :: rest) = collapseDots true rest := by
  rw [collapseDots, if_pos (by decide)]

/-- Brackets behind dots are collapsed on each side of a character that is no bracket. -/
theorem collapseDots_append_cons (notBracket : character ≠ .char '<') :
    collapseDots afterDot (front ++ character :: back) =
      collapseDots afterDot front ++ collapseDots false (character :: back) := by
  induction front generalizing afterDot with
  | nil =>
      rw [List.nil_append, collapseDots_cons fun dropped => notBracket dropped.1,
        collapseDots_cons (by simp)]
      rfl
  | cons first front ih =>
      by_cases dropped : first = .char '<' ∧ afterDot = true
      · obtain ⟨rfl, rfl⟩ := dropped
        rw [List.cons_append, collapseDots_bracket, collapseDots_bracket, ih]
      · rw [List.cons_append, collapseDots_cons dropped, collapseDots_cons dropped, ih,
          List.cons_append]

theorem mem_of_mem_collapseDots (member : character ∈ collapseDots afterDot text) :
    character ∈ text := by
  induction text generalizing afterDot with
  | nil => exact member
  | cons first rest ih =>
      by_cases dropped : first = .char '<' ∧ afterDot = true
      · obtain ⟨rfl, rfl⟩ := dropped
        rw [collapseDots_bracket] at member
        exact List.mem_cons_of_mem _ (ih member)
      · rw [collapseDots_cons dropped, List.mem_cons] at member
        exact List.mem_cons.2 (member.imp_right ih)

theorem prefix_of_prefix_collapseDots (apart : .char '.' ∉ pattern)
    (occurs : pattern <+: collapseDots false text) : pattern <+: text := by
  induction pattern generalizing text with
  | nil => exact List.nil_prefix
  | cons first others ih =>
      simp only [List.mem_cons, not_or] at apart
      cases text with
      | nil => exact occurs
      | cons character rest =>
          rw [collapseDots_cons (by simp), List.cons_prefix_cons] at occurs
          obtain ⟨rfl, behind⟩ := occurs
          rw [decide_eq_false (Ne.symm apart.1)] at behind
          exact List.cons_prefix_cons.2 ⟨rfl, ih apart.2 behind⟩

/-- What does not hold a dot is not made by dropping brackets behind dots. -/
theorem infix_of_infix_collapseDots (apart : .char '.' ∉ pattern)
    (occurs : pattern <:+: collapseDots afterDot text) : pattern <:+: text := by
  induction text generalizing afterDot with
  | nil => exact occurs
  | cons character rest ih =>
      by_cases dropped : character = .char '<' ∧ afterDot = true
      · obtain ⟨rfl, rfl⟩ := dropped
        rw [collapseDots_bracket] at occurs
        exact List.infix_cons_iff.2 (.inr (ih occurs))
      · have same : collapseDots afterDot (character :: rest) =
            collapseDots false (character :: rest) := by
          rw [collapseDots_cons dropped, collapseDots_cons (by simp)]
        rw [same] at occurs
        have step : collapseDots false (character :: rest) =
            character :: collapseDots (character = .char '.') rest := collapseDots_cons (by simp)
        rw [step, List.infix_cons_iff] at occurs
        rcases occurs with atStart | later
        · rw [← step] at atStart
          exact (prefix_of_prefix_collapseDots apart atStart).isInfix
        · exact List.infix_cons_iff.2 (.inr (ih later))

theorem prefix_collapseDots (noDot : .char '.' ∉ pattern) (noBracket : .char '<' ∉ pattern)
    (occurs : pattern <+: text) : pattern <+: collapseDots afterDot text := by
  induction pattern generalizing afterDot text with
  | nil => exact List.nil_prefix
  | cons first others ih =>
      simp only [List.mem_cons, not_or] at noDot noBracket
      cases text with
      | nil => exact occurs
      | cons character rest =>
          obtain ⟨rfl, behind⟩ := List.cons_prefix_cons.1 occurs
          rw [collapseDots_cons fun dropped => noBracket.1 dropped.1.symm]
          exact List.cons_prefix_cons.2 ⟨rfl, ih noDot.2 noBracket.2 behind⟩

/-- What holds neither a dot nor a bracket stays. -/
theorem infix_collapseDots (noDot : .char '.' ∉ pattern) (noBracket : .char '<' ∉ pattern)
    (occurs : pattern <:+: text) : pattern <:+: collapseDots afterDot text := by
  induction text generalizing afterDot with
  | nil => exact occurs
  | cons character rest ih =>
      rcases List.infix_cons_iff.1 occurs with atStart | later
      · exact (prefix_collapseDots noDot noBracket atStart).isInfix
      · by_cases dropped : character = .char '<' ∧ afterDot = true
        · obtain ⟨rfl, rfl⟩ := dropped
          rw [collapseDots_bracket]
          exact ih later
        · rw [collapseDots_cons dropped]
          exact List.infix_cons_iff.2 (.inr (ih later))

theorem not_bracket_prefix_collapseDots : ¬[.char '<'] <+: collapseDots true text := by
  induction text with
  | nil => simp [collapseDots]
  | cons character rest ih =>
      by_cases bracket : character = .char '<'
      · subst bracket
        rwa [collapseDots_bracket]
      · rw [collapseDots_cons fun dropped => bracket dropped.1]
        intro occurs
        exact bracket (List.cons_prefix_cons.1 occurs).1.symm

theorem not_dottedBracket_infix_collapseDots :
    ¬dottedBracket <:+: collapseDots afterDot text := by
  induction text generalizing afterDot with
  | nil => simp [collapseDots, dottedBracket]
  | cons character rest ih =>
      by_cases dropped : character = .char '<' ∧ afterDot = true
      · obtain ⟨rfl, rfl⟩ := dropped
        rw [collapseDots_bracket]
        exact ih
      · rw [collapseDots_cons dropped, List.infix_cons_iff]
        intro occurs
        rcases occurs with atStart | later
        · obtain ⟨rfl, behind⟩ := List.cons_prefix_cons.1 atStart
          exact not_bracket_prefix_collapseDots behind
        · exact ih later

theorem collapseDots_eq_self (start : afterDot = true → ¬[.char '<'] <+: text)
    (absent : ¬dottedBracket <:+: text) : collapseDots afterDot text = text := by
  induction text generalizing afterDot with
  | nil => rfl
  | cons character rest ih =>
      have kept : ¬(character = .char '<' ∧ afterDot = true) := by
        rintro ⟨rfl, behindDot⟩
        exact start behindDot (List.prefix_append [.char '<'] rest)
      rw [List.infix_cons_iff, not_or] at absent
      rw [collapseDots_cons kept, ih _ absent.2]
      intro isDot bracket
      rw [of_decide_eq_true isDot] at absent
      exact absent.1 (List.cons_prefix_cons.2 ⟨rfl, bracket⟩)

end CollapseDots

theorem bracket_prefix_collapseDots_iff {text : Text} :
    [.char '<'] <+: collapseDots false text ↔ [.char '<'] <+: text := by
  cases text with
  | nil => rfl
  | cons character rest =>
      rw [collapseDots_cons (by simp), List.cons_prefix_cons, List.cons_prefix_cons]
      simp

/-! ## Marks -/

namespace Mark

variable {mark : Mark} {marks : List Mark} {name tail : Text}

/-- Whether a mark neither holds a dot nor is replaced by another one. -/
def IsPlain (mark : Mark) : Prop := .char '.' ∉ mark.tail ∧ .char '>' ∉ mark.path

instance (mark : Mark) : Decidable mark.IsPlain := inferInstanceAs (Decidable (_ ∧ _))

theorem all_isPlain : ∀ mark ∈ all, mark.IsPlain := by decide

@[simp] theorem text_ne_nil (mark : Mark) : mark.text ≠ [] := List.cons_ne_nil _ _

theorem IsPlain.bracket_not_mem (plain : mark.IsPlain) : .char '>' ∉ .char '.' :: mark.path := by
  rw [List.mem_cons, not_or]
  exact ⟨by decide, plain.2⟩

theorem dot_not_mem_text (plain : mark.IsPlain) : .char '.' ∉ mark.text := by
  rw [text, List.mem_cons, not_or]
  exact ⟨by decide, plain.1⟩

/-- What resolving each mark keeps, resolving all of them keeps. -/
theorem resolveEach_keeps (property : Text → Prop) (holds : property name)
    (step : ∀ mark ∈ marks, ∀ name, property name → property (mark.resolve name)) :
    property (resolveEach marks name) := by
  induction marks generalizing name with
  | nil => exact holds
  | cons first marks ih =>
      apply ih (step first List.mem_cons_self name holds)
      intro mark listed
      exact step mark (List.mem_cons_of_mem _ listed)

/-- A pattern that can neither start in what is written for a mark nor run into it is not made. -/
theorem not_infix_resolveEach {first : CodePoint} {others : Text}
    (outside : ∀ mark ∈ marks, first ∉ .char '.' :: mark.path) (apart : .char '.' ∉ others)
    (absent : ¬first :: others <:+: name) : ¬first :: others <:+: resolveEach marks name := by
  apply resolveEach_keeps (fun name => ¬first :: others <:+: name) absent
  intro mark listed name absent occurs
  exact absent
    (Text.infix_of_infix_replaceAll mark.text_ne_nil (outside mark listed) apart occurs)

/-- No mark is left when all are resolved. -/
theorem not_mark_infix_resolveEach (plain : ∀ mark ∈ marks, mark.IsPlain)
    (listed : mark ∈ marks) : ¬mark.text <:+: resolveEach marks name := by
  induction marks generalizing name with
  | nil => contradiction
  | cons first marks ih =>
      have plainLater : ∀ other ∈ marks, other.IsPlain := by
        intro other later
        exact plain other (List.mem_cons_of_mem first later)
      rcases List.mem_cons.1 listed with rfl | later
      · have plainMark := plain mark List.mem_cons_self
        have resolved : ¬mark.text <:+: mark.resolve name :=
          Text.not_infix_replaceAll plainMark.bracket_not_mem plainMark.1
        change ¬mark.text <:+: resolveEach marks (mark.resolve name)
        apply not_infix_resolveEach _ plainMark.1 resolved
        intro other later
        exact (plainLater other later).bracket_not_mem
      · exact ih plainLater later

theorem resolveEach_eq_self (absent : ∀ mark ∈ marks, ¬mark.text <:+: name) :
    resolveEach marks name = name := by
  induction marks with
  | nil => rfl
  | cons first marks ih =>
      rw [resolveEach, List.foldl_cons, resolve,
        Text.replaceAll_eq_self (absent first List.mem_cons_self)]
      apply ih
      intro mark listed
      exact absent mark (List.mem_cons_of_mem _ listed)

/-- No mark is another one with more behind it. -/
theorem all_distinct :
    all.Pairwise fun first later => ∀ tail, ¬first.tail <+: later.tail ++ tail := by
  simp [all]

theorem not_infix_of_not_mem (absent : .char '>' ∉ name) : ¬mark.text <:+: name := by
  intro occurs
  exact absent (occurs.subset List.mem_cons_self)

theorem resolve_text_append (noMark : .char '>' ∉ tail) :
    mark.resolve (mark.text ++ tail) = .char '.' :: mark.path ++ tail := by
  rw [resolve, Text.replaceAll_append mark.text_ne_nil,
    Text.replaceAll_eq_self (not_infix_of_not_mem noMark)]

/-- A mark in front of a text without marks is resolved as if it were the only one. -/
theorem resolveEach_text_append (listed : mark ∈ marks) (noMark : .char '>' ∉ tail)
    (plain : ∀ mark ∈ marks, .char '>' ∉ mark.tail ++ mark.path)
    (distinct : marks.Pairwise fun first later => ∀ tail, ¬first.tail <+: later.tail ++ tail) :
    resolveEach marks (mark.text ++ tail) = .char '.' :: mark.path ++ tail := by
  induction marks with
  | nil => contradiction
  | cons first marks ih =>
      obtain ⟨plainFirst, plainLater⟩ := List.forall_mem_cons.1 plain
      obtain ⟨distinctFirst, distinctLater⟩ := List.pairwise_cons.1 distinct
      change resolveEach marks (first.resolve (mark.text ++ tail)) = _
      rcases List.mem_cons.1 listed with rfl | later
      · have resolved : .char '>' ∉ .char '.' :: mark.path ++ tail := by
          rw [List.mem_append, not_or] at plainFirst
          simp [plainFirst.2, noMark]
        rw [resolve_text_append noMark]
        exact resolveEach_eq_self fun other _ => not_infix_of_not_mem resolved
      · have absent : ¬first.text <:+: mark.text ++ tail := by
          intro occurs
          rw [text, text, List.cons_append, List.infix_cons_iff, List.cons_prefix_cons] at occurs
          rcases occurs with ⟨-, atStart⟩ | behind
          · exact distinctFirst mark later tail atStart
          · have plainMark := plainLater mark later
            rw [List.mem_append, not_or] at plainMark
            have noMarkBehind : .char '>' ∉ mark.tail ++ tail := by simp [plainMark.1, noMark]
            exact noMarkBehind (behind.subset List.mem_cons_self)
        rw [resolve, Text.replaceAll_eq_self absent]
        exact ih later plainLater distinctLater

end Mark

/-! ## Names with the marks resolved -/

section ResolveMarks

variable {name : Text}

theorem not_mark_infix_resolveMarks {mark : Mark} (listed : mark ∈ Mark.all) :
    ¬mark.text <:+: resolveMarks name := by
  intro occurs
  have noDot : .char '.' ∉ mark.text := Mark.dot_not_mem_text (Mark.all_isPlain mark listed)
  exact Mark.not_mark_infix_resolveEach Mark.all_isPlain listed
    (infix_of_infix_collapseDots noDot occurs)

theorem not_dottedBracket_infix_resolveMarks : ¬dottedBracket <:+: resolveMarks name :=
  not_dottedBracket_infix_collapseDots

/-- A name without marks and without brackets behind dots has nothing to resolve. -/
theorem resolveMarks_eq_self (unmarked : ∀ mark ∈ Mark.all, ¬mark.text <:+: name)
    (undotted : ¬dottedBracket <:+: name) : resolveMarks name = name := by
  have noStart : false = true → ¬[.char '<'] <+: name := by
    intro impossible
    contradiction
  rw [resolveMarks, Mark.resolveEach_eq_self unmarked, collapseDots_eq_self noStart undotted]

theorem not_mem_resolveMarks {character : CodePoint}
    (foreign : ∀ mark ∈ Mark.all, character ∉ .char '.' :: mark.path) (absent : character ∉ name) :
    character ∉ resolveMarks name := by
  intro member
  have resolved : character ∉ Mark.resolveEach Mark.all name := by
    apply Mark.resolveEach_keeps (fun name => character ∉ name) absent
    intro mark listed name absent member
    exact (Text.mem_replaceAll mark.text_ne_nil member).elim (foreign mark listed) absent
  exact resolved (mem_of_mem_collapseDots member)

/-- A leading bracket stays, and none is made. -/
theorem bracket_prefix_resolveMarks_iff :
    [.char '<'] <+: resolveMarks name ↔ [.char '<'] <+: name := by
  rw [resolveMarks, bracket_prefix_collapseDots_iff]
  apply Mark.resolveEach_keeps (fun text => [.char '<'] <+: text ↔ [.char '<'] <+: name) Iff.rfl
  intro mark listed text same
  have noBracket : .char '<' ∉ mark.text := by
    revert mark
    decide
  have apart : ∀ character ∈ [.char '<'], character ∉ mark.text :=
    List.forall_mem_singleton.2 noBracket
  rw [← same]
  constructor
  · exact Text.prefix_of_prefix_replaceAll mark.text_ne_nil (by decide)
  · exact Text.prefix_replaceAll mark.text_ne_nil apart

/-- A pattern that shares no character with the marks and with what is written for them stays, and
is not made. -/
theorem infix_resolveMarks_iff {first : CodePoint} {others : Text}
    (noBracket : .char '<' ∉ first :: others)
    (foreign : ∀ mark ∈ Mark.all, ∀ character ∈ first :: others,
      character ∉ mark.text ∧ character ∉ .char '.' :: mark.path) :
    first :: others <:+: resolveMarks name ↔ first :: others <:+: name := by
  have noDot : .char '.' ∉ first :: others := by
    intro member
    exact (foreign _ List.mem_cons_self (.char '.') member).2 List.mem_cons_self
  have collapsed {text : Text} :
      first :: others <:+: collapseDots false text ↔ first :: others <:+: text := by
    constructor
    · exact infix_of_infix_collapseDots noDot
    · exact infix_collapseDots noDot noBracket
  rw [resolveMarks, collapsed]
  apply Mark.resolveEach_keeps
    (fun text => first :: others <:+: text ↔ first :: others <:+: name) Iff.rfl
  intro mark listed text same
  rw [← same]
  constructor
  · apply Text.infix_of_infix_replaceAll mark.text_ne_nil
      (foreign mark listed first List.mem_cons_self).2
    intro member
    exact noDot (List.mem_cons_of_mem _ member)
  · apply Text.infix_replaceAll mark.text_ne_nil
    intro character member
    exact (foreign mark listed character member).1

end ResolveMarks

/-! ## Cutting a name -/

/-- The characters that a name can be cut in front of: that of a mark, and the dot in its place. -/
def boundaries : List CodePoint := [.char '>', .char '.']

theorem Mark.all_apart : ∀ mark ∈ Mark.all, ∀ boundary ∈ boundaries, boundary ∉ mark.tail := by
  simp [Mark.all, boundaries]

section Cut

variable {mark : Mark} {marks : List Mark} {front back tail : Text} {boundary : CodePoint}

theorem exists_boundary_resolve (isBoundary : boundary ∈ boundaries) :
    ∃ next ∈ boundaries, ∃ rest, mark.resolve (boundary :: back) = next :: rest := by
  by_cases occurs : mark.text <+: boundary :: back
  · obtain ⟨rest, split⟩ := occurs
    rw [Mark.resolve, ← split, Text.replaceAll_append mark.text_ne_nil]
    exact ⟨.char '.', by decide, _, rfl⟩
  · rw [Mark.resolve, Text.replaceAll_cons occurs]
    exact ⟨boundary, isBoundary, _, rfl⟩

theorem resolveEach_append_cons
    (apart : ∀ mark ∈ marks, ∀ boundary ∈ boundaries, boundary ∉ mark.tail)
    (isBoundary : boundary ∈ boundaries) :
    Mark.resolveEach marks (front ++ boundary :: back) =
      Mark.resolveEach marks front ++ Mark.resolveEach marks (boundary :: back) := by
  induction marks generalizing front back boundary with
  | nil => rfl
  | cons mark marks ih =>
      have cut : mark.resolve (front ++ boundary :: back) =
          mark.resolve front ++ mark.resolve (boundary :: back) :=
        Text.replaceAll_append_cons (apart mark List.mem_cons_self boundary isBoundary)
      have apartLater : ∀ other ∈ marks, ∀ boundary ∈ boundaries, boundary ∉ other.tail := by
        intro other later
        exact apart other (List.mem_cons_of_mem mark later)
      -- Resolving a mark puts another boundary in the place of this one.
      obtain ⟨next, isNext, rest, resolved⟩ :=
        @exists_boundary_resolve mark back boundary isBoundary
      simp only [Mark.resolveEach, List.foldl_cons] at ih ⊢
      rw [cut, resolved, ih apartLater isNext]

theorem exists_boundary_resolveEach (isBoundary : boundary ∈ boundaries) :
    ∃ next ∈ boundaries, ∃ rest, Mark.resolveEach marks (boundary :: back) = next :: rest := by
  apply Mark.resolveEach_keeps fun name => ∃ next ∈ boundaries, ∃ rest, name = next :: rest
  · exact ⟨boundary, isBoundary, back, rfl⟩
  · rintro mark - name ⟨next, isNext, rest, rfl⟩
    exact exists_boundary_resolve isNext

theorem unmark_cons (notBracket : boundary ≠ .char '<') :
    unmark (boundary :: back) = (boundary :: back).filter (· != .char '|') := by
  rw [unmark, List.dropWhile_cons_of_neg (by simpa using notBracket)]

theorem unmark_append_cons (notBracket : boundary ≠ .char '<') :
    unmark (front ++ boundary :: back) = unmark front ++ unmark (boundary :: back) := by
  rw [unmark_cons notBracket, unmark, unmark, List.dropWhile_append]
  split
  next noFront =>
    rw [List.isEmpty_iff.1 noFront]
    exact unmark_cons notBracket
  next => rw [List.filter_append]

/-- A name can be cut in front of a mark and in front of a dot: each side is made readable on its
own. -/
theorem displayGenerated_append_cons (isBoundary : boundary ∈ boundaries) :
    displayGenerated (front ++ boundary :: back) =
      displayGenerated front ++ displayGenerated (boundary :: back) := by
  have notBracket {other : CodePoint} (isOther : other ∈ boundaries) : other ≠ .char '<' := by
    rintro rfl
    exact absurd isOther (by decide)
  have notBar : boundary ≠ .char '|' := by
    rintro rfl
    exact absurd isBoundary (by decide)
  obtain ⟨rest, unmarked⟩ : ∃ rest, unmark (boundary :: back) = boundary :: rest := by
    rw [unmark_cons (notBracket isBoundary), List.filter_cons_of_pos (by simpa using notBar)]
    exact ⟨_, rfl⟩
  obtain ⟨next, isNext, others, resolved⟩ :=
    @exists_boundary_resolveEach Mark.all rest boundary isBoundary
  simp only [displayGenerated_eq_resolveMarks, resolveMarks]
  rw [unmark_append_cons (notBracket isBoundary), unmarked,
    resolveEach_append_cons Mark.all_apart isBoundary, resolved,
    collapseDots_append_cons (notBracket isNext)]

/-- A mark is resolved in front of a text without brackets, which only loses its bars. -/
theorem displayGenerated_mark (listed : mark ∈ Mark.all) (noOpening : .char '<' ∉ tail)
    (noClosing : .char '>' ∉ tail) :
    displayGenerated (mark.text ++ tail) =
      .char '.' :: mark.path ++ tail.filter (· != .char '|') := by
  have noClosing : .char '>' ∉ tail.filter (· != .char '|') := fun member =>
    noClosing (List.mem_filter.1 member).1
  have markPlain : mark.text.filter (· != .char '|') = mark.text ∧
      .char '<' ∉ .char '.' :: mark.path := by
    revert mark
    decide
  have unmarked : unmark (mark.text ++ tail) = mark.text ++ tail.filter (· != .char '|') := by
    rw [Mark.text, List.cons_append, unmark_cons (by decide), ← List.cons_append, ← Mark.text,
      List.filter_append, markPlain.1]
  have undotted : ¬dottedBracket <:+: .char '.' :: mark.path ++ tail.filter (· != .char '|') := by
    intro occurs
    have member := occurs.subset (List.mem_cons_of_mem _ List.mem_cons_self)
    rcases List.mem_append.1 member with inPath | inTail
    · exact markPlain.2 inPath
    · exact noOpening (List.mem_filter.1 inTail).1
  rw [displayGenerated_eq_resolveMarks, unmarked, resolveMarks,
    Mark.resolveEach_text_append listed noClosing (by decide) Mark.all_distinct,
    collapseDots_eq_self (by simp) undotted]

end Cut

end ThreadStacks.Name
