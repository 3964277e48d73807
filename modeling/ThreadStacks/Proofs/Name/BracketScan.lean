import Mathlib.Algebra.GroupWithZero.Nat
import ThreadStacks.Proofs.Name.Characters
import ThreadStacks.Proofs.Name.Signature

/-!
# The scan for brackets

Looking for the next run of brackets again and again, each time behind the one found before, comes
to an end and cuts every text, however malformed, into segments without brackets and runs that are
as long as they can be.  The spans that are made readable are the same cut, so no bracket of a
signature is shown, and its runs show as many angle brackets as there are pairs in them.
-/

namespace ThreadStacks.Name

/-- The runs that are found one after the other from a position on, until there is none left. -/
inductive Scans (text : Text) : (start : Int) → List BracketRun → Prop where
  | finished {start : Int} (noRun : nextBracketRun text start = .ok none) : Scans text start []
  | found {start : Int} {run : BracketRun} {runs : List BracketRun}
      (next : nextBracketRun text start = .ok (some run))
      (later : Scans text (run.position + run.count) runs) : Scans text start (run :: runs)

/-- Whether a text that stands at a position is a segment without brackets, a run of equal brackets
that is as long as it can be, and the rest behind it. -/
structure IsNextRun (text : Text) (start : Int) (run : BracketRun) (segment rest : Text) :
    Prop where
  whole : text = segment ++ (List.replicate run.count run.bracket.character ++ rest)
  position : run.position = start + segment.length
  unbracketed : IsUnbracketed segment
  nonempty : 0 < run.count
  maximal : rest.head? ≠ some run.bracket.character

/-- Whether runs, each with a segment in front of it, and a tail without brackets behind them make
up a text that stands at a position. -/
inductive IsBracketCut : Text → (start : Int) → List BracketRun → Prop where
  | tail {text : Text} {start : Int} (unbracketed : IsUnbracketed text) : IsBracketCut text start []
  | run {text segment rest : Text} {start : Int} {run : BracketRun} {runs : List BracketRun}
      (isNext : IsNextRun text start run segment rest)
      (later : IsBracketCut rest (run.position + run.count) runs) :
      IsBracketCut text start (run :: runs)

section Cut

variable {text front back segment rest : Text} {start : Int} {run : BracketRun}
  {runs others : List BracketRun} {character : CodePoint} {bracket : Bracket}

/-! ## Every text has a cut -/

theorem IsUnbracketed.head?_ne (unbracketed : IsUnbracketed text) :
    text.head? ≠ some bracket.character := by
  intro first
  have isOther := unbracketed _ (List.mem_of_head? first)
  rw [Bracket.ofCharacter?_character] at isOther
  contradiction

/-- A segment or a run of other brackets starts with another character. -/
theorem IsNextRun.head?_ne (isNext : IsNextRun text start run segment rest)
    (apart : ¬(segment = [] ∧ run.bracket = bracket)) : text.head? ≠ some bracket.character := by
  rw [isNext.whole]
  cases segment with
  | cons first segment =>
      exact isNext.unbracketed.head?_ne
  | nil =>
      obtain ⟨count, isCount⟩ := Nat.exists_eq_add_one.2 isNext.nonempty
      rw [isCount, List.replicate_succ]
      intro same
      apply apart
      refine ⟨rfl, ?_⟩
      have found := Bracket.ofCharacter?_character run.bracket
      rw [Option.some.inj same, Bracket.ofCharacter?_character] at found
      exact (Option.some.inj found).symm

theorem IsNextRun.cons (isNext : IsNextRun text (start + 1) run segment rest)
    (isOther : Bracket.ofCharacter? character = none) :
    IsNextRun (character :: text) start run (character :: segment) rest where
  whole := congrArg (character :: ·) isNext.whole
  position := by
    rw [isNext.position, List.length_cons]
    omega
  unbracketed := List.forall_mem_cons.2 ⟨isOther, isNext.unbracketed⟩
  nonempty := isNext.nonempty
  maximal := isNext.maximal

theorem isNextRun_single (maximal : text.head? ≠ some bracket.character) :
    IsNextRun (bracket.character :: text) start ⟨start, 1, bracket⟩ [] text where
  whole := rfl
  position := (Int.add_zero start).symm
  unbracketed := isUnbracketed_nil
  nonempty := Nat.one_pos
  maximal := maximal

/-- A bracket lengthens a run of its kind that it touches. -/
theorem IsNextRun.lengthen (isNext : IsNextRun text (start + 1) run [] rest) :
    IsNextRun (run.bracket.character :: text) start ⟨start, run.count + 1, run.bracket⟩ []
      rest where
  whole := congrArg (run.bracket.character :: ·) isNext.whole
  position := (Int.add_zero start).symm
  unbracketed := isUnbracketed_nil
  nonempty := Nat.succ_pos _
  maximal := isNext.maximal

theorem exists_isBracketCut (text : Text) (start : Int) : ∃ runs, IsBracketCut text start runs := by
  -- The cut is extended to the left: a character lengthens the first segment, and a bracket either
  -- lengthens the run that it touches or is a run of its own in front of all others.
  induction text generalizing start with
  | nil => exact ⟨[], .tail isUnbracketed_nil⟩
  | cons character text ih =>
      obtain ⟨runs, cut⟩ := ih (start + 1)
      cases isBracket : Bracket.ofCharacter? character with
      | none =>
          cases cut with
          | tail unbracketed =>
              exact ⟨[], .tail (List.forall_mem_cons.2 ⟨isBracket, unbracketed⟩)⟩
          | run isNext later => exact ⟨_, .run (isNext.cons isBracket) later⟩
      | some bracket =>
          rw [Bracket.eq_character isBracket]
          cases cut with
          | tail unbracketed =>
              exact ⟨_, .run (isNextRun_single unbracketed.head?_ne) (.tail unbracketed)⟩
          | @run _ segment rest _ run runs isNext later =>
              by_cases joins : segment = [] ∧ run.bracket = bracket
              · obtain ⟨rfl, rfl⟩ := joins
                have sameEnd : run.position + run.count = start + (run.count + 1 : Nat) := by
                  rw [isNext.position, List.length_nil]
                  omega
                rw [sameEnd] at later
                exact ⟨_, .run isNext.lengthen later⟩
              · exact ⟨_, .run (isNextRun_single (isNext.head?_ne joins)) (.run isNext later)⟩

/-! ## The scan finds the cut -/

theorem nextBracketRun_append (front back : Text) :
    nextBracketRun (front ++ back) front.length =
      .ok (BracketRun.first? front.length back) := by
  have within : ¬(front ++ back).length < front.length := by simp
  change (if (front ++ back).length < front.length then _ else _) = _
  rw [if_neg within, List.drop_left]

theorem takeWhile_segment_append (unbracketed : IsUnbracketed segment) (rest : Text) :
    (segment ++ rest).takeWhile (fun character => !Bracket.isBracket character) =
      segment ++ rest.takeWhile fun character => !Bracket.isBracket character := by
  apply List.takeWhile_append_of_pos
  intro character member
  exact Bracket.not_isBracket_iff.2 (unbracketed character member)

theorem first?_of_isUnbracketed (unbracketed : IsUnbracketed text) :
    BracketRun.first? start text = none := by
  have noBracket := takeWhile_segment_append unbracketed []
  rw [List.append_nil, List.takeWhile_nil, List.append_nil] at noBracket
  simp only [BracketRun.first?, noBracket, List.drop_length]

theorem takeWhile_replicate_append (count : Nat) (maximal : rest.head? ≠ some character) :
    (List.replicate count character ++ rest).takeWhile (· == character) =
      List.replicate count character := by
  induction count with
  | zero =>
      cases rest with
      | nil => rfl
      | cons first rest =>
          have other : first ≠ character := by simpa using maximal
          exact List.takeWhile_cons_of_neg (by simpa using other)
  | succ count ih =>
      rw [List.replicate_succ, List.cons_append, List.takeWhile_cons, if_pos (beq_self_eq_true _),
        ih]

theorem IsNextRun.first?_eq (isNext : IsNextRun text start run segment rest) :
    BracketRun.first? start text = some run := by
  obtain ⟨position, count, bracket⟩ := run
  obtain ⟨rfl, isPosition, unbracketed, nonempty, maximal⟩ := isNext
  obtain ⟨count, rfl⟩ : ∃ fewer, count = fewer + 1 := Nat.exists_eq_add_one.2 nonempty
  have isBracket : ¬(!Bracket.isBracket bracket.character) = true := by
    cases bracket <;> decide
  rw [BracketRun.first?, takeWhile_segment_append unbracketed, List.replicate_succ,
    List.cons_append, List.takeWhile_cons, if_neg isBracket, List.append_nil, List.drop_left]
  simp only [Bracket.ofCharacter?_character, Option.map_some,
    takeWhile_replicate_append count maximal, List.length_replicate, ← isPosition]

theorem IsBracketCut.scans (cut : IsBracketCut back start runs) (isStart : start = front.length) :
    Scans (front ++ back) start runs := by
  -- The scan keeps the whole text and moves its position, so `front` is what lies behind it; it
  -- grows by a segment and a run in each step.
  induction cut generalizing front with
  | tail unbracketed =>
      subst isStart
      refine .finished ?_
      rw [nextBracketRun_append, first?_of_isUnbracketed unbracketed]
  | @run text segment rest start run runs isNext later ih =>
      have passed : front ++ text =
          front ++ (segment ++ List.replicate run.count run.bracket.character) ++ rest := by
        rw [isNext.whole]
        simp only [List.append_assoc]
      have isEnd : run.position + run.count =
          (front ++ (segment ++ List.replicate run.count run.bracket.character)).length := by
        rw [isNext.position, isStart]
        simp only [List.length_append, List.length_replicate]
        omega
      refine .found ?_ ?_
      · rw [isStart] at isNext ⊢
        rw [nextBracketRun_append, isNext.first?_eq]
      · rw [passed]
        exact ih isEnd

theorem Scans.unique (scan : Scans text start runs) (other : Scans text start others) :
    runs = others := by
  induction scan generalizing others with
  | finished noRun =>
      cases other with
      | finished => rfl
      | found next => cases noRun.symm.trans next
  | found next later ih =>
      cases other with
      | finished noRun => cases noRun.symm.trans next
      | found otherNext otherLater =>
          cases next.symm.trans otherNext
          rw [ih otherLater]

/-- The scan of a text finds the runs of its cut, and nothing else. -/
theorem IsBracketCut.scans_iff (cut : IsBracketCut text 0 runs) :
    Scans text 0 others ↔ others = runs := by
  have scan : Scans text 0 runs := @IsBracketCut.scans [] text 0 runs cut rfl
  constructor
  · intro other
    exact other.unique scan
  · rintro rfl
    exact scan

/-! ## The spans are the cut -/

theorem consBracket_spans (apart : rest.head? ≠ some bracket.character) :
    Span.consBracket bracket (spans rest).1 = ⟨[], bracket, 1⟩ :: (spans rest).1 := by
  cases rest with
  | nil => rfl
  | cons first rest =>
      cases isBracket : Bracket.ofCharacter? first with
      | none =>
          rw [spans_cons isBracket]
          obtain ⟨found, tail⟩ := spans rest
          cases found with
          | nil => rfl
          | cons span found => rfl
      | some other =>
          rw [Bracket.eq_character isBracket] at apart ⊢
          have different : other ≠ bracket := by
            intro same
            exact apart (by rw [same]; rfl)
          obtain ⟨later, split, -⟩ := Span.exists_consBracket other (spans rest).1
          rw [spans_bracket, split, Span.consBracket]
          simp [different]

theorem spans_run (count : Nat) (apart : rest.head? ≠ some bracket.character) :
    spans (List.replicate (count + 1) bracket.character ++ rest) =
      (⟨[], bracket, count + 1⟩ :: (spans rest).1, (spans rest).2) := by
  induction count with
  | zero =>
      rw [List.replicate_one, List.singleton_append, spans_bracket, consBracket_spans apart]
      rfl
  | succ count ih =>
      rw [List.replicate_succ, List.cons_append, spans_bracket, spansTail, ih, Span.consBracket]
      simp

theorem IsNextRun.spans_eq (isNext : IsNextRun text start run segment rest) :
    spans text = (⟨segment, run.bracket, run.count⟩ :: (spans rest).1, (spans rest).2) := by
  obtain ⟨position, count, bracket⟩ := run
  obtain ⟨rfl, -, unbracketed, nonempty, maximal⟩ := isNext
  obtain ⟨count, rfl⟩ : ∃ fewer, count = fewer + 1 := Nat.exists_eq_add_one.2 nonempty
  rw [spans_append unbracketed, spans_run count maximal, Span.consText, List.append_nil]

/-- The spans have the runs of the cut. -/
theorem IsBracketCut.map_spans (cut : IsBracketCut text start runs) :
    (spans text).1.map (fun span => (span.bracket, span.count)) =
      runs.map fun run => (run.bracket, run.count) := by
  induction cut with
  | tail unbracketed => rw [spans_eq_of_isUnbracketed unbracketed]; rfl
  | run isNext later ih =>
      rw [isNext.spans_eq, List.map_cons, List.map_cons, ih]

theorem IsBracketCut.sum_pairs (cut : IsBracketCut text start runs) (bracket : Bracket) :
    (((spans text).1.filter (·.bracket == bracket)).map Span.pairs).sum =
      ((runs.filter (·.bracket == bracket)).map fun run => run.count / 2).sum := by
  have same := congrArg
    (fun runs => ((runs.filter (·.1 == bracket)).map fun run => run.2 / 2).sum) cut.map_spans
  simp only [List.filter_map, List.map_map] at same
  exact same

/-- The segments and the tail are the text without its brackets. -/
theorem flatMap_segment_append_spansTail (text : Text) :
    (spans text).1.flatMap Span.segment ++ spansTail text =
      text.filter fun character => !Bracket.isBracket character := by
  induction text with
  | nil => rfl
  | cons character text ih =>
      cases isBracket : Bracket.ofCharacter? character with
      | none =>
          have kept := Bracket.not_isBracket_iff.2 isBracket
          rw [List.filter_cons, if_pos kept, ← ih, spansTail, spansTail, spans_cons isBracket]
          obtain ⟨found, tail⟩ := spans text
          cases found with
          | nil => rfl
          | cons span found => rfl
      | some bracket =>
          have dropped : ¬(!Bracket.isBracket character) = true := by
            rw [Bracket.not_isBracket_iff, isBracket]
            simp
          rw [List.filter_cons, if_neg dropped, ← ih, Bracket.eq_character isBracket, spansTail,
            spans_bracket]
          congr 1
          cases (spans text).1 with
          | nil => rfl
          | cons span found =>
              rw [Span.consBracket]
              split
              next => rfl
              next => rfl

end Cut

/-! ## What a signature shows -/

section Shown

variable {signature : Text} {character : CodePoint} {bracket : Bracket} {runs : List BracketRun}

/-- Whether no name in a signature is shown with a character. -/
structure NamesHide (character : CodePoint) (signature : Text) : Prop where
  types : ∀ span ∈ (spans signature).1, character ∉ displayTypeName span.typeName
  tailType : character ∉ displayTypeName (splitFullName (spansTail signature)).1
  method : character ∉ displayMethodName (splitFullName (spansTail signature)).2

theorem Span.mem_segment_of_mem_typeName {span : Span} (member : character ∈ span.typeName) :
    character ∈ span.segment := by
  obtain ⟨segment, bracket, count⟩ := span
  cases bracket with
  | opening => exact member
  | closing => exact (List.takeWhile_prefix _).subset member

/-- The names show no character that the rules on names do not write and that is a bracket or not in
the signature. -/
theorem namesHide_of_isForeign (foreign : IsForeign character)
    (absent : character ∉ signature.filter fun character => !Bracket.isBracket character) :
    NamesHide character signature := by
  rw [← flatMap_segment_append_spansTail, List.mem_append, not_or] at absent
  constructor
  · intro span listed
    apply not_mem_displayTypeName foreign
    intro member
    exact absent.1 (List.mem_flatMap.2 ⟨span, listed, span.mem_segment_of_mem_typeName member⟩)
  · apply not_mem_displayTypeName foreign
    intro member
    exact absent.2 (mem_of_mem_splitFullName (.inl member))
  · apply not_mem_displayGenerated foreign
    intro member
    exact absent.2 (mem_of_mem_splitFullName (.inr member))

theorem namesHide_bar (signature : Text) : NamesHide (.char '|') signature where
  types span _ := (isPath_displayTypeName span.typeName).noBar
  tailType := (isPath_displayTypeName _).noBar
  method := not_mem_resolveMarks (by decide) bar_not_mem_unmark

theorem count_flatMap_display {found : List Span}
    (hidden : ∀ span ∈ found, character ∉ displayTypeName span.typeName) :
    (found.flatMap Span.display).count character =
      ((found.filter (·.bracket.angle == character)).map Span.pairs).sum := by
  induction found with
  | nil => rfl
  | cons span found ih =>
      rw [List.forall_mem_cons] at hidden
      rw [List.flatMap_cons, List.count_append, ih hidden.2, Span.display, List.count_append,
        List.count_eq_zero.2 hidden.1, Nat.zero_add, List.count_replicate, List.filter_cons]
      split
      next => rw [List.map_cons, List.sum_cons]
      next => rw [Nat.zero_add]

/-- A character that no name shows is only shown by runs. -/
theorem NamesHide.count_displaySignature (hides : NamesHide character signature)
    (notDot : character ≠ .char '.') :
    (displaySignature signature).count character =
      (((spans signature).1.filter (·.bracket.angle == character)).map Span.pairs).sum := by
  rw [displaySignature_eq, count_joinMethod notDot, List.count_append, shownSpans,
    count_flatMap_display hides.types, List.count_eq_zero.2 hides.tailType,
    List.count_eq_zero.2 hides.method]
  rfl

theorem NamesHide.not_mem_displaySignature (hides : NamesHide character signature)
    (notDot : character ≠ .char '.') (notAngle : ∀ bracket : Bracket, bracket.angle ≠ character) :
    character ∉ displaySignature signature := by
  have noSpan : (spans signature).1.filter (·.bracket.angle == character) = [] := by
    rw [List.filter_eq_nil_iff]
    intro span _
    simpa using notAngle span.bracket
  rw [← List.count_eq_zero, hides.count_displaySignature notDot, noSpan]
  rfl

/-- No bracket and no bar is shown, however malformed a signature is. -/
theorem not_mem_displaySignature {hidden : CodePoint}
    (listed : hidden ∈ [.char '[', .char ']', .char '|']) :
    hidden ∉ displaySignature signature := by
  have plain : hidden ≠ .char '.' ∧ ∀ bracket : Bracket, bracket.angle ≠ hidden := by
    constructor
    · rintro rfl
      exact absurd listed (by decide)
    · rintro bracket rfl
      revert listed
      cases bracket <;> decide
  refine NamesHide.not_mem_displaySignature ?_ plain.1 plain.2
  simp only [List.mem_cons, List.not_mem_nil, or_false] at listed
  rcases listed with rfl | rfl | rfl
  · exact namesHide_of_isForeign (by decide) (by simp [Bracket.isBracket, Bracket.ofCharacter?])
  · exact namesHide_of_isForeign (by decide) (by simp [Bracket.isBracket, Bracket.ofCharacter?])
  · exact namesHide_bar signature

/-- Where a signature has no angle brackets, it shows one for each pair of brackets in a run. -/
theorem count_angle_displaySignature (cut : IsBracketCut signature 0 runs)
    (flat : IsFlat signature) (bracket : Bracket) :
    (displaySignature signature).count bracket.angle =
      ((runs.filter (·.bracket == bracket)).map fun run => run.count / 2).sum := by
  have absent : bracket.angle ∉ signature := by
    cases bracket with
    | opening => exact flat.1
    | closing => exact flat.2
  have hides : NamesHide bracket.angle signature := by
    apply namesHide_of_isForeign
    · cases bracket <;> decide
    · intro member
      exact absent (List.mem_filter.1 member).1
  have sameBracket : (fun span : Span => span.bracket.angle == bracket.angle) =
      fun span => span.bracket == bracket := by
    funext span
    cases span.bracket <;> cases bracket <;> rfl
  rw [hides.count_displaySignature (by cases bracket <;> decide), sameBracket,
    cut.sum_pairs bracket]

/-- The scan of a signature ends, and its runs make up the signature together with segments and a
tail without brackets; no bracket and no bar is shown; and a signature without angle brackets shows
one for each pair of brackets in a run. -/
theorem exists_scan (signature : Text) :
    ∃ runs, (∀ others, Scans signature 0 others ↔ others = runs) ∧
      IsBracketCut signature 0 runs ∧
      (∀ hidden ∈ [.char '[', .char ']', .char '|'], hidden ∉ displaySignature signature) ∧
      (.char '<' ∉ signature → .char '>' ∉ signature →
        ∀ bracket : Bracket, (displaySignature signature).count bracket.angle =
          ((runs.filter (·.bracket == bracket)).map fun run => run.count / 2).sum) := by
  obtain ⟨runs, cut⟩ := exists_isBracketCut signature 0
  refine ⟨runs, fun others => cut.scans_iff, cut, fun hidden => not_mem_displaySignature, ?_⟩
  intro noOpening noClosing
  exact count_angle_displaySignature cut ⟨noOpening, noClosing⟩

/-- Of three brackets in a run, one has no partner and shows nothing. -/
theorem exists_scan_oddRun :
    let signature := "Box[[[A]].M|1".toText
    let runs : List BracketRun := [⟨3, 3, .opening⟩, ⟨7, 2, .closing⟩]
    (.char '<') ∉ signature ∧ .char '>' ∉ signature ∧ Scans signature 0 runs ∧
      IsBracketCut signature 0 runs ∧
      displaySignature signature = "Box<A>.M1".toText ∧
      (∀ hidden ∈ [.char '[', .char ']', .char '|'], hidden ∉ displaySignature signature) ∧
      (displaySignature signature).count (.char '<') = 1 ∧
        (displaySignature signature).count (.char '>') = 1 := by
  intro signature runs
  have noOpening : .char '<' ∉ signature := by decide
  have noClosing : .char '>' ∉ signature := by decide
  have scan : Scans signature 0 runs := .found rfl (.found rfl (.finished rfl))
  obtain ⟨others, scans, cut, hidden, counts⟩ := exists_scan signature
  obtain rfl : runs = others := (scans runs).1 scan
  exact ⟨noOpening, noClosing, scan, cut, by decide, hidden,
    counts noOpening noClosing .opening, counts noOpening noClosing .closing⟩

end Shown

end ThreadStacks.Name
