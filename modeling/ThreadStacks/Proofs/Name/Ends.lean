import ThreadStacks.Proofs.Name.Idempotence
import ThreadStacks.Proofs.Name.Signature

/-!
# The ends of readable names

The rules on names may write a dot at an end of a name: a mark without anything in front of it
does, and so does the mark of a local function without anything behind it.  A name that starts
with an ordinary character, leading brackets apart, still does when it is readable, whatever the
rules do behind that character, and the same holds for the other end.
-/

namespace ThreadStacks.Name

/-- Whether a character is no dot and means nothing to the rules on names and markup. -/
def isOrdinary (character : CodePoint) : Bool :=
  character != .char '.' && !PredefinedType.ruleCharacters.contains character

/-- A text whose first character is ordinary, leading brackets apart. -/
inductive StartsOrdinary : Text → Prop where
  | character {first : CodePoint} {rest : Text} (ordinary : isOrdinary first = true) :
      StartsOrdinary (first :: rest)
  | bracket {rest : Text} (later : StartsOrdinary rest) : StartsOrdinary (.char '<' :: rest)

/-- A text whose last character is ordinary, and does not end the mark of a local function. -/
inductive EndsOrdinary : Text → Prop where
  | character {last : CodePoint} (ordinary : isOrdinary last = true) (noMark : last ≠ .char '_') :
      EndsOrdinary [last]
  | cons {first : CodePoint} {rest : Text} (later : EndsOrdinary rest) :
      EndsOrdinary (first :: rest)

variable {text front back name : Text} {character : CodePoint}

theorem ne_of_isOrdinary {mark : CodePoint} (ordinary : isOrdinary character = true)
    (isMark : isOrdinary mark = false) : character ≠ mark := by
  intro same
  rw [same, isMark] at ordinary
  contradiction

theorem ofCharacter?_of_isOrdinary (ordinary : isOrdinary character = true) :
    Bracket.ofCharacter? character = none := by
  cases found : Bracket.ofCharacter? character with
  | none => rfl
  | some bracket =>
      have isBracket : isOrdinary bracket.character = false := by
        cases bracket with
        | opening => decide
        | closing => decide
      exact absurd (Bracket.eq_character found) (ne_of_isOrdinary ordinary isBracket)

/-! ## The start -/

namespace StartsOrdinary

theorem cons_iff {first : CodePoint} {rest : Text} :
    StartsOrdinary (first :: rest) ↔
      isOrdinary first = true ∨ first = .char '<' ∧ StartsOrdinary rest := by
  constructor
  · intro starts
    cases starts with
    | character ordinary => exact .inl ordinary
    | bracket later => exact .inr ⟨rfl, later⟩
  · rintro (ordinary | ⟨rfl, later⟩)
    · exact .character ordinary
    · exact .bracket later

instance decidable : (text : Text) → Decidable (StartsOrdinary text)
  | [] => isFalse nofun
  | _ :: rest =>
      have := decidable rest
      decidable_of_iff _ cons_iff.symm

theorem append (starts : StartsOrdinary front) : StartsOrdinary (front ++ back) := by
  induction starts with
  | character ordinary => exact .character ordinary
  | bracket _ ih => exact .bracket ih

/-- What stands in front of a dot starts the text. -/
theorem of_append_dot (starts : StartsOrdinary (front ++ .char '.' :: back)) :
    StartsOrdinary front := by
  induction front with
  | nil =>
      cases starts with
      | character ordinary => contradiction
  | cons first front ih =>
      rw [List.cons_append, cons_iff] at starts
      exact cons_iff.2 (starts.imp_right (And.imp_right ih))

theorem dropArities (starts : StartsOrdinary text) :
    StartsOrdinary (dropArities false text) := by
  induction starts with
  | character ordinary =>
      have noMark := ne_of_isOrdinary ordinary (by decide : isOrdinary arityMark = false)
      rw [Name.dropArities, if_neg (by simp), if_neg (by simp [noMark])]
      exact .character ordinary
  | bracket _ ih =>
      rw [Name.dropArities, if_neg (by simp), if_neg (by simp [arityMark])]
      exact .bracket ih

/-- The first section of a type name starts as the name does. -/
theorem piecesAt (starts : StartsOrdinary text) :
    StartsOrdinary (Text.piecesAt (.char '+') text).1 := by
  induction starts with
  | character ordinary =>
      have noCut := ne_of_isOrdinary ordinary (by decide : isOrdinary (.char '+') = false)
      rw [Text.piecesAt, if_neg noCut]
      exact .character ordinary
  | bracket _ ih =>
      rw [Text.piecesAt, if_neg (by decide)]
      exact .bracket ih

theorem unmark (starts : StartsOrdinary text) : StartsOrdinary (unmark text) := by
  induction starts with
  | character ordinary =>
      have noBracket := ne_of_isOrdinary ordinary (by decide : isOrdinary (.char '<') = false)
      have noBar := ne_of_isOrdinary ordinary (by decide : isOrdinary (.char '|') = false)
      rw [Name.unmark, List.dropWhile_cons_of_neg (by simp [noBracket]),
        List.filter_cons_of_pos (by simp [noBar])]
      exact .character ordinary
  | bracket _ ih => exact ih

theorem resolve (mark : Mark) (starts : StartsOrdinary text) :
    StartsOrdinary (mark.resolve text) := by
  have kept {first : CodePoint} {rest : Text} (other : first ≠ .char '>') :
      mark.resolve (first :: rest) = first :: mark.resolve rest := by
    apply Text.replaceAll_cons
    intro occurs
    exact other (List.cons_prefix_cons.1 occurs).1.symm
  induction starts with
  | character ordinary =>
      rw [kept (ne_of_isOrdinary ordinary (by decide))]
      exact .character ordinary
  | bracket _ ih =>
      rw [kept (by decide)]
      exact .bracket ih

theorem collapseDots (starts : StartsOrdinary text) :
    StartsOrdinary (collapseDots false text) := by
  induction starts with
  | character ordinary =>
      rw [collapseDots_cons (by simp)]
      exact .character ordinary
  | bracket _ ih =>
      rw [collapseDots_cons (by simp)]
      exact .bracket ih

theorem displayGenerated (starts : StartsOrdinary text) :
    StartsOrdinary (displayGenerated text) := by
  rw [displayGenerated_eq_resolveMarks, resolveMarks]
  apply collapseDots
  apply Mark.resolveEach_keeps StartsOrdinary starts.unmark
  intro mark _ name starts
  exact starts.resolve mark

/-- A class for captured variables starts otherwise. -/
theorem shownPart?_eq (starts : StartsOrdinary text) : shownPart? text = some text := by
  have noClosure : ¬closureMark.isPrefixOf text = true := by
    rw [List.isPrefixOf_iff_prefix]
    rintro ⟨rest, rfl⟩
    cases starts with
    | character ordinary => contradiction
    | bracket later =>
        cases later with
        | character ordinary => contradiction
  rw [shownPart?, if_neg noClosure]

theorem displayPath (starts : StartsOrdinary name) : StartsOrdinary (displayPath name) := by
  have first := starts.dropArities.piecesAt
  rw [displayPath_eq, shownParts, Text.splitAt, List.filterMap_cons, first.shownPart?_eq,
    List.map_cons]
  cases (List.filterMap shownPart? _).map Name.displayGenerated with
  | nil =>
      rw [List.intercalate_singleton]
      exact first.displayGenerated
  | cons second others =>
      rw [List.intercalate_cons_cons, List.append_assoc]
      exact first.displayGenerated.append

theorem sourceName (type : PredefinedType) : StartsOrdinary type.sourceName := by
  cases type <;> exact .character (by decide)

theorem displayTypeName (starts : StartsOrdinary name) : StartsOrdinary (displayTypeName name) := by
  rcases displayTypeName_cases name with ⟨type, isAlias⟩ | ⟨isPath, -⟩
  · rw [isAlias]
    exact sourceName type
  · rw [isPath]
    exact starts.displayPath

/-- The first segment of a signature starts as the signature does, or the tail if there are no
brackets. -/
theorem spans (starts : StartsOrdinary text) :
    (∃ span others, (spans text).1 = span :: others ∧ StartsOrdinary span.segment) ∨
      (Name.spans text).1 = [] ∧ StartsOrdinary (spansTail text) := by
  induction starts with
  | @character first rest ordinary =>
      rw [spansTail, spans_cons (ofCharacter?_of_isOrdinary ordinary)]
      obtain ⟨found, tail⟩ := Name.spans rest
      cases found with
      | nil => exact .inr ⟨rfl, .character ordinary⟩
      | cons span others => exact .inl ⟨_, others, rfl, .character ordinary⟩
  | @bracket rest _ ih =>
      rw [spansTail] at ih ⊢
      rw [spans_cons (by decide)]
      generalize Name.spans rest = pair at ih ⊢
      obtain ⟨found, tail⟩ := pair
      rcases ih with ⟨span, others, isFirst, starts⟩ | ⟨noSpans, starts⟩
      · cases isFirst
        exact .inl ⟨_, others, rfl, .bracket starts⟩
      · cases noSpans
        exact .inr ⟨rfl, .bracket starts⟩

theorem takeWhile_comma (starts : StartsOrdinary text) :
    StartsOrdinary (text.takeWhile (· != .char ',')) := by
  induction starts with
  | character ordinary =>
      have noComma := ne_of_isOrdinary ordinary (by decide : isOrdinary (.char ',') = false)
      rw [List.takeWhile_cons_of_pos (by simp [noComma])]
      exact .character ordinary
  | bracket _ ih =>
      rw [List.takeWhile_cons_of_pos (by decide)]
      exact .bracket ih

theorem display {span : Span} (starts : StartsOrdinary span.segment) :
    StartsOrdinary span.display := by
  have isName : StartsOrdinary span.typeName := by
    obtain ⟨segment, bracket, count⟩ := span
    cases bracket with
    | opening => exact starts
    | closing => exact starts.takeWhile_comma
  exact isName.displayTypeName.append

theorem joinMethod {type method : Text} (starts : StartsOrdinary type) :
    StartsOrdinary (joinMethod type method) := by
  rw [Name.joinMethod]
  split
  next => exact starts
  next =>
    split
    next empty =>
      rw [List.isEmpty_iff.1 empty] at starts
      contradiction
    next => exact starts.append

theorem displaySignature (starts : StartsOrdinary text) :
    StartsOrdinary (displaySignature text) := by
  rw [displaySignature_eq]
  rcases starts.spans with ⟨span, others, isFirst, isSegment⟩ | ⟨noSpans, isTail⟩
  · apply joinMethod
    rw [shownSpans, isFirst, List.flatMap_cons]
    exact isSegment.display.append.append
  · rw [shownSpans, noSpans, List.flatMap_nil, List.nil_append, splitFullName]
    cases cut : cutAtLastDot? 0 (spansTail text) with
    | none =>
        rw [Option.getD_none, displayTypeName_nil, joinMethod_nil]
        exact isTail.displayGenerated
    | some parts =>
        rw [eq_append_dot_of_cutAtLastDot? cut] at isTail
        exact isTail.of_append_dot.displayTypeName.joinMethod

end StartsOrdinary

/-! ## The end -/

namespace EndsOrdinary

theorem append (ends : EndsOrdinary back) : EndsOrdinary (front ++ back) := by
  induction front with
  | nil => exact ends
  | cons first front ih => exact .cons ih

theorem of_append (ends : EndsOrdinary (front ++ back)) (nonempty : back ≠ []) :
    EndsOrdinary back := by
  induction front with
  | nil => exact ends
  | cons first front ih =>
      apply ih
      rw [List.cons_append] at ends
      generalize later : front ++ back = rest at ends
      cases ends with
      | character ordinary noMark => exact absurd (List.append_eq_nil_iff.1 later).2 nonempty
      | cons later => exact later

theorem iff_getLast? :
    EndsOrdinary text ↔
      text.getLast?.any (fun last => isOrdinary last && last != .char '_') = true := by
  constructor
  · intro ends
    induction ends with
    | character ordinary noMark => simp [ordinary, noMark]
    | @cons first rest _ ih =>
        cases rest with
        | nil => contradiction
        | cons second rest => exact ih
  · intro test
    obtain ⟨last, isLast, keeps⟩ := (Option.any_eq_true _ _).1 test
    obtain ⟨front, rfl⟩ := List.getLast?_eq_some_iff.1 isLast
    rw [Bool.and_eq_true, bne_iff_ne] at keeps
    exact append (.character keeps.1 keeps.2)

instance (text : Text) : Decidable (EndsOrdinary text) := decidable_of_iff _ iff_getLast?.symm

theorem getLast?_ne (ends : EndsOrdinary text) : text.getLast? ≠ some (.char '.') := by
  intro isLast
  rw [iff_getLast?, isLast] at ends
  contradiction

theorem dropWhile {test : CodePoint → Bool}
    (stops : ∀ other, isOrdinary other = true → test other = false) (ends : EndsOrdinary text) :
    EndsOrdinary (text.dropWhile test) := by
  induction ends with
  | character ordinary noMark =>
      rw [List.dropWhile_cons_of_neg (by simp [stops _ ordinary])]
      exact .character ordinary noMark
  | cons later ih =>
      rw [List.dropWhile_cons]
      split
      next => exact ih
      next => exact .cons later

theorem filter {test : CodePoint → Bool}
    (keeps : ∀ other, isOrdinary other = true → test other = true) (ends : EndsOrdinary text) :
    EndsOrdinary (text.filter test) := by
  induction ends with
  | character ordinary noMark =>
      rw [List.filter_cons_of_pos (keeps _ ordinary)]
      exact .character ordinary noMark
  | cons later ih =>
      rw [List.filter_cons]
      split
      next => exact .cons ih
      next => exact ih

theorem unmark (ends : EndsOrdinary text) : EndsOrdinary (unmark text) := by
  apply filter
  · intro other ordinary
    exact bne_iff_ne.2 (ne_of_isOrdinary ordinary (by decide))
  · apply ends.dropWhile
    intro other ordinary
    exact beq_eq_false_iff_ne.2 (ne_of_isOrdinary ordinary (by decide))

/-- A mark at the end of a text is replaced by a path that ends otherwise. -/
theorem resolve {mark : Mark} (listed : mark ∈ Mark.all) (ends : EndsOrdinary text) :
    EndsOrdinary (mark.resolve text) := by
  have path : ∀ mark ∈ Mark.all, EndsOrdinary mark.text →
      EndsOrdinary (.char '.' :: mark.path) := by
    decide
  rw [Mark.resolve]
  induction text using Text.replaceInduction mark.text mark.text_ne_nil with
  | nil => exact ends
  | found rest ih =>
      rw [Text.replaceAll_append mark.text_ne_nil]
      cases rest with
      | nil =>
          -- Only here the last character changes.
          rw [List.append_nil] at ends
          rw [Text.replaceAll_nil, List.append_nil]
          exact path mark listed ends
      | cons first rest => exact (ih (ends.of_append (List.cons_ne_nil _ _))).append
  | other first rest absent ih =>
      rw [Text.replaceAll_cons absent]
      cases ends with
      | character ordinary noMark => exact .character ordinary noMark
      | cons later => exact .cons (ih later)

theorem collapseDots {afterDot : Bool} (ends : EndsOrdinary text) :
    EndsOrdinary (collapseDots afterDot text) := by
  induction ends generalizing afterDot with
  | character ordinary noMark =>
      have noBracket := ne_of_isOrdinary ordinary (by decide : isOrdinary (.char '<') = false)
      rw [collapseDots_cons fun dropped => noBracket dropped.1]
      exact .character ordinary noMark
  | cons later ih =>
      rw [Name.collapseDots]
      split
      next => exact ih
      next => exact .cons ih

theorem displayGenerated (ends : EndsOrdinary text) : EndsOrdinary (displayGenerated text) := by
  rw [displayGenerated_eq_resolveMarks, resolveMarks]
  apply collapseDots
  apply Mark.resolveEach_keeps EndsOrdinary ends.unmark
  intro mark listed name ends
  exact ends.resolve listed

theorem spansTail (ends : EndsOrdinary text) : EndsOrdinary (spansTail text) := by
  induction ends with
  | character ordinary noMark =>
      rw [Name.spansTail, spans_cons (ofCharacter?_of_isOrdinary ordinary)]
      exact .character ordinary noMark
  | @cons first rest later ih =>
      rw [Name.spansTail] at ih ⊢
      cases isBracket : Bracket.ofCharacter? first with
      | some bracket =>
          rw [Bracket.eq_character isBracket, spans_bracket]
          exact ih
      | none =>
          rw [spans_cons isBracket]
          generalize spans rest = pair at ih ⊢
          obtain ⟨found, tail⟩ := pair
          cases found with
          | nil => exact .cons ih
          | cons span found => exact ih

/-- The method behind the cut is not empty, because the text does not end in a dot. -/
theorem splitFullName (ends : EndsOrdinary text) : EndsOrdinary (splitFullName text).2 := by
  rw [Name.splitFullName]
  cases cut : cutAtLastDot? 0 text with
  | none => exact ends
  | some parts =>
      obtain ⟨before, after⟩ := parts
      rw [eq_append_dot_of_cutAtLastDot? cut] at ends
      cases ends.of_append (List.cons_ne_nil _ _) with
      | character ordinary noMark => contradiction
      | cons later => exact later

theorem joinMethod {type method : Text} (ends : EndsOrdinary method) :
    EndsOrdinary (joinMethod type method) := by
  rw [Name.joinMethod]
  split
  next empty =>
    rw [List.isEmpty_iff.1 empty] at ends
    contradiction
  next =>
    split
    next => exact ends
    next => exact ends.cons.append

theorem displaySignature (ends : EndsOrdinary text) : EndsOrdinary (displaySignature text) := by
  rw [displaySignature_eq]
  exact ends.spansTail.splitFullName.displayGenerated.joinMethod

end EndsOrdinary

/-! ## Names without a cut at an end -/

/-- A signature that ends in a list of type arguments shows its closing bracket. -/
theorem closing_suffix_shownSpans (front : Text) :
    [.char '>'] <:+ shownSpans (front ++ "]]".toText) := by
  -- The characters since the last bracket are kept apart: what they show depends on the next one.
  suffices behind : ∀ segment, IsUnbracketed segment →
      [.char '>'] <:+ shownSpans (segment ++ (front ++ "]]".toText)) from
        behind [] isUnbracketed_nil
  induction front with
  | nil =>
      intro segment unbracketed
      have pair : shownSpans (segment ++ .char ']' :: .char ']' :: []) = _ :=
        shownSpans_pair .closing unbracketed
      rw [List.nil_append]
      exact ⟨_, pair.symm⟩
  | cons character front ih =>
      intro segment unbracketed
      cases isBracket : Bracket.ofCharacter? character with
      | some bracket =>
          have later := ih [] isUnbracketed_nil
          rw [List.cons_append, Bracket.eq_character isBracket,
            shownSpans_segment bracket unbracketed, ← List.append_assoc]
          exact later.trans (List.suffix_append _ _)
      | none =>
          rw [List.cons_append, List.append_cons]
          apply ih
          exact isUnbracketed_append unbracketed (List.forall_mem_singleton.2 isBracket)

/-- A signature whose ends no rule can turn into a dot: it starts with an ordinary character,
leading brackets apart, and ends with one or with a list of type arguments. -/
structure KeepsEnds (signature : Text) : Prop where
  starts : StartsOrdinary signature
  ends : EndsOrdinary signature ∨ "]]".toText <:+ signature

instance (signature : Text) : Decidable (KeepsEnds signature) :=
  decidable_of_iff
    (StartsOrdinary signature ∧ (EndsOrdinary signature ∨ "]]".toText <:+ signature))
    ⟨fun keeps => ⟨keeps.1, keeps.2⟩, fun keeps => ⟨keeps.starts, keeps.ends⟩⟩

theorem KeepsEnds.not_hasOuterCut {signature : Text} (keeps : KeepsEnds signature) :
    ¬HasOuterCut (displaySignature signature) := by
  have starts := keeps.starts.displaySignature
  have ends : (displaySignature signature).getLast? ≠ some (.char '.') := by
    rcases keeps.ends with ends | ⟨front, rfl⟩
    · exact ends.displaySignature.getLast?_ne
    · have tail : spansTail (front ++ "]]".toText) = [] := by
        have closes : spansTail (front ++ [.char ']'] ++ .char ']' :: []) = [] :=
          spansTail_append .closing _
        rwa [List.append_assoc] at closes
      obtain ⟨shown, isShown⟩ := closing_suffix_shownSpans front
      rw [displaySignature_of_no_tail tail, ← isShown]
      simp
  rintro ⟨other, ⟨atStart, -⟩ | ⟨atEnd, -⟩⟩
  · rw [atStart] at starts
    cases starts with
    | character ordinary => contradiction
  · rw [atEnd] at ends
    simp at ends

end ThreadStacks.Name
