import ThreadStacks.Proofs.Name.Argument
import ThreadStacks.Proofs.Name.Plain

/-!
# Arguments by reference with several type arguments

An argument list is cut at every comma, also at those between the type arguments of one argument,
and the mark behind an argument is read with its last piece alone.  So the modifier of an argument
by reference stands in front of that piece, which is the whole argument only where its type has no
comma.
-/

namespace ThreadStacks.Name

/-- One argument in a raw signature: a type, of which nothing is known but that it is a word, and
whether the mark follows it. -/
structure MarkedArgument where
  type : Text
  byReference : Bool
  noBlank : ∀ character ∈ type, Text.isBlank character = false

namespace MarkedArgument

/-- The argument in a raw signature. -/
def encode (argument : MarkedArgument) : Text := encodeMarked argument.byReference argument.type

/-- The argument list in a raw signature. -/
def encodeAll (arguments : List MarkedArgument) : Text :=
  ", ".toText.intercalate (arguments.map encode)

/-- The pieces of an argument between its commas, and for each whether the mark is behind it. -/
def pieces (argument : MarkedArgument) : List (Bool × Text) :=
  let texts := Text.splitAt (.char ',') argument.type
  texts.dropLast.map (false, ·) ++ texts.getLast?.toList.map (argument.byReference, ·)

/-- The readable pieces of an argument with the modifier in front of the first one. -/
def wholePieces (argument : MarkedArgument) : List Text :=
  ((Text.splitAt (.char ',') argument.type).map displayTypeName).modifyHead
    (modifierIf argument.byReference ++ ·)

/-- The readable argument with the modifier in front of it as a whole. -/
def displayWhole (argument : MarkedArgument) : Text :=
  modifierIf argument.byReference ++
    ", ".toText.intercalate ((Text.splitAt (.char ',') argument.type).map displayTypeName)

end MarkedArgument

/-- The readable form of a piece. -/
def displayPiece (piece : Bool × Text) : Text := displayMarked piece.1 piece.2

/-! ## Pieces -/

section Pieces

variable (argument : MarkedArgument)

/-- The mark behind an argument is a mark behind its last piece. -/
theorem MarkedArgument.exists_pieces :
    ∃ front last, Text.splitAt (.char ',') argument.type = front ++ [last] ∧
      argument.pieces = front.map (false, ·) ++ [(argument.byReference, last)] ∧
      Text.splitAt (.char ',') argument.encode =
        argument.pieces.map fun piece => encodeMarked piece.1 piece.2 := by
  have noComma :
      .char ',' ∉ (if argument.byReference then .char ' ' :: byReferenceMark else []) := by
    cases argument.byReference with
    | false => decide
    | true => decide
  obtain ⟨front, last, ofType, ofEncode⟩ := Text.exists_splitAt_append noComma argument.type
  have isPieces : argument.pieces = front.map (false, ·) ++ [(argument.byReference, last)] := by
    simp [pieces, ofType]
  refine ⟨front, last, ofType, isPieces, ?_⟩
  rw [encode, encodeMarked, ofEncode, isPieces]
  simp [encodeMarked, Function.comp_def]

theorem MarkedArgument.mem_splitAt_of_mem_pieces {piece : Bool × Text}
    (listed : piece ∈ argument.pieces) : piece.2 ∈ Text.splitAt (.char ',') argument.type := by
  obtain ⟨front, last, ofType, isPieces, -⟩ := argument.exists_pieces
  rw [isPieces] at listed
  rw [ofType]
  simp only [List.mem_append, List.mem_map, List.mem_singleton] at listed ⊢
  obtain ⟨text, inFront, rfl⟩ | rfl := listed
  · exact .inl inFront
  · exact .inr rfl

theorem MarkedArgument.noBlank_of_mem_splitAt {text : Text}
    (listed : text ∈ Text.splitAt (.char ',') argument.type) :
    ∀ character ∈ text, Text.isBlank character = false := by
  intro character member
  exact argument.noBlank character ((Text.infix_of_mem_splitAt listed).subset member)

theorem MarkedArgument.map_displayArgument_splitAt_encode :
    (Text.splitAt (.char ',') argument.encode).map displayArgument =
      argument.pieces.map displayPiece := by
  obtain ⟨-, -, -, -, ofEncode⟩ := argument.exists_pieces
  rw [ofEncode, List.map_map]
  apply List.map_congr_left
  intro piece listed
  exact displayArgument_encodeMarked
    (argument.noBlank_of_mem_splitAt (argument.mem_splitAt_of_mem_pieces listed)) piece.1

end Pieces

theorem displayArguments_encodeAll (arguments : List MarkedArgument) :
    displayArguments (MarkedArgument.encodeAll arguments) =
      ", ".toText.intercalate ((arguments.flatMap MarkedArgument.pieces).map displayPiece) := by
  cases arguments with
  | nil => rfl
  | cons argument arguments =>
      have each : (fun argument => (Text.splitAt (.char ',') (MarkedArgument.encode argument)).map
          displayArgument) = fun argument => argument.pieces.map displayPiece :=
        funext MarkedArgument.map_displayArgument_splitAt_encode
      rw [displayArguments_eq_intercalate, MarkedArgument.encodeAll,
        map_displayArgument_splitAt_intercalate (by simp), List.flatMap_map, List.map_flatMap, each]

/-! ## Arguments as a whole -/

/-- Lists of parts that are as long item by item are equal only item by item. -/
theorem flatMap_inj {Item Part : Type} {parts others : Item → List Part}
    (sameLength : ∀ item, (parts item).length = (others item).length) (items : List Item) :
    items.flatMap parts = items.flatMap others ↔ ∀ item ∈ items, parts item = others item := by
  induction items with
  | nil => simp
  | cons first items ih =>
      rw [List.flatMap_cons, List.flatMap_cons, List.forall_mem_cons, ← ih]
      constructor
      · exact fun same => List.append_inj same (sameLength first)
      · rintro ⟨sameFirst, sameLater⟩
        rw [sameFirst, sameLater]

section Whole

variable (argument : MarkedArgument)

theorem MarkedArgument.intercalate_wholePieces :
    ", ".toText.intercalate argument.wholePieces = argument.displayWhole := by
  rw [wholePieces, displayWhole, Text.splitAt, List.map_cons, List.modifyHead_cons]
  cases (Text.piecesAt (.char ',') argument.type).2 with
  | nil => simp
  | cons second others => simp [List.intercalate_cons_cons]

theorem MarkedArgument.wholePieces_ne_nil : argument.wholePieces ≠ [] := by
  rw [wholePieces, Text.splitAt, List.map_cons, List.modifyHead_cons]
  exact List.cons_ne_nil _ _

theorem MarkedArgument.length_pieces :
    (argument.pieces.map displayPiece).length = argument.wholePieces.length := by
  obtain ⟨front, last, ofType, isPieces, -⟩ := argument.exists_pieces
  rw [isPieces, wholePieces, ofType]
  simp

/-- The space behind a modifier tells it from all that a type can show. -/
theorem displayMarked_eq_iff {marked other : Bool} {word : Text} :
    displayMarked marked word = modifierIf other ++ displayTypeName word ↔
      word ≠ byReferenceMark ∧ marked = other := by
  rw [displayMarked]
  split
  next isMark =>
    subst isMark
    refine iff_of_false ?_ fun both => both.1 rfl
    cases other with
    | false => decide
    | true => decide
  next notMark =>
    rw [List.append_left_inj, and_iff_right notMark]
    revert marked other
    decide

theorem displayMarked_eq_displayTypeName_iff {marked : Bool} {word : Text} :
    displayMarked marked word = displayTypeName word ↔ word ≠ byReferenceMark ∧ marked = false :=
  @displayMarked_eq_iff marked false word

/-- The pieces show the argument as a whole unless its mark is behind one of several pieces, or one
of them is read as a mark itself. -/
theorem MarkedArgument.map_displayPiece_pieces_eq_iff :
    argument.pieces.map displayPiece = argument.wholePieces ↔
      (argument.byReference = true → .char ',' ∉ argument.type) ∧
        byReferenceMark ∉ Text.splitAt (.char ',') argument.type := by
  obtain ⟨front, last, ofType, isPieces, -⟩ := argument.exists_pieces
  rw [isPieces, wholePieces, ofType]
  cases front with
  | nil =>
      have noComma : .char ',' ∉ argument.type := Text.not_mem_of_splitAt_eq_singleton ofType
      simp [displayPiece, displayMarked_eq_iff, noComma, ne_comm]
  | cons first front =>
      have comma : .char ',' ∈ argument.type := by
        apply Decidable.byContradiction
        intro noComma
        rw [Text.splitAt_eq_singleton noComma] at ofType
        simp at ofType
      simp only [List.map_append, List.map_cons, List.map_nil, List.map_map, List.cons_append,
        List.modifyHead_cons, List.cons.injEq, List.append_singleton_inj, List.map_inj_left,
        Function.comp_apply, displayPiece, displayMarked_eq_iff,
        displayMarked_eq_displayTypeName_iff, comma]
      grind

theorem comma_not_mem_modifierIf (marked : Bool) : .char ',' ∉ modifierIf marked := by
  cases marked with
  | false => decide
  | true => decide

theorem MarkedArgument.comma_not_mem_displayPiece {text : Text}
    (listed : text ∈ argument.pieces.map displayPiece) : .char ',' ∉ text := by
  obtain ⟨piece, inPieces, rfl⟩ := List.mem_map.1 listed
  have noComma : .char ',' ∉ piece.2 :=
    Text.not_mem_of_mem_splitAt (argument.mem_splitAt_of_mem_pieces inPieces)
  rw [displayPiece, displayMarked]
  split
  next => exact comma_not_mem_modifierIf true
  next =>
    rw [List.mem_append, not_or]
    exact ⟨comma_not_mem_modifierIf piece.1, not_mem_displayTypeName (by decide) noComma⟩

theorem MarkedArgument.comma_not_mem_wholePieces {text : Text}
    (listed : text ∈ argument.wholePieces) : .char ',' ∉ text := by
  have noComma : ∀ word ∈ Text.splitAt (.char ',') argument.type,
      .char ',' ∉ displayTypeName word :=
    fun word inType =>
      not_mem_displayTypeName (by decide) (Text.not_mem_of_mem_splitAt inType)
  rw [Text.splitAt, List.forall_mem_cons] at noComma
  rw [wholePieces, Text.splitAt, List.map_cons, List.modifyHead_cons] at listed
  rcases List.mem_cons.1 listed with rfl | later
  · rw [List.mem_append, not_or]
    exact ⟨comma_not_mem_modifierIf argument.byReference, noComma.1⟩
  · obtain ⟨word, inType, rfl⟩ := List.mem_map.1 later
    exact noComma.2 word inType

end Whole

/-! ## Counting modifiers -/

section Counting

theorem space_not_mem_displayTypeName {word : Text}
    (noBlank : ∀ character ∈ word, Text.isBlank character = false) :
    .char ' ' ∉ displayTypeName word := by
  apply not_mem_displayTypeName (by decide)
  intro member
  exact absurd (noBlank (.char ' ') member) (by decide)

/-- A modifier with the space behind it occurs only where it was put. -/
theorem occurrences_modifier {text : Text} (noSpace : .char ' ' ∉ text) (marked : Bool) :
    Text.occurrences (modifierIf true) (modifierIf marked ++ text) = if marked then 1 else 0 := by
  have absent : ¬modifierIf true <:+: text := fun occurs =>
    noSpace (occurs.subset (by decide))
  have none : Text.occurrences [.char 'r', .char 'e', .char 'f', .char ' '] text = 0 :=
    Text.occurrences_eq_zero absent
  cases marked with
  | false => exact none
  | true =>
      change Text.occurrences [.char 'r', .char 'e', .char 'f', .char ' ']
        (.char 'r' :: .char 'e' :: .char 'f' :: .char ' ' :: text) = 1
      simp [Text.occurrences, none]

theorem occurrences_displayPiece {piece : Bool × Text}
    (noBlank : ∀ character ∈ piece.2, Text.isBlank character = false) :
    Text.occurrences (modifierIf true) (displayPiece piece) =
      if piece.1 || piece.2 == byReferenceMark then 1 else 0 := by
  rw [displayPiece, displayMarked]
  split
  next isMark => simp [isMark]; decide
  next notMark =>
    rw [occurrences_modifier (space_not_mem_displayTypeName noBlank)]
    simp [notMark]

theorem occurrences_intercalate_cons (first : Text) (texts : List Text) :
    Text.occurrences (modifierIf true) (", ".toText.intercalate (first :: texts)) =
      Text.occurrences (modifierIf true) first +
        Text.occurrences (modifierIf true) (", ".toText.intercalate texts) := by
  cases texts with
  | nil => simp [Text.occurrences]
  | cons second texts =>
      have notAtSpace (rest : Text) : ¬modifierIf true <+: .char ' ' :: rest := by
        intro starts
        exact absurd (List.cons_prefix_cons.1 starts).1 (by decide)
      rw [intercalate_commaSpace_cons, Text.occurrences_append_cons (by decide) (by decide),
        Text.occurrences_cons (notAtSpace _)]

theorem occurrences_displayPieces {pieces : List (Bool × Text)}
    (noBlank : ∀ piece ∈ pieces, ∀ character ∈ piece.2, Text.isBlank character = false) :
    Text.occurrences (modifierIf true) (", ".toText.intercalate (pieces.map displayPiece)) =
      pieces.countP fun piece => piece.1 || piece.2 == byReferenceMark := by
  induction pieces with
  | nil => rfl
  | cons piece pieces ih =>
      obtain ⟨noBlankFirst, noBlankLater⟩ := List.forall_mem_cons.1 noBlank
      rw [List.map_cons, occurrences_intercalate_cons, ih noBlankLater,
        occurrences_displayPiece noBlankFirst, List.countP_cons, Nat.add_comm]

/-- Every argument by reference has one marked piece. -/
theorem countP_marked_pieces (arguments : List MarkedArgument) :
    (arguments.flatMap MarkedArgument.pieces).countP Prod.fst =
      arguments.countP (·.byReference) := by
  induction arguments with
  | nil => rfl
  | cons argument arguments ih =>
      obtain ⟨front, last, -, isPieces, -⟩ := argument.exists_pieces
      have noneInFront : (front.map (false, ·)).countP Prod.fst = 0 := by
        simp [List.countP_eq_zero]
      rw [List.flatMap_cons, List.countP_append, ih, isPieces, List.countP_append, noneInFront,
        List.countP_singleton, List.countP_cons, Nat.zero_add, Nat.add_comm]

theorem countP_or {Item : Type} (first second : Item → Bool) (items : List Item) :
    items.countP (fun item => first item || second item) =
      items.countP first + items.countP fun item => !first item && second item := by
  rw [List.countP_eq_countP_filter_add items _ first, List.countP_filter, List.countP_filter]
  congr 1
  · apply List.countP_congr
    intro item _
    cases first item <;> simp
  · apply List.countP_congr
    intro item _
    cases first item <;> simp

end Counting

/-! ## Where the modifiers stand -/

theorem displayArguments_encodeAll_eq_displayWhole_iff (arguments : List MarkedArgument) :
    displayArguments (MarkedArgument.encodeAll arguments) =
        ", ".toText.intercalate (arguments.map MarkedArgument.displayWhole) ↔
      ∀ argument ∈ arguments, (argument.byReference = true → .char ',' ∉ argument.type) ∧
        byReferenceMark ∉ Text.splitAt (.char ',') argument.type := by
  have whole : ", ".toText.intercalate (arguments.map MarkedArgument.displayWhole) =
      ", ".toText.intercalate (arguments.flatMap MarkedArgument.wholePieces) := by
    rw [Text.intercalate_flatMap MarkedArgument.wholePieces_ne_nil]
    congr 1
    apply List.map_congr_left
    intro argument _
    exact argument.intercalate_wholePieces.symm
  rw [displayArguments_encodeAll, whole, List.map_flatMap]
  cases arguments with
  | nil => simp
  | cons first arguments =>
      have nonempty : first.pieces.map displayPiece ≠ [] := by
        intro empty
        have sameLength := first.length_pieces
        rw [empty] at sameLength
        exact first.wholePieces_ne_nil (List.length_eq_zero_iff.1 sameLength.symm)
      rw [intercalate_commaSpace_inj (by simp [nonempty]) (by simp [first.wholePieces_ne_nil])
        ?_ ?_, flatMap_inj MarkedArgument.length_pieces]
      · apply forall₂_congr
        intro argument _
        exact argument.map_displayPiece_pieces_eq_iff
      · intro text listed
        obtain ⟨argument, -, inArgument⟩ := List.mem_flatMap.1 listed
        exact argument.comma_not_mem_displayPiece inArgument
      · intro text listed
        obtain ⟨argument, -, inArgument⟩ := List.mem_flatMap.1 listed
        exact argument.comma_not_mem_wholePieces inArgument

/-- The readable arguments are the readable pieces of all arguments, and an argument by reference
has its modifier in front of its last piece.  There is one modifier for each such argument and one
for each piece that is read as a mark itself.  So each modifier stands in front of its argument as a
whole if and only if no argument by reference has a comma and no piece is the mark. -/
theorem displayArguments_encodeAll_marks (arguments : List MarkedArgument) :
    let pieces := arguments.flatMap MarkedArgument.pieces
    let shown := displayArguments (MarkedArgument.encodeAll arguments)
    shown = ", ".toText.intercalate (pieces.map displayPiece) ∧
      Text.occurrences "ref ".toText shown =
        arguments.countP (·.byReference) +
          pieces.countP (fun piece => !piece.1 && piece.2 == byReferenceMark) ∧
      (shown = ", ".toText.intercalate (arguments.map MarkedArgument.displayWhole) ↔
        ∀ argument ∈ arguments, (argument.byReference = true → .char ',' ∉ argument.type) ∧
          byReferenceMark ∉ Text.splitAt (.char ',') argument.type) := by
  intro pieces shown
  have inPieces : shown = ", ".toText.intercalate (pieces.map displayPiece) :=
    displayArguments_encodeAll arguments
  refine ⟨inPieces, ?_, displayArguments_encodeAll_eq_displayWhole_iff arguments⟩
  have noBlank : ∀ piece ∈ pieces, ∀ character ∈ piece.2, Text.isBlank character = false := by
    intro piece listed
    obtain ⟨argument, -, inArgument⟩ := List.mem_flatMap.1 listed
    exact argument.noBlank_of_mem_splitAt (argument.mem_splitAt_of_mem_pieces inArgument)
  calc Text.occurrences "ref ".toText shown
      = pieces.countP (fun piece => piece.1 || piece.2 == byReferenceMark) := by
        rw [inPieces]
        exact occurrences_displayPieces noBlank
    _ = pieces.countP Prod.fst +
          pieces.countP (fun piece => !piece.1 && piece.2 == byReferenceMark) := countP_or _ _ _
    _ = arguments.countP (·.byReference) +
          pieces.countP (fun piece => !piece.1 && piece.2 == byReferenceMark) := by
        rw [countP_marked_pieces]

/-- Whether a text closes all angle brackets, those opened before it too, and has commas only
between them. -/
def isNested : (depth : Nat) → Text → Bool
  | depth, [] => depth == 0
  | depth, character :: rest =>
      if character = .char '<' then isNested (depth + 1) rest
      else if character = .char '>' then depth != 0 && isNested (depth - 1) rest
      else (character != .char ',' || depth != 0) && isNested depth rest

/-- Whether a text is a readable type: dotted names, and lists of types in angle brackets. -/
def isTypeText (type : Text) : Bool :=
  !type.isEmpty && isNested 0 type &&
    (type.splitOnP ("<>,".toText.contains ·)).all fun name => name.isEmpty || isDottedName name

/-- A type with two type arguments is a type text, but its modifier stands between them. -/
theorem not_forall_displayArguments_whole :
    ¬ ∀ arguments : List MarkedArgument, arguments ≠ [] →
      (∀ argument ∈ arguments, isTypeText argument.type = true) →
        let shown := displayArguments (MarkedArgument.encodeAll arguments)
        Text.occurrences "ref ".toText shown = arguments.countP (·.byReference) ∧
          ∃ texts : List Text, texts.length = arguments.length ∧
            shown = ", ".toText.intercalate
              (arguments.zipWith (fun argument text => modifierIf argument.byReference ++ text)
                texts) := by
  intro always
  have noBlank : ∀ character ∈ "A<B,C>".toText, Text.isBlank character = false := by
    simpa using show "A<B,C>".toText.any Text.isBlank = false by decide
  have isTypeText : isTypeText "A<B,C>".toText = true := by decide
  obtain ⟨-, texts, sameLength, same⟩ :=
    always [⟨"A<B,C>".toText, true, noBlank⟩] (List.cons_ne_nil _ _)
      (List.forall_mem_singleton.2 isTypeText)
  obtain ⟨text, rfl⟩ := List.length_eq_one_iff.1 sameLength
  have shown : displayArguments "A<B,C> ByRef".toText = "A<B, ref C>".toText := by decide
  change displayArguments "A<B,C> ByRef".toText = _ at same
  rw [shown] at same
  have sameFirst : some (CodePoint.char 'A') = some (CodePoint.char 'r') := congrArg List.head? same
  exact absurd sameFirst (by decide)

end ThreadStacks.Name
