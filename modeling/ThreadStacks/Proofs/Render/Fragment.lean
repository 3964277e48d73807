import ThreadStacks.Proofs.Name.Signature
import ThreadStacks.Proofs.Token.Argument
import ThreadStacks.Render.Fragment

/-!
# What fragments show

The fragments of a frame are cut from its type, its method and its arguments, while its signature is
kept apart.  The two show the same text exactly where nothing was lost on the way: no dot at an end
of the readable name, and no space behind a modifier.
-/

namespace ThreadStacks.Fragment

/-- The texts of fragments one after the other. -/
def shown (fragments : List Fragment) : Text := fragments.flatMap Fragment.text

@[simp] theorem shown_append {front back : List Fragment} :
    shown (front ++ back) = shown front ++ shown back :=
  List.flatMap_append

theorem shown_flatten {lists : List (List Fragment)} :
    shown lists.flatten = lists.flatMap shown := by
  rw [shown, ← List.flatMap_id, List.flatMap_assoc]
  rfl

@[simp] theorem text_ofNameToken (kind : FragmentKind) (token : Token) :
    (ofNameToken kind token).text = token.text := by
  obtain ⟨tokenKind, text⟩ := token
  cases tokenKind <;> rfl

@[simp] theorem text_ofArgumentToken (token : Token) :
    (ofArgumentToken token).text = token.text := by
  obtain ⟨tokenKind, text⟩ := token
  cases tokenKind <;> rfl

@[simp] theorem shown_ofName (kind : FragmentKind) (name : Text) :
    shown (ofName kind name) = name := by
  rw [shown, ofName, List.flatMap_map]
  simp only [text_ofNameToken]
  exact Token.shown_ofName Token.nameSeparators name

theorem shown_ofArguments (arguments : Text) :
    shown (ofArguments arguments) =
      Token.shown (Token.ofArguments Token.nameSeparators arguments) := by
  rw [shown, ofArguments, List.flatMap_map]
  simp only [text_ofArgumentToken]
  rfl

/-- The fragments of a frame show its type and method and what its arguments show. -/
theorem shown_ofFrame {frame : StackFrame} (named : ¬(frame.type = [] ∧ frame.method = [])) :
    shown (ofFrame frame) =
      Name.joinMethod frame.type frame.method ++
        .char '(' :: (shown (ofArguments frame.arguments) ++ [.char ')']) := by
  have visible : ¬(frame.type.isEmpty && frame.method.isEmpty) = true := by
    simpa using named
  rw [ofFrame, if_neg visible]
  simp only [shown_append, shown_ofName]
  cases isType : frame.type with
  | nil =>
      rw [Name.joinMethod_nil]
      simp [shown]
  | cons first type =>
      cases isMethod : frame.method with
      | nil => simp [shown, Name.joinMethod]
      | cons second method =>
          rw [Name.joinMethod_of_ne_nil (List.cons_ne_nil _ _) (List.cons_ne_nil _ _)]
          simp [shown]

/-- Two texts that are no longer than two others show the same around a parenthesis only if they are
the others. -/
theorem append_parenthesis_inj {front back otherFront otherBack : Text}
    (frontShorter : front.length ≤ otherFront.length)
    (backShorter : back.length ≤ otherBack.length)
    (same : front ++ .char '(' :: (back ++ [.char ')']) =
      otherFront ++ .char '(' :: (otherBack ++ [.char ')'])) :
    front = otherFront ∧ back = otherBack := by
  have lengths := congrArg List.length same
  simp only [List.length_append, List.length_cons, List.length_nil] at lengths
  obtain ⟨sameFront, behind⟩ := List.append_inj same (by omega)
  rw [List.cons.injEq] at behind
  exact ⟨sameFront, List.append_cancel_right behind.2⟩

/-- A frame whose parts are no longer than their places in its signature shows it if and only if
they fill these places. -/
theorem shown_ofFrame_eq_signature_iff {frame : StackFrame} {name : Text}
    (named : ¬(frame.type = [] ∧ frame.method = []))
    (isSignature : frame.signature = name ++ .char '(' :: (frame.arguments ++ [.char ')']))
    (nameShorter : (Name.joinMethod frame.type frame.method).length ≤ name.length)
    (argumentsShorter : (shown (ofArguments frame.arguments)).length ≤ frame.arguments.length) :
    shown (ofFrame frame) = frame.signature ↔
      frame.signature =
          Name.joinMethod frame.type frame.method ++ .char '(' :: (frame.arguments ++ [.char ')']) ∧
        shown (ofArguments frame.arguments) = frame.arguments := by
  rw [shown_ofFrame named]
  constructor
  · intro same
    rw [isSignature] at same
    obtain ⟨sameName, sameArguments⟩ := append_parenthesis_inj nameShorter argumentsShorter same
    constructor
    · rw [isSignature, sameName]
    · exact sameArguments
  · rintro ⟨joined, sameArguments⟩
    rw [joined, sameArguments]

/-- The argument list of a raw signature; empty if there is none. -/
def rawArguments (raw : Text) : Text :=
  ((StackFrame.splitSignature? raw).map fun parts => parts.2).getD []

/-- The fragments of a frame show its signature if and only if it has neither type nor method, or
its signature is put together from its parts and every argument by reference shows a type. -/
theorem shown_ofFrame_demangle_eq_signature_iff (raw : Text) :
    shown (ofFrame (StackFrame.demangle raw)) = (StackFrame.demangle raw).signature ↔
      (StackFrame.demangle raw).type = [] ∧ (StackFrame.demangle raw).method = [] ∨
        (StackFrame.demangle raw).signature =
            Name.joinMethod (StackFrame.demangle raw).type (StackFrame.demangle raw).method ++
              .char '(' :: ((StackFrame.demangle raw).arguments ++ [.char ')']) ∧
          ∀ piece ∈ Text.splitAt (.char ',') (rawArguments raw), ¬Name.IsBareReference piece := by
  by_cases named : (StackFrame.demangle raw).type = [] ∧ (StackFrame.demangle raw).method = []
  · refine iff_of_true ?_ (.inl named)
    rw [ofFrame, if_pos (by rw [named.1, named.2]; rfl)]
    exact List.append_nil _
  · rw [or_iff_right named]
    cases cut : StackFrame.splitSignature? raw with
    | none =>
        have verbatim : StackFrame.demangle raw = ⟨[], [], [], raw⟩ := by
          rw [StackFrame.demangle, cut]
        rw [verbatim] at named
        exact absurd ⟨rfl, rfl⟩ named
    | some parts =>
        obtain ⟨body, arguments⟩ := parts
        have isList : rawArguments raw = arguments := by
          rw [rawArguments, cut]
          rfl
        obtain ⟨argumentsShorter, shows⟩ :=
          Token.shown_displayArguments Token.nameSeparators arguments
        have nameShorter := Name.length_joinMethod_splitFullName (Name.displaySignature body)
        rw [← shown_ofArguments] at argumentsShorter shows
        rw [isList, ← shows]
        rw [StackFrame.demangle, cut] at named ⊢
        exact shown_ofFrame_eq_signature_iff named rfl nameShorter argumentsShorter

end ThreadStacks.Fragment
