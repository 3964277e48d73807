import ThreadStacks.Document.Reader
import ThreadStacks.Proofs.Written

/-!
# What keeps a document from being read

A text that is no document is malformed.  Only two limits make the reader refuse a text: the number
of digits of an integer, and the depth of nesting.
-/

namespace ThreadStacks.Document

open Written

/-- Whether a text is malformed, or goes beyond one of the limits of the reader. -/
def ReadError.IsKnown (error : ReadError) : Prop :=
  error = .malformed ∨ error = .refused .integerTooLong ∨ error = .refused .nestingTooDeep

theorem ReadError.isKnown_malformed : IsKnown .malformed := .inl rfl

/-! ## Words -/

namespace BareWord

theorem failsWithin_readInteger (negative : Bool) (digits rest : Text) :
    FailsWithin ReadError.IsKnown (readInteger negative digits rest) := by
  rw [readInteger]
  split
  next => exact .error (.inr (.inl rfl))
  next =>
    split
    next => exact .ok _
    next => exact .error ReadError.isKnown_malformed

theorem failsWithin_readNumber (negative : Bool) (word : Text) :
    FailsWithin ReadError.IsKnown (readNumber negative word) := by
  rw [readNumber]
  split
  next => exact .error ReadError.isKnown_malformed
  next =>
    simp only
    split
    next => exact failsWithin_readInteger negative _ _
    next =>
      split
      next => exact .ok _
      next => exact .error ReadError.isKnown_malformed

theorem failsWithin_read (word : Text) : FailsWithin ReadError.IsKnown (read word) := by
  unfold read
  repeat' split
  all_goals first
    | exact .ok _
    | exact failsWithin_readNumber _ _

end BareWord

/-! ## Lexemes -/

namespace Lexeme

/-- Whether a lexeme is no fault, or a known one. -/
def IsKnown (lexeme : Lexeme) : Prop := ∀ error, lexeme = .faulty error → error.IsKnown

theorem isKnown_ofWord (word : Text) : IsKnown (ofWord word) := by
  intro error same
  rw [ofWord] at same
  split at same
  next => contradiction
  next given =>
    cases same
    exact BareWord.failsWithin_read word _ given

namespace Automaton

variable {automaton : Automaton}

/-- Whether all lexemes found so far are known. -/
def FindsKnown (automaton : Automaton) : Prop := ∀ lexeme ∈ automaton.found, lexeme.IsKnown

theorem FindsKnown.find {lexeme : Lexeme} (known : automaton.FindsKnown)
    (isKnown : lexeme.IsKnown) : (automaton.find lexeme).FindsKnown :=
  List.forall_mem_cons.2 ⟨isKnown, known⟩

theorem FindsKnown.fail (known : automaton.FindsKnown) : automaton.fail.FindsKnown := by
  refine known.find fun error same => ?_
  cases same
  exact ReadError.isKnown_malformed

theorem FindsKnown.feedBetween (known : automaton.FindsKnown) (character : CodePoint) :
    (automaton.feedBetween character).FindsKnown := by
  unfold Automaton.feedBetween
  split
  case h_5 | h_6 | h_7 | h_8 | h_9 | h_10 => exact known.find nofun
  all_goals exact known

/-- No character makes the automaton find an unknown fault. -/
theorem FindsKnown.feed (known : automaton.FindsKnown) (character : CodePoint) :
    (automaton.feed character).FindsKnown := by
  unfold Automaton.feed
  split
  next => exact known.feedBetween character
  next word _ =>
    split
    next => exact (known.find (isKnown_ofWord word.reverse)).feedBetween character
    next => exact known
  next =>
    split
    next => exact known.find nofun
    next =>
      split
      next => exact known
      next =>
        split
        next => exact known.fail
        next => exact known
  next =>
    split
    next => exact known
    next =>
      split
      next => exact known
      next => exact known.fail
  next =>
    split
    next => exact known.fail
    next =>
      split
      next => exact known
      next => exact known

theorem FindsKnown.foldl (known : automaton.FindsKnown) (text : Text) :
    (text.foldl Automaton.feed automaton).FindsKnown := by
  induction text generalizing automaton with
  | nil => exact known
  | cons character text ih => exact ih (known.feed character)

theorem FindsKnown.finish (known : automaton.FindsKnown) :
    ∀ lexeme ∈ automaton.finish, lexeme.IsKnown := by
  rw [Automaton.finish]
  intro lexeme member
  split at member
  case h_1 => exact known lexeme (List.mem_reverse.1 member)
  case h_2 word _ =>
    exact known.find (isKnown_ofWord word.reverse) lexeme (List.mem_reverse.1 member)
  case h_3 | h_4 | h_5 => exact known.fail lexeme (List.mem_reverse.1 member)

end Automaton

theorem isKnown_of_mem_ofText {text : Text} {lexeme : Lexeme} (member : lexeme ∈ ofText text) :
    lexeme.IsKnown := by
  have start : Automaton.start.FindsKnown := nofun
  exact (start.foldl text).finish lexeme member

end Lexeme

/-! ## The reader -/

namespace Reader

theorem failsWithin_complete (value : Document) (parts : List OpenPart) :
    FailsWithin ReadError.IsKnown (complete value parts) := by
  unfold complete
  split
  case h_4 => exact .error ReadError.isKnown_malformed
  all_goals exact .ok _

theorem failsWithin_openPart (part : OpenPart) (outer : List OpenPart) (expectation : Expectation) :
    FailsWithin ReadError.IsKnown (openPart part outer expectation) := by
  rw [openPart]
  split
  next => exact .error (.inr (.inr rfl))
  next => exact .ok _

theorem failsWithin_readValue {lexeme : Lexeme} (known : lexeme.IsKnown) (outer : List OpenPart) :
    FailsWithin ReadError.IsKnown (readValue outer lexeme) := by
  unfold readValue
  split
  next => exact failsWithin_openPart _ _ _
  next => exact failsWithin_openPart _ _ _
  next => exact failsWithin_complete _ _
  next => exact failsWithin_complete _ _
  next error => exact .error (known error rfl)
  next => exact .error ReadError.isKnown_malformed

theorem failsWithin_readKey (outer : List OpenPart) (key : Text) :
    FailsWithin ReadError.IsKnown (readKey outer key) := by
  unfold readKey
  split
  next => exact .ok _
  next => exact .error ReadError.isKnown_malformed

theorem failsWithin_feed {lexeme : Lexeme} (known : lexeme.IsKnown) (reader : Reader) :
    FailsWithin ReadError.IsKnown (reader.feed lexeme) := by
  unfold feed
  split
  all_goals first
    | exact failsWithin_complete _ _
    | exact failsWithin_readValue known _
    | exact failsWithin_readKey _ _
    | exact .ok _
    | exact .error ReadError.isKnown_malformed

theorem failsWithin_finish (reader : Reader) : FailsWithin ReadError.IsKnown reader.finish := by
  rw [finish]
  split
  next => exact .ok _
  next => exact .error ReadError.isKnown_malformed

end Reader

/-- Reading fails for a text that is malformed, and for one beyond a limit. -/
theorem failsWithin_read (text : Text) : FailsWithin ReadError.IsKnown (read text) := by
  refine FailsWithin.bind ?_ Reader.failsWithin_finish
  refine FailsWithin.foldlM Reader.start fun reader lexeme member => ?_
  exact Reader.failsWithin_feed (Lexeme.isKnown_of_mem_ofText member) reader

/-- A text is refused for a limit only. -/
theorem eq_of_read_eq_refused {text : Text} {fault : Fault}
    (refused : read text = .error (.refused fault)) :
    fault = .integerTooLong ∨ fault = .nestingTooDeep := by
  rcases failsWithin_read text _ refused with same | same | same
  · contradiction
  · exact .inl (ReadError.refused.inj same)
  · exact .inr (ReadError.refused.inj same)

end ThreadStacks.Document
