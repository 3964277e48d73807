import ThreadStacks.Token.Iteration

/-!
# Interleaved iterators

An iterator holds its place in the text and nothing of the tokens that it has given.  Still,
whatever is asked of it and of others over the same text, it gives the tokens of the text one after
the other from its last start on, and never one again before it is started anew.
-/

namespace ThreadStacks

/-! ## What is asked and answered -/

/-- The iterator that a step asks. -/
def IterationStep.iterator : IterationStep → Text
  | .start iterator | .next iterator | .rest iterator => iterator

/-- The tokens that an answer gives. -/
def IterationAnswer.givenTokens : IterationAnswer → List Token
  | .token one => [one]
  | .tokens several => several
  | .started | .ended => []

/-- A step and its answer. -/
abbrev IterationExchange := IterationStep × IterationAnswer

namespace IterationExchange

/-- The tokens that an iterator has given since its last start, after one more exchange. -/
def given (iterator : Text) (before : Option (List Token)) (exchange : IterationExchange) :
    Option (List Token) :=
  if exchange.1.iterator = iterator then
    match exchange.1 with
    | .start _ => some []
    | .next _ | .rest _ => before.map (· ++ exchange.2.givenTokens)
  else before

/-- Whether an iterator has come to an end since its last start, after one more exchange. -/
def exhausted (iterator : Text) (before : Bool) (exchange : IterationExchange) : Bool :=
  if exchange.1.iterator = iterator then
    match exchange.1 with
    | .start _ => false
    | .next _ => before || exchange.2 == .ended
    | .rest _ => true
  else before

/-- The tokens that an iterator has given since its last start, if it was ever started. -/
def givenSinceStart (iterator : Text) (history : List IterationExchange) : Option (List Token) :=
  history.foldl (given iterator) none

/-- Whether an iterator has come to an end since its last start: it found no token any more, or all
that were left were taken. -/
def isExhausted (iterator : Text) (history : List IterationExchange) : Bool :=
  history.foldl (exhausted iterator) false

end IterationExchange

/-- What an iterator answers that has some of all tokens left. -/
def IterationStep.answer (left : List Token) : IterationStep → IterationAnswer
  | .start _ => .started
  | .next _ => left.head?.elim .ended .token
  | .rest _ => .tokens left

/-- The tokens that an iterator has left after a step. -/
def IterationStep.leaves (all left : List Token) : IterationStep → List Token
  | .start _ => all
  | .next _ => left.tail
  | .rest _ => []

/-- The answers to a number of requests for one token. -/
def nextAnswers : (left : List Token) → (count : Nat) → List IterationAnswer
  | _, 0 => []
  | [], count + 1 => .ended :: nextAnswers [] count
  | token :: left, count + 1 => .token token :: nextAnswers left count

/-! ## One token -/

namespace Cursor

variable (separators : Text) (cursor : Cursor)

/-- Taking a token takes the first one that is still to come, if there is one. -/
theorem take_eq_head? : (cursor.take separators).1 = (cursor.rest separators).head? := by
  rw [← promised_step separators cursor, take]
  cases cursor.step separators with
  | none => rfl
  | some taken => rfl

theorem rest_take : (cursor.take separators).2.rest separators = (cursor.rest separators).tail := by
  rw [← promised_step separators cursor, take]
  cases cursor.step separators with
  | none => rfl
  | some taken => rfl

end Cursor

/-! ## One step -/

namespace Iterators

variable {source : TokenSource} {separators text : Text} {iterators others : Iterators}
  {iterator : Text}

/-- The tokens that an iterator has left. -/
def left (separators : Text) (iterators : Iterators) (iterator : Text) : List Token :=
  (iterators.cursor iterator).rest separators

@[simp] theorem left_put (cursor : Cursor) :
    left separators (Table.put iterator cursor iterators) iterator = cursor.rest separators := by
  rw [left, Iterators.cursor, Table.get?_put_same]
  rfl

theorem cursor_put_of_ne {other : Text} (different : other ≠ iterator) (cursor : Cursor) :
    Iterators.cursor (Table.put iterator cursor iterators) other = iterators.cursor other := by
  rw [Iterators.cursor, Table.get?_put_other different]
  rfl

theorem answer_step (step : IterationStep) :
    (iterators.step source separators text step).1 =
      step.answer (iterators.left separators step.iterator) := by
  cases step with
  | start iterator => rfl
  | rest iterator => rfl
  | next iterator =>
      have taken := (iterators.cursor iterator).take_eq_head? separators
      rw [Iterators.step, IterationStep.answer, IterationStep.iterator, left, ← taken]
      rcases (iterators.cursor iterator).take separators with ⟨token | _, next⟩
      · rfl
      · rfl

/-- A step leaves its iterator the tokens behind those that it has answered with. -/
theorem left_step (step : IterationStep) :
    left separators (iterators.step source separators text step).2 step.iterator =
      step.leaves (source.tokens separators text) (iterators.left separators step.iterator) := by
  cases step with
  | start iterator => exact (left_put _).trans (Cursor.rest_start source separators text)
  | rest iterator => exact left_put _
  | next iterator =>
      have rests : _ = (iterators.left separators iterator).tail :=
        (iterators.cursor iterator).rest_take separators
      rw [Iterators.step, IterationStep.leaves, IterationStep.iterator, ← rests]
      rcases (iterators.cursor iterator).take separators with ⟨token | _, next⟩
      · exact left_put next
      · exact left_put next

/-- A step leaves all other iterators where they are. -/
theorem cursor_step_of_ne {step : IterationStep} (different : iterator ≠ step.iterator) :
    (iterators.step source separators text step).2.cursor iterator = iterators.cursor iterator := by
  cases step with
  | start other => exact cursor_put_of_ne different _
  | rest other => exact cursor_put_of_ne different _
  | next other =>
      rw [Iterators.step]
      rcases (iterators.cursor other).take separators with ⟨token | _, next⟩
      · exact cursor_put_of_ne different next
      · exact cursor_put_of_ne different next

/-- What a step comes to depends only on where its own iterator stands. -/
theorem step_congr {step : IterationStep}
    (same : iterators.cursor step.iterator = others.cursor step.iterator) :
    (iterators.step source separators text step).1 = (others.step source separators text step).1 ∧
      (iterators.step source separators text step).2.cursor step.iterator =
        (others.step source separators text step).2.cursor step.iterator := by
  have written (cursor : Cursor) (iterator : Text) :
      Iterators.cursor (Table.put iterator cursor iterators) iterator =
        Iterators.cursor (Table.put iterator cursor others) iterator := by
    rw [Iterators.cursor, Iterators.cursor, Table.get?_put_same, Table.get?_put_same]
  cases step with
  | start iterator => exact ⟨rfl, written _ iterator⟩
  | rest iterator =>
      refine ⟨?_, written _ iterator⟩
      exact congrArg (fun cursor => IterationAnswer.tokens (Cursor.rest separators cursor)) same
  | next iterator =>
      rw [IterationStep.iterator] at same
      rw [Iterators.step, Iterators.step, same]
      rcases (others.cursor iterator).take separators with ⟨token | _, next⟩
      · exact ⟨rfl, written next iterator⟩
      · exact ⟨rfl, written next iterator⟩

/-! ## Many steps -/

/-- The iterators after steps. -/
def after (source : TokenSource) (separators text : Text) (iterators : Iterators)
    (steps : List IterationStep) : Iterators :=
  steps.foldl (fun iterators step => (iterators.step source separators text step).2) iterators

/-- Steps with their answers. -/
def exchanges (source : TokenSource) (separators text : Text) (iterators : Iterators)
    (steps : List IterationStep) : List IterationExchange :=
  steps.zip (run source separators text iterators steps)

theorem run_append (front back : List IterationStep) :
    run source separators text iterators (front ++ back) =
      run source separators text iterators front ++
        run source separators text (after source separators text iterators front) back := by
  induction front generalizing iterators with
  | nil => rfl
  | cons step front ih => exact congrArg (_ :: ·) ih

/-- What remains of the tokens agrees with what has been given. -/
structure Agrees (source : TokenSource) (separators text : Text) (iterators : Iterators)
    (iterator : Text) (given : Option (List Token)) (exhausted : Bool) : Prop where
  whole : ∀ tokens, given = some tokens →
    tokens ++ iterators.left separators iterator = source.tokens separators text
  ended : exhausted = true → iterators.left separators iterator = []

/-- One step keeps the agreement for every iterator. -/
theorem Agrees.step {given : Option (List Token)} {exhausted : Bool}
    (agrees : Agrees source separators text iterators iterator given exhausted)
    (step : IterationStep) :
    let answered := iterators.step source separators text step
    Agrees source separators text answered.2 iterator
      (IterationExchange.given iterator given (step, answered.1))
      (IterationExchange.exhausted iterator exhausted (step, answered.1)) := by
  intro answered
  rw [IterationExchange.given, IterationExchange.exhausted]
  by_cases own : step.iterator = iterator
  · subst own
    have answer : answered.1 = _ := answer_step step
    have leaves : left separators answered.2 step.iterator = _ := left_step step
    rw [if_pos rfl, if_pos rfl, answer]
    obtain ⟨whole, ended⟩ := agrees
    generalize iterators.left separators step.iterator = left at whole ended leaves ⊢
    constructor
    · intro tokens isGiven
      rw [leaves]
      cases step with
      | start => cases isGiven; rfl
      | next =>
          obtain ⟨before, rfl, rfl⟩ := Option.map_eq_some_iff.1 isGiven
          rw [← whole before rfl, List.append_assoc]
          cases left <;> rfl
      | rest =>
          obtain ⟨before, rfl, rfl⟩ := Option.map_eq_some_iff.1 isGiven
          rw [← whole before rfl, List.append_assoc]
          exact congrArg (before ++ ·) (List.append_nil left)
    · intro isEnded
      rw [leaves]
      cases step with
      | start => contradiction
      | rest => rfl
      | next =>
          cases left with
          | nil => rfl
          | cons token left =>
              have before : exhausted = true := by simpa [IterationStep.answer] using isEnded
              exact absurd (ended before) (List.cons_ne_nil _ _)
  · have unmoved : answered.2.cursor iterator = iterators.cursor iterator :=
      cursor_step_of_ne (Ne.symm own)
    rw [if_neg own, if_neg own]
    obtain ⟨whole, ended⟩ := agrees
    rw [left, ← unmoved] at ended
    constructor
    · intro tokens isGiven
      rw [left, unmoved]
      exact whole tokens isGiven
    · exact ended

/-- Whatever was asked before, what remains of the tokens agrees with what has been given. -/
theorem agrees_after (source : TokenSource) (separators text : Text) (iterator : Text)
    (steps : List IterationStep) :
    let history := exchanges source separators text [] steps
    Agrees source separators text (after source separators text [] steps) iterator
      (IterationExchange.givenSinceStart iterator history)
      (IterationExchange.isExhausted iterator history) := by
  have folds (iterators : Iterators) (given : Option (List Token)) (exhausted : Bool)
      (agrees : Agrees source separators text iterators iterator given exhausted) :
      Agrees source separators text (after source separators text iterators steps) iterator
        ((exchanges source separators text iterators steps).foldl
          (IterationExchange.given iterator) given)
        ((exchanges source separators text iterators steps).foldl
          (IterationExchange.exhausted iterator) exhausted) := by
    induction steps generalizing iterators given exhausted with
    | nil => exact agrees
    | cons step steps ih => exact ih _ _ _ (agrees.step step)
  exact folds [] none false ⟨nofun, nofun⟩

theorem run_replicate_next (iterators : Iterators) (iterator : Text) (count : Nat) :
    run source separators text iterators (List.replicate count (.next iterator)) =
      nextAnswers (iterators.left separators iterator) count := by
  induction count generalizing iterators with
  | zero => rfl
  | succ count ih =>
      have answer := @answer_step source separators text iterators (.next iterator)
      have leaves := @left_step source separators text iterators (.next iterator)
      rw [IterationStep.iterator] at answer leaves
      rw [List.replicate_succ, run]
      simp only [ih, answer, leaves]
      cases iterators.left separators iterator with
      | nil => rfl
      | cons token left => rfl

/-- An iterator answers among others as it would answer alone. -/
theorem filter_exchanges (steps : List IterationStep)
    (same : iterators.cursor iterator = others.cursor iterator) :
    (exchanges source separators text iterators steps).filter
        (fun exchange => exchange.1.iterator = iterator) =
      exchanges source separators text others
        (steps.filter fun step => step.iterator = iterator) := by
  induction steps generalizing iterators others with
  | nil => rfl
  | cons step steps ih =>
      by_cases own : step.iterator = iterator
      · subst own
        obtain ⟨sameAnswer, sameCursor⟩ := @step_congr source separators text _ _ step same
        have later := ih sameCursor
        rw [exchanges, run, List.zip_cons_cons, List.filter_cons_of_pos (by simp),
          List.filter_cons_of_pos (by simp), exchanges, run, List.zip_cons_cons, sameAnswer]
        exact congrArg (_ :: ·) later
      · have unmoved := (@cursor_step_of_ne source separators text iterators iterator step
          (Ne.symm own)).trans same
        rw [exchanges, run, List.zip_cons_cons, List.filter_cons_of_neg (by simpa using own),
          List.filter_cons_of_neg (by simpa using own)]
        exact ih unmoved

/-- Among any steps on any iterators over a text, an iterator that was started gives the tokens of
the text in order: those given since its last start are a beginning of them, the next answer is
taken from what is left, as many requests as one likes give what is left token by token, and after
the end nothing is left.  Other iterators have no part in that. -/
theorem run_gives_tokens (source : TokenSource) (separators text : Text) (iterator : Text)
    (steps : List IterationStep) :
    let all := source.tokens separators text
    let answers := run source separators text []
    let history := exchanges source separators text [] steps
    history.filter (fun exchange => exchange.1.iterator = iterator) =
        exchanges source separators text [] (steps.filter fun step => step.iterator = iterator) ∧
      ∀ given, IterationExchange.givenSinceStart iterator history = some given →
        given <+: all ∧
        (∀ step later, step.iterator = iterator → ∃ others,
          answers (steps ++ step :: later) =
            answers steps ++ step.answer (all.drop given.length) :: others) ∧
        (∀ count, answers (steps ++ List.replicate count (.next iterator)) =
          answers steps ++ nextAnswers (all.drop given.length) count) ∧
        (IterationExchange.isExhausted iterator history = true → given = all) := by
  intro all answers history
  refine ⟨filter_exchanges steps rfl, ?_⟩
  intro given isGiven
  have agrees := agrees_after source separators text iterator steps
  have whole : given ++ _ = all := agrees.whole given isGiven
  have left_eq : all.drop given.length =
      (after source separators text [] steps).left separators iterator := by
    rw [← whole, List.drop_left]
  refine ⟨⟨_, whole⟩, ?_, ?_, ?_⟩
  · intro step later own
    have appended := @run_append source separators text [] steps (step :: later)
    rw [run, answer_step, own, ← left_eq] at appended
    exact ⟨_, appended⟩
  · intro count
    rw [left_eq, ← run_replicate_next]
    exact run_append steps _
  · intro isEnded
    rw [agrees.ended isEnded, List.append_nil] at whole
    exact whole

/-- Two iterators over an argument list: the first one is started again inside the first argument
while the other one has all that is left taken from it. -/
theorem run_gives_tokens_twoIterators :
    let steps : List IterationStep := [.start "a".toText, .next "a".toText, .start "b".toText,
      .next "b".toText, .next "b".toText, .start "a".toText, .rest "b".toText, .next "a".toText]
    let answers := run .arguments Token.nameSeparators "ref A,B".toText []
    let history := exchanges .arguments Token.nameSeparators "ref A,B".toText [] steps
    let all := TokenSource.arguments.tokens Token.nameSeparators "ref A,B".toText
    let modifier : Token := ⟨.modifier, "ref".toText⟩
    let shown := [modifier, .separator (.char ' '), ⟨.word, "A".toText⟩, Token.argumentSeparator,
      ⟨.word, "B".toText⟩]
    (IterationExchange.givenSinceStart "a".toText history = some [modifier] ∧ [modifier] <+: all ∧
        ∃ others, answers (steps ++ [.rest "a".toText]) =
          answers steps ++ .tokens (all.drop 1) :: others) ∧
      IterationExchange.givenSinceStart "b".toText history = some shown ∧
        IterationExchange.isExhausted "b".toText history = true ∧ shown = all := by
  intro steps answers history all modifier shown
  have first : IterationExchange.givenSinceStart "a".toText history = some [modifier] := by decide
  have second : IterationExchange.givenSinceStart "b".toText history = some shown := by decide
  have ended : IterationExchange.isExhausted "b".toText history = true := by decide
  obtain ⟨-, givesFirst⟩ := run_gives_tokens .arguments Token.nameSeparators "ref A,B".toText
    "a".toText steps
  obtain ⟨-, givesSecond⟩ := run_gives_tokens .arguments Token.nameSeparators "ref A,B".toText
    "b".toText steps
  obtain ⟨isBeginning, answered, -, -⟩ := givesFirst _ first
  obtain ⟨-, -, -, isWhole⟩ := givesSecond _ second
  exact ⟨⟨first, isBeginning, answered (.rest "a".toText) [] rfl⟩, second, ended, isWhole ended⟩

end Iterators

end ThreadStacks
