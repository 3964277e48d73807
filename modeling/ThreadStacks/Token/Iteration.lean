import ThreadStacks.Table
import ThreadStacks.Token.Cursor

/-!
# Iterators over one text

Any number of named iterators may go over the same text.  An iterator is a cursor that is started,
and started again, in front of the text; an iterator that was never started has nothing to give.
-/

namespace ThreadStacks

/-- What is asked of an iterator. -/
inductive IterationStep where
  | start (iterator : Text)
  | next (iterator : Text)
  | rest (iterator : Text)
  deriving DecidableEq, Repr

/-- What an iterator answers. -/
inductive IterationAnswer where
  | started
  | token (token : Token)
  | ended
  | tokens (tokens : List Token)
  deriving DecidableEq, Repr

/-- The iterators over one text: where each of them stands. -/
abbrev Iterators := Table Text Cursor

namespace Iterators

/-- Where an iterator stands. -/
def cursor (iterators : Iterators) (iterator : Text) : Cursor :=
  (Table.get? iterator iterators).getD .atEnd

def step (source : TokenSource) (separators text : Text) (iterators : Iterators) :
    IterationStep → IterationAnswer × Iterators
  | .start iterator => (.started, Table.put iterator (.start source text) iterators)
  | .next iterator =>
      match (iterators.cursor iterator).take separators with
      | (some token, cursor) => (.token token, Table.put iterator cursor iterators)
      | (none, cursor) => (.ended, Table.put iterator cursor iterators)
  | .rest iterator =>
      (.tokens ((iterators.cursor iterator).rest separators), Table.put iterator .atEnd iterators)

def run (source : TokenSource) (separators text : Text) :
    Iterators → List IterationStep → List IterationAnswer
  | _, [] => []
  | iterators, next :: steps =>
      let answered := iterators.step source separators text next
      answered.1 :: run source separators text answered.2 steps

end Iterators

end ThreadStacks
