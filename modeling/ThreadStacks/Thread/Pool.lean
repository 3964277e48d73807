import ThreadStacks.Written

/-!
# Worker pools

A pool runs every task once, in whatever order its workers happen to finish.  Each outcome is
stored in the slot of its task, and the slots are read in the order of the tasks, so the first
task that failed decides what the pool answers.
-/

namespace ThreadStacks.Pool

variable {Failure Output Result : Type}

/-- What the tasks have left behind: the finished ones have filled their slots. -/
abbrev Slots (Failure Output Result : Type) := List (Option (Written Failure Output Result))

def empty (tasks : List (Written Failure Output Result)) : Slots Failure Output Result :=
  tasks.map fun _ => none

/-- Let one task finish. -/
def finishTask (tasks : List (Written Failure Output Result)) (slots : Slots Failure Output Result)
    (index : Nat) : Slots Failure Output Result :=
  slots.set index tasks[index]?

/-- Read the filled slots in order, up to the first fault. -/
def readSlots : Slots Failure Output Result → Written Failure Output (List Result)
  | [] => pure []
  | none :: slots => readSlots slots
  | some task :: slots => do
      let result ← task
      let results ← readSlots slots
      pure (result :: results)

/-- Run tasks that finish in a given order. -/
def run (order : List Nat) (tasks : List (Written Failure Output Result)) :
    Written Failure Output (List Result) :=
  readSlots (order.foldl (finishTask tasks) (empty tasks))

end ThreadStacks.Pool
