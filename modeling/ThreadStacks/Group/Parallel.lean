import ThreadStacks.Group.Grouping
import ThreadStacks.Thread.Pool
import ThreadStacks.Thread.Record

/-!
# Parallel threads

The groups of all threads of a snapshot that are alive.  The records may be read one after the
other or by a pool of workers.
-/

namespace ThreadStacks

/-- The groups of a snapshot. -/
structure ParallelThreads where
  groups : List ThreadGroup

namespace ParallelThreads

/-- The number of threads in groups. -/
def totalThreadCount : List ThreadGroup → Nat
  | [] => 0
  | group :: rest => group.threadCount + totalThreadCount rest

def threadCount (threads : ParallelThreads) : Nat := totalThreadCount threads.groups

def uniqueStacks (threads : ParallelThreads) : Nat := threads.groups.length

/-- Read the records of live threads with a number of workers.  More than one worker make a
pool. -/
def readLive (jobs : Int) (registry : ThreadRegistry) (records : List Document) :
    Noted (List Thread) :=
  if 1 < jobs then Pool.run (List.range records.length) (records.map (ThreadRecord.read registry))
  else Written.collect (ThreadRecord.read registry) records

/-- The groups of the threads that are alive.  All records are asked whether their threads are
alive before the first one is read. -/
def ofRecords (jobs : Int) (registry : ThreadRegistry) (records : List Document) :
    Noted ParallelThreads := do
  let live ← ThreadRecord.live records
  let threads ← readLive jobs registry live
  pure ⟨Grouping.groups threads⟩

/-- The groups of the threads that are alive, where the records are the parts of a document. -/
def ofDocument (jobs : Int) (registry : ThreadRegistry) (records : Document) :
    Noted ParallelThreads := do
  let records ← Written.ofExcept records.parts
  ofRecords jobs registry records

end ParallelThreads

end ThreadStacks
