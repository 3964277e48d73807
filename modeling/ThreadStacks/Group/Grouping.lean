import ThreadStacks.Group.Basic

/-!
# Grouping

Threads are grouped by a hash of their signatures first and by their stacks within one hash.  A
thread is compared with the first member of a group only.  The groups are listed by size, the
largest first, and among groups of one size the one seen first comes first.
-/

namespace ThreadStacks

/-- A group that may still grow: the hash of its members, the first member, and the others with
the last one first. -/
structure Bucket (Key : Type) where
  key : Key
  representative : Thread
  later : List Thread

def Bucket.group {Key : Type} (bucket : Bucket Key) : ThreadGroup :=
  ⟨bucket.representative, bucket.later.reverse⟩

namespace Grouping

variable {Key : Type} [DecidableEq Key]

/-- Put a thread into the first bucket of its hash with the same stack, or into a new one at the
end. -/
def insert (key : Key) (thread : Thread) : List (Bucket Key) → List (Bucket Key)
  | [] => [⟨key, thread, []⟩]
  | bucket :: rest =>
      if bucket.key = key ∧ bucket.representative.sameStack thread then
        { bucket with later := thread :: bucket.later } :: rest
      else bucket :: insert key thread rest

/-- Put threads into buckets, given a hash.  Threads without frames are left out. -/
def buckets (hash : Thread → Key) (threads : List Thread) : List (Bucket Key) :=
  threads.foldl (fun found thread =>
    if thread.frames.isEmpty then found else insert (hash thread) thread found) []

/-- Put a group in front of the first group that is not larger. -/
def insertBySize (group : ThreadGroup) : List ThreadGroup → List ThreadGroup
  | [] => [group]
  | other :: rest =>
      if group.threadCount < other.threadCount then other :: insertBySize group rest
      else group :: other :: rest

/-- Groups by size, the largest first; groups of one size stay in order. -/
def sortBySize : List ThreadGroup → List ThreadGroup
  | [] => []
  | group :: rest => insertBySize group (sortBySize rest)

/-- The groups of threads, given a hash. -/
def groupsWith (hash : Thread → Key) (threads : List Thread) : List ThreadGroup :=
  sortBySize ((buckets hash threads).map Bucket.group)

/-- Add a number to a hash.  The multiplier is odd, so two different numbers turn one hash into
different ones. -/
def addNumber (hash number : UInt64) : UInt64 := (hash ^^^ number) * 0x100000001b3

/-- The number that ends a text in a hash.  No character has it, so texts do not run together. -/
def endOfText : UInt64 := 0x110000

def addText (hash : UInt64) (text : Text) : UInt64 :=
  addNumber (text.foldl (fun hash character => addNumber hash character.toNat.toUInt64) hash)
    endOfText

/-- A hash of signatures that only equal signatures share: a number that seldom agrees, to be
compared first, and the signatures themselves with the last one first. -/
structure StackHash where
  number : UInt64
  signatures : List Text
  deriving DecidableEq

def StackHash.empty : StackHash := ⟨0xcbf29ce484222325, []⟩

def StackHash.add (hash : StackHash) (signature : Text) : StackHash :=
  ⟨addText hash.number signature, signature :: hash.signatures⟩

/-- The hash that threads are grouped by. -/
def stackHash (thread : Thread) : StackHash := thread.stackHash StackHash.empty StackHash.add

def groups (threads : List Thread) : List ThreadGroup := groupsWith stackHash threads

end Grouping

end ThreadStacks
