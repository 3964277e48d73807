import Mathlib.Data.List.Forall2
import Mathlib.Data.List.Induction
import ThreadStacks.Group.Grouping

/-!
# Stack classes

Threads with equal exceptions and equal signatures form a class.  This module describes the
classes of a list of threads without buckets and hashes, and shows that filling buckets one
thread at a time builds exactly these classes, whatever the hash, as long as equal signatures
have equal hashes.

A class is only a class where equality of exceptions is an equivalence, so the exceptions of the
threads are made of texts here.
-/

namespace ThreadStacks

/-- The texts of an exception whose type is a text and whose message is a text or null. -/
def ExceptionObject.texts? : ExceptionObject → Option (Text × Option Text)
  | ⟨.text type, .text message⟩ => some (type, some message)
  | ⟨.text type, .null⟩ => some (type, none)
  | _ => none

/-- What the threads of a class share. -/
structure StackClass where
  exception : Option (Text × Option Text)
  signatures : List Text
  deriving DecidableEq, Repr

namespace ExceptionObject

/-- The exception with given texts. -/
def ofTexts (texts : Text × Option Text) : ExceptionObject :=
  ⟨.text texts.1, (texts.2.map Document.text).getD .null⟩

/-- An exception made of texts is determined by them. -/
theorem texts?_eq_some_iff {exception : ExceptionObject} {texts : Text × Option Text} :
    exception.texts? = some texts ↔ exception = ofTexts texts := by
  obtain ⟨type, message⟩ := texts
  constructor
  · intro found
    unfold texts? at found
    split at found
    next =>
      cases found
      rfl
    next =>
      cases found
      rfl
    next => contradiction
  · intro same
    subst same
    cases message <;> rfl

theorem agrees_ofTexts (first second : Text × Option Text) :
    (ofTexts first).agrees (ofTexts second) = true ↔ first = second := by
  obtain ⟨firstType, firstMessage⟩ := first
  obtain ⟨secondType, secondMessage⟩ := second
  cases firstMessage <;> cases secondMessage <;>
    simp [ofTexts, agrees, Document.agrees, Document.scalarsAgree, Document.wholeNumber?]

end ExceptionObject

namespace Thread

/-- The class of a thread. -/
def stackClass (thread : Thread) : StackClass :=
  ⟨thread.exception.bind ExceptionObject.texts?, thread.signatures⟩

/-- Whether the exception of a thread, if there is one, is made of texts. -/
def hasTextException (thread : Thread) : Bool :=
  thread.exception.all fun exception => exception.texts?.isSome

/-- The exception of a thread, if it is made of texts, is the one of its class. -/
theorem exception_eq_of_hasTextException {thread : Thread}
    (textual : thread.hasTextException = true) :
    thread.exception = thread.stackClass.exception.map ExceptionObject.ofTexts := by
  rw [hasTextException] at textual
  rw [stackClass]
  cases given : thread.exception with
  | none => rfl
  | some exception =>
      rw [given, Option.all_some, Option.isSome_iff_exists] at textual
      obtain ⟨texts, found⟩ := textual
      simp only [Option.bind_some, found, Option.map_some, Option.some.injEq]
      exact ExceptionObject.texts?_eq_some_iff.1 found

/-- Threads have the same stack if and only if they are of one class. -/
theorem sameStack_iff {first second : Thread} (firstTextual : first.hasTextException = true)
    (secondTextual : second.hasTextException = true) :
    first.sameStack second = true ↔ first.stackClass = second.stackClass := by
  have firstException := exception_eq_of_hasTextException firstTextual
  have secondException := exception_eq_of_hasTextException secondTextual
  have signatures (thread : Thread) : thread.signatures = thread.stackClass.signatures := rfl
  rw [sameStack, sameException, firstException, secondException, signatures first,
    signatures second]
  generalize first.stackClass = firstClass
  generalize second.stackClass = secondClass
  obtain ⟨firstException, firstSignatures⟩ := firstClass
  obtain ⟨secondException, secondSignatures⟩ := secondClass
  cases firstException <;> cases secondException <;>
    simp [ExceptionObject.agrees_ofTexts]

end Thread

/-- Whether the hash of a thread only depends on its class.  Classes may share a hash. -/
def RespectsStacks {Key : Type} (hash : Thread → Key) : Prop :=
  ∀ first second : Thread, first.stackClass = second.stackClass → hash first = hash second

/-- A hash that adds up the signatures never looks at anything else. -/
theorem respectsStacks_stackHash {Key : Type} (empty : Key) (add : Key → Text → Key) :
    RespectsStacks (Thread.stackHash empty add) := by
  intro first second same
  have signatures : first.signatures = second.signatures :=
    congrArg StackClass.signatures same
  rw [Thread.stackHash, Thread.stackHash, signatures]

/-! ## The classes of a list of threads -/

namespace StackClass

/-- The threads that have frames. -/
def framed (threads : List Thread) : List Thread :=
  threads.filter fun thread => !thread.frames.isEmpty

/-- The threads of a class, in order. -/
def members (threads : List Thread) (stack : StackClass) : List Thread :=
  (framed threads).filter fun thread => thread.stackClass = stack

/-- The classes of the threads that have frames, each at the place of its first thread. -/
def all (threads : List Thread) : List StackClass :=
  ((framed threads).map Thread.stackClass).eraseDups

/-- The threads that have frames, class by class. -/
def partition (threads : List Thread) : List (List Thread) :=
  (all threads).map (members threads)

/-- The classes by their number of threads, the largest first.  The sort is stable. -/
def bySize (threads : List Thread) : List (List Thread) :=
  (partition threads).mergeSort fun part other => other.length ≤ part.length

@[simp] theorem mem_members {threads : List Thread} {stack : StackClass} {thread : Thread} :
    thread ∈ members threads stack ↔ thread ∈ framed threads ∧ thread.stackClass = stack := by
  simp [members]

theorem mem_all {threads : List Thread} {stack : StackClass} :
    stack ∈ all threads ↔ ∃ thread ∈ framed threads, thread.stackClass = stack := by
  simp [all]

/-- A class without threads is not listed. -/
theorem members_eq_nil {threads : List Thread} {stack : StackClass}
    (missing : stack ∉ all threads) : members threads stack = [] := by
  apply List.eq_nil_iff_forall_not_mem.2
  intro thread member
  obtain ⟨inFramed, ofStack⟩ := mem_members.1 member
  exact missing (mem_all.2 ⟨thread, inFramed, ofStack⟩)

/-! ### One more thread -/

variable {threads : List Thread} {thread : Thread}

theorem framed_append_empty (empty : thread.frames.isEmpty = true) :
    framed (threads ++ [thread]) = framed threads := by
  simp [framed, empty]

theorem framed_append (nonempty : thread.frames.isEmpty = false) :
    framed (threads ++ [thread]) = framed threads ++ [thread] := by
  simp [framed, nonempty]

/-- A thread is the last one of its class. -/
theorem members_append_same (nonempty : thread.frames.isEmpty = false) :
    members (threads ++ [thread]) thread.stackClass =
      members threads thread.stackClass ++ [thread] := by
  simp [members, framed_append nonempty]

/-- A thread changes no class but its own. -/
theorem members_append_other {stack : StackClass} (other : thread.stackClass ≠ stack) :
    members (threads ++ [thread]) stack = members threads stack := by
  cases frames : thread.frames.isEmpty with
  | true => rw [members, framed_append_empty frames, members]
  | false => simp [members, framed_append frames, other]

/-- A thread of a new class lists it last. -/
theorem all_append (nonempty : thread.frames.isEmpty = false) :
    all (threads ++ [thread]) =
      if thread.stackClass ∈ all threads then all threads
      else all threads ++ [thread.stackClass] := by
  have listed : thread.stackClass ∈ all threads ↔
      ((framed threads).map Thread.stackClass).contains thread.stackClass = true := by
    rw [all, List.mem_eraseDups, List.contains_iff_mem]
  rw [all, framed_append nonempty, List.map_append, List.eraseDups_append, ← all]
  rw [List.map_singleton, List.cons_removeAll, List.nil_removeAll]
  split
  next new =>
    rw [if_neg (by rw [listed, new]; decide)]
    rfl
  next known =>
    rw [if_pos (by rw [listed]; simpa using known)]
    exact List.append_nil _

/-- No class is listed twice. -/
theorem all_nodup (threads : List Thread) : (all threads).Nodup := by
  induction threads using List.reverseRecOn with
  | nil => exact List.nodup_nil
  | append_singleton threads thread ih =>
      cases frames : thread.frames.isEmpty with
      | true => rwa [all, framed_append_empty frames, ← all]
      | false =>
          rw [all_append frames]
          split
          next => exact ih
          next new =>
            refine List.nodup_append.2 ⟨ih, by simp, ?_⟩
            intro stack listed other last equal
            rw [List.mem_singleton.1 last] at equal
            exact new (equal ▸ listed)

/-! ### Nothing is lost or repeated -/

/-- The classes of a list have the threads of these classes, up to order. -/
theorem flatten_members_perm (threads : List Thread) {classes : List StackClass}
    (distinct : classes.Nodup) :
    (classes.map (members threads)).flatten.Perm
      ((framed threads).filter fun thread => thread.stackClass ∈ classes) := by
  induction classes with
  | nil => simp
  | cons stack classes ih =>
      obtain ⟨fresh, distinct⟩ := List.nodup_cons.1 distinct
      have apart := List.filter_append_perm (fun thread : Thread => thread.stackClass = stack)
        ((framed threads).filter fun thread => thread.stackClass ∈ stack :: classes)
      rw [List.filter_filter, List.filter_filter] at apart
      refine List.Perm.trans ?_ apart
      have own : (fun thread : Thread => decide (thread.stackClass = stack)) =
          fun thread => decide (thread.stackClass = stack) &&
            decide (thread.stackClass ∈ stack :: classes) := by
        funext thread
        by_cases same : thread.stackClass = stack
        · simp [same]
        · simp [same]
      have others : (fun thread : Thread => decide (thread.stackClass ∈ classes)) =
          fun thread => !decide (thread.stackClass = stack) &&
            decide (thread.stackClass ∈ stack :: classes) := by
        funext thread
        by_cases same : thread.stackClass = stack
        · simp [same, fresh]
        · simp [same]
      rw [← own, ← others, List.map_cons, List.flatten_cons]
      exact (ih distinct).append_left _

/-- Every thread that has frames is in the partition, once for each time it is in the list. -/
theorem flatten_partition_perm (threads : List Thread) :
    (partition threads).flatten.Perm (framed threads) := by
  have complete : ((framed threads).filter fun thread => thread.stackClass ∈ all threads) =
      framed threads := by
    apply List.filter_eq_self.2
    intro thread member
    exact decide_eq_true (mem_all.2 ⟨thread, member, rfl⟩)
  have perm := flatten_members_perm threads (all_nodup threads)
  rwa [complete] at perm

/-- The threads of a part are of one class. -/
theorem stackClass_eq_of_mem_partition {threads part : List Thread}
    (listed : part ∈ partition threads) {first second : Thread} (firstMem : first ∈ part)
    (secondMem : second ∈ part) : first.stackClass = second.stackClass := by
  obtain ⟨stack, -, rfl⟩ := List.mem_map.1 listed
  exact (mem_members.1 firstMem).2.trans (mem_members.1 secondMem).2.symm

/-- The threads of two parts are of two classes. -/
theorem pairwise_partition (threads : List Thread) :
    (partition threads).Pairwise fun part other =>
      ∀ first ∈ part, ∀ second ∈ other, first.stackClass ≠ second.stackClass := by
  refine List.pairwise_map.2 ((all_nodup threads).imp ?_)
  intro stack other different first firstMem second secondMem same
  exact different
    ((mem_members.1 firstMem).2.symm.trans (same.trans (mem_members.1 secondMem).2))

end StackClass

/-! ## Buckets -/

namespace Bucket

variable {Key : Type}

/-- A bucket holds a class: its members are the threads of the class, under their hash. -/
structure Holds (hash : Thread → Key) (threads : List Thread) (bucket : Bucket Key)
    (stack : StackClass) : Prop where
  key : bucket.key = hash bucket.representative
  members : bucket.group.members = stack.members threads

variable {hash : Thread → Key} {threads : List Thread} {bucket : Bucket Key}
  {stack : StackClass}

/-- The first member of a bucket is one of the threads of its class. -/
theorem Holds.representative_mem (holds : bucket.Holds hash threads stack) :
    bucket.representative ∈ stack.members threads := by
  rw [← holds.members]
  exact List.mem_cons_self

/-- A thread of another class leaves a bucket as it is. -/
theorem Holds.skip (holds : bucket.Holds hash threads stack) {thread : Thread}
    (other : thread.stackClass ≠ stack) : bucket.Holds hash (threads ++ [thread]) stack :=
  ⟨holds.key, by rw [holds.members, StackClass.members_append_other other]⟩

/-- A thread of a class that no bucket holds leaves all buckets as they are. -/
theorem Holds.skip_all {found : List (Bucket Key)} {classes : List StackClass}
    (holds : List.Forall₂ (Holds hash threads) found classes) {thread : Thread}
    (missing : thread.stackClass ∉ classes) :
    List.Forall₂ (Holds hash (threads ++ [thread])) found classes := by
  induction holds with
  | nil => exact .nil
  | cons first _ ih =>
      simp only [List.mem_cons, not_or] at missing
      exact .cons (first.skip missing.1) (ih missing.2)

end Bucket

end ThreadStacks
