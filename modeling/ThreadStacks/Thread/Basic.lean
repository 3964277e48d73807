import ThreadStacks.Frame.Basic
import ThreadStacks.Thread.LockCount

/-!
# Threads

A thread of a snapshot: its frames, its raw frames, its identity, the exception in flight and its
lock count.  Names, raw frames and the parts of an exception are shown as the snapshot gives them,
so they are documents; only texts are expected there.
-/

namespace ThreadStacks

/-- The identity of a thread.  A thread without a name has the name null. -/
structure ThreadId where
  name : Document
  managedId : Int
  osId : Int

/-- An exception in flight.  An exception without a message has the message null. -/
structure ExceptionObject where
  type : Document
  message : Document

structure Thread where
  frames : List StackFrame
  rawFrames : List Document
  id : ThreadId
  exception : Option ExceptionObject
  lockCount : LockCount

/-- Whether two exceptions have equal types and equal messages. -/
def ExceptionObject.agrees (first second : ExceptionObject) : Bool :=
  first.type.agrees second.type && first.message.agrees second.message

namespace Thread

/-- The signatures of the frames, the innermost one first. -/
def signatures (thread : Thread) : List Text := thread.frames.map StackFrame.signature

/-- Whether two threads have equal exceptions, or none. -/
def sameException (first second : Thread) : Bool :=
  match first.exception, second.exception with
  | none, none => true
  | some first, some second => first.agrees second
  | _, _ => false

/-- Whether two threads have equal exceptions and equal signatures, frame by frame. -/
def sameStack (first second : Thread) : Bool :=
  sameException first second && first.signatures == second.signatures

/-- A hash of the signatures, given a way to add one signature to a hash.  The exception is not
part of it. -/
def stackHash {Key : Type} (empty : Key) (add : Key → Text → Key) (thread : Thread) : Key :=
  thread.signatures.foldl add empty

end Thread

end ThreadStacks
