import ThreadStacks.Document.Parts
import ThreadStacks.Thread.Basic
import ThreadStacks.Thread.Registry
import ThreadStacks.Written

/-!
# Thread records

A snapshot holds a record for every thread.  A record is read field by field in a fixed order, so
that of several faults the same one always shows: the frames, the managed id, the id in the
operating system, the exception and the lock count.
-/

namespace ThreadStacks

/-- Work that gives notes. -/
abbrev Noted := Written Fault Diagnostic

namespace ThreadRecord

/-- A frame as it is read: the raw frame, and its signature if a managed method belongs to it. -/
structure FrameEntry where
  raw : Document
  signature : Document

/-- A frame is a raw signature, or an object with a raw frame and a signature, where the signature
stands in for a raw frame that is missing. -/
def frameEntry : Document → Except Fault FrameEntry
  | .text raw => .ok ⟨.text raw, .text raw⟩
  | .object fields =>
      let raw := Document.fieldOrNull "raw".toText fields
      let signature := Document.fieldOrNull "signature".toText fields
      let standIn := if signature.isNull then .text [] else signature
      .ok ⟨if raw.isNull then standIn else raw, signature⟩
  | _ => .error .notAnObject

/-- The raw frame of an entry, and its frame if it has a signature. -/
def readFrame (entry : Document) : Noted (Document × Option StackFrame) := do
  let entry ← Written.ofExcept (frameEntry entry)
  match entry.signature with
  | .null =>
      Written.tell [.frameWithoutMethod entry.raw]
      pure (entry.raw, none)
  | .text signature =>
      Written.tell (StackFrame.demangleNotes signature)
      pure (entry.raw, some (StackFrame.demangle signature))
  | _ => Written.fail .notAText

/-- The entries of a record's frames; a record need not have any. -/
def frameEntries (fields : Document.Fields) : Except Fault (List Document) :=
  match Table.get? "frames".toText fields with
  | some frames => frames.parts
  | none => .ok []

/-- The type that an exception without a type is given. -/
def unknownExceptionType : Text := "UnknownExceptionType".toText

/-- The exception of a record.  An empty value stands for none. -/
def readException (fields : Document.Fields) : Except Fault (Option ExceptionObject) :=
  let exception := Document.fieldOrNull "exception".toText fields
  if !exception.isTruthy then .ok none
  else do
    let parts ← exception.fields
    let type := Document.fieldOrNull "type".toText parts
    pure (some {
      type := if type.isTruthy then type else .text unknownExceptionType
      message := Document.fieldOrNull "message".toText parts })

def readLockCount (fields : Document.Fields) : Except Fault LockCount := do
  let raw ← match Table.get? "lock_count".toText fields with
    | some raw => raw.toInteger
    | none => pure unsupportedLockCount
  LockCount.ofRaw raw

def readId (registry : ThreadRegistry) (fields : Document.Fields) : Except Fault ThreadId := do
  let managedId ← (← Document.requiredField "managed_id".toText fields).toInteger
  let osId ← match Table.get? "os_id".toText fields with
    | some osId => osId.toInteger
    | none => pure 0
  pure ⟨registry.name managedId, managedId, osId⟩

def read (registry : ThreadRegistry) (record : Document) : Noted Thread := do
  let fields ← Written.ofExcept record.fields
  let entries ← Written.ofExcept (frameEntries fields)
  let frames ← Written.collect readFrame entries
  let id ← Written.ofExcept (readId registry fields)
  let exception ← Written.ofExcept (readException fields)
  let lockCount ← Written.ofExcept (readLockCount fields)
  pure {
    frames := frames.filterMap Prod.snd
    rawFrames := frames.map Prod.fst
    id := id
    exception := exception
    lockCount := lockCount }

/-- Whether the thread of a record is alive.  A thread is, unless its record denies it. -/
def isAlive (fields : Document.Fields) : Bool :=
  ((Table.get? "alive".toText fields).map Document.isTruthy).getD true

/-- The records of the threads that are alive. -/
def live : List Document → Noted (List Document)
  | [] => pure []
  | record :: records => do
      let fields ← Written.ofExcept record.fields
      if isAlive fields then
        let others ← live records
        pure (record :: others)
      else
        Written.tell [.deadThread (Document.fieldOrNull "managed_id".toText fields)]
        live records

end ThreadRecord

end ThreadStacks
