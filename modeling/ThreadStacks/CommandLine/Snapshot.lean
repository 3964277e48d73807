import ThreadStacks.CommandLine.FileTree
import ThreadStacks.CommandLine.Options
import ThreadStacks.Document.Reader
import ThreadStacks.Group.Parallel

/-!
# Snapshots

A snapshot is read from a file or from the standard input, its threads are named and grouped.  What
is wrong with the snapshot itself is a reason to reject it; any other fault escapes.
-/

namespace ThreadStacks.CommandLine

/-- A snapshot: the records of the threads, and the thread objects of the heap. -/
structure Snapshot where
  records : List Document
  threadObjects : Document

/-- Why a snapshot is not accepted. -/
inductive Rejection where
  /-- The snapshot cannot be read. -/
  | unreadable (fault : Fault)
  /-- The snapshot is no document. -/
  | malformed
  /-- The document is no snapshot. -/
  | notASnapshot
  /-- The names of threads cannot be read from the thread objects. -/
  | threadObjects (fault : Fault)
  /-- A thread cannot be read from its record. -/
  | threadRecord (fault : Fault)
  /-- No thread has a frame. -/
  | noStacks

/-- Why a run ends before its time. -/
inductive Stop where
  | rejected (rejection : Rejection)
  | escaped (fault : Fault)

/-- A fault that condemns the snapshot if it is of a kind that can, and escapes otherwise. -/
def Stop.ofFault (reject : Fault → Rejection) (fault : Fault) : Stop :=
  if fault.kind.rejectsSnapshot then .rejected (reject fault) else .escaped fault

/-- Work of the program before it draws. -/
abbrev Phase := Written Stop Diagnostic

namespace Snapshot

/-- The path that stands for the standard input. -/
def standardInput : Text := [.char '-']

/-- The text of a snapshot.  A path that no system would look up is no matter of the snapshot. -/
def text (input standardInputText : Text) (files : FileTree) : Except Stop Text :=
  if input = standardInput then .ok standardInputText
  else match files.read input with
    | .ok (some text) => .ok text
    | .ok none => .error (.escaped .notEncoded)
    | .error .nullInPath => .error (.escaped .nullInPath)
    | .error .notEncodable => .error (.escaped .notEncodable)
    | .error fault => .error (.rejected (.unreadable fault))

/-- The snapshot that a document is: an object with a list of threads. -/
def ofDocument? : Document → Option Snapshot
  | .object fields =>
      match Table.get? "threads".toText fields with
      | some (.list records) =>
          some ⟨records, Document.fieldOrNull "thread_objects".toText fields⟩
      | _ => none
  | _ => none

def load (input standardInputText : Text) (files : FileTree) : Except Stop Snapshot := do
  let text ← text input standardInputText files
  match Document.read text with
  | .error .malformed => throw (.rejected .malformed)
  | .error (.refused fault) => throw (.escaped fault)
  | .ok document =>
      match ofDocument? document with
      | some snapshot => pure snapshot
      | none => throw (.rejected .notASnapshot)

/-- The ids of the records of live threads that have one. -/
def liveIds : List Document → Except Fault (List Int)
  | [] => .ok []
  | record :: records => do
      let fields ← record.fields
      match ThreadRecord.isAlive fields, Table.get? "managed_id".toText fields with
      | true, some managedId => do
          let managedId ← managedId.toInteger
          let others ← liveIds records
          pure (managedId :: others)
      | _, _ => liveIds records

/-- Read the names of the threads, if the snapshot has thread objects. -/
def registry (snapshot : Snapshot) : Phase ThreadRegistry :=
  let stop := Stop.ofFault .threadObjects
  if !snapshot.threadObjects.isTruthy then pure .empty
  else match liveIds snapshot.records with
    | .error fault => Written.fail (stop fault)
    | .ok ids =>
        let scan := ThreadRegistry.scanDocument ThreadRegistry.threadType (some ids)
          snapshot.threadObjects []
        ⟨scan.notes, (scan.names.map .named).mapError stop⟩

/-- Group the threads of a snapshot. -/
def threads (snapshot : Snapshot) (jobs : Setting Int) (registry : ThreadRegistry) :
    Phase ParallelThreads :=
  Written.mapFault (Stop.ofFault .threadRecord) do
    let jobs ← Written.ofExcept jobs.get
    ParallelThreads.ofRecords (max jobs 1) registry snapshot.records

end Snapshot

end ThreadStacks.CommandLine
