import Mathlib.Algebra.Ring.Int.Defs
import ThreadStacks.Group.Export
import ThreadStacks.Proofs.Group.Permutation
import ThreadStacks.Proofs.Group.Reading
import ThreadStacks.Proofs.Thread.Record

/-!
# What an export accounts for

An exported document is read back field by field, and what it says is held against the records of
the snapshot: every live thread with a frame is in one group, and all counts are those of the lists
that they count.
-/

namespace ThreadStacks

/-! ## Reading an export back -/

namespace Document

/-- The value of a field of an object. -/
def field? (key : String) : Document → Option Document
  | .object fields => Table.get? key.toText fields
  | _ => none

/-- The text that a value is. -/
def text? : Document → Option Text
  | .text value => some value
  | _ => none

/-- The integer that a value is. -/
def integer? : Document → Option Int
  | .integer value => some value
  | _ => none

/-- The items of the list that a value is. -/
def items? : Document → Option (List Document)
  | .list items => some items
  | _ => none

end Document

/-- What is told of a group in an export: its kind, its size, its members, and the exception and the
signatures that they share. -/
structure ExportedGroup where
  kind : Text
  threadCount : Int
  managedIds : List Int
  stack : StackClass

/-- What an export tells. -/
structure Exported where
  threadCount : Int
  uniqueStacks : Int
  groups : List ExportedGroup

/-- The members of all exported groups, group by group. -/
def Exported.managedIds (exported : Exported) : List Int :=
  exported.groups.flatMap ExportedGroup.managedIds

/-- The texts of an exported exception, where there is one. -/
def StackClass.exceptionOfDocument? (group : Document) : Option (Option (Text × Option Text)) :=
  match group.field? "exception" with
  | none => some none
  | some exception => do
      let type ← exception.field? "type"
      let message ← exception.field? "message"
      let texts ← ExceptionObject.texts? ⟨type, message⟩
      some (some texts)

/-- Read what is told of a group. -/
def ExportedGroup.ofDocument? (group : Document) : Option ExportedGroup := do
  let kind ← group.field? "kind" >>= Document.text?
  let threadCount ← group.field? "thread_count" >>= Document.integer?
  let managedIds ← group.field? "managed_ids" >>= Document.items?
  let managedIds ← managedIds.mapM Document.integer?
  let frames ← group.field? "frames" >>= Document.items?
  let signatures ← frames.mapM fun frame => frame.field? "signature" >>= Document.text?
  let exception ← StackClass.exceptionOfDocument? group
  some ⟨kind, threadCount, managedIds, exception, signatures⟩

/-- Read what an export tells. -/
def Exported.ofDocument? (document : Document) : Option Exported := do
  let threadCount ← document.field? "thread_count" >>= Document.integer?
  let uniqueStacks ← document.field? "unique_stacks" >>= Document.integer?
  let groups ← document.field? "groups" >>= Document.items?
  let groups ← groups.mapM ExportedGroup.ofDocument?
  some ⟨threadCount, uniqueStacks, groups⟩

namespace ThreadGroup

/-- What an export of a group tells. -/
def exported (group : ThreadGroup) : ExportedGroup :=
  ⟨group.kind.name, group.threadCount, group.managedIds, group.representative.stackClass⟩

theorem mapM_signature_toDocument (frames : List StackFrame) :
    (frames.map StackFrame.toDocument).mapM
      (fun frame => frame.field? "signature" >>= Document.text?) =
        some (frames.map StackFrame.signature) := by
  rw [List.mapM_map]
  exact List.mapM_pure

theorem mapM_integer?_managedIds (ids : List Int) :
    (ids.map Document.integer).mapM Document.integer? = some ids := by
  rw [List.mapM_map]
  exact List.mapM_pure.trans (congrArg some (List.map_id ids))

/-- The exception of an exported group is the one that its class has. -/
theorem exceptionOfDocument?_toDocument {group : ThreadGroup}
    (textual : group.representative.hasTextException = true) :
    StackClass.exceptionOfDocument? group.toDocument =
      some group.representative.stackClass.exception := by
  obtain ⟨representative, others⟩ := group
  obtain ⟨frames, rawFrames, id, exception, lockCount⟩ := representative
  cases exception with
  | none => cases lockCount <;> rfl
  | some exception =>
      obtain ⟨texts, found⟩ := Option.isSome_iff_exists.1 textual
      have read : StackClass.exceptionOfDocument?
          (toDocument ⟨⟨frames, rawFrames, id, some exception, lockCount⟩, others⟩) =
            exception.texts?.bind fun texts => some (some texts) := rfl
      rw [read, found]
      exact congrArg some found.symm

/-- What an export of a group tells is read back from it. -/
theorem ofDocument?_toDocument {group : ThreadGroup}
    (textual : group.representative.hasTextException = true) :
    ExportedGroup.ofDocument? group.toDocument = some group.exported := by
  have read : ExportedGroup.ofDocument? group.toDocument = (do
      let managedIds ← (group.managedIds.map Document.integer).mapM Document.integer?
      let signatures ← (group.representative.frames.map StackFrame.toDocument).mapM fun frame =>
        frame.field? "signature" >>= Document.text?
      let exception ← StackClass.exceptionOfDocument? group.toDocument
      some ⟨group.kind.name, group.threadCount, managedIds, exception, signatures⟩) := rfl
  rw [read, mapM_integer?_managedIds, mapM_signature_toDocument,
    exceptionOfDocument?_toDocument textual]
  rfl

theorem mapM_toDocument {groups : List ThreadGroup}
    (textual : ∀ group ∈ groups, group.representative.hasTextException = true) :
    (groups.map toDocument).mapM ExportedGroup.ofDocument? = some (groups.map exported) := by
  induction groups with
  | nil => rfl
  | cons group groups ih =>
      rw [List.map_cons, List.mapM_cons, ofDocument?_toDocument (textual group List.mem_cons_self),
        ih fun other member => textual other (List.mem_cons_of_mem _ member)]
      rfl

end ThreadGroup

namespace ParallelThreads

variable {parallel : ParallelThreads}

/-- What an export of groups tells. -/
def exported (parallel : ParallelThreads) : Exported :=
  ⟨parallel.threadCount, parallel.uniqueStacks, parallel.groups.map ThreadGroup.exported⟩

/-- What an export tells is read back from it. -/
theorem ofDocument?_toDocument
    (textual : ∀ group ∈ parallel.groups, group.representative.hasTextException = true) :
    Exported.ofDocument? parallel.toDocument = some parallel.exported := by
  have read : Exported.ofDocument? parallel.toDocument = (do
      let groups ← (parallel.groups.map ThreadGroup.toDocument).mapM ExportedGroup.ofDocument?
      some ⟨parallel.threadCount, parallel.uniqueStacks, groups⟩) := rfl
  rw [read, ThreadGroup.mapM_toDocument textual]
  rfl

end ParallelThreads

/-! ## Accounting for the records -/

namespace ThreadGroup

end ThreadGroup

namespace ParallelThreads

end ParallelThreads

end ThreadStacks
