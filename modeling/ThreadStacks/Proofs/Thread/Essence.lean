import ThreadStacks.Proofs.Thread.Record
import ThreadStacks.Proofs.Group.RawFrames

/-!
# What counts in a record

The frames of a record that belong to no managed method are only kept as raw frames, so a record
without them gives the same thread but for its raw frames, or the same fault.
-/

namespace ThreadStacks.ThreadRecord

/-- Whether an entry of a record's frames is an object without a signature. -/
def isNative : Document → Bool
  | .object fields => (Document.fieldOrNull "signature".toText fields).isNull
  | _ => false

/-- The fields of a record without its native frames. -/
def withoutNative (fields : Document.Fields) : Document.Fields :=
  match Table.get? "frames".toText fields with
  | some (.list entries) =>
      Table.put "frames".toText (.list (entries.filter fun entry => !isNative entry)) fields
  | _ => fields

/-- A record without its native frames. -/
def essence : Document → Document
  | .object fields => .object (withoutNative fields)
  | record => record

variable {registry : ThreadRegistry} {fields : Document.Fields} {key : Text}

/-! ## The fields of the record -/

theorem get?_withoutNative (other : key ≠ "frames".toText) :
    Table.get? key (withoutNative fields) = Table.get? key fields := by
  rw [withoutNative]
  split
  next => exact Table.get?_put_other other _ _
  next => rfl

theorem isAlive_withoutNative : isAlive (withoutNative fields) = isAlive fields := by
  rw [isAlive, get?_withoutNative (by decide), isAlive]

theorem requiredField_withoutNative (other : key ≠ "frames".toText) :
    Document.requiredField key (withoutNative fields) = Document.requiredField key fields := by
  rw [Document.requiredField, get?_withoutNative other, Document.requiredField]

theorem fieldOrNull_withoutNative (other : key ≠ "frames".toText) :
    Document.fieldOrNull key (withoutNative fields) = Document.fieldOrNull key fields := by
  rw [Document.fieldOrNull, get?_withoutNative other, Document.fieldOrNull]

theorem readId_withoutNative :
    readId registry (withoutNative fields) = readId registry fields := by
  simp only [readId_eq, managedId_object, osId, get?_withoutNative (by decide : "os_id".toText ≠ _),
    requiredField_withoutNative (by decide : "managed_id".toText ≠ _)]

theorem readException_withoutNative :
    readException (withoutNative fields) = readException fields := by
  rw [readException, fieldOrNull_withoutNative (by decide), readException]

theorem readLockCount_withoutNative :
    readLockCount (withoutNative fields) = readLockCount fields := by
  rw [readLockCount, get?_withoutNative (by decide), readLockCount]

/-! ## The thread of the record -/

/-- A native frame is no frame. -/
theorem outcome_readFrame_of_isNative {entry : Document} (native : isNative entry = true) :
    ∃ raw, (readFrame entry).outcome = .ok (raw, none) := by
  cases entry with
  | object fields =>
      rw [isNative] at native
      rw [readFrame, frameEntry]
      generalize Document.fieldOrNull "signature".toText fields = signature at native ⊢
      cases signature with
      | null => exact ⟨_, rfl⟩
      | _ => contradiction
  | _ => contradiction

/-- The frames of entries, or the first fault. -/
def stackFrames (entries : List Document) : Except Fault (List StackFrame) :=
  (Written.firstFaultOrAll (entries.map fun entry => (readFrame entry).outcome)).map
    (List.filterMap Prod.snd)

theorem stackFrames_cons (entry : Document) (entries : List Document) :
    stackFrames (entry :: entries) = (do
      let frameRead ← (readFrame entry).outcome
      let frames ← stackFrames entries
      pure (frameRead.2.toList ++ frames)) := by
  rw [stackFrames, List.map_cons, Written.firstFaultOrAll_cons, stackFrames]
  cases (readFrame entry).outcome with
  | error fault => rfl
  | ok frameRead =>
      cases Written.firstFaultOrAll (entries.map fun entry => (readFrame entry).outcome) with
      | error fault => rfl
      | ok framesRead =>
          obtain ⟨raw, frame?⟩ := frameRead
          cases frame? <;> rfl

/-- Native frames are no frames, and nothing is wrong with them. -/
theorem stackFrames_filter (entries : List Document) :
    stackFrames (entries.filter fun entry => !isNative entry) = stackFrames entries := by
  induction entries with
  | nil => rfl
  | cons entry entries ih =>
      rw [List.filter_cons, stackFrames_cons]
      cases native : isNative entry with
      | false =>
          rw [Bool.not_false, if_pos rfl, stackFrames_cons, ih]
      | true =>
          obtain ⟨raw, isRead⟩ := outcome_readFrame_of_isNative native
          rw [Bool.not_true, if_neg (by decide), ih, isRead]
          exact (bind_pure (stackFrames entries)).symm

/-- What a record without its raw frames is read from. -/
theorem map_withoutRaw_outcome (registry : ThreadRegistry) (fields : Document.Fields) :
    (outcome registry (.object fields)).map Thread.withoutRaw = (do
      let frames ← frameEntries fields >>= stackFrames
      let id ← readId registry fields
      let exception ← readException fields
      let lockCount ← readLockCount fields
      pure ⟨frames, [], id, exception, lockCount⟩) := by
  rw [outcome_object, bind_assoc]
  cases frameEntries fields with
  | error fault => rfl
  | ok entries =>
      change Except.map _ (Written.firstFaultOrAll _ >>= fun frames => _) =
        stackFrames entries >>= fun frames => _
      rw [stackFrames]
      cases Written.firstFaultOrAll (entries.map fun entry => (readFrame entry).outcome) with
      | error fault => rfl
      | ok framesRead =>
          cases readId registry fields with
          | error fault => rfl
          | ok id =>
              cases readException fields with
              | error fault => rfl
              | ok exception => cases readLockCount fields <;> rfl

theorem stackFrames_withoutNative (fields : Document.Fields) :
    frameEntries (withoutNative fields) >>= stackFrames = frameEntries fields >>= stackFrames := by
  rw [frameEntries, withoutNative]
  cases given : Table.get? "frames".toText fields with
  | none => simp only [given, frameEntries]
  | some frames =>
      cases frames with
      | list entries =>
          simp only [Table.get?_put_same, frameEntries, given]
          exact stackFrames_filter entries
      | _ => simp only [given, frameEntries]

/-- A record without its native frames gives the same thread but for its raw frames, or the same
fault. -/
theorem outcome_essence (registry : ThreadRegistry) (record : Document) :
    (outcome registry (essence record)).map Thread.withoutRaw =
      (outcome registry record).map Thread.withoutRaw := by
  cases record with
  | object fields =>
      rw [essence, map_withoutRaw_outcome, map_withoutRaw_outcome, stackFrames_withoutNative,
        readId_withoutNative, readException_withoutNative, readLockCount_withoutNative]
  | _ => rfl

end ThreadStacks.ThreadRecord
