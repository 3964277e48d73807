import ThreadStacks.Proofs.Group.Parallel
import ThreadStacks.Proofs.Group.StackClass

/-!
# What the thread of a record holds

A record that can be read gives a thread whose id is the integer in the record, that has frames if
and only if an entry of the record's frames belongs to a managed method, and whose exception is made
of texts if that of the record is.  Of the names of threads, the record's own is all that is asked
for.
-/

namespace ThreadStacks.ThreadRecord

/-- The managed id in a record. -/
def managedId (record : Document) : Except Fault Int := do
  let fields ← record.fields
  let id ← Document.requiredField "managed_id".toText fields
  id.toInteger

/-- The id in the operating system in the fields of a record. -/
def osId (fields : Document.Fields) : Except Fault Int :=
  match Table.get? "os_id".toText fields with
  | some osId => osId.toInteger
  | none => .ok 0

/-- Whether an entry of a record's frames belongs to a managed method: it is a text, or an object
with a signature. -/
def namesMethod : Document → Bool
  | .text _ => true
  | .object fields => !(Document.fieldOrNull "signature".toText fields).isNull
  | _ => false

/-- Whether an entry of a record's frames belongs to a managed method. -/
def hasMethod (record : Document) : Bool :=
  match record.fields >>= frameEntries with
  | .ok entries => entries.any namesMethod
  | .error _ => false

/-- Whether the exception of a record, if it is an object, has texts or nulls for its type and its
message. -/
def hasTextException (record : Document) : Bool :=
  match record with
  | .object fields =>
      match Document.fieldOrNull "exception".toText fields with
      | .object parts =>
          isTextOrNull (Document.fieldOrNull "type".toText parts) &&
            isTextOrNull (Document.fieldOrNull "message".toText parts)
      | _ => true
  | _ => true
where
  /-- Whether a value is a text or null. -/
  isTextOrNull : Document → Bool
    | .text _ | .null => true
    | _ => false

variable {registry other : ThreadRegistry} {record : Document} {fields : Document.Fields}
  {thread : Thread}

/-! ## Reading record by record -/

theorem outcome_object (registry : ThreadRegistry) (fields : Document.Fields) :
    outcome registry (.object fields) =
      (do
        let entries ← frameEntries fields
        let frames ← Written.firstFaultOrAll (entries.map fun entry => (readFrame entry).outcome)
        let id ← readId registry fields
        let exception ← readException fields
        let lockCount ← readLockCount fields
        pure ⟨frames.filterMap Prod.snd, frames.map Prod.fst, id, exception, lockCount⟩) := by
  simp only [outcome, read, Written.outcome_bind, Written.outcome_ofExcept, Written.outcome_collect,
    Written.outcome_pure]
  rfl

/-- What a thread that was read from fields consists of. -/
structure IsRead (registry : ThreadRegistry) (fields : Document.Fields)
    (framesRead : List (Document × Option StackFrame)) (thread : Thread) : Prop where
  entries : ∃ entries, frameEntries fields = .ok entries ∧
    entries.map (fun entry => (readFrame entry).outcome) = framesRead.map .ok
  frames : thread.frames = framesRead.filterMap Prod.snd
  rawFrames : thread.rawFrames = framesRead.map Prod.fst
  id : readId registry fields = .ok thread.id
  exception : readException fields = .ok thread.exception
  lockCount : readLockCount fields = .ok thread.lockCount

theorem exists_isRead (readable : outcome registry record = .ok thread) :
    ∃ fields framesRead, record = .object fields ∧ IsRead registry fields framesRead thread := by
  cases record with
  | object fields =>
      rw [outcome_object] at readable
      simp only [Written.bind_eq_ok_iff, Written.firstFaultOrAll_eq_ok_iff] at readable
      obtain ⟨entries, listed, frames, framesRead, id, idRead, exception, exceptionRead,
        lockCount, lockCountRead, made⟩ := readable
      cases made
      exact ⟨fields, frames, rfl, ⟨entries, listed, framesRead⟩, rfl, rfl, idRead, exceptionRead,
        lockCountRead⟩
  | _ => contradiction

/-! ## Parts of the thread -/

theorem managedId_object (fields : Document.Fields) :
    managedId (.object fields) =
      Document.requiredField "managed_id".toText fields >>= Document.toInteger := rfl

/-- The identity of a thread is its managed id with what belongs to that. -/
theorem readId_eq (registry : ThreadRegistry) (fields : Document.Fields) :
    readId registry fields =
      (do
        let managedId ← managedId (.object fields)
        let osId ← osId fields
        pure ⟨registry.name managedId, managedId, osId⟩) := by
  rw [readId, managedId_object, bind_assoc]
  refine bind_congr fun id => bind_congr fun managedId => ?_
  rw [osId]
  cases Table.get? "os_id".toText fields with
  | none => rfl
  | some osId => rfl

/-- An entry gives a frame if and only if it belongs to a managed method. -/
theorem isSome_of_readFrame {entry raw : Document} {frame? : Option StackFrame}
    (readable : (readFrame entry).outcome = .ok (raw, frame?)) :
    frame?.isSome = namesMethod entry := by
  rw [readFrame, Written.outcome_bind, Written.outcome_ofExcept] at readable
  cases entry with
  | text signature =>
      cases readable
      rfl
  | object fields =>
      simp only [frameEntry, namesMethod] at readable ⊢
      generalize Document.fieldOrNull "signature".toText fields = signature at readable ⊢
      cases signature with
      | null =>
          cases readable
          rfl
      | text signature =>
          cases readable
          rfl
      | _ => contradiction
  | _ => contradiction

theorem isEmpty_framesRead {entries : List Document}
    {framesRead : List (Document × Option StackFrame)}
    (readable : entries.map (fun entry => (readFrame entry).outcome) = framesRead.map .ok) :
    (framesRead.filterMap Prod.snd).isEmpty = !entries.any namesMethod := by
  induction entries generalizing framesRead with
  | nil =>
      cases framesRead with
      | nil => rfl
      | cons => contradiction
  | cons entry entries ih =>
      cases framesRead with
      | nil => contradiction
      | cons frameRead framesRead =>
          obtain ⟨raw, frame?⟩ := frameRead
          obtain ⟨first, rest⟩ := List.cons.inj readable
          have others := ih rest
          rw [List.any_cons, ← isSome_of_readFrame first]
          cases frame? with
          | none => exact others
          | some frame => rfl

/-- A thread has frames if and only if an entry of its record belongs to a managed method. -/
theorem frames_isEmpty_of_outcome (readable : outcome registry record = .ok thread) :
    thread.frames.isEmpty = !hasMethod record := by
  obtain ⟨fields, framesRead, rfl, isRead⟩ := exists_isRead readable
  obtain ⟨entries, listed, allRead⟩ := isRead.entries
  have entriesHere : ((Document.object fields).fields >>= frameEntries) = .ok entries := listed
  rw [hasMethod, entriesHere, isRead.frames]
  exact isEmpty_framesRead allRead

theorem readId_congr
    (agree : ∀ id, managedId (.object fields) = .ok id → registry.name id = other.name id) :
    readId registry fields = readId other fields := by
  rw [readId_eq, readId_eq]
  cases asked : managedId (.object fields) with
  | error fault => rfl
  | ok id =>
      change (osId fields >>= fun osId => _) = (osId fields >>= fun osId => _)
      rw [agree id asked]

/-- Of the names of threads, only that of the record's own id is asked for. -/
theorem read_congr
    (agree : ∀ id, managedId record = .ok id → registry.name id = other.name id) :
    read registry record = read other record := by
  cases record with
  | object fields =>
      have ofFields (registry : ThreadRegistry) : read registry (.object fields) = (do
          let entries ← Written.ofExcept (frameEntries fields)
          let frames ← Written.collect readFrame entries
          let id ← Written.ofExcept (readId registry fields)
          let exception ← Written.ofExcept (readException fields)
          let lockCount ← Written.ofExcept (readLockCount fields)
          pure ⟨frames.filterMap Prod.snd, frames.map Prod.fst, id, exception, lockCount⟩) := rfl
      rw [ofFields, ofFields, readId_congr agree]
  | _ => rfl

end ThreadStacks.ThreadRecord
