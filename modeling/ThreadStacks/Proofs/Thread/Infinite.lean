import ThreadStacks.Proofs.Thread.Record

/-!
# Infinite numbers in a snapshot

Whatever is wrong with a record or with a thread object is a reason to reject the snapshot, except
for one thing: an infinite number where an integer is asked for.  Its fault is of a kind that does
not condemn the snapshot.
-/

namespace ThreadStacks

open Written

/-- Whether a fault is a reason to reject a snapshot, or that of an infinite number where there is
one. -/
def Fault.RejectsUnless (infinite : Prop) (fault : Fault) : Prop :=
  fault.kind.rejectsSnapshot = true ∨ fault = .infiniteInteger ∧ infinite

theorem Fault.RejectsUnless.mono {infinite other : Prop} (wider : infinite → other) (fault : Fault)
    (given : fault.RejectsUnless infinite) : fault.RejectsUnless other :=
  given.imp_right fun isInfinite => ⟨isInfinite.1, wider isInfinite.2⟩

namespace Document

/-- Whether a value is an infinite number. -/
def IsInfinite : Document → Prop
  | .float (.infinite _) => True
  | _ => False

/-- Whether the fields of an object have an infinite number under a key. -/
def HasInfinite (fields : Fields) (key : Text) : Prop :=
  ∃ value, Table.get? key fields = some value ∧ value.IsInfinite

theorem failsWithin_digitsToInteger (negative : Bool) (digits : Text) :
    FailsWithin (fun fault => fault.kind.rejectsSnapshot = true)
      (digitsToInteger negative digits) := by
  rw [digitsToInteger]
  split
  next => exact .error rfl
  next =>
    split
    next => exact .error rfl
    next => exact .ok _

theorem failsWithin_textToInteger (text : Text) :
    FailsWithin (fun fault => fault.kind.rejectsSnapshot = true) (textToInteger text) := by
  rw [textToInteger]
  split
  next => exact failsWithin_digitsToInteger true _
  next => exact failsWithin_digitsToInteger false _
  next => exact failsWithin_digitsToInteger false _

/-- Of the values that are no integers, only the infinite numbers do not condemn the snapshot. -/
theorem failsWithin_toInteger (value : Document) :
    FailsWithin (Fault.RejectsUnless value.IsInfinite) value.toInteger := by
  cases value with
  | bool value => exact .ok _
  | integer value => exact .ok _
  | text value => exact (failsWithin_textToInteger value).mono fun fault rejects => .inl rejects
  | null | list | object => exact .error (.inl rfl)
  | float value =>
      cases value with
      | finite => exact .ok _
      | infinite negative => exact .error (.inr ⟨rfl, trivial⟩)
      | notANumber => exact .error (.inl rfl)

theorem failsWithin_fields {infinite : Prop} (value : Document) :
    FailsWithin (Fault.RejectsUnless infinite) value.fields := by
  cases value with
  | object fields => exact .ok fields
  | _ => exact .error (.inl rfl)

theorem failsWithin_parts {infinite : Prop} (value : Document) :
    FailsWithin (Fault.RejectsUnless infinite) value.parts := by
  cases value with
  | text | list | object => exact .ok _
  | _ => exact .error (.inl rfl)

end Document

/-! ## Records -/

namespace ThreadRecord

/-- Whether one of the numbers of a record is infinite. -/
def HasInfinite (fields : Document.Fields) : Prop :=
  ∃ key ∈ ["managed_id".toText, "os_id".toText, "lock_count".toText],
    Document.HasInfinite fields key

/-- Whether one of the numbers of a live record is infinite. -/
def LiveHasInfinite (records : List Document) : Prop :=
  ∃ fields, .object fields ∈ records ∧ isAlive fields = true ∧ HasInfinite fields

theorem failsWithin_managedId (fields : Document.Fields) :
    FailsWithin (Fault.RejectsUnless (Document.HasInfinite fields "managed_id".toText))
      (managedId (.object fields)) := by
  rw [managedId_object, Document.requiredField]
  split
  next value given =>
    exact (Document.failsWithin_toInteger value).mono
      (Fault.RejectsUnless.mono fun isInfinite => ⟨value, given, isInfinite⟩)
  next => exact .error (.inl rfl)

theorem failsWithin_osId (fields : Document.Fields) :
    FailsWithin (Fault.RejectsUnless (Document.HasInfinite fields "os_id".toText))
      (osId fields) := by
  rw [osId]
  split
  next value given =>
    exact (Document.failsWithin_toInteger value).mono
      (Fault.RejectsUnless.mono fun isInfinite => ⟨value, given, isInfinite⟩)
  next => exact .ok _

theorem failsWithin_readId (registry : ThreadRegistry) (fields : Document.Fields) :
    FailsWithin (Fault.RejectsUnless (HasInfinite fields)) (readId registry fields) := by
  rw [readId_eq]
  refine FailsWithin.bind ?_ fun managedId => FailsWithin.bind ?_ fun osId => .ok _
  · exact (failsWithin_managedId fields).mono
      (Fault.RejectsUnless.mono fun isInfinite => ⟨_, by simp, isInfinite⟩)
  · exact (failsWithin_osId fields).mono
      (Fault.RejectsUnless.mono fun isInfinite => ⟨_, by simp, isInfinite⟩)

theorem failsWithin_readLockCount (fields : Document.Fields) :
    FailsWithin (Fault.RejectsUnless (HasInfinite fields)) (readLockCount fields) := by
  have ofRaw (raw : Int) :
      FailsWithin (Fault.RejectsUnless (HasInfinite fields)) (LockCount.ofRaw raw) := by
    rw [LockCount.ofRaw]
    split
    next => exact .error (.inl rfl)
    next =>
      split
      next => exact .ok _
      next =>
        split
        next => exact .ok _
        next => exact .error (.inl rfl)
  rw [readLockCount]
  split
  next value given =>
    refine FailsWithin.bind ?_ ofRaw
    exact (Document.failsWithin_toInteger value).mono
      (Fault.RejectsUnless.mono fun isInfinite => ⟨_, by simp, value, given, isInfinite⟩)
  next => exact (FailsWithin.ok _).bind ofRaw

theorem failsWithin_readException {infinite : Prop} (fields : Document.Fields) :
    FailsWithin (Fault.RejectsUnless infinite) (readException fields) := by
  rw [readException]
  split
  next => exact .ok _
  next => exact (Document.failsWithin_fields _).bind fun parts => .ok _

theorem failsWithin_frameEntries {infinite : Prop} (fields : Document.Fields) :
    FailsWithin (Fault.RejectsUnless infinite) (frameEntries fields) := by
  rw [frameEntries]
  split
  next => exact Document.failsWithin_parts _
  next => exact .ok _

theorem failsWithin_readFrame {infinite : Prop} (entry : Document) :
    FailsWithin (Fault.RejectsUnless infinite) (readFrame entry).outcome := by
  rw [readFrame, Written.outcome_bind, Written.outcome_ofExcept]
  refine FailsWithin.bind ?_ fun read => ?_
  · cases entry with
    | text | object => exact .ok _
    | _ => exact .error (.inl rfl)
  · split
    next => exact .ok _
    next => exact .ok _
    next => exact .error (.inl rfl)

/-- What is wrong with a record condemns the snapshot, unless a number of it is infinite. -/
theorem failsWithin_outcome (registry : ThreadRegistry) (fields : Document.Fields) :
    FailsWithin (Fault.RejectsUnless (HasInfinite fields)) (outcome registry (.object fields)) := by
  rw [outcome_object]
  refine (failsWithin_frameEntries fields).bind fun entries => ?_
  refine FailsWithin.bind ?_ fun frames => ?_
  · refine FailsWithin.firstFaultOrAll fun outcome member => ?_
    obtain ⟨entry, -, rfl⟩ := List.mem_map.1 member
    exact failsWithin_readFrame entry
  refine (failsWithin_readId registry fields).bind fun id => ?_
  refine (failsWithin_readException fields).bind fun exception => ?_
  exact (failsWithin_readLockCount fields).bind fun lockCount => .ok _

end ThreadRecord

/-- What is wrong with records condemns the snapshot, unless a number of a live one is infinite. -/
theorem ParallelThreads.failsWithin_ofRecords (jobs : Int) (registry : ThreadRegistry)
    (records : List Document) :
    FailsWithin (Fault.RejectsUnless (ThreadRecord.LiveHasInfinite records))
      (ofRecords jobs registry records).outcome := by
  rw [outcome_ofRecords, firstFaultOrGroups]
  refine FailsWithin.bind ?_ fun _ => FailsWithin.bind ?_ fun threads => .ok _
  · refine FailsWithin.firstFaultOrAll fun outcome member => ?_
    obtain ⟨record, -, rfl⟩ := List.mem_map.1 member
    exact Document.failsWithin_fields record
  · refine FailsWithin.firstFaultOrAll fun outcome member => ?_
    obtain ⟨record, listed, rfl⟩ := List.mem_map.1 member
    obtain ⟨isRecord, live⟩ := List.mem_filter.1 listed
    cases record with
    | object fields =>
        exact (ThreadRecord.failsWithin_outcome registry fields).mono
          (Fault.RejectsUnless.mono fun isInfinite => ⟨fields, isRecord, live, isInfinite⟩)
    | _ => exact .error (.inl rfl)

/-! ## Thread objects -/

namespace ThreadRegistry

theorem run_bind {Result Next : Type} (work : Discovery Result) (next : Result → Discovery Next)
    (fieldNames : FieldNames) :
    (work >>= next).run fieldNames =
      match work.run fieldNames with
      | (.ok result, after) => (next result).run after
      | (.error fault, after) => (.error fault, after) := by
  unfold ExceptT.run
  simp only [bind, ExceptT.bind, ExceptT.mk, StateT.bind, ExceptT.bindCont]
  rcases work fieldNames with ⟨fault | result, after⟩
  · rfl
  · rfl

/-- Work that keeps field names fails with what either of its parts fails with, whatever field names
it starts from. -/
theorem failsWithin_run_bind {Result Next : Type} {allowed : Fault → Prop}
    {work : Discovery Result} {next : Result → Discovery Next}
    (first : ∀ fieldNames, FailsWithin allowed (work.run fieldNames).1)
    (second : ∀ result fieldNames, FailsWithin allowed ((next result).run fieldNames).1)
    (fieldNames : FieldNames) : FailsWithin allowed ((work >>= next).run fieldNames).1 := by
  have firstFails := first fieldNames
  rw [run_bind]
  generalize work.run fieldNames = ran at firstFails ⊢
  rcases ran with ⟨fault | result, after⟩
  · exact .error (firstFails fault rfl)
  · exact second result after

theorem failsWithin_resolve {infinite : Prop} (typeKey : Text) (names : List Text) (wanted : Text)
    (fieldNames : FieldNames) :
    FailsWithin (Fault.RejectsUnless infinite)
      ((FieldNames.resolve typeKey names wanted).run fieldNames).1 := by
  refine failsWithin_run_bind (fun fieldNames => .ok _) (fun known fieldNames => ?_) fieldNames
  split
  next => exact .ok _
  next =>
    split
    next => exact .ok _
    next => exact .error (.inl rfl)

/-- What is wrong with a thread object condemns the snapshot, unless a field of it is infinite. -/
theorem failsWithin_readObject (typeKey : Text) (fields : Document.Fields)
    (fieldNames : FieldNames) :
    FailsWithin (Fault.RejectsUnless (∃ key, Document.HasInfinite fields key))
      ((readObject typeKey (.object fields)).run fieldNames).1 := by
  refine failsWithin_run_bind (failsWithin_resolve _ _ _) (fun idName => ?_) fieldNames
  refine failsWithin_run_bind (failsWithin_resolve _ _ _) fun nameName fieldNames => ?_
  split
  next => exact .error (.inl rfl)
  next id given =>
    refine failsWithin_run_bind (fun fieldNames => ?_) (fun id fieldNames => .ok _) fieldNames
    exact (Document.failsWithin_toInteger id).mono
      (Fault.RejectsUnless.mono fun isInfinite => ⟨idName, id, given, isInfinite⟩)

/-- Whether a field of a thread object is infinite. -/
def HasInfinite (objects : Document) : Prop :=
  ∃ items fields key,
    objects = .list items ∧ .object fields ∈ items ∧ Document.HasInfinite fields key

theorem failsWithin_scanFrom (typeKey : Text) (awaited : Option (List Int))
    (objects : List Document) (names : ThreadNames) (fieldNames : FieldNames) :
    FailsWithin
      (Fault.RejectsUnless (∃ fields key,
        .object fields ∈ objects ∧ Document.HasInfinite fields key))
      (scanFrom typeKey awaited objects names fieldNames).names := by
  induction objects generalizing awaited names fieldNames with
  | nil => exact .ok names
  | cons object objects ih =>
      have first : FailsWithin
          (Fault.RejectsUnless (∃ fields key,
            .object fields ∈ object :: objects ∧ Document.HasInfinite fields key))
          ((readObject typeKey object).run fieldNames).1 := by
        cases object with
        | object fields =>
            refine (failsWithin_readObject typeKey fields fieldNames).mono
              (Fault.RejectsUnless.mono fun isInfinite => ?_)
            obtain ⟨key, isInfinite⟩ := isInfinite
            exact ⟨fields, key, List.mem_cons_self, isInfinite⟩
        | _ => exact .error (.inl rfl)
      rw [scanFrom]
      generalize (readObject typeKey object).run fieldNames = ran at first ⊢
      rcases ran with ⟨fault | ⟨id, name⟩, after⟩
      · exact .error (first fault rfl)
      · simp only
        split
        next => exact .ok _
        next =>
          refine (ih _ _ after).mono (Fault.RejectsUnless.mono fun isInfinite => ?_)
          obtain ⟨fields, key, member, isInfinite⟩ := isInfinite
          exact ⟨fields, key, List.mem_cons_of_mem _ member, isInfinite⟩

/-- What is wrong with thread objects condemns the snapshot, unless a field of one is infinite. -/
theorem failsWithin_scanDocument (typeKey : Text) (awaited : Option (List Int)) (objects : Document)
    (fieldNames : FieldNames) :
    FailsWithin (Fault.RejectsUnless (HasInfinite objects))
      (scanDocument typeKey awaited objects fieldNames).names := by
  rw [scanDocument]
  split
  next items given =>
    refine (failsWithin_scanFrom typeKey awaited items [] fieldNames).mono
      (Fault.RejectsUnless.mono fun isInfinite => ?_)
    obtain ⟨fields, key, member, isInfinite⟩ := isInfinite
    cases objects with
    | list objects =>
        cases given
        exact ⟨items, fields, key, rfl, member, isInfinite⟩
    | text =>
        cases given
        obtain ⟨_, -, same⟩ := List.mem_map.1 member
        contradiction
    | object =>
        cases given
        obtain ⟨_, -, same⟩ := List.mem_map.1 member
        contradiction
    | _ => contradiction
  next fault given =>
    exact .error (Document.failsWithin_parts objects fault given)

end ThreadRegistry

end ThreadStacks
