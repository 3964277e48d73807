import ThreadStacks.CommandLine.Program
import ThreadStacks.Proofs.Group.Reading

/-!
# How a run ends

A run is prepared, drawn and exported, in this order.  It is refused only while it is prepared, so a
refused run has drawn nothing and written no file; and it finishes only if all three went well.
-/

namespace ThreadStacks.CommandLine

variable {invocation : Invocation} {standardInputText : Text} {files : FileTree}
  {threads : ParallelThreads} {registry : ThreadRegistry} {snapshot : Snapshot}
  {options : Options} {notices : List Notice} {arguments : List Text}

/-! ## Loading -/

namespace Snapshot

variable {input : Text} {document : Document}

/-- Whether the input of a run is a document. -/
def IsDocument (input standardInputText : Text) (files : FileTree) (document : Document) : Prop :=
  ∃ text, Snapshot.text input standardInputText files = .ok text ∧
    Document.read text = .ok document

theorem ofDocument?_eq_some_iff :
    ofDocument? document = some snapshot ↔ ∃ fields records, document = .object fields ∧
      Table.get? "threads".toText fields = some (.list records) ∧
      snapshot = ⟨records, Document.fieldOrNull "thread_objects".toText fields⟩ := by
  constructor
  · intro found
    cases document with
    | object fields =>
        rw [ofDocument?] at found
        split at found
        next records given => exact ⟨fields, records, rfl, given, (Option.some.inj found).symm⟩
        next => contradiction
    | _ => contradiction
  · intro given
    obtain ⟨fields, records, rfl, given, rfl⟩ := given
    rw [ofDocument?, given]

/-- Where the input is a document, loading comes to the snapshot that the document is. -/
theorem load_of_isDocument (given : IsDocument input standardInputText files document) :
    load input standardInputText files =
      match ofDocument? document with
      | some snapshot => .ok snapshot
      | none => .error (.rejected .notASnapshot) := by
  obtain ⟨text, given, isRead⟩ := given
  simp only [load, given, bind, Except.bind, isRead]
  rfl

/-- A snapshot is loaded from an input that is a document with a list of threads. -/
theorem load_eq_ok_iff :
    load input standardInputText files = .ok snapshot ↔ ∃ fields records,
      IsDocument input standardInputText files (.object fields) ∧
        Table.get? "threads".toText fields = some (.list records) ∧
        snapshot = ⟨records, Document.fieldOrNull "thread_objects".toText fields⟩ := by
  constructor
  · intro loaded
    obtain ⟨text, given, loaded⟩ := Written.bind_eq_ok_iff.1 loaded
    split at loaded
    next => cases loaded
    next => cases loaded
    next document isRead =>
      split at loaded
      next found =>
        cases loaded
        obtain ⟨fields, records, rfl, listed, made⟩ := ofDocument?_eq_some_iff.1 found
        exact ⟨fields, records, ⟨text, given, isRead⟩, listed, made⟩
      next => cases loaded
  · intro given
    obtain ⟨fields, records, given, listed, made⟩ := given
    rw [load_of_isDocument given, ofDocument?_eq_some_iff.2 ⟨fields, records, rfl, listed, made⟩]

end Snapshot

/-! ## Preparation -/

theorem Snapshot.outcome_threads_given (count : Int) :
    (snapshot.threads (.given count) registry).outcome =
      (ParallelThreads.ofRecords (max count 1) registry snapshot.records).outcome.mapError
        (Stop.ofFault .threadRecord) := rfl

/-- A snapshot has groups if and only if the number of workers is known and the records can be
grouped. -/
theorem Snapshot.outcome_threads_eq_ok_iff {jobs : Setting Int} :
    (snapshot.threads jobs registry).outcome = .ok threads ↔
      ∃ count, jobs = .given count ∧
        (ParallelThreads.ofRecords (max count 1) registry snapshot.records).outcome =
          .ok threads := by
  cases jobs with
  | missing => exact ⟨nofun, nofun⟩
  | given count =>
      rw [outcome_threads_given, Written.mapError_eq_ok_iff]
      simp only [Setting.given.injEq, exists_eq_left']

/-- The groups of a snapshot; there has to be one. -/
def Snapshot.prepared (jobs : Setting Int) (snapshot : Snapshot) : Except Stop ParallelThreads := do
  let registry ← snapshot.registry.outcome
  let threads ← (snapshot.threads jobs registry).outcome
  if threads.groups.isEmpty then .error (.rejected .noStacks) else .ok threads

theorem outcome_prepare :
    (prepare invocation standardInputText files).outcome =
      Snapshot.load invocation.input standardInputText files >>=
        Snapshot.prepared invocation.options.jobs := by
  rw [prepare, Written.outcome_bind, Written.outcome_ofExcept]
  refine bind_congr fun snapshot => ?_
  rw [Written.outcome_bind]
  refine bind_congr fun registry => ?_
  rw [Written.outcome_bind]
  refine bind_congr fun threads => ?_
  split
  next => rfl
  next => rfl

/-- What a run that was prepared has found. -/
theorem outcome_prepare_eq_ok_iff :
    (prepare invocation standardInputText files).outcome = .ok threads ↔
      ∃ snapshot registry, Snapshot.load invocation.input standardInputText files = .ok snapshot ∧
        snapshot.registry.outcome = .ok registry ∧
        (snapshot.threads invocation.options.jobs registry).outcome = .ok threads ∧
        threads.groups.isEmpty = false := by
  rw [outcome_prepare]
  simp only [Snapshot.prepared, Written.bind_eq_ok_iff]
  constructor
  · intro found
    obtain ⟨snapshot, loaded, registry, named, others, grouped, last⟩ := found
    split at last
    next => contradiction
    next nonempty =>
      cases last
      exact ⟨snapshot, registry, loaded, named, grouped, Bool.eq_false_iff.2 nonempty⟩
  · intro found
    obtain ⟨snapshot, registry, loaded, named, grouped, nonempty⟩ := found
    refine ⟨snapshot, loaded, registry, named, threads, grouped, ?_⟩
    rw [nonempty]
    rfl

/-! ## The end -/

/-- What is drawn and exported is never refused. -/
theorem ending_present_ne_refused (exitCode : Nat) :
    (present options threads notices files).ending ≠ .refused exitCode := by
  rw [present]
  cases (draw options threads).outcome with
  | error fault => exact nofun
  | ok =>
      simp only
      split
      next => exact nofun
      next => exact nofun

theorem table_present :
    (present options threads notices files).table = (draw options threads).text := by
  rw [present]
  cases (draw options threads).outcome with
  | error fault => rfl
  | ok =>
      simp only
      split <;> rfl

/-- A run that was drawn and exported to the end leaves the files behind that the export does. -/
theorem files_present_of_finished
    (finished : (present options threads notices files).ending = .finished) :
    (exportGroups options threads files).fault? = none ∧
      (present options threads notices files).files =
        (exportGroups options threads files).tree := by
  rw [present] at finished ⊢
  cases drawn : (draw options threads).outcome with
  | error fault =>
      rw [drawn] at finished
      contradiction
  | ok =>
      rw [drawn] at finished
      simp only at finished ⊢
      split at finished
      next => contradiction
      next exported => exact ⟨exported, rfl⟩

theorem execute_of_prepared
    (prepared : (prepare invocation standardInputText files).outcome = .ok threads) :
    ∃ notices, execute invocation standardInputText files =
      present invocation.options threads notices files := by
  simp only [execute, prepared]
  exact ⟨_, rfl⟩

/-- A run finishes only if it was prepared. -/
theorem exists_prepared_of_finished
    (finished : (execute invocation standardInputText files).ending = .finished) :
    ∃ threads, (prepare invocation standardInputText files).outcome = .ok threads := by
  cases prepared : (prepare invocation standardInputText files).outcome with
  | ok threads => exact ⟨threads, rfl⟩
  | error stop =>
      simp only [execute, prepared] at finished
      cases stop <;> contradiction

/-- A run is refused if and only if its snapshot was rejected while it was prepared. -/
theorem ending_execute_eq_refused_iff {exitCode : Nat} :
    (execute invocation standardInputText files).ending = .refused exitCode ↔
      ∃ rejection, (prepare invocation standardInputText files).outcome =
        .error (.rejected rejection) ∧ rejection.exitCode = exitCode := by
  cases prepared : (prepare invocation standardInputText files).outcome with
  | ok threads =>
      obtain ⟨notices, presented⟩ := execute_of_prepared prepared
      rw [presented]
      exact ⟨fun refused => absurd refused (ending_present_ne_refused exitCode), nofun⟩
  | error stop =>
      simp only [execute, prepared]
      cases stop with
      | escaped fault => exact ⟨nofun, nofun⟩
      | rejected rejection =>
          constructor
          · intro refused
            exact ⟨rejection, rfl, Ending.refused.inj refused⟩
          · intro refused
            obtain ⟨other, same, exits⟩ := refused
            cases same
            exact congrArg Ending.refused exits

/-- A run that is refused has drawn nothing and left all files as they are. -/
theorem execute_of_refused {exitCode : Nat}
    (refused : (execute invocation standardInputText files).ending = .refused exitCode) :
    (execute invocation standardInputText files).table = [] ∧
      (execute invocation standardInputText files).files = files := by
  obtain ⟨rejection, prepared, -⟩ := ending_execute_eq_refused_iff.1 refused
  simp only [execute, prepared, and_self]

theorem run_of_accepted (accepted : Invocation.ofArguments arguments = .ok invocation) :
    run arguments standardInputText files = execute invocation standardInputText files := by
  rw [run, accepted]

end ThreadStacks.CommandLine
