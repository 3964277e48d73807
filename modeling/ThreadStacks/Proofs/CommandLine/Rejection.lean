import ThreadStacks.Proofs.CommandLine.Run
import ThreadStacks.Proofs.Group.Grouping
import ThreadStacks.Proofs.Thread.Record

/-!
# Rejected snapshots

A run that is refused has drawn nothing and changed no file.  That a snapshot has no stacks is the
last thing that it can be rejected for: it is found only where everything else is in order.
-/

namespace ThreadStacks.CommandLine

variable {invocation : Invocation} {standardInputText : Text} {files : FileTree}
  {snapshot : Snapshot} {registry : ThreadRegistry} {jobs : Setting Int}

/-! ## Other reasons -/

/-- A fault of the input is no lack of stacks. -/
theorem Stop.ofFault_ne_noStacks {reject : Fault → Rejection}
    (otherReason : ∀ fault, reject fault ≠ .noStacks) (fault : Fault) :
    Stop.ofFault reject fault ≠ .rejected .noStacks := by
  rw [Stop.ofFault]
  split
  next =>
    intro same
    exact otherReason fault (Stop.rejected.inj same)
  next => exact nofun

namespace Snapshot

theorem text_ne_noStacks (input : Text) :
    text input standardInputText files ≠ .error (.rejected .noStacks) := by
  rw [text]
  split
  next => exact nofun
  next => split <;> exact nofun

theorem load_ne_noStacks (input : Text) :
    load input standardInputText files ≠ .error (.rejected .noStacks) := by
  intro noStacks
  rcases Written.bind_eq_error_iff.1 noStacks with unread | ⟨text, -, refused⟩
  · exact text_ne_noStacks input unread
  · split at refused
    next => cases refused
    next => cases refused
    next =>
      split at refused
      next => cases refused
      next => cases refused

theorem outcome_registry_ne_noStacks (snapshot : Snapshot) :
    snapshot.registry.outcome ≠ .error (.rejected .noStacks) := by
  have otherReason := Stop.ofFault_ne_noStacks fun fault =>
    (nofun : Rejection.threadObjects fault ≠ .noStacks)
  rw [registry]
  split
  next => exact nofun
  next =>
    split
    next fault _ =>
      intro noStacks
      exact otherReason fault (Except.error.inj noStacks)
    next ids _ =>
      intro noStacks
      obtain ⟨fault, -, same⟩ := Written.mapError_eq_error_iff.1 noStacks
      exact otherReason fault same

theorem outcome_threads_ne_noStacks :
    (snapshot.threads jobs registry).outcome ≠ .error (.rejected .noStacks) := by
  have otherReason := Stop.ofFault_ne_noStacks fun fault =>
    (nofun : Rejection.threadRecord fault ≠ .noStacks)
  intro noStacks
  obtain ⟨fault, -, same⟩ := Written.mapError_eq_error_iff.1 noStacks
  exact otherReason fault same

/-! ## No stacks -/

/-- A snapshot has no stacks if and only if its names and its threads were read and there are no
groups. -/
theorem prepared_eq_noStacks_iff :
    prepared jobs snapshot = .error (.rejected .noStacks) ↔
      ∃ registry threads, snapshot.registry.outcome = .ok registry ∧
        (snapshot.threads jobs registry).outcome = .ok threads ∧ threads.groups = [] := by
  rw [prepared]
  constructor
  · intro noStacks
    rcases Written.bind_eq_error_iff.1 noStacks with unnamed | ⟨registry, named, noStacks⟩
    · exact absurd unnamed (outcome_registry_ne_noStacks snapshot)
    rcases Written.bind_eq_error_iff.1 noStacks with unread | ⟨threads, isRead, noStacks⟩
    · exact absurd unread outcome_threads_ne_noStacks
    split at noStacks
    next empty => exact ⟨registry, threads, named, isRead, List.isEmpty_iff.1 empty⟩
    next => contradiction
  · intro found
    obtain ⟨registry, threads, named, isRead, empty⟩ := found
    rw [named]
    change ((snapshot.threads jobs registry).outcome >>= _) = _
    rw [isRead]
    exact if_pos (List.isEmpty_iff.2 empty)

end Snapshot

/-! ## The run -/

/-- Records without stacks: each one is an object, and each live one can be read and has no frame
that belongs to a managed method. -/
structure Snapshot.HasNoStacks (registry : ThreadRegistry) (records : List Document) : Prop where
  objects : ∀ record ∈ records, ∃ fields, record = .object fields
  readable : ∀ record ∈ records, ThreadRecord.isLive record = true →
    ∃ thread, ThreadRecord.outcome registry record = .ok thread
  noMethods : ∀ record ∈ records, ThreadRecord.isLive record = true →
    ThreadRecord.hasMethod record = false

/-- Records can be grouped to nothing if and only if they have no stacks. -/
theorem Snapshot.exists_no_groups_iff {count : Int} {records : List Document} :
    (∃ threads, (ParallelThreads.ofRecords count registry records).outcome = .ok threads ∧
      threads.groups = []) ↔ HasNoStacks registry records := by
  simp only [ParallelThreads.outcome_ofRecords_eq_ok_iff]
  constructor
  · intro found
    obtain ⟨_, ⟨objects, threads, isRead, rfl⟩, noGroups⟩ := found
    have allEmpty := (Grouping.groupsWith_eq_nil_iff _ _).1 noGroups
    refine ⟨objects, ?_, ?_⟩
    · intro record member live
      obtain ⟨thread, -, readable⟩ :=
        ParallelThreads.exists_thread_of_mem isRead (List.mem_filter.2 ⟨member, live⟩)
      exact ⟨thread, readable⟩
    · intro record member live
      obtain ⟨thread, listed, readable⟩ :=
        ParallelThreads.exists_thread_of_mem isRead (List.mem_filter.2 ⟨member, live⟩)
      have empty := ThreadRecord.frames_isEmpty_of_outcome readable
      rwa [allEmpty thread listed, eq_comm, Bool.not_eq_true'] at empty
  · intro noStacks
    have allRead : ∀ record ∈ records.filter ThreadRecord.isLive,
        ∃ thread, ThreadRecord.outcome registry record = .ok thread := by
      intro record member
      rw [List.mem_filter] at member
      exact noStacks.readable record member.1 member.2
    obtain ⟨threads, isRead⟩ := Written.exists_firstFaultOrAll_eq_ok_iff.2 allRead
    rw [Written.firstFaultOrAll_eq_ok_iff] at isRead
    refine ⟨⟨Grouping.groups threads⟩, ⟨noStacks.objects, threads, isRead, rfl⟩, ?_⟩
    apply (Grouping.groupsWith_eq_nil_iff _ _).2
    intro thread listed
    obtain ⟨record, member, readable⟩ := ParallelThreads.exists_record_of_mem isRead listed
    rw [List.mem_filter] at member
    have noMethod := noStacks.noMethods record member.1 member.2
    rw [ThreadRecord.frames_isEmpty_of_outcome readable, noMethod]
    rfl

/-- The exit code of a snapshot without stacks is its own. -/
theorem Rejection.exitCode_eq_one_iff {rejection : Rejection} :
    rejection.exitCode = 1 ↔ rejection = .noStacks := by
  cases rejection with
  | noStacks => exact ⟨fun _ => rfl, fun _ => rfl⟩
  | _ => exact ⟨nofun, nofun⟩

/-- A run is refused with the exit code one if and only if the number of workers is known, the input
is a document with a list of threads, their names can be discovered, and there are no stacks. -/
theorem ending_execute_eq_refused_one_iff :
    (execute invocation standardInputText files).ending = .refused 1 ↔
      ∃ count fields records registry, invocation.options.jobs = .given count ∧
        Snapshot.IsDocument invocation.input standardInputText files (.object fields) ∧
        Table.get? "threads".toText fields = some (.list records) ∧
        (Snapshot.mk records
          (Document.fieldOrNull "thread_objects".toText fields)).registry.outcome =
            .ok registry ∧
        Snapshot.HasNoStacks registry records := by
  simp only [ending_execute_eq_refused_iff, Rejection.exitCode_eq_one_iff, exists_eq_right,
    outcome_prepare]
  constructor
  · intro noStacks
    rcases Written.bind_eq_error_iff.1 noStacks with unloaded | ⟨snapshot, loaded, noStacks⟩
    · exact absurd unloaded (Snapshot.load_ne_noStacks _)
    obtain ⟨fields, records, given, listed, rfl⟩ := Snapshot.load_eq_ok_iff.1 loaded
    obtain ⟨registry, threads, named, grouped, noGroups⟩ :=
      Snapshot.prepared_eq_noStacks_iff.1 noStacks
    obtain ⟨count, counted, grouped⟩ := Snapshot.outcome_threads_eq_ok_iff.1 grouped
    exact ⟨count, fields, records, registry, counted, given, listed, named,
      Snapshot.exists_no_groups_iff.1 ⟨threads, grouped, noGroups⟩⟩
  · intro found
    obtain ⟨count, fields, records, registry, counted, given, listed, named, noStacks⟩ := found
    apply Written.bind_eq_error_iff.2
    refine .inr ⟨_, Snapshot.load_eq_ok_iff.2 ⟨fields, records, given, listed, rfl⟩, ?_⟩
    apply Snapshot.prepared_eq_noStacks_iff.2
    obtain ⟨threads, grouped, noGroups⟩ := Snapshot.exists_no_groups_iff.2 noStacks
    exact ⟨registry, threads, named,
      Snapshot.outcome_threads_eq_ok_iff.2 ⟨count, counted, grouped⟩, noGroups⟩

/-- A run that is refused leaves no trace: nothing was drawn and no file was changed.  For a command
line that was understood, the exit code is one if and only if the number of workers is known, the
input is a document with a list of threads, the names of the threads can be discovered, every record
is an object, and every live record can be read and has no frame that belongs to a managed
method. -/
theorem run_of_refused (arguments : List Text) (standardInputText : Text) (files : FileTree) :
    let report := run arguments standardInputText files
    (∀ exitCode, report.ending = .refused exitCode → report.table = [] ∧ report.files = files) ∧
      ∀ invocation, Invocation.ofArguments arguments = .ok invocation →
        (report.ending = .refused 1 ↔
          ∃ count fields records registry, invocation.options.jobs = .given count ∧
            Snapshot.IsDocument invocation.input standardInputText files (.object fields) ∧
            Table.get? "threads".toText fields = some (.list records) ∧
            (Snapshot.mk records
              (Document.fieldOrNull "thread_objects".toText fields)).registry.outcome =
                .ok registry ∧
            Snapshot.HasNoStacks registry records) := by
  intro report
  refine ⟨?_, ?_⟩
  · intro exitCode refused
    simp only [report, run] at refused ⊢
    split at refused
    next => contradiction
    next => exact ⟨rfl, rfl⟩
    next => exact execute_of_refused refused
  · intro invocation accepted
    rw [show report = execute invocation standardInputText files from run_of_accepted accepted]
    exact ending_execute_eq_refused_one_iff

/-- Without a number of workers, which two dashes in its place leave, a snapshot without stacks is
refused for another reason: the number is asked for before any record is. -/
theorem not_forall_ending_eq_refused_one_iff :
    ¬ ∀ (arguments : List Text) (standardInputText : Text) (files : FileTree)
      (invocation : Invocation), Invocation.ofArguments arguments = .ok invocation →
        ((run arguments standardInputText files).ending = .refused 1 ↔
          ∃ fields records registry,
            Snapshot.IsDocument invocation.input standardInputText files (.object fields) ∧
            Table.get? "threads".toText fields = some (.list records) ∧
            (Snapshot.mk records
              (Document.fieldOrNull "thread_objects".toText fields)).registry.outcome =
                .ok registry ∧
            Snapshot.HasNoStacks registry records) := by
  intro always
  let arguments := ["-".toText, "-j--".toText]
  let text := "\x7b\"threads\": []\x7d".toText
  let fields : Document.Fields := [("threads".toText, .list [])]
  have accepted : Invocation.ofArguments arguments = .ok ⟨"-".toText, { jobs := .missing }⟩ := rfl
  have refused : (run arguments text (FileTree.empty [])).ending = .refused 2 := by
    decide +kernel
  have noStacks : Snapshot.HasNoStacks .empty [] := ⟨nofun, nofun, nofun⟩
  have expected := (always arguments text (FileTree.empty []) _ accepted).2
    ⟨fields, [], .empty, ⟨text, rfl, rfl⟩, rfl, rfl, noStacks⟩
  rw [refused] at expected
  contradiction

end ThreadStacks.CommandLine
