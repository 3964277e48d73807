import ThreadStacks.Proofs.CommandLine.Discovery
import ThreadStacks.Proofs.CommandLine.Run
import ThreadStacks.Proofs.Document.Refusal
import ThreadStacks.Proofs.Render.DrawingFault
import ThreadStacks.Proofs.Thread.Infinite

/-!
# Faults that nothing reports

A run for a snapshot on the standard input reports what is wrong with the snapshot, with four
exceptions: a text beyond a limit of the reader, an infinite number where an integer is asked for,
an exception with a part that has no length, and a half in a text that is drawn.  The last two show
only when the table has been begun.
-/

namespace ThreadStacks.CommandLine

open Written

variable {text : Text} {files : FileTree} {snapshot : Snapshot} {registry : ThreadRegistry}
  {threads : ParallelThreads} {fault : Fault} {notices : List Notice}

/-- Whether a run comes to its end, or is refused with a report and without a table. -/
def Report.IsOrderly (report : Report) : Prop :=
  report.ending = .finished ∨
    (report.ending = .refused 1 ∨ report.ending = .refused 2) ∧ report.table = []

/-! ## Faults of a snapshot -/

/-- A fault escapes only if it does not condemn the snapshot. -/
theorem Stop.ofFault_eq_escaped_iff {reject : Fault → Rejection} {other : Fault} :
    Stop.ofFault reject fault = .escaped other ↔
      fault = other ∧ fault.kind.rejectsSnapshot = false := by
  rw [Stop.ofFault]
  split
  next rejects =>
    rw [rejects]
    exact ⟨nofun, nofun⟩
  next escapes =>
    rw [Stop.escaped.injEq, Bool.eq_false_iff]
    exact (and_iff_left escapes).symm

/-- Of what may be wrong with a snapshot, only an infinite number escapes. -/
theorem mapError_eq_escaped_iff {Result : Type} {reject : Fault → Rejection} {infinite : Prop}
    {outcome : Except Fault Result} (fails : FailsWithin (Fault.RejectsUnless infinite) outcome) :
    outcome.mapError (Stop.ofFault reject) = .error (.escaped fault) ↔
      fault = .infiniteInteger ∧ outcome = .error .infiniteInteger := by
  rw [mapError_eq_error_iff]
  simp only [Stop.ofFault_eq_escaped_iff]
  constructor
  · rintro ⟨other, given, rfl, escapes⟩
    rcases fails other given with rejects | ⟨rfl, -⟩
    · rw [escapes] at rejects
      contradiction
    · exact ⟨rfl, given⟩
  · rintro ⟨rfl, given⟩
    exact ⟨_, given, rfl, rfl⟩

namespace Snapshot

/-- Whether a text is a snapshot. -/
def IsWritten (text : Text) (snapshot : Snapshot) : Prop :=
  ∃ document, Document.read text = .ok document ∧ ofDocument? document = some snapshot

/-- Whether an infinite number is the first thing that is wrong when the names of the threads are
read. -/
def FailsForInfiniteName (snapshot : Snapshot) : Prop :=
  snapshot.threadObjects.isTruthy = true ∧
    (liveIds snapshot.records = .error .infiniteInteger ∨
      ∃ ids, liveIds snapshot.records = .ok ids ∧
        (ThreadRegistry.scanDocument ThreadRegistry.threadType (some ids) snapshot.threadObjects
          []).names = .error .infiniteInteger)

/-- Whether a snapshot has an infinite number where an integer may be asked for: in a live record,
or in a thread object. -/
def HasInfinite (snapshot : Snapshot) : Prop :=
  ThreadRecord.LiveHasInfinite snapshot.records ∨
    ThreadRegistry.HasInfinite snapshot.threadObjects

theorem failsWithin_liveIds (records : List Document) :
    FailsWithin (Fault.RejectsUnless (ThreadRecord.LiveHasInfinite records))
      (liveIds records) := by
  induction records with
  | nil => exact .ok []
  | cons record records ih =>
      have later : FailsWithin (Fault.RejectsUnless (ThreadRecord.LiveHasInfinite
          (record :: records))) (liveIds records) := by
        refine ih.mono (Fault.RejectsUnless.mono ?_)
        rintro ⟨fields, member, live, isInfinite⟩
        exact ⟨fields, List.mem_cons_of_mem _ member, live, isInfinite⟩
      cases record with
      | object fields =>
          rw [liveIds_cons_object]
          split
          next managedId live given =>
            refine FailsWithin.bind ?_ fun id => later.bind fun others => .ok _
            refine (Document.failsWithin_toInteger managedId).mono (Fault.RejectsUnless.mono ?_)
            intro isInfinite
            exact ⟨fields, List.mem_cons_self, live, _, List.mem_cons_self, managedId, given,
              isInfinite⟩
          next => exact later
      | _ => exact .error (.inl rfl)

/-- Reading the names ends with a fault that escapes if and only if an infinite number is the first
thing that is wrong then. -/
theorem outcome_registry_eq_escaped_iff :
    snapshot.registry.outcome = .error (.escaped fault) ↔
      fault = .infiniteInteger ∧ snapshot.FailsForInfiniteName := by
  rw [Snapshot.registry, FailsForInfiniteName]
  cases snapshot.threadObjects.isTruthy with
  | false =>
      constructor
      · intro ends
        contradiction
      · rintro ⟨-, isTruthy, -⟩
        contradiction
  | true =>
      rw [if_neg (by decide)]
      cases asked : liveIds snapshot.records with
      | error other =>
          have fails : FailsWithin _ (.error other : Except Fault ThreadRegistry) :=
            .error (failsWithin_liveIds snapshot.records other asked)
          change Except.mapError _ (.error other) = _ ↔ _
          rw [mapError_eq_escaped_iff fails]
          simp
      | ok ids =>
          have fails := ThreadRegistry.failsWithin_scanDocument ThreadRegistry.threadType (some ids)
            snapshot.threadObjects []
          change Except.mapError _ (Except.map _ _) = _ ↔ _
          rw [mapError_eq_escaped_iff fails.map, map_eq_error_iff]
          simp

theorem hasInfinite_of_failsForInfiniteName (fails : snapshot.FailsForInfiniteName) :
    snapshot.HasInfinite := by
  rcases fails.2 with inIds | ⟨ids, -, inObjects⟩
  · rcases failsWithin_liveIds snapshot.records _ inIds with rejects | ⟨-, isInfinite⟩
    · contradiction
    · exact .inl isInfinite
  · rcases ThreadRegistry.failsWithin_scanDocument _ _ _ _ _ inObjects with
      rejects | ⟨-, isInfinite⟩
    · contradiction
    · exact .inr isInfinite

/-- Reading the records ends with a fault that escapes if and only if an infinite number is the
first thing that is wrong then. -/
theorem outcome_threads_eq_escaped_iff :
    (snapshot.threads (.given 1) registry).outcome = .error (.escaped fault) ↔
      fault = .infiniteInteger ∧
        (ParallelThreads.ofRecords 1 registry snapshot.records).outcome =
          .error .infiniteInteger := by
  rw [outcome_threads_given]
  exact mapError_eq_escaped_iff (ParallelThreads.failsWithin_ofRecords _ _ _)

theorem hasInfinite_of_outcome_ofRecords
    (fails : (ParallelThreads.ofRecords 1 registry snapshot.records).outcome =
      .error .infiniteInteger) : snapshot.HasInfinite := by
  rcases ParallelThreads.failsWithin_ofRecords _ _ _ _ fails with rejects | ⟨-, isInfinite⟩
  · contradiction
  · exact .inl isInfinite

theorem load_standardInput :
    load standardInput text files =
      match Document.read text with
      | .error .malformed => .error (.rejected .malformed)
      | .error (.refused fault) => .error (.escaped fault)
      | .ok document =>
          match ofDocument? document with
          | some snapshot => .ok snapshot
          | none => .error (.rejected .notASnapshot) := rfl

theorem load_standardInput_eq_escaped_iff :
    load standardInput text files = .error (.escaped fault) ↔
      Document.read text = .error (.refused fault) := by
  rw [load_standardInput]
  cases Document.read text with
  | error error =>
      cases error with
      | malformed => exact ⟨nofun, nofun⟩
      | refused other => simp
  | ok document =>
      simp only
      split
      next => exact ⟨nofun, nofun⟩
      next => exact ⟨nofun, nofun⟩

theorem load_standardInput_eq_ok_iff :
    load standardInput text files = .ok snapshot ↔ IsWritten text snapshot := by
  rw [load_standardInput, IsWritten]
  cases Document.read text with
  | error error => cases error <;> simp
  | ok document =>
      simp only
      split
      next found => simp [found]
      next absent => simp [absent]

end Snapshot

/-! ## The run -/

/-- Why a run for a text on the standard input ends with a fault that nothing reports. -/
inductive EscapesWith (text : Text) : Fault → Prop where
  /-- The text goes beyond a limit of the reader. -/
  | unread {fault : Fault} (refused : Document.read text = .error (.refused fault)) :
      EscapesWith text fault
  /-- An infinite number keeps the names of the threads from being read. -/
  | infiniteName {snapshot : Snapshot} (written : Snapshot.IsWritten text snapshot)
      (fails : snapshot.FailsForInfiniteName) : EscapesWith text .infiniteInteger
  /-- An infinite number keeps the threads from being read. -/
  | infiniteNumber {snapshot : Snapshot} {registry : ThreadRegistry}
      (written : Snapshot.IsWritten text snapshot)
      (named : snapshot.registry.outcome = .ok registry)
      (fails : (ParallelThreads.ofRecords 1 registry snapshot.records).outcome =
        .error .infiniteInteger) : EscapesWith text .infiniteInteger
  /-- A part of a group cannot be drawn: it has no length, or it is a text with a half in it. -/
  | undrawable {fault : Fault} {snapshot : Snapshot} {registry : ThreadRegistry}
      {threads : ParallelThreads} (written : Snapshot.IsWritten text snapshot)
      (named : snapshot.registry.outcome = .ok registry)
      (grouped : (ParallelThreads.ofRecords 1 registry snapshot.records).outcome = .ok threads)
      (fails : threads.groups.findSome? ThreadGroup.drawingFault? = some fault) :
      EscapesWith text fault

/-- The command line with the standard input and no options. -/
def Invocation.standardInput : Invocation := ⟨Snapshot.standardInput, {}⟩

theorem draw_standardInput (threads : ParallelThreads) :
    draw {} threads = ((Renderer.mk true false 100).writeTable threads none).encoded :=
  congrArg Written.encoded (rfl : drawAll {} threads = (Renderer.mk true false 100).writeTable _ _)

/-- How a run ends that was prepared. -/
theorem ending_present_standardInput (threads : ParallelThreads) (notices : List Notice)
    (files : FileTree) :
    (present {} threads notices files).ending =
      match threads.groups.findSome? ThreadGroup.drawingFault? with
      | none => .finished
      | some fault => .escaped fault := by
  have drawn : (draw {} threads).fault? = threads.groups.findSome? ThreadGroup.drawingFault? := by
    rw [draw_standardInput]
    exact @Renderer.endsWith_writeTable ⟨true, false, 100⟩ rfl rfl threads none
  rw [← drawn, present, Written.fault?]
  cases (draw {} threads).outcome with
  | ok => rfl
  | error fault => rfl

theorem outcome_prepare_standardInput_eq_escaped_iff :
    (prepare .standardInput text files).outcome = .error (.escaped fault) ↔
      Document.read text = .error (.refused fault) ∨
        ∃ snapshot, Snapshot.IsWritten text snapshot ∧
          (fault = .infiniteInteger ∧ snapshot.FailsForInfiniteName ∨
            ∃ registry, snapshot.registry.outcome = .ok registry ∧ fault = .infiniteInteger ∧
              (ParallelThreads.ofRecords 1 registry snapshot.records).outcome =
                .error .infiniteInteger) := by
  have noStacks (threads : ParallelThreads) :
      ((if threads.groups.isEmpty then .error (.rejected .noStacks) else .ok threads :
        Except Stop ParallelThreads) = .error (.escaped fault)) ↔ False := by
    split
    next => exact ⟨nofun, nofun⟩
    next => exact ⟨nofun, nofun⟩
  rw [outcome_prepare]
  simp only [Snapshot.prepared, Written.bind_eq_error_iff, Invocation.standardInput,
    Snapshot.load_standardInput_eq_escaped_iff, Snapshot.load_standardInput_eq_ok_iff,
    Snapshot.outcome_registry_eq_escaped_iff, Snapshot.outcome_threads_eq_escaped_iff, noStacks,
    and_false, exists_false, or_false]

theorem outcome_prepare_standardInput_eq_ok_iff :
    (prepare .standardInput text files).outcome = .ok threads ↔
      ∃ snapshot registry, Snapshot.IsWritten text snapshot ∧
        snapshot.registry.outcome = .ok registry ∧
        (ParallelThreads.ofRecords 1 registry snapshot.records).outcome = .ok threads ∧
        threads.groups.isEmpty = false := by
  rw [outcome_prepare_eq_ok_iff]
  simp only [Invocation.standardInput, Snapshot.load_standardInput_eq_ok_iff,
    Snapshot.outcome_threads_given, mapError_eq_ok_iff]
  rfl

/-- A fault before the drawing ends the run without a table. -/
theorem execute_of_escaped {invocation : Invocation}
    (prepared : (prepare invocation text files).outcome = .error (.escaped fault)) :
    (execute invocation text files).ending = .escaped fault ∧
      (execute invocation text files).table = [] := by
  simp only [execute, prepared, and_self]

theorem drawingFault?_mem
    (fails : threads.groups.findSome? ThreadGroup.drawingFault? = some fault) :
    fault ∈ [.notMeasurable, .notEncodable] := by
  obtain ⟨group, -, fails⟩ := List.exists_of_findSome?_eq_some fails
  exact group.drawingFault?_mem fails

/-- A fault that nothing reports either ends the preparation, or shows in the drawing. -/
theorem EscapesWith.outcome_prepare (reason : EscapesWith text fault) (files : FileTree) :
    (prepare .standardInput text files).outcome = .error (.escaped fault) ∧
        fault ∈ [.integerTooLong, .nestingTooDeep, .infiniteInteger] ∨
      ∃ threads, (prepare .standardInput text files).outcome = .ok threads ∧
        threads.groups.findSome? ThreadGroup.drawingFault? = some fault := by
  cases reason with
  | unread refused =>
      refine .inl ⟨outcome_prepare_standardInput_eq_escaped_iff.2 (.inl refused), ?_⟩
      rcases Document.eq_of_read_eq_refused refused with rfl | rfl
      · decide
      · decide
  | infiniteName written fails =>
      refine .inl ⟨outcome_prepare_standardInput_eq_escaped_iff.2 (.inr ?_), by decide⟩
      exact ⟨_, written, .inl ⟨rfl, fails⟩⟩
  | infiniteNumber written named fails =>
      refine .inl ⟨outcome_prepare_standardInput_eq_escaped_iff.2 (.inr ?_), by decide⟩
      exact ⟨_, written, .inr ⟨_, named, rfl, fails⟩⟩
  | @undrawable _ snapshot registry threads written named grouped fails =>
      have nonempty : threads.groups.isEmpty = false := by
        rw [List.isEmpty_eq_false_iff]
        intro empty
        rw [empty] at fails
        contradiction
      refine .inr ⟨threads, outcome_prepare_standardInput_eq_ok_iff.2 ?_, fails⟩
      exact ⟨snapshot, registry, written, named, grouped, nonempty⟩

/-- The table of a run that was prepared is begun, because the overview has no half in it. -/
theorem table_present_standardInput_ne_nil :
    (present {} threads notices files).table ≠ [] := by
  have overview := Renderer.isEncodable_shownRows_overviewRows threads.threadCount
    threads.uniqueStacks
  rw [← @Renderer.all_isEncodable_paintedRows ⟨true, false, 100⟩] at overview
  rw [table_present, draw_standardInput, Renderer.writeTable, Renderer.writeOverview_eq,
    encoded_bind, encoded_tell_of_isEncodable overview, tell_bind, Written.text,
    List.flatten_append]
  exact List.append_ne_nil_of_left_ne_nil
    (Renderer.flatten_paintedRows_overviewRows_ne_nil _ _) _

theorem run_standardInput :
    run [Snapshot.standardInput] text files = execute .standardInput text files := rfl

/-- A run for a text on the standard input ends with a fault that nothing reports if and only if
there is a reason for that. -/
theorem ending_run_standardInput_eq_escaped_iff :
    (run [Snapshot.standardInput] text files).ending = .escaped fault ↔
      EscapesWith text fault := by
  rw [run_standardInput]
  constructor
  · intro escapes
    cases prepared : (prepare .standardInput text files).outcome with
    | error stop =>
        simp only [execute, prepared] at escapes
        cases stop with
        | rejected => contradiction
        | escaped other =>
            cases escapes
            rcases outcome_prepare_standardInput_eq_escaped_iff.1 prepared with
              refused | ⟨snapshot, written, ⟨rfl, fails⟩ | ⟨registry, named, rfl, fails⟩⟩
            · exact .unread refused
            · exact .infiniteName written fails
            · exact .infiniteNumber written named fails
    | ok threads =>
        obtain ⟨notices, presented⟩ := execute_of_prepared prepared
        obtain ⟨snapshot, registry, written, named, grouped, -⟩ :=
          outcome_prepare_standardInput_eq_ok_iff.1 prepared
        rw [presented] at escapes
        have ends := escapes.symm.trans (ending_present_standardInput threads notices files)
        cases fails : threads.groups.findSome? ThreadGroup.drawingFault? with
        | none =>
            rw [fails] at ends
            contradiction
        | some other =>
            rw [fails] at ends
            cases ends
            exact .undrawable written named grouped fails
  · intro reason
    rcases reason.outcome_prepare files with ⟨prepared, -⟩ | ⟨threads, prepared, fails⟩
    · exact (execute_of_escaped prepared).1
    · obtain ⟨notices, presented⟩ := execute_of_prepared prepared
      have ends := ending_present_standardInput threads notices files
      rw [fails] at ends
      rw [presented]
      exact ends

/-- A run that ends with a fault has begun a table only if it was drawing. -/
theorem EscapesWith.table_run_standardInput (reason : EscapesWith text fault) (files : FileTree) :
    (run [Snapshot.standardInput] text files).table = [] ↔
      fault ∉ [.notMeasurable, .notEncodable] := by
  rw [CommandLine.run_standardInput]
  rcases reason.outcome_prepare files with ⟨prepared, known⟩ | ⟨threads, prepared, fails⟩
  · have apart : ∀ fault ∈ [Fault.integerTooLong, .nestingTooDeep, .infiniteInteger],
        fault ∉ [.notMeasurable, .notEncodable] := by decide
    exact iff_of_true (execute_of_escaped prepared).2 (apart fault known)
  · obtain ⟨notices, presented⟩ := execute_of_prepared prepared
    rw [presented]
    exact iff_of_false table_present_standardInput_ne_nil
      fun notDrawing => notDrawing (drawingFault?_mem fails)

/-- Where the fault is that of an infinite number, the snapshot has one. -/
theorem EscapesWith.hasInfinite (reason : EscapesWith text .infiniteInteger) :
    ∃ snapshot, Snapshot.IsWritten text snapshot ∧ snapshot.HasInfinite := by
  cases reason with
  | unread refused =>
      rcases Document.eq_of_read_eq_refused refused with same | same
      · contradiction
      · contradiction
  | infiniteName written fails =>
      exact ⟨_, written, Snapshot.hasInfinite_of_failsForInfiniteName fails⟩
  | infiniteNumber written named fails =>
      exact ⟨_, written, Snapshot.hasInfinite_of_outcome_ofRecords fails⟩
  | undrawable written named grouped fails =>
      have drawing := drawingFault?_mem fails
      contradiction

theorem Rejection.exitCode_eq_one_or_two (rejection : Rejection) :
    rejection.exitCode = 1 ∨ rejection.exitCode = 2 := by
  cases rejection with
  | noStacks => exact .inl rfl
  | _ => exact .inr rfl

/-- A run for a text on the standard input ends in order, or with a fault. -/
theorem isOrderly_or_escaped (text : Text) (files : FileTree) :
    (run [Snapshot.standardInput] text files).IsOrderly ∨
      ∃ fault, (run [Snapshot.standardInput] text files).ending = .escaped fault := by
  rw [run_standardInput]
  cases prepared : (prepare .standardInput text files).outcome with
  | error stop =>
      cases stop with
      | rejected rejection =>
          refine .inl (.inr ?_)
          simp only [execute, prepared, Ending.refused.injEq, and_true]
          exact rejection.exitCode_eq_one_or_two
      | escaped fault => exact .inr ⟨fault, (execute_of_escaped prepared).1⟩
  | ok threads =>
      obtain ⟨notices, presented⟩ := execute_of_prepared prepared
      have ends := ending_present_standardInput threads notices files
      rw [presented]
      split at ends
      next => exact .inl (.inl ends)
      next => exact .inr ⟨_, ends⟩

/-- A run for a text on the standard input ends in order unless there is a reason for a fault that
nothing reports: the text goes beyond a limit of the reader, or has an infinite number where an
integer is asked for, or an exception with a part that has no length, or a half in a text that is
drawn.  In the last two cases alone the table has been begun. -/
theorem isOrderly_run_standardInput_iff (text : Text) (files : FileTree) :
    let report := run [Snapshot.standardInput] text files
    (report.IsOrderly ↔ ∀ fault, ¬EscapesWith text fault) ∧
      (∀ fault, report.ending = .escaped fault ↔ EscapesWith text fault) ∧
      ∀ fault, EscapesWith text fault →
        fault ∈ [.integerTooLong, .nestingTooDeep, .infiniteInteger, .notMeasurable,
            .notEncodable] ∧
          (report.table = [] ↔ fault ∉ [.notMeasurable, .notEncodable]) ∧
          (fault = .infiniteInteger → ∃ snapshot,
            Snapshot.IsWritten text snapshot ∧ snapshot.HasInfinite) := by
  intro report
  have escapes (fault : Fault) : report.ending = .escaped fault ↔ EscapesWith text fault :=
    ending_run_standardInput_eq_escaped_iff
  refine ⟨⟨?_, ?_⟩, escapes, ?_⟩
  · intro inOrder fault reason
    have ends := (escapes fault).2 reason
    rcases inOrder with finished | ⟨refused | refused, -⟩
    · rw [finished] at ends
      contradiction
    · rw [refused] at ends
      contradiction
    · rw [refused] at ends
      contradiction
  · intro noReason
    rcases isOrderly_or_escaped text files with inOrder | ⟨fault, ends⟩
    · exact inOrder
    · exact absurd ((escapes fault).1 ends) (noReason fault)
  · intro fault reason
    refine ⟨?_, ?_, ?_⟩
    · rcases reason.outcome_prepare files with ⟨-, known⟩ | ⟨threads, -, fails⟩
      · exact List.mem_append_left [.notMeasurable, .notEncodable] known
      · exact List.mem_append_right [.integerTooLong, .nestingTooDeep, .infiniteInteger]
          (drawingFault?_mem fails)
    · exact reason.table_run_standardInput files
    · rintro rfl
      exact reason.hasInfinite

/-- The only frame has a half in it, which shows when its line is drawn. -/
example :
    let text := "\x7b\"threads\":[\x7b\"managed_id\":1,\"frames\":[\"\\ud800\"]\x7d]\x7d".toText
    (run [Snapshot.standardInput] text (FileTree.empty [])).ending = .escaped .notEncodable := by
  decide +kernel

/-- A managed id that is too large for a binary number ends a run with a fault. -/
theorem not_forall_isOrderly :
    ¬∀ (text : Text) (files : FileTree), (run [Snapshot.standardInput] text files).IsOrderly := by
  intro always
  let text := "\x7b\"threads\":[\x7b\"managed_id\":1e400\x7d]\x7d".toText
  have ends : (run [Snapshot.standardInput] text (FileTree.empty [])).ending =
      .escaped .infiniteInteger := by decide +kernel
  rcases always text (FileTree.empty []) with finished | ⟨refused | refused, -⟩
  · rw [finished] at ends
    contradiction
  · rw [refused] at ends
    contradiction
  · rw [refused] at ends
    contradiction

end ThreadStacks.CommandLine
