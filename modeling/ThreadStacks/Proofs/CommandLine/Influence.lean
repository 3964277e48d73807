import ThreadStacks.Proofs.CommandLine.Essence
import ThreadStacks.Proofs.CommandLine.Export
import ThreadStacks.Proofs.CommandLine.FileShape

/-!
# What has no influence on a run

Two runs with the same arguments on snapshots that differ only in dead records and native frames
cannot be told apart, as long as neither raw frames nor notes are asked for: they draw the same
table, print the same notices, end alike and export the same text.

Notices are the same by the causes of faults.  Where the runtime words a fault, the words are not
part of a notice (`Fault.message?`), so it is not proved that they are the same: they are as far as
they depend on the cause and on the value at fault, which both runs take from a live record or from
the thread objects.
-/

namespace ThreadStacks.CommandLine

/-- Two reports that tell the same, up to the texts of the files that are left behind. -/
structure Report.Agrees (first second : Report) : Prop where
  table : first.table = second.table
  notices : first.notices = second.notices
  ending : first.ending = second.ending
  shape : first.files.blank = second.files.blank

variable {invocation : Invocation} {options : Options} {threads others : ParallelThreads}
  {notices : List Notice} {standardInputText otherInputText : Text} {files otherFiles : FileTree}

/-! ## Preparing -/

/-- Inputs that are equal in what counts are prepared to the same groups but for the raw frames. -/
theorem map_withoutRaw_outcome_prepare {document otherDocument : Document}
    (given : Snapshot.IsDocument invocation.input standardInputText files document)
    (otherGiven : Snapshot.IsDocument invocation.input otherInputText otherFiles otherDocument)
    (same : Snapshot.documentEssence document = Snapshot.documentEssence otherDocument) :
    (prepare invocation standardInputText files).outcome.map ParallelThreads.withoutRaw =
      (prepare invocation otherInputText otherFiles).outcome.map ParallelThreads.withoutRaw := by
  have sameSnapshot := congrArg Snapshot.ofDocument? same
  rw [Snapshot.ofDocument?_documentEssence, Snapshot.ofDocument?_documentEssence] at sameSnapshot
  rw [outcome_prepare, outcome_prepare, Snapshot.load_of_isDocument given,
    Snapshot.load_of_isDocument otherGiven]
  cases found : Snapshot.ofDocument? document with
  | none =>
      cases otherFound : Snapshot.ofDocument? otherDocument with
      | none => rfl
      | some => rw [found, otherFound] at sameSnapshot; contradiction
  | some snapshot =>
      cases otherFound : Snapshot.ofDocument? otherDocument with
      | none => rw [found, otherFound] at sameSnapshot; contradiction
      | some other =>
          rw [found, otherFound] at sameSnapshot
          have essences : snapshot.essence = other.essence := Option.some.inj sameSnapshot
          change (Snapshot.prepared _ snapshot).map _ = (Snapshot.prepared _ other).map _
          rw [← Snapshot.map_withoutRaw_prepared_essence, essences,
            Snapshot.map_withoutRaw_prepared_essence]

/-! ## Drawing and exporting -/

theorem drawAll_withoutRaw (plain : options.raw = false) (threads : ParallelThreads) :
    drawAll options threads.withoutRaw = drawAll options threads := by
  rw [drawAll, drawAll]
  refine bind_congr fun width => Written.bind_congr_of_outcome fun renderer created => ?_
  have noRaw : renderer.rawFrames = false := by
    rw [Written.outcome_ofExcept, Renderer.create, plain] at created
    split at created
    next => contradiction
    next =>
      split at created
      next => contradiction
      next =>
        cases created
        rfl
  rw [Renderer.writeOverview_withoutRaw]
  refine bind_congr fun _ => bind_congr fun limit => ?_
  exact Renderer.writeGroups_withoutRaw noRaw threads limit

theorem exportGroups_withoutRaw (threads : ParallelThreads) (files : FileTree) :
    exportGroups options threads.withoutRaw files = exportGroups options threads files := by
  rw [exportGroups, ParallelThreads.toDocument_withoutRaw, exportGroups]

/-- What is presented does not show the raw frames. -/
theorem present_withoutRaw (plain : options.raw = false) (threads : ParallelThreads) :
    present options threads.withoutRaw notices files = present options threads notices files := by
  rw [present, draw, drawAll_withoutRaw plain, exportGroups_withoutRaw, ← draw, ← present]

/-- Saving a document leaves files of one shape in one shape. -/
theorem FileTree.blank_saveDocument (shape : files.blank = otherFiles.blank) (path : Path)
    (document : Document) :
    (files.saveDocument path document).blank = (otherFiles.saveDocument path document).blank := by
  have saved := fun text => FileTree.blank_save_eq shape path text text
  simp only [saveDocument, Change.blank, Change.mk.injEq] at saved ⊢
  rw [(saved _).1, (saved _).2]
  exact ⟨rfl, rfl⟩

/-- An export leaves files of one shape in one shape. -/
theorem blank_exportGroups (shape : files.blank = otherFiles.blank) :
    (exportGroups options threads files).blank =
      (exportGroups options threads otherFiles).blank := by
  have unchanged : (Change.mk files none).blank = (Change.mk otherFiles none).blank :=
    congrArg (Change.mk · none) shape
  rw [exportGroups, exportGroups]
  cases options.exportPath with
  | none => exact unchanged
  | some path =>
      simp only
      split
      next => exact unchanged
      next => exact FileTree.blank_saveDocument shape path threads.toDocument

theorem present_agrees (shape : files.blank = otherFiles.blank) :
    (present options threads notices files).Agrees
      (present options threads notices otherFiles) := by
  have exported : (exportGroups options threads files).blank =
      (exportGroups options threads otherFiles).blank := blank_exportGroups shape
  rw [present, present]
  cases (draw options threads).outcome with
  | error fault => exact ⟨rfl, rfl, rfl, shape⟩
  | ok =>
      generalize exportGroups options threads files = change at exported ⊢
      generalize exportGroups options threads otherFiles = otherChange at exported ⊢
      obtain ⟨tree, fault?⟩ := change
      obtain ⟨otherTree, otherFault?⟩ := otherChange
      obtain ⟨sameShape, rfl⟩ := Change.mk.inj exported
      cases fault? with
      | none => exact ⟨rfl, rfl, rfl, sameShape⟩
      | some fault => exact ⟨rfl, rfl, rfl, sameShape⟩

/-! ## Two runs -/

/-- What is asked of the inputs of two runs with one command line: neither raw frames nor notes are
asked for, and the inputs are documents that are equal in what counts. -/
structure SameEssence (invocation : Invocation) (standardInputText otherInputText : Text)
    (files otherFiles : FileTree) : Prop where
  noRaw : invocation.options.raw = false
  noDebug : invocation.options.debug = false
  documents : ∃ document otherDocument,
    Snapshot.IsDocument invocation.input standardInputText files document ∧
      Snapshot.IsDocument invocation.input otherInputText otherFiles otherDocument ∧
      Snapshot.documentEssence document = Snapshot.documentEssence otherDocument

theorem SameEssence.outcome_prepare
    (same : SameEssence invocation standardInputText otherInputText files otherFiles) :
    (prepare invocation standardInputText files).outcome.map ParallelThreads.withoutRaw =
      (prepare invocation otherInputText otherFiles).outcome.map ParallelThreads.withoutRaw := by
  obtain ⟨document, otherDocument, given, otherGiven, essences⟩ := same.documents
  exact map_withoutRaw_outcome_prepare given otherGiven essences

/-- Without notes, a run is told by its outcome, whose raw frames do not show. -/
theorem execute_eq (noRaw : invocation.options.raw = false)
    (noDebug : invocation.options.debug = false) :
    execute invocation standardInputText files =
      match (prepare invocation standardInputText files).outcome.map ParallelThreads.withoutRaw with
      | .ok threads => present invocation.options threads [] files
      | .error (.rejected rejection) =>
          ⟨[], [.rejection rejection], .refused rejection.exitCode, files⟩
      | .error (.escaped fault) => ⟨[], [], .escaped fault, files⟩ := by
  rw [execute, noDebug]
  cases (prepare invocation standardInputText files).outcome with
  | ok threads => exact (present_withoutRaw noRaw threads).symm
  | error stop => cases stop <;> rfl

theorem SameEssence.execute_agrees
    (same : SameEssence invocation standardInputText otherInputText files otherFiles)
    (shape : files.blank = otherFiles.blank) :
    (execute invocation standardInputText files).Agrees
      (execute invocation otherInputText otherFiles) := by
  rw [execute_eq same.noRaw same.noDebug, execute_eq same.noRaw same.noDebug, same.outcome_prepare]
  cases (prepare invocation otherInputText otherFiles).outcome with
  | ok threads => exact present_agrees shape
  | error stop =>
      cases stop with
      | rejected rejection => exact ⟨rfl, rfl, rfl, shape⟩
      | escaped fault => exact ⟨rfl, rfl, rfl, shape⟩

theorem SameEssence.execute_eq_of_files_eq
    (same : SameEssence invocation standardInputText otherInputText files files) :
    execute invocation standardInputText files = execute invocation otherInputText files := by
  rw [execute_eq same.noRaw same.noDebug, execute_eq same.noRaw same.noDebug, same.outcome_prepare]

/-- The texts that finished runs have exported are the same. -/
theorem SameEssence.exists_same_export {arguments : List Text} {path : Path}
    (accepted : Invocation.ofArguments arguments = .ok invocation)
    (same : SameEssence invocation standardInputText otherInputText files otherFiles)
    (asked : invocation.options.exportPath = some path) (named : path ≠ [])
    (finished : (run arguments standardInputText files).ending = .finished)
    (otherFinished : (run arguments otherInputText otherFiles).ending = .finished) :
    ∃ text, (run arguments standardInputText files).files.read path = .ok (some text) ∧
      (run arguments otherInputText otherFiles).files.read path = .ok (some text) := by
  obtain ⟨threads, prepared, isRead⟩ := exists_export_of_finished accepted asked named finished
  obtain ⟨others, otherPrepared, otherRead⟩ :=
    exists_export_of_finished accepted asked named otherFinished
  have groups := same.outcome_prepare
  rw [prepared, otherPrepared] at groups
  have documents := congrArg ParallelThreads.toDocument (Except.ok.inj groups)
  rw [ParallelThreads.toDocument_withoutRaw, ParallelThreads.toDocument_withoutRaw] at documents
  exact ⟨threads.toDocument.written, isRead, documents ▸ otherRead⟩

/-- Two runs with the same arguments, without raw frames and notes, on inputs that are equal once
dead records and native frames are left out, print the same, end alike, and leave files of the same
shape behind, with the same export.  If the files were equal before, so they are afterwards.  Faults
are the same by their causes, and by their wording where they have one here. -/
theorem run_agrees_of_sameEssence (arguments : List Text) {standardInputText otherInputText : Text}
    {files otherFiles : FileTree} (shape : files.blank = otherFiles.blank)
    (same : ∀ invocation, Invocation.ofArguments arguments = .ok invocation →
      SameEssence invocation standardInputText otherInputText files otherFiles) :
    let first := run arguments standardInputText files
    let second := run arguments otherInputText otherFiles
    first.Agrees second ∧ (files = otherFiles → first = second) ∧
      ∀ invocation path, Invocation.ofArguments arguments = .ok invocation →
        invocation.options.exportPath = some path → path ≠ [] → first.ending = .finished →
          ∃ text, first.files.read path = .ok (some text) ∧
            second.files.read path = .ok (some text) := by
  intro first second
  have runs : first.Agrees second ∧ (files = otherFiles → first = second) := by
    simp only [first, second, run]
    cases understood : Invocation.ofArguments arguments with
    | error refusal =>
        cases refusal with
        | help => exact ⟨⟨rfl, rfl, rfl, shape⟩, fun equal => by rw [equal]⟩
        | misuse => exact ⟨⟨rfl, rfl, rfl, shape⟩, fun equal => by rw [equal]⟩
    | ok invocation =>
        have sameEssence := same invocation understood
        refine ⟨sameEssence.execute_agrees shape, ?_⟩
        intro equal
        subst equal
        exact sameEssence.execute_eq_of_files_eq
  refine ⟨runs.1, runs.2, ?_⟩
  intro invocation path accepted asked named finished
  have otherFinished : second.ending = .finished := runs.1.ending ▸ finished
  exact (same invocation accepted).exists_same_export accepted asked named finished otherFinished

set_option maxRecDepth 10000 in
/-- Two snapshots on the standard input; the first one has a native frame and a dead thread more
than the other one. -/
theorem run_agrees_of_sameEssence_native_frame :
    let text := ("\x7b\"threads\":[\x7b\"managed_id\":4,\"frames\":[\"A\"," ++
      "\x7b\"raw\":\"x\"\x7d]\x7d,\x7b\"alive\":0\x7d]\x7d").toText
    let otherText := "\x7b\"threads\":[\x7b\"managed_id\":4,\"frames\":[\"A\"]\x7d]\x7d".toText
    let path := "out/groups".toText
    let arguments := ["-".toText, "--json".toText, path]
    let files := FileTree.empty ["work".toText]
    let first := run arguments text files
    let second := run arguments otherText files
    first.ending = .finished ∧ first = second ∧
      ∃ exported, first.files.read path = .ok (some exported) ∧
        second.files.read path = .ok (some exported) := by
  intro text otherText path arguments files first second
  have accepted : Invocation.ofArguments arguments =
      .ok ⟨"-".toText, { exportPath := some path }⟩ := rfl
  have finished : first.ending = .finished := by decide +kernel
  let thread (frames : List Document) : Document :=
    .object [("managed_id".toText, .integer 4), ("frames".toText, .list frames)]
  let native : Document := .object [("raw".toText, .text "x".toText)]
  let dead : Document := .object [("alive".toText, .integer 0)]
  let snapshot (threads : List Document) : Document :=
    .object [("threads".toText, .list threads)]
  have same : ∀ invocation, Invocation.ofArguments arguments = .ok invocation →
      SameEssence invocation text otherText files files := by
    intro invocation other
    cases accepted.symm.trans other
    refine ⟨rfl, rfl, snapshot [thread [.text "A".toText, native], dead],
      snapshot [thread [.text "A".toText]], ⟨text, rfl, rfl⟩, ⟨otherText, rfl, rfl⟩, rfl⟩
  obtain ⟨-, equal, exports⟩ := run_agrees_of_sameEssence arguments rfl same
  exact ⟨finished, equal rfl, exports _ path accepted rfl nofun finished⟩

end ThreadStacks.CommandLine
