import ThreadStacks.Proofs.CommandLine.FileTree
import ThreadStacks.Proofs.CommandLine.Run
import ThreadStacks.Proofs.Group.Export
import ThreadStacks.Proofs.Stream

/-!
# What a finished run has exported

A run that was asked for an export and finished has left a file with an exported document, and the
document accounts for the records of the snapshot.
-/

namespace ThreadStacks.CommandLine

variable {arguments : List Text} {standardInputText : Text} {files : FileTree}
  {invocation : Invocation} {path : Path} {snapshot : Snapshot}

/-- A document that can be encoded is saved as it is written. -/
theorem FileTree.saveDocument_of_isEncodable {document : Document}
    (encodable : document.isEncodable = true) :
    files.saveDocument path document = files.save path (some document.written) := by
  rw [saveDocument, Written.encoded_tell_of_isEncodable encodable]
  exact congrArg (Change.mk _) Option.or_none

/-- Saving a document ends well only if the document can be encoded. -/
theorem FileTree.isEncodable_of_saveDocument {document : Document}
    (saved : (files.saveDocument path document).fault? = none) : document.isEncodable = true := by
  have written := (Option.or_eq_none_iff.1 saved).2
  cases encodable : document.isEncodable with
  | true => rfl
  | false =>
      have broken : (Written.tell document.pieces).encoded.outcome = .error .notEncodable :=
        Written.outcome_encoded_of_not_isEncodable encodable
      rw [Written.fault?, broken] at written
      contradiction

theorem exportGroups_eq {options : Options} {threads : ParallelThreads}
    (asked : options.exportPath = some path) (named : path ≠ []) :
    exportGroups options threads files = files.saveDocument path threads.toDocument := by
  rw [exportGroups, asked]
  exact if_neg (by simpa using named)

/-- The export is found at its path, as it was written. -/
theorem read_exportGroups {options : Options} {threads : ParallelThreads}
    (asked : options.exportPath = some path) (named : path ≠ [])
    (exported : (exportGroups options threads files).fault? = none) :
    (exportGroups options threads files).tree.read path =
      .ok (some threads.toDocument.written) := by
  rw [exportGroups_eq asked named] at exported ⊢
  have encodable := FileTree.isEncodable_of_saveDocument exported
  rw [FileTree.saveDocument_of_isEncodable encodable] at exported ⊢
  exact FileTree.read_save exported

/-- The groups that a finished run has exported, with what they come from. -/
theorem exists_export_of_finished (accepted : Invocation.ofArguments arguments = .ok invocation)
    (asked : invocation.options.exportPath = some path) (named : path ≠ [])
    (finished : (run arguments standardInputText files).ending = .finished) :
    ∃ threads, (prepare invocation standardInputText files).outcome = .ok threads ∧
      (run arguments standardInputText files).files.read path =
        .ok (some threads.toDocument.written) := by
  rw [run_of_accepted accepted] at finished ⊢
  obtain ⟨threads, prepared⟩ := exists_prepared_of_finished finished
  obtain ⟨notices, presented⟩ := execute_of_prepared prepared
  rw [presented] at finished ⊢
  obtain ⟨exported, sameFiles⟩ := files_present_of_finished finished
  rw [sameFiles]
  exact ⟨threads, prepared, read_exportGroups asked named exported⟩

end ThreadStacks.CommandLine
