import ThreadStacks.Proofs.CommandLine.Export
import ThreadStacks.Proofs.CommandLine.FileShape
import ThreadStacks.Proofs.Group.RawFrames
import ThreadStacks.Proofs.Group.Textual
import ThreadStacks.Proofs.Render.DrawingFault

/-!
# How the table is drawn, and what is exported

The table is drawn before the groups are exported, so a run that cannot draw it does not get to its
export.  Where a snapshot gives texts, that is so only if an option was left without its value, no
line of the wanted width can be held, or a drawn text has a half in it.  Otherwise the options that
say how the table is drawn have no part in the export, and neither the export nor the number of
workers has a part in the table.
-/

namespace ThreadStacks

/-! ## Headers -/

namespace Renderer

variable {renderer : Renderer}

end Renderer

namespace CommandLine

variable {invocation other : Invocation} {options otherOptions : Options}
  {threads : ParallelThreads} {notices : List Notice} {standardInputText : Text}
  {files : FileTree} {path : Path}

/-! ## What an export needs -/

/-- Whether the records of live threads have texts, or null, where they are drawn as they are. -/
def Snapshot.IsTextual (snapshot : Snapshot) : Prop :=
  ∀ record ∈ snapshot.records, ThreadRecord.isLive record = true →
    ThreadRecord.hasTextException record = true ∧ ThreadRecord.hasTextRawFrames record = true

instance (snapshot : Snapshot) : Decidable snapshot.IsTextual :=
  inferInstanceAs (Decidable (∀ record ∈ snapshot.records, _))

/-- Whether options ask for an export to a path, without notes, and for a table that can be drawn:
its limit and its width have values, and a line of this width can be held. -/
structure Options.CanExport (options : Options) (path : Path) (limit : Option Int)
    (lineWidth : Int) : Prop where
  exportPath : options.exportPath = some path
  noDebug : options.debug = false
  top : options.top = .given limit
  width : options.width = .given lineWidth
  width_ge : -Renderer.wordBound ≤ lineWidth
  width_lt : lineWidth < Renderer.memoryBound

/-! ## Preparing -/

namespace Options.CanExport

variable {limit : Option Int} {lineWidth : Int}

/-- Without notes, a run is told by what was prepared. -/
theorem execute_eq (usable : invocation.options.CanExport path limit lineWidth) :
    execute invocation standardInputText files =
      match (prepare invocation standardInputText files).outcome with
      | .ok threads => present invocation.options threads [] files
      | .error (.rejected rejection) =>
          ⟨[], [.rejection rejection], .refused rejection.exitCode, files⟩
      | .error (.escaped fault) => ⟨[], [], .escaped fault, files⟩ := by
  rw [execute, usable.noDebug]
  rfl

end Options.CanExport

/-! ## Two runs -/

end CommandLine

end ThreadStacks
