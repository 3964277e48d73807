import ThreadStacks.CommandLine.Arguments
import ThreadStacks.CommandLine.Report
import ThreadStacks.Document.Printer
import ThreadStacks.Group.Export
import ThreadStacks.Render.View

/-!
# The program

A run reads a snapshot, names and groups its threads, draws the table and exports the groups.
Nothing is drawn or written before the snapshot has been accepted as a whole.
-/

namespace ThreadStacks.CommandLine

/-- Everything that comes before the drawing. -/
def prepare (invocation : Invocation) (standardInputText : Text) (files : FileTree) :
    Phase ParallelThreads := do
  let snapshot ← Written.ofExcept (Snapshot.load invocation.input standardInputText files)
  let registry ← snapshot.registry
  let threads ← snapshot.threads invocation.options.jobs registry
  if threads.groups.isEmpty then Written.fail (.rejected .noStacks)
  else pure threads

/-- Write a document to a file.  The file is there before the first piece is written, and keeps what
was written in front of a piece that cannot be encoded. -/
def FileTree.saveDocument (files : FileTree) (path : Path) (document : Document) : Change :=
  let writing := Written.encoded (Written.tell document.pieces)
  let change := files.save path (some writing.text)
  ⟨change.tree, change.fault?.or writing.fault?⟩

def exportGroups (options : Options) (threads : ParallelThreads) (files : FileTree) : Change :=
  match options.exportPath with
  | some path => if path.isEmpty then ⟨files, none⟩ else files.saveDocument path threads.toDocument
  | none => ⟨files, none⟩

/-- Draw the table of a run.  How many groups are drawn is asked for only once the overview has
been drawn. -/
def drawAll (options : Options) (threads : ParallelThreads) : Drawn Unit := do
  let width ← Written.ofExcept options.width.get
  let renderer ← Written.ofExcept (Renderer.create options.color options.raw width)
  renderer.writeOverview threads
  let limit ← Written.ofExcept options.top.get
  renderer.writeGroups threads limit

/-- Draw the table of a run on the standard output. -/
def draw (options : Options) (threads : ParallelThreads) : Drawn Unit :=
  (drawAll options threads).encoded

/-- Draw the table and export the groups. -/
def present (options : Options) (threads : ParallelThreads) (notices : List Notice)
    (files : FileTree) : Report :=
  let table := draw options threads
  match table.outcome with
  | .error fault => ⟨table.text, notices, .escaped fault, files⟩
  | .ok () =>
      let change := exportGroups options threads files
      match change.fault? with
      | some fault => ⟨table.text, notices, .escaped fault, change.tree⟩
      | none => ⟨table.text, notices, .finished, change.tree⟩

/-- Run the program for a command line that was understood. -/
def execute (invocation : Invocation) (standardInputText : Text) (files : FileTree) : Report :=
  let prepared := prepare invocation standardInputText files
  let notices := if invocation.options.debug then prepared.output.map .note else []
  match prepared.outcome with
  | .ok threads => present invocation.options threads notices files
  | .error (.rejected rejection) =>
      ⟨[], notices ++ [.rejection rejection], .refused rejection.exitCode, files⟩
  | .error (.escaped fault) => ⟨[], notices, .escaped fault, files⟩

def run (arguments : List Text) (standardInputText : Text) (files : FileTree) : Report :=
  match Invocation.ofArguments arguments with
  | .error .help => ⟨[], [], .help, files⟩
  | .error .misuse => ⟨[], [.misuse], .refused 2, files⟩
  | .ok invocation => execute invocation standardInputText files

end ThreadStacks.CommandLine
