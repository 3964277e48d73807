import ThreadStacks.Group.Parallel
import ThreadStacks.Render.Renderer

/-!
# The parallel stacks view

The whole table: an overview with the counts, and a block for every group with its header, what is
told of it beside its frames, its frames, and its raw frames if they are asked for.
-/

namespace ThreadStacks.Renderer

/-! ## Groups -/

/-- The cells that tell of the exception of a single thread. -/
def exceptionCells (group : ThreadGroup) : List Cell :=
  match group.kind, group.representative.exception with
  | .single, some exception =>
      let message := match exception.message with
        | .null => []
        | message => [
            .fragment ⟨.separator, ": ".toText⟩, Cell.ofDocument .exceptionMessage message]
      Cell.ofDocument .exceptionType exception.type :: message
  | _, _ => []

/-- The fragments that tell of a number of locks. -/
def lockFragments (lockCount : LockCount) : List Fragment :=
  if lockCount.isEmpty then []
  else [
    ⟨.typeName, "LockCount".toText⟩, ⟨.separator, ": ".toText⟩, ⟨.methodName, lockCount.text⟩]

/-- What is told of a group beside its frames. -/
def extraCells (group : ThreadGroup) : List Cell :=
  let exception := exceptionCells group
  let locks := lockFragments group.representative.lockCount
  let between : List Fragment :=
    if exception.isEmpty || locks.isEmpty then [] else [⟨.separator, ", ".toText⟩]
  exception ++ (between ++ locks).map .fragment

/-- Write what is told of a group beside its frames, if there is anything. -/
def writeExtraInformation (renderer : Renderer) (group : ThreadGroup) : Drawn Unit := do
  let cells := extraCells group
  if cells.isEmpty then pure ()
  else
    renderer.writeCellLine cells
    renderer.writeSeparatorLine

def writeRawFrames (renderer : Renderer) (group : ThreadGroup) : Drawn Unit := do
  renderer.writeSeparatorLine
  renderer.writeLine [⟨.text, "Raw stack frames:".toText⟩]
  Written.each (fun raw => do
    let cells ← Written.ofExcept (Cell.ofRawFrame .typeName raw)
    renderer.writeCellLine cells) group.representative.rawFrames

def writeGroup (renderer : Renderer) (group : ThreadGroup) : Drawn Unit := do
  renderer.writeCentered .header group.header
  renderer.writeSeparatorLine
  renderer.writeExtraInformation group
  Written.each (fun frame => renderer.writeLine (Fragment.ofFrame frame))
    group.representative.frames
  if renderer.rawFrames then renderer.writeRawFrames group
  renderer.writeSeparatorLine

/-! ## The whole table -/

/-- The first items of a list, as many as a limit says.  A negative limit counts from the end. -/
def top {Item : Type} (limit : Option Int) (items : List Item) : List Item :=
  match limit with
  | none => items
  | some (.ofNat count) => items.take count
  | some (.negSucc missing) => items.take (items.length - (missing + 1))

/-- Write the title and the counts. -/
def writeOverview (renderer : Renderer) (threads : ParallelThreads) : Drawn Unit := do
  renderer.writeSeparatorLine
  renderer.writeCentered .header "Parallel Threads".toText
  renderer.writeSeparatorLine
  renderer.writeLine [
    ⟨.text, "Thread count: ".toText ++ Text.ofNat threads.threadCount⟩,
    ⟨.separator, ", ".toText⟩,
    ⟨.text, "Unique stack traces: ".toText ++ Text.ofNat threads.uniqueStacks⟩]
  renderer.writeSeparatorLine

def writeGroups (renderer : Renderer) (threads : ParallelThreads) (limit : Option Int) :
    Drawn Unit :=
  Written.each renderer.writeGroup (top limit threads.groups)

def writeTable (renderer : Renderer) (threads : ParallelThreads) (limit : Option Int) :
    Drawn Unit := do
  renderer.writeOverview threads
  renderer.writeGroups threads limit

end ThreadStacks.Renderer
