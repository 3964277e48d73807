import ThreadStacks.Group.Parallel

/-!
# Groups as documents

What is exported of the groups: their headers and members, and the frames of the first member.
The exception and the lock count are left out where there is none.
-/

namespace ThreadStacks

def StackFrame.toDocument (frame : StackFrame) : Document :=
  .object [
    ("type".toText, .text frame.type),
    ("method".toText, .text frame.method),
    ("arguments".toText, .text frame.arguments),
    ("signature".toText, .text frame.signature)]

def ExceptionObject.exportedFields (exception : ExceptionObject) : Document.Fields :=
  [("exception".toText,
    .object [("type".toText, exception.type), ("message".toText, exception.message)])]

def LockCount.exportedFields (lockCount : LockCount) : Document.Fields :=
  match lockCount.count? with
  | some count => [("lock_count".toText, .integer count)]
  | none => []

def ThreadGroup.toDocument (group : ThreadGroup) : Document :=
  let thread := group.representative
  .object ([
    ("kind".toText, .text group.kind.name),
    ("header".toText, .text group.header),
    ("thread_count".toText, .integer group.threadCount),
    ("managed_ids".toText, .list (group.managedIds.map .integer)),
    ("frames".toText, .list (thread.frames.map StackFrame.toDocument))] ++
    ((thread.exception.map ExceptionObject.exportedFields).getD []) ++
    thread.lockCount.exportedFields)

def ParallelThreads.toDocument (threads : ParallelThreads) : Document :=
  .object [
    ("thread_count".toText, .integer threads.threadCount),
    ("unique_stacks".toText, .integer threads.uniqueStacks),
    ("groups".toText, .list (threads.groups.map ThreadGroup.toDocument))]

end ThreadStacks
