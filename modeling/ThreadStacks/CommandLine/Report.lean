import ThreadStacks.CommandLine.Snapshot

/-!
# Reports

What a run leaves behind: the table, what is printed beside it, how the run ends, and the files.
The usage, and what is wrong with a text that is no document, are told by libraries that the program
uses; the words for them here stand for theirs and are not the same.
-/

namespace ThreadStacks.CommandLine

/-- What is printed beside the table. -/
inductive Notice where
  | misuse
  | note (note : Diagnostic)
  | rejection (rejection : Rejection)

/-- How a run ends. -/
inductive Ending where
  /-- The usage is printed in place of a table. -/
  | help
  | finished
  | refused (exitCode : Nat)
  | escaped (fault : Fault)
  deriving DecidableEq, Repr

/-- What a run leaves behind. -/
structure Report where
  table : Text
  notices : List Notice
  ending : Ending
  files : FileTree

def Rejection.exitCode : Rejection → Nat
  | .noStacks => 1
  | _ => 2

/-! ## Wording -/

/-- The usage, in words of its own. -/
def usage : Text := (
  "usage: thread-stacks [-h] [-n TOP] [--raw] [--no-color] [-w WIDTH] [-j JOBS]\n" ++
  "                     [--json PATH] [--debug] INPUT\n").toText

/-- The line of a rejection.  A fault is told with its kind and its own wording, if it has one; why
a text is no document is not told. -/
def Rejection.line : Rejection → Text
  | .unreadable fault =>
      "[error] can't read snapshot: ".toText ++ fault.report ++ [.char '\n']
  | .malformed => "[error] invalid snapshot document: malformed text\n".toText
  | .notASnapshot =>
      "[error] invalid snapshot document: expected an object with a 'threads' list\n".toText
  | .threadObjects fault =>
      "[error] invalid thread objects: ".toText ++ fault.report ++ [.char '\n']
  | .threadRecord fault => "[error] invalid thread record: ".toText ++ fault.report ++ [.char '\n']
  | .noStacks => ("No managed stacks found. " ++
      "Ensure the snapshot contains live threads with frames.\n").toText

def Notice.text : Notice → Text
  | .misuse => usage
  | .note given => given.line
  | .rejection given => given.line

end ThreadStacks.CommandLine
