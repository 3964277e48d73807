import ThreadStacks.CommandLine.Program

/-!
# The command

Reads the arguments, the file that they name or the standard input, runs the program and carries
out what its report says.
-/

namespace ThreadStacks.CommandLine

/-- The characters of a code point as they are printed: a half is written as an escape. -/
def printedCharacters : CodePoint → List Char
  | .char character => [character]
  | half => '\\' :: 'u' :: Nat.toDigits 16 half.toNat

def printed (text : Text) : String := String.ofList (text.flatMap printedCharacters)

/-- All lines that are left in a stream. -/
partial def readLines (stream : IO.FS.Stream) (before : String) : IO String := do
  let line ← stream.getLine
  if line.isEmpty then pure before else readLines stream (before ++ line)

/-- The files that a run with an input may look at. -/
def gather (input : Text) : IO FileTree := do
  let directory := (← IO.currentDir).toString.toText
  let names := (Text.splitAt (.char '/') directory).filter fun name => !name.isEmpty
  let files := FileTree.empty names
  if input = Snapshot.standardInput then pure files
  else
    try
      let bytes ← IO.FS.readBinFile ((printed input))
      pure (files.save input ((String.fromUTF8? bytes).map String.toText)).tree
    catch _ => pure files

/-- Write the files that a run has written. -/
def store (old new : FileTree) : IO Unit := do
  let texts := Node.texts [] (.directory old.root)
  for file in Node.texts [] (.directory new.root) do
    if Table.get? file.1 texts != some file.2 then
      let path := .char '/' :: file.1
      IO.FS.createDirAll ((printed (Path.directory path)))
      IO.FS.writeFile ((printed path)) ((printed file.2))

/-- Print what a report says; the answer is the exit code. -/
def deliver (files : FileTree) (report : Report) : IO UInt32 := do
  for notice in report.notices do
    IO.eprint ((printed notice.text))
  IO.print ((printed report.table))
  store files report.files
  match report.ending with
  | .help =>
      IO.print ((printed usage))
      pure 0
  | .finished => pure 0
  | .refused exitCode => pure exitCode.toUInt32
  | .escaped fault =>
      IO.eprintln ((printed fault.report))
      pure 1

end ThreadStacks.CommandLine

open ThreadStacks.CommandLine in
/-- Run the program with the arguments of the command line. -/
def main (arguments : List String) : IO UInt32 := do
  let arguments := arguments.map String.toText
  let input := match Invocation.ofArguments arguments with
    | .ok invocation => invocation.input
    | .error _ => []
  let files ← gather input
  let standardInputText ←
    if input = Snapshot.standardInput then readLines (← IO.getStdin) "" else pure ""
  deliver files (run arguments standardInputText.toText files)
