import ThreadStacks.CommandLine.Path
import ThreadStacks.Table

/-!
# Files

The files that a run can read and leave behind: a tree of directories and files with a working
directory.  A path is followed name by name, and every name but the last has to lead to a
directory.  The place that a path leads to keeps the directories on the way, so going up is going
back, and an entry is put in place by closing them again from the inside out.
-/

namespace ThreadStacks.CommandLine

/-- A file, or a directory with its entries by name.  A file whose bytes do not encode a text has no
text. -/
inductive Node where
  | file (text : Option Text)
  | directory (entries : List (Text × Node))

abbrev Entries := Table Text Node

/-- A tree of files: the entries of its root, and the names that lead to the working directory. -/
structure FileTree where
  root : Entries
  workingDirectory : List Text

/-! ## Places -/

/-- A place in a tree: what stands there, if anything does, and the entries of the directories
around it, the nearest one first, each with the name that leads on from it. -/
structure Place where
  node? : Option Node
  around : List (Text × Entries)

namespace Place

/-- The place above a place; the root is above itself. -/
def up (place : Place) : Place :=
  match place.around with
  | [] => place
  | (_, entries) :: around => ⟨some (.directory entries), around⟩

/-- Go one name further. -/
def goTo (place : Place) (name : Text) : Except Fault Place :=
  match place.node? with
  | none => .error .fileMissing
  | some (.file _) => .error .notDirectory
  | some (.directory entries) =>
      if Path.maxNameBytes < Path.byteCount name then .error .pathTooLong
      else if name.isEmpty || name = [.char '.'] then .ok place
      else if name = "..".toText then .ok place.up
      else .ok ⟨Table.get? name entries, (name, entries) :: place.around⟩

/-- The entries of the root, once a node has been put under a name among entries and the
directories around them have been closed. -/
def close (name : Text) (node : Node) (entries : Entries) : List (Text × Entries) → Entries
  | [] => Table.put name node entries
  | (outerName, outer) :: around =>
      close outerName (.directory (Table.put name node entries)) outer around

end Place

namespace FileTree

/-- Put a node at a place.  The root stays what it is. -/
def put (tree : FileTree) (place : Place) (node : Node) : FileTree :=
  match place.around with
  | [] => tree
  | (name, entries) :: around => { tree with root := Place.close name node entries around }

def rootPlace (tree : FileTree) : Place := ⟨some (.directory tree.root), []⟩

/-- The place that a path starts from. -/
def origin (tree : FileTree) (path : Path) : Except Fault Place :=
  if path.head? = some (.char '/') then .ok tree.rootPlace
  else tree.workingDirectory.foldlM Place.goTo tree.rootPlace

/-- The place that a path leads to. -/
def follow (tree : FileTree) (path : Path) : Except Fault Place :=
  match path.fault? with
  | some fault => .error fault
  | none => do
      let origin ← tree.origin path
      (Text.splitAt (.char '/') path).foldlM Place.goTo origin

/-- What a path leads to, if it leads to anything. -/
def find? (tree : FileTree) (path : Path) : Option Node :=
  match tree.follow path with
  | .ok place => place.node?
  | .error _ => none

/-- Whether a path leads to a directory. -/
def hasDirectory (tree : FileTree) (path : Path) : Bool :=
  match tree.find? path with
  | some (.directory _) => true
  | _ => false

def read (tree : FileTree) (path : Path) : Except Fault (Option Text) := do
  let place ← tree.follow path
  match place.node? with
  | none => throw .fileMissing
  | some (.directory _) => throw .isDirectory
  | some (.file text) => pure text

end FileTree

/-! ## Changing a tree -/

/-- What is left of a change: the tree, and the fault that ended the change early, if one did. -/
structure Change where
  tree : FileTree
  fault? : Option Fault

namespace FileTree

/-- Write a file in a directory that is there. -/
def write (tree : FileTree) (path : Path) (text : Option Text) : Change :=
  match tree.follow path with
  | .error fault => ⟨tree, some fault⟩
  | .ok place =>
      match place.node? with
      | some (.directory _) => ⟨tree, some .isDirectory⟩
      | _ => ⟨tree.put place (.file text), none⟩

/-- Make a directory in a directory that is there.  It may be there already. -/
def makeDirectory (tree : FileTree) (path : Path) : Change :=
  match tree.follow path with
  | .error fault => ⟨tree, some fault⟩
  | .ok place =>
      match place.node? with
      | some (.directory _) => ⟨tree, none⟩
      | some (.file _) => ⟨tree, some .fileExists⟩
      | none => ⟨tree.put place (.directory []), none⟩

/-- Make directories that are given from the inside out, each one in the next.  A directory around
another one is not asked for itself, so it may turn out to be a file; what is to stand in it fails
then. -/
def makeDirectories (tree : FileTree) : List Path → Change
  | [] => ⟨tree, none⟩
  | [path] => tree.makeDirectory path
  | path :: around =>
      let change := makeDirectories tree around
      match change.fault? with
      | none | some .fileExists =>
          if Path.lastName path = [.char '.'] then ⟨change.tree, none⟩
          else change.tree.makeDirectory path
      | some _ => change

/-- How many directories can be made for one path.  Each one is made inside the call for the one
below it, and this is what the usual limit of a thousand nested calls leaves. -/
def maxMade : Nat := 990

/-- The path and the paths around it that lead nowhere, up to one that does lead somewhere.  There
may be one more than can be made. -/
def missing (tree : FileTree) (path : Path) : List Path :=
  path :: (Path.directories maxMade path).takeWhile fun around => (tree.find? around).isNone

/-- Make the directory that a path leads to, and those around it, if they are not there. -/
def ensureDirectory (tree : FileTree) (path : Path) : Change :=
  let missing := tree.missing path
  if tree.hasDirectory path then ⟨tree, none⟩
  else if maxMade < missing.length then ⟨tree, some .pathTooDeep⟩
  else tree.makeDirectories missing

/-- Write a file, in a directory that is made if it is missing. -/
def save (tree : FileTree) (path : Path) (text : Option Text) : Change :=
  let directory := Path.directory path
  let change := if directory.isEmpty then ⟨tree, none⟩ else tree.ensureDirectory directory
  match change.fault? with
  | none => change.tree.write path text
  | some _ => change

/-! ## Building and listing -/

/-- The entries with a directory that names lead to, and nothing else. -/
def entriesAlong : List Text → Entries
  | [] => []
  | name :: names => [(name, .directory (entriesAlong names))]

/-- A tree with nothing but a working directory and the directories around it. -/
def empty (workingDirectory : List Text) : FileTree :=
  ⟨entriesAlong workingDirectory, workingDirectory⟩

end FileTree

mutual

/-- The texts of the files in a node, by path from it. -/
def Node.texts (path : Path) : Node → List (Path × Text)
  | .file (some text) => [(path, text)]
  | .file none => []
  | .directory entries =>
      Node.textsOfEntries (if path.isEmpty then [] else path ++ [.char '/']) entries

/-- The texts of the files among entries, behind a start of their paths. -/
def Node.textsOfEntries (start : Path) : Entries → List (Path × Text)
  | [] => []
  | (name, node) :: rest => Node.texts (start ++ name) node ++ Node.textsOfEntries start rest

end

/-- The texts of the files below the working directory, by path from it. -/
def FileTree.localTexts (tree : FileTree) : List (Path × Text) :=
  match tree.find? [.char '.'] with
  | some node => Node.texts [] node
  | none => []

end ThreadStacks.CommandLine
