import ThreadStacks.Proofs.CommandLine.FileTree

/-!
# The shape of a file tree

Where paths lead, which directories are made and which faults there are depends on the names in a
tree and on what is a directory, never on the texts in its files.  So every change commutes with
blanking out all texts.
-/

namespace ThreadStacks.CommandLine

mutual

/-- A node without the texts of its files. -/
def Node.blank : Node → Node
  | .file _ => .file none
  | .directory entries => .directory (Node.blankEntries entries)

/-- Entries without the texts of their files. -/
def Node.blankEntries : Entries → Entries
  | [] => []
  | (name, node) :: rest => (name, Node.blank node) :: Node.blankEntries rest

end

/-- A place in a tree without texts. -/
def Place.blank (place : Place) : Place :=
  ⟨place.node?.map Node.blank, place.around.map fun step => (step.1, Node.blankEntries step.2)⟩

/-- A tree without the texts of its files: its shape. -/
def FileTree.blank (tree : FileTree) : FileTree :=
  { tree with root := Node.blankEntries tree.root }

/-- What is left of a change, without the texts of the files. -/
def Change.blank (change : Change) : Change := { change with tree := change.tree.blank }

/-! ## Entries and places -/

namespace Node

theorem get?_blankEntries (name : Text) (entries : Entries) :
    Table.get? name (blankEntries entries) = (Table.get? name entries).map blank := by
  induction entries with
  | nil => rfl
  | cons entry entries ih =>
      obtain ⟨other, node⟩ := entry
      rw [blankEntries, Table.get?, Table.get?, ih]
      split
      next => rfl
      next => rfl

theorem blankEntries_put (name : Text) (node : Node) (entries : Entries) :
    blankEntries (Table.put name node entries) =
      Table.put name node.blank (blankEntries entries) := by
  induction entries with
  | nil => rfl
  | cons entry entries ih =>
      obtain ⟨other, old⟩ := entry
      rw [Table.put, blankEntries, Table.put]
      split
      next => rfl
      next => rw [blankEntries, ih]

end Node

namespace Place

theorem blank_up (place : Place) : place.blank.up = place.up.blank := by
  obtain ⟨node?, around⟩ := place
  cases around with
  | nil => rfl
  | cons step around => rfl

theorem move_blank (place : Place) (entries : Entries) (name : Text) (step : Move) :
    place.blank.move (Node.blankEntries entries) name step =
      (place.move entries name step).blank := by
  cases step with
  | stay => rfl
  | up => exact blank_up place
  | enter => rw [move, Node.get?_blankEntries]; rfl

theorem goTo_blank (place : Place) (name : Text) :
    place.blank.goTo name = (place.goTo name).map blank := by
  obtain ⟨node?, around⟩ := place
  cases node? with
  | none => rfl
  | some node =>
      cases node with
      | file text => rfl
      | directory entries =>
          have given : (blank ⟨some (.directory entries), around⟩).node? =
              some (.directory (Node.blankEntries entries)) := rfl
          rw [goTo_directory given, goTo_directory rfl]
          cases Move.ofName name with
          | error fault => rfl
          | ok step => exact congrArg Except.ok (move_blank _ entries name step)

theorem foldlM_goTo_blank (place : Place) (names : List Text) :
    names.foldlM goTo place.blank = (names.foldlM goTo place).map blank := by
  induction names generalizing place with
  | nil => rfl
  | cons name names ih =>
      rw [List.foldlM_cons, List.foldlM_cons, goTo_blank]
      cases place.goTo name with
      | error fault => rfl
      | ok next => exact ih next

theorem blankEntries_close (name : Text) (node : Node) (entries : Entries)
    (around : List (Text × Entries)) :
    Node.blankEntries (close name node entries around) =
      close name node.blank (Node.blankEntries entries)
        (around.map fun step => (step.1, Node.blankEntries step.2)) := by
  induction around generalizing name node entries with
  | nil => exact Node.blankEntries_put name node entries
  | cons step around ih =>
      obtain ⟨outerName, outer⟩ := step
      rw [close, ih, List.map_cons, close, Node.blank, Node.blankEntries_put]

end Place

/-! ## Trees -/

namespace FileTree

variable (tree : FileTree) (path : Path)

theorem blank_put (place : Place) (node : Node) :
    (tree.put place node).blank = tree.blank.put place.blank node.blank := by
  obtain ⟨node?, around⟩ := place
  cases around with
  | nil => rfl
  | cons step around =>
      obtain ⟨name, entries⟩ := step
      simp only [put, blank, Place.blank, List.map_cons, Place.blankEntries_close]

theorem origin_blank : tree.blank.origin path = (tree.origin path).map Place.blank := by
  rw [origin, origin]
  split
  next => rfl
  next => exact Place.foldlM_goTo_blank tree.rootPlace tree.workingDirectory

/-- A path leads to the same place, whatever is in the files. -/
theorem follow_blank : tree.blank.follow path = (tree.follow path).map Place.blank := by
  rw [follow, follow, origin_blank]
  cases Path.fault? path with
  | some fault => rfl
  | none =>
      cases tree.origin path with
      | error fault => rfl
      | ok origin => exact Place.foldlM_goTo_blank origin _

theorem find?_blank : tree.blank.find? path = (tree.find? path).map Node.blank := by
  rw [find?, find?, follow_blank]
  cases tree.follow path with
  | error fault => rfl
  | ok place => rfl

theorem hasDirectory_blank : tree.blank.hasDirectory path = tree.hasDirectory path := by
  rw [hasDirectory, hasDirectory, find?_blank]
  cases tree.find? path with
  | none => rfl
  | some node => cases node <;> rfl

theorem missing_blank : tree.blank.missing path = tree.missing path := by
  have nowhere : (fun around => (tree.blank.find? around).isNone) =
      fun around => (tree.find? around).isNone := by
    funext around
    rw [find?_blank, Option.isNone_map]
  rw [missing, missing, nowhere]

/-! ## Changes -/

theorem write_blank (text : Option Text) :
    tree.blank.write path none = (tree.write path text).blank := by
  rw [write, write, follow_blank]
  cases tree.follow path with
  | error fault => rfl
  | ok place =>
      have put := tree.blank_put place (.file text)
      obtain ⟨node?, around⟩ := place
      cases node? with
      | none => exact congrArg (Change.mk · none) put.symm
      | some node =>
          cases node with
          | file old => exact congrArg (Change.mk · none) put.symm
          | directory entries => rfl

theorem makeDirectory_blank :
    tree.blank.makeDirectory path = (tree.makeDirectory path).blank := by
  rw [makeDirectory, makeDirectory, follow_blank]
  cases tree.follow path with
  | error fault => rfl
  | ok place =>
      have put := tree.blank_put place (.directory [])
      obtain ⟨node?, around⟩ := place
      cases node? with
      | none => exact congrArg (Change.mk · none) put.symm
      | some node => cases node <;> rfl

/-- Make a directory after the directories around it were made. -/
def makeInside (change : Change) (path : Path) : Change :=
  match change.fault? with
  | none | some .fileExists =>
      if Path.lastName path = [.char '.'] then ⟨change.tree, none⟩
      else change.tree.makeDirectory path
  | some _ => change

theorem makeInside_blank (change : Change) :
    makeInside change.blank path = (makeInside change path).blank := by
  have ifGoesOn : (if Path.lastName path = [.char '.'] then ⟨change.tree.blank, none⟩
      else change.tree.blank.makeDirectory path) =
        (if Path.lastName path = [.char '.'] then ⟨change.tree, none⟩
          else change.tree.makeDirectory path : Change).blank := by
    split
    next => rfl
    next => exact change.tree.makeDirectory_blank path
  obtain ⟨tree, fault?⟩ := change
  cases fault? with
  | none => exact ifGoesOn
  | some fault =>
      cases fault with
      | fileExists => exact ifGoesOn
      | _ => rfl

theorem makeDirectories_cons_cons (next : Path) (around : List Path) :
    tree.makeDirectories (path :: next :: around) =
      makeInside (tree.makeDirectories (next :: around)) path := rfl

theorem makeDirectories_blank (paths : List Path) :
    tree.blank.makeDirectories paths = (tree.makeDirectories paths).blank := by
  induction paths with
  | nil => rfl
  | cons path around ih =>
      cases around with
      | nil => exact tree.makeDirectory_blank path
      | cons next around =>
          rw [makeDirectories_cons_cons, makeDirectories_cons_cons, ih, makeInside_blank]

theorem ensureDirectory_blank :
    tree.blank.ensureDirectory path = (tree.ensureDirectory path).blank := by
  simp only [ensureDirectory, missing_blank, hasDirectory_blank]
  split
  next => rfl
  next =>
    split
    next => rfl
    next => exact tree.makeDirectories_blank _

/-- Saving a file leaves a tree of the same shape behind, or the same fault, whatever is in the
files and in the new one. -/
theorem save_blank (text : Option Text) :
    tree.blank.save path none = (tree.save path text).blank := by
  have made : (if (Path.directory path).isEmpty then ⟨tree.blank, none⟩
      else tree.blank.ensureDirectory (Path.directory path)) =
        (if (Path.directory path).isEmpty then ⟨tree, none⟩
          else tree.ensureDirectory (Path.directory path) : Change).blank := by
    split
    next => rfl
    next => exact tree.ensureDirectory_blank _
  simp only [save]
  rw [made]
  generalize (if (Path.directory path).isEmpty then ⟨tree, none⟩
    else tree.ensureDirectory (Path.directory path) : Change) = change
  obtain ⟨tree, fault?⟩ := change
  cases fault? with
  | none => exact tree.write_blank path text
  | some fault => rfl

/-- Trees of one shape are left in one shape. -/
theorem blank_save_eq {tree other : FileTree} (same : tree.blank = other.blank) (path : Path)
    (text otherText : Option Text) :
    (tree.save path text).blank = (other.save path otherText).blank := by
  rw [← save_blank, ← save_blank, same]

end FileTree

end ThreadStacks.CommandLine
