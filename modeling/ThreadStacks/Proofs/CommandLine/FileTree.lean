import ThreadStacks.CommandLine.FileTree
import ThreadStacks.Proofs.Written

/-!
# Reading a file that was saved

A file that was saved without a fault is found again by its path.  On its way a path goes through
directories only, and writing a file turns no directory into anything else, so the path leads where
it led before, and that is where the file stands now.
-/

namespace ThreadStacks.CommandLine

/-! ## What stands behind names -/

namespace Node

/-- Whether a node is a directory. -/
def isDirectory : Node → Bool
  | .directory _ => true
  | .file _ => false

theorem exists_eq_directory {node? : Option Node} (directory : node?.any isDirectory = true) :
    ∃ entries, node? = some (.directory entries) := by
  cases node? with
  | none => contradiction
  | some node =>
      cases node with
      | file text => contradiction
      | directory entries => exact ⟨entries, rfl⟩

/-- What stands behind names, from a node on. -/
def at? : List Text → Node → Option Node
  | [], node => some node
  | _ :: _, .file _ => none
  | name :: names, .directory entries => (Table.get? name entries).bind (at? names)

theorem at?_append (names more : List Text) (node : Node) :
    at? (names ++ more) node = (at? names node).bind (at? more) := by
  induction names generalizing node with
  | nil => rfl
  | cons name names ih =>
      cases node with
      | file text => rfl
      | directory entries =>
          rw [List.cons_append, at?, at?, Option.bind_assoc]
          exact congrArg _ (funext ih)

theorem at?_put (name : Text) (node : Node) (entries : Entries) :
    at? [name] (.directory (Table.put name node entries)) = some node := by
  rw [at?, Table.get?_put_same]
  rfl

/-- Whether what is a directory behind some names stays one, where a node takes the place of
another one or of none. -/
def KeepsDirectories (before after : Option Node) : Prop :=
  ∀ names, (before.bind (at? names)).any isDirectory = true →
    (after.bind (at? names)).any isDirectory = true

theorem keepsDirectories_of_not_directory {before : Option Node}
    (noDirectory : before.any isDirectory = false) (after : Option Node) :
    KeepsDirectories before after := by
  intro names directory
  cases before with
  | none => contradiction
  | some node =>
      cases node with
      | directory entries => contradiction
      | file text => cases names <;> contradiction

/-- A directory keeps its directories if the entry that is written does. -/
theorem KeepsDirectories.put {name : Text} {entries : Entries} {node : Node}
    (keeps : KeepsDirectories (Table.get? name entries) (some node)) :
    KeepsDirectories (some (.directory entries))
      (some (.directory (Table.put name node entries))) := by
  intro names directory
  cases names with
  | nil => rfl
  | cons first names =>
      rw [Option.bind_some, at?] at directory ⊢
      by_cases same : first = name
      · subst same
        rw [Table.get?_put_same]
        exact keeps names directory
      · rw [Table.get?_put_other same]
        exact directory

end Node

/-! ## Places of a tree -/

namespace Place

/-- The names that lead from the root to a place. -/
def names (place : Place) : List Text := (place.around.map Prod.fst).reverse

/-- Whether a node stands inside directories of a tree, given by the entries of its root: the
outermost directory is the root, and each one is an entry of the next one. -/
def StandsIn (root : Entries) : (node? : Option Node) → (around : List (Text × Entries)) → Prop
  | node?, [] => node? = some (.directory root)
  | node?, (name, entries) :: around =>
      node? = Table.get? name entries ∧ StandsIn root (some (.directory entries)) around

/-- Whether what a place tells of itself is what stands there in a tree. -/
def IsIn (root : Entries) (place : Place) : Prop := StandsIn root place.node? place.around

variable {root otherRoot : Entries} {place other next : Place} {name : Text} {node : Node}
  {node? : Option Node} {entries : Entries} {around : List (Text × Entries)}

theorem StandsIn.eq_at? (stands : StandsIn root node? around) :
    node? = Node.at? (around.map Prod.fst).reverse (.directory root) := by
  induction around generalizing node? with
  | nil => exact stands
  | cons step around ih =>
      obtain ⟨name, entries⟩ := step
      obtain ⟨isEntry, inside⟩ := stands
      rw [List.map_cons, List.reverse_cons, Node.at?_append, ← ih inside, isEntry, Option.bind_some,
        Node.at?]
      exact (Option.bind_fun_some _).symm

theorem IsIn.eq_at? (isIn : place.IsIn root) :
    place.node? = Node.at? place.names (.directory root) := StandsIn.eq_at? isIn

theorem IsIn.up (isIn : place.IsIn root) : place.up.IsIn root := by
  obtain ⟨node?, around⟩ := place
  cases around with
  | nil => exact isIn
  | cons step around => exact isIn.2

theorem names_up (place : Place) : place.up.names = place.names.dropLast := by
  obtain ⟨node?, around⟩ := place
  cases around with
  | nil => rfl
  | cons step around =>
      change (around.map Prod.fst).reverse = (step.1 :: around.map Prod.fst).reverse.dropLast
      rw [List.dropLast_reverse, List.tail_cons]

/-- Where directories are closed, the node put among the innermost entries stands behind the names
that lead there. -/
theorem at?_close (name : Text) (node : Node) (entries : Entries)
    (around : List (Text × Entries)) :
    Node.at? ((name :: around.map Prod.fst).reverse) (.directory (close name node entries around)) =
      some node := by
  induction around generalizing name node entries with
  | nil => exact Node.at?_put name node entries
  | cons step around ih =>
      obtain ⟨outerName, outer⟩ := step
      rw [close, List.reverse_cons, Node.at?_append, List.map_cons, ih]
      exact Node.at?_put name node entries

/-- Closing directories keeps the directories of the tree if the node that is put does. -/
theorem keepsDirectories_close
    (stands : StandsIn root (some (.directory entries)) around)
    (keeps : Node.KeepsDirectories (Table.get? name entries) (some node)) :
    Node.KeepsDirectories (some (.directory root))
      (some (.directory (close name node entries around))) := by
  induction around generalizing name node entries with
  | nil =>
      cases stands
      exact keeps.put
  | cons step around ih =>
      obtain ⟨outerName, outer⟩ := step
      obtain ⟨isEntry, outside⟩ := stands
      apply ih outside
      rw [← isEntry]
      exact keeps.put

/-! ## Steps -/

/-- Where a name leads from a directory. -/
inductive Move where
  | stay
  | up
  | enter

/-- Where a name leads from every directory, unless it is too long. -/
def Move.ofName (name : Text) : Except Fault Move :=
  if Path.maxNameBytes < Path.byteCount name then .error .pathTooLong
  else if name.isEmpty || name = [.char '.'] then .ok .stay
  else if name = "..".toText then .ok .up
  else .ok .enter

/-- Move from a directory with entries. -/
def move (place : Place) (entries : Entries) (name : Text) : Move → Place
  | .stay => place
  | .up => place.up
  | .enter => ⟨Table.get? name entries, (name, entries) :: place.around⟩

theorem goTo_directory (given : place.node? = some (.directory entries)) (name : Text) :
    place.goTo name = (Move.ofName name).map (place.move entries name) := by
  rw [goTo, given, Move.ofName]
  simp only
  split
  next => rfl
  next =>
    split
    next => rfl
    next => split <;> rfl

theorem exists_directory_of_goTo (goes : place.goTo name = .ok next) :
    ∃ entries, place.node? = some (.directory entries) := by
  rw [goTo] at goes
  split at goes
  next => contradiction
  next => contradiction
  next entries given => exact ⟨entries, given⟩

/-! ## One place in two trees -/

/-- Two places of two trees that the same names lead to. -/
structure Matches (root otherRoot : Entries) (place other : Place) : Prop where
  isIn : place.IsIn root
  otherIsIn : other.IsIn otherRoot
  names : place.names = other.names

theorem Matches.up (same : Matches root otherRoot place other) :
    Matches root otherRoot place.up other.up := by
  refine ⟨same.isIn.up, same.otherIsIn.up, ?_⟩
  rw [names_up, names_up, same.names]

theorem Matches.exists_directory (same : Matches root otherRoot place other)
    (keeps : Node.KeepsDirectories (some (.directory root)) (some (.directory otherRoot)))
    (given : place.node? = some (.directory entries)) :
    ∃ otherEntries, other.node? = some (.directory otherEntries) := by
  have directory := keeps place.names
  rw [Option.bind_some, Option.bind_some, ← same.isIn.eq_at?, same.names,
    ← same.otherIsIn.eq_at?, given] at directory
  exact Node.exists_eq_directory (directory rfl)

theorem Matches.move (same : Matches root otherRoot place other) {otherEntries : Entries}
    (given : place.node? = some (.directory entries))
    (otherGiven : other.node? = some (.directory otherEntries)) (name : Text) (step : Move) :
    Matches root otherRoot (place.move entries name step) (other.move otherEntries name step) := by
  cases step with
  | stay => exact same
  | up => exact same.up
  | enter =>
      refine ⟨⟨rfl, given ▸ same.isIn⟩, ⟨rfl, otherGiven ▸ same.otherIsIn⟩, ?_⟩
      change (name :: place.around.map Prod.fst).reverse =
        (name :: other.around.map Prod.fst).reverse
      rw [List.reverse_cons, List.reverse_cons]
      exact congrArg (· ++ [name]) same.names

/-- Where directories are kept, one name further leads to the same place again. -/
theorem Matches.goTo (same : Matches root otherRoot place other)
    (keeps : Node.KeepsDirectories (some (.directory root)) (some (.directory otherRoot)))
    (goes : place.goTo name = .ok next) :
    ∃ otherNext, other.goTo name = .ok otherNext ∧ Matches root otherRoot next otherNext := by
  obtain ⟨entries, given⟩ := exists_directory_of_goTo goes
  obtain ⟨otherEntries, otherGiven⟩ := same.exists_directory keeps given
  rw [goTo_directory given] at goes
  rw [goTo_directory otherGiven]
  cases moves : Move.ofName name with
  | error fault =>
      rw [moves] at goes
      contradiction
  | ok step =>
      rw [moves] at goes
      cases goes
      exact ⟨_, rfl, same.move given otherGiven name step⟩

theorem Matches.foldlM_goTo (same : Matches root otherRoot place other)
    (keeps : Node.KeepsDirectories (some (.directory root)) (some (.directory otherRoot)))
    {names : List Text} (goes : names.foldlM Place.goTo place = .ok next) :
    ∃ otherNext, names.foldlM Place.goTo other = .ok otherNext ∧
      Matches root otherRoot next otherNext := by
  induction names generalizing place other with
  | nil =>
      cases goes
      exact ⟨other, rfl, same⟩
  | cons name names ih =>
      rw [List.foldlM_cons] at goes ⊢
      obtain ⟨middle, first, goes⟩ := Written.bind_eq_ok_iff.1 goes
      obtain ⟨otherMiddle, otherFirst, sameMiddle⟩ := same.goTo keeps first
      rw [otherFirst]
      exact ih sameMiddle goes

end Place

/-! ## Paths -/

namespace FileTree

variable {tree : FileTree} {path : Path} {place : Place} {text : Option Text}

/-- A path starts from the same place again after a change that keeps all directories. -/
theorem exists_origin {root : Entries}
    (keeps : Node.KeepsDirectories (some (.directory tree.root)) (some (.directory root)))
    (starts : tree.origin path = .ok place) :
    ∃ other, origin { tree with root := root } path = .ok other ∧
      Place.Matches tree.root root place other := by
  have start : Place.Matches tree.root root tree.rootPlace (rootPlace { tree with root := root }) :=
    ⟨rfl, rfl, rfl⟩
  rw [origin] at starts ⊢
  split at starts
  next absolute =>
    cases starts
    exact ⟨_, if_pos absolute, start⟩
  next relative =>
    rw [if_neg relative]
    exact start.foldlM_goTo keeps starts

/-- A path leads to the same place again after a change that keeps all directories. -/
theorem exists_follow {root : Entries}
    (keeps : Node.KeepsDirectories (some (.directory tree.root)) (some (.directory root)))
    (follows : tree.follow path = .ok place) :
    ∃ other, follow { tree with root := root } path = .ok other ∧
      Place.Matches tree.root root place other := by
  rw [follow] at follows ⊢
  generalize path.fault? = fault? at follows ⊢
  cases fault? with
  | some fault => contradiction
  | none =>
      obtain ⟨origin, starts, goes⟩ := Written.bind_eq_ok_iff.1 follows
      obtain ⟨other, otherStarts, same⟩ := exists_origin keeps starts
      obtain ⟨last, otherGoes, sameLast⟩ := same.foldlM_goTo keeps goes
      exact ⟨last, Written.bind_eq_ok_iff.2 ⟨other, otherStarts, otherGoes⟩, sameLast⟩

/-- A place that a path leads to belongs to the tree. -/
theorem isIn_of_follow (follows : tree.follow path = .ok place) : place.IsIn tree.root := by
  have keeps : Node.KeepsDirectories (some (.directory tree.root)) (some (.directory tree.root)) :=
    fun _ directory => directory
  obtain ⟨_, _, same⟩ := exists_follow keeps follows
  exact same.isIn

/-- A path that led to no directory leads to the node that was put there. -/
theorem exists_follow_put (follows : tree.follow path = .ok place)
    (noDirectory : place.node?.any Node.isDirectory = false) (node : Node) :
    ∃ other, (tree.put place node).follow path = .ok other ∧ other.node? = some node := by
  have isIn := isIn_of_follow follows
  obtain ⟨node?, around⟩ := place
  cases around with
  | nil =>
      -- The root itself is a directory.
      have isRoot : node? = some (.directory tree.root) := isIn
      rw [isRoot] at noDirectory
      contradiction
  | cons step around =>
      obtain ⟨name, entries⟩ := step
      obtain ⟨isEntry, inside⟩ := isIn
      have keeps := Place.keepsDirectories_close inside
        (Node.keepsDirectories_of_not_directory (isEntry ▸ noDirectory) (some node))
      obtain ⟨other, otherFollows, same⟩ := exists_follow keeps follows
      refine ⟨other, otherFollows, ?_⟩
      rw [same.otherIsIn.eq_at?, ← same.names]
      exact Place.at?_close name node entries around

theorem exists_follow_of_write (written : (tree.write path text).fault? = none) :
    ∃ place, tree.follow path = .ok place ∧ place.node?.any Node.isDirectory = false ∧
      (tree.write path text).tree = tree.put place (.file text) := by
  rw [write] at written ⊢
  cases follows : tree.follow path with
  | error fault =>
      rw [follows] at written
      contradiction
  | ok place =>
      obtain ⟨node?, around⟩ := place
      rw [follows] at written
      cases node? with
      | none => exact ⟨_, rfl, rfl, rfl⟩
      | some node =>
          cases node with
          | file old => exact ⟨_, rfl, rfl, rfl⟩
          | directory entries => contradiction

/-- A file that was written is read by its path. -/
theorem read_write (written : (tree.write path text).fault? = none) :
    (tree.write path text).tree.read path = .ok text := by
  obtain ⟨place, follows, noDirectory, made⟩ := exists_follow_of_write written
  obtain ⟨other, otherFollows, found⟩ :=
    exists_follow_put follows noDirectory (.file text)
  rw [made, read, otherFollows]
  obtain ⟨node?, around⟩ := other
  cases found
  rfl

/-- A file that was saved is read by its path. -/
theorem read_save (saved : (tree.save path text).fault? = none) :
    (tree.save path text).tree.read path = .ok text := by
  simp only [save] at saved ⊢
  split at saved
  next => exact read_write saved
  next given =>
    rw [given] at saved
    contradiction

end FileTree

end ThreadStacks.CommandLine
