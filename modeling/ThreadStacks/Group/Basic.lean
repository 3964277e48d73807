import ThreadStacks.Thread.Basic

/-!
# Thread groups

A group is a thread and the other threads with the same stack.  What is shown of its frames comes
from the first member; its header names the thread, or lists the ids of the members.
-/

namespace ThreadStacks

/-- Whether a group has one member or more. -/
inductive GroupKind where
  | single
  | grouped
  deriving DecidableEq, Repr

def GroupKind.name : GroupKind → Text
  | .single => "single".toText
  | .grouped => "grouped".toText

/-- Threads with the same stack: the first one, and the others in order. -/
structure ThreadGroup where
  representative : Thread
  others : List Thread

namespace ThreadGroup

/-- The group of a list of threads, which must not be empty. -/
def ofList : List Thread → Except Fault ThreadGroup
  | [] => .error .emptyGroup
  | thread :: others => .ok ⟨thread, others⟩

def members (group : ThreadGroup) : List Thread := group.representative :: group.others

def threadCount (group : ThreadGroup) : Nat := group.members.length

/-- Whether a group has one member or more. -/
def kind (group : ThreadGroup) : GroupKind :=
  if group.others.isEmpty then .single else .grouped

def managedIds (group : ThreadGroup) : List Int :=
  group.members.map fun thread => thread.id.managedId

/-- How many ids a header lists. -/
def maxHeaderIds : Nat := 10

def threadHeader (id : ThreadId) : Text :=
  let name := if id.name.isTruthy then " (".toText ++ id.name.display ++ [.char ')'] else []
  "Thread #".toText ++ Text.ofInt id.managedId ++ " (OsId: #".toText ++ Text.ofInt id.osId ++
    .char ')' :: name

/-- The header of a group of several threads. -/
def idsHeader (ids : List Int) : Text :=
  let listed := ", ".toText.intercalate ((ids.take maxHeaderIds).map Text.ofInt)
  let more := if maxHeaderIds < ids.length then "...".toText else []
  Text.ofNat ids.length ++ " Threads. (Ids: ".toText ++ listed ++ more ++ [.char ')']

def header (group : ThreadGroup) : Text :=
  match group.kind with
  | .single => threadHeader group.representative.id
  | .grouped => idsHeader group.managedIds

/-- The signatures of the frames, one a line. -/
def body (group : ThreadGroup) : Text := [.char '\n'].intercalate group.representative.signatures

/-- The header and the body. -/
def text (group : ThreadGroup) : Text := group.header ++ .char '\n' :: group.body

end ThreadGroup

end ThreadStacks
