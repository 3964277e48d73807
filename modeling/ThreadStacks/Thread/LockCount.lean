import ThreadStacks.Fault

/-!
# Lock counts

The number of locks that a thread holds fits 32 bits.  The largest number of 32 bits stands for a
runtime that does not count locks.
-/

namespace ThreadStacks

/-- The raw value of a runtime that does not count locks. -/
def unsupportedLockCount : Nat := 0xFFFFFFFF

/-- How many locks a thread holds, if the runtime counts them. -/
inductive LockCount where
  | unsupported
  | known (count : Fin unsupportedLockCount)
  deriving DecidableEq, Repr

namespace LockCount

/-- The lock count that a raw value stands for. -/
def ofRaw (raw : Int) : Except Fault LockCount :=
  if raw < 0 then .error (.lockCountOutOfRange raw)
  else if small : raw.toNat < unsupportedLockCount then .ok (.known ⟨raw.toNat, small⟩)
  else if raw = unsupportedLockCount then .ok .unsupported
  else .error (.lockCountOutOfRange raw)

/-- Whether the runtime counts locks. -/
def isValid : LockCount → Bool
  | .unsupported => false
  | .known _ => true

/-- The number of locks, if the runtime counts them. -/
def count? : LockCount → Option Nat
  | .unsupported => none
  | .known count => some count.val

def count (lockCount : LockCount) : Except Fault Nat :=
  match lockCount.count? with
  | some count => .ok count
  | none => .error .lockCountUnsupported

/-- Whether no lock is known to be held. -/
def isEmpty (lockCount : LockCount) : Bool := (lockCount.count?.getD 0) == 0

def text (lockCount : LockCount) : Text := (lockCount.count?.map Text.ofNat).getD "Invalid".toText

/-- The form of a lock count that says what it is. -/
def description (lockCount : LockCount) : Text :=
  "LockCount(".toText ++ lockCount.text ++ [.char ')']

/-- The key under which a lock count is filed: counts that differ have different keys. -/
def key (lockCount : LockCount) : Int :=
  match lockCount.count? with
  | some count => count
  | none => -1

end LockCount

end ThreadStacks
