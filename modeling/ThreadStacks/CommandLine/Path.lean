import ThreadStacks.Fault

/-!
# Paths

A path is a text whose names are separated by slashes.  Slashes between two names count as one, and
a path that starts with a slash starts from the root.  Names are bytes for the system: a character
has those of its encoding, and a byte that belongs to no character is shown as a half.  The other
halves cannot stand in a path.
-/

namespace ThreadStacks.CommandLine

/-- A path to a file or a directory. -/
abbrev Path := Text

namespace Path

/-- The path to the directory that the last name of a path stands in. -/
def directory (path : Path) : Path :=
  let start := Text.dropEndWhile (· != .char '/') path
  if start.all (· == .char '/') then start else Text.dropEndWhile (· == .char '/') start

def lastName (path : Path) : Text := (path.reverse.takeWhile (· != .char '/')).reverse

/-- The paths to the directories around a path, the nearest one first; at most a number of them. -/
def directories : (count : Nat) → Path → List Path
  | 0, _ => []
  | count + 1, path =>
      let around := directory path
      if around.isEmpty || around == path then [] else around :: directories count around

/-- Whether a code point can stand in a path: a half has to stand for a byte beyond ASCII. -/
def hasBytes : CodePoint → Bool
  | .char _ => true
  | half => 0xDC80 ≤ half.toNat && half.toNat ≤ 0xDCFF

def byteCount : Text → Nat
  | [] => 0
  | character :: rest => character.byteCount + byteCount rest

/-- The longest path that the system follows, in bytes. -/
def maxBytes : Nat := 4095

/-- The longest name that a file can have in the system, in bytes. -/
def maxNameBytes : Nat := 255

/-- What keeps a path from being followed in every tree. -/
def fault? (path : Path) : Option Fault :=
  if !path.all hasBytes then some .notEncodable
  else if path.contains (.char '\x00') then some .nullInPath
  else if path.isEmpty then some .fileMissing
  else if maxBytes < byteCount path then some .pathTooLong
  else none

end Path

end ThreadStacks.CommandLine
