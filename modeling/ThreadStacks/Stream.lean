import ThreadStacks.Fault
import ThreadStacks.Written

/-!
# Encoded streams

Text is written in pieces, each of them whole or not at all.  The standard output and the files take
encoded text, and an encoding has places for characters only: a piece with a half ends the work that
writes it, and what was written before stays.
-/

namespace ThreadStacks

/-- Work that writes pieces of text. -/
abbrev Drawn := Written Fault Text

namespace Written

variable {Result : Type}

def text (work : Drawn Result) : Text := work.output.flatten

/-- The fault that ended work, if one did. -/
def fault? (work : Drawn Result) : Option Fault :=
  match work.outcome with
  | .ok _ => none
  | .error fault => some fault

/-- Work that writes to an encoded stream. -/
def encoded (work : Drawn Result) : Drawn Result :=
  ⟨work.output.takeWhile Text.isEncodable,
    if work.output.all Text.isEncodable then work.outcome else .error .notEncodable⟩

end Written

end ThreadStacks
