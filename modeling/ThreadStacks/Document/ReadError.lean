import ThreadStacks.Fault

/-!
# What keeps a written document from being read
-/

namespace ThreadStacks.Document

/-- Why a text is not read as a document. -/
inductive ReadError where
  /-- The text is no document. -/
  | malformed
  /-- The text goes beyond a limit. -/
  | refused (fault : Fault)
  deriving DecidableEq, Repr

end ThreadStacks.Document
