import ThreadStacks.Proofs.Group.Export
import ThreadStacks.Proofs.Render.Row

/-!
# Records that are drawn as text

What is drawn of a thread as its record gives it, its raw frames and its exception, is text if that
is so in the record.  The first member of a group is one of the threads that were read, so what is
drawn of the groups of such records is text.
-/

namespace ThreadStacks

namespace ThreadRecord

variable {registry : ThreadRegistry} {record entry raw : Document} {thread : Thread}

/-- Whether an entry of a record's frames, if it is an object, has a text or null for its raw
frame. -/
def hasTextRaw : Document → Bool
  | .object fields => hasTextException.isTextOrNull (Document.fieldOrNull "raw".toText fields)
  | _ => true

/-- Whether the raw frames of a record, as far as they are given apart from the signatures, are
texts or null. -/
def hasTextRawFrames (record : Document) : Bool :=
  match record.fields >>= frameEntries with
  | .ok entries => entries.all hasTextRaw
  | .error _ => true

end ThreadRecord

end ThreadStacks
