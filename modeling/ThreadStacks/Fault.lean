import ThreadStacks.Text.Quoted

/-!
# Faults

What can be wrong with the input.  A fault is a cause; its kind and its wording are functions of
the cause.  The program words the faults of lock counts, of groups and of missing fields itself, and
a missing key is its own wording.  All other faults are worded by the runtime, at times with the
value that caused them; these words are left out here, and a report has three dots in their place.
-/

namespace ThreadStacks

/-- The kinds of faults that the program tells apart in its output. -/
inductive FaultKind where
  | key | value | type | attribute | index | overflow | memory | recursion | decoding | encoding
  | isDirectory | notDirectory | fileExists | fileMissing | system
  deriving DecidableEq, Repr

namespace FaultKind

def name : FaultKind → Text
  | .key => "KeyError".toText
  | .value => "ValueError".toText
  | .type => "TypeError".toText
  | .attribute => "AttributeError".toText
  | .index => "IndexError".toText
  | .overflow => "OverflowError".toText
  | .memory => "MemoryError".toText
  | .recursion => "RecursionError".toText
  | .decoding => "UnicodeDecodeError".toText
  | .encoding => "UnicodeEncodeError".toText
  | .isDirectory => "IsADirectoryError".toText
  | .notDirectory => "NotADirectoryError".toText
  | .fileExists => "FileExistsError".toText
  | .fileMissing => "FileNotFoundError".toText
  | .system => "OSError".toText

/-- Whether faults of a kind condemn the snapshot only, so that they are reported and the program
ends in order. -/
def rejectsSnapshot : FaultKind → Bool
  | .key | .value | .type | .attribute => true
  | _ => false

end FaultKind

/-- The causes of failure. -/
inductive Fault where
  /-- A field that has to be present is missing. -/
  | missingKey (key : Text)
  /-- No field name holds the text looked for. -/
  | noMatchingField (wanted typeKey : Text) (fieldNames : List Text)
  /-- A lock count is negative or does not fit 32 bits. -/
  | lockCountOutOfRange (raw : Int)
  /-- The lock count of a runtime that does not report any was asked for. -/
  | lockCountUnsupported
  /-- A group without threads was asked for. -/
  | emptyGroup
  /-- Fields were asked of a value that is no object. -/
  | notAnObject
  /-- A signature is no text. -/
  | notAText
  /-- A value that holds no others was gone through. -/
  | notIterable
  /-- A value of a kind that never stands for an integer was used as one. -/
  | notAnInteger
  /-- A text or a number does not stand for an integer. -/
  | malformedInteger
  /-- An infinite number was used as an integer. -/
  | infiniteInteger
  /-- An integer has more digits than are converted. -/
  | integerTooLong
  /-- A value without a length was to be written. -/
  | notMeasurable
  /-- A value that is no text was to be written as one. -/
  | notWritable
  /-- The length of a registry that keeps no names was asked for. -/
  | noLength
  /-- A scan was to start beyond the end of a text. -/
  | positionBeyondText
  /-- A width does not fit a machine word. -/
  | widthOutOfRange
  /-- A line of the wanted width cannot be held. -/
  | widthTooLarge
  /-- A document is nested deeper than is read. -/
  | nestingTooDeep
  /-- The bytes of a file do not encode a text. -/
  | notEncoded
  /-- A text with a half in it was to be encoded. -/
  | notEncodable
  /-- A path holds a null character. -/
  | nullInPath
  /-- A file was to be written where a directory stands. -/
  | isDirectory
  /-- A path goes through a file. -/
  | notDirectory
  /-- A directory was to be made where a file stands. -/
  | fileExists
  /-- A file is not there. -/
  | fileMissing
  /-- A path, or a name in it, is longer than the system allows. -/
  | pathTooLong
  /-- More directories are missing than are made for one path. -/
  | pathTooDeep
  /-- An option that needs a value was left without one. -/
  | settingMissing
  deriving DecidableEq, Repr

namespace Fault

def kind : Fault → FaultKind
  | .missingKey _ | .noMatchingField _ _ _ => .key
  | .lockCountOutOfRange _ | .lockCountUnsupported | .emptyGroup | .malformedInteger
  | .integerTooLong | .nullInPath => .value
  | .notAnObject | .notAText => .attribute
  | .notIterable | .notAnInteger | .notMeasurable | .notWritable | .noLength
  | .settingMissing => .type
  | .positionBeyondText => .index
  | .infiniteInteger | .widthOutOfRange => .overflow
  | .widthTooLarge => .memory
  | .nestingTooDeep | .pathTooDeep => .recursion
  | .notEncoded => .decoding
  | .notEncodable => .encoding
  | .isDirectory => .isDirectory
  | .notDirectory => .notDirectory
  | .fileExists => .fileExists
  | .fileMissing => .fileMissing
  | .pathTooLong => .system

/-- The wording of a fault, where it has one. -/
def message? : Fault → Option Text
  | .missingKey key => some key
  | .noMatchingField wanted typeKey fieldNames =>
      some ("no field matching '".toText ++ wanted ++ "' on ".toText ++ typeKey ++ ": ".toText ++
        ", ".toText.intercalate fieldNames)
  | .lockCountOutOfRange raw => some ("lock count out of range: ".toText ++ Text.ofInt raw)
  | .lockCountUnsupported => some "lock count is not supported by the target runtime".toText
  | .emptyGroup => some "a thread group needs at least one thread".toText
  | _ => none

/-- A fault inside a report: its kind, and its wording between quotes or three dots. -/
def report (fault : Fault) : Text :=
  fault.kind.name ++ .char '(' ::
    ((fault.message?.map Text.quoted).getD "...".toText ++ [.char ')'])

end Fault

end ThreadStacks
