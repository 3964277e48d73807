import ThreadStacks.Diagnostic
import ThreadStacks.Document.Integer
import ThreadStacks.Document.Parts
import ThreadStacks.Thread.FieldNames

/-!
# Names of threads

The heap of the inspected program holds an object for every thread, with the thread's managed id
and its name.  A registry is read from such objects.  The reading stops as soon as all ids that
matter have been seen, so objects after that are not even looked at.
-/

namespace ThreadStacks

/-- The names that were read, by managed id; the last one for an id counts. -/
abbrev ThreadNames := Table Int Document

/-- The names of threads, or a registry that keeps none. -/
inductive ThreadRegistry where
  | empty
  | named (names : ThreadNames)

/-- What a scan of thread objects gives: the names or a fault, the field names found, and how many
objects were looked at. -/
structure RegistryScan where
  names : Except Fault ThreadNames
  fieldNames : FieldNames
  consumed : Nat

/-- What is worth noting about a scan that found all it was to find. -/
def RegistryScan.notes (scan : RegistryScan) : List Diagnostic :=
  match scan.names with
  | .ok names => [.namesDiscovered names.length]
  | .error _ => []

namespace ThreadRegistry

/-- The name of a thread; null if it has none. -/
def name (managedId : Int) : ThreadRegistry → Document
  | .empty => .null
  | .named names => (Table.get? managedId names).getD .null

def size : ThreadRegistry → Except Fault Nat
  | .empty => .error .noLength
  | .named names => .ok names.length

/-- A part of the name of the field with the managed id. -/
def idField : Text := "managedThreadId".toText

/-- A part of the name of the field with the name. -/
def nameField : Text := "name".toText

def threadType : Text := "System.Threading.Thread".toText

def readObject (typeKey : Text) : Document → Discovery (Int × Document)
  | .object fields => do
      let fieldNames := fields.map Prod.fst
      let idName ← FieldNames.resolve typeKey fieldNames idField
      let nameName ← FieldNames.resolve typeKey fieldNames nameField
      match Table.get? idName fields with
      | none => throw (.missingKey idName)
      | some id =>
          let managedId ← liftExcept id.toInteger
          pure (managedId, (Table.get? nameName fields).getD .null)
  | _ => throw .notAnObject
where
  /-- Pass a fault on. -/
  liftExcept (outcome : Except Fault Int) : Discovery Int := ExceptT.mk (pure outcome)

/-- Read thread objects after some names have been read, until no id that matters is awaited any
more.  Without a list of such ids the end of the objects is awaited. -/
def scanFrom (typeKey : Text) :
    (awaited : Option (List Int)) → List Document → ThreadNames → FieldNames → RegistryScan
  | _, [], names, fieldNames => ⟨.ok names, fieldNames, 0⟩
  | awaited, object :: objects, names, fieldNames =>
      match (readObject typeKey object).run fieldNames with
      | (.error fault, fieldNames) => ⟨.error fault, fieldNames, 1⟩
      | (.ok (managedId, name), fieldNames) =>
          let names := Table.put managedId name names
          let awaited := awaited.map fun ids => ids.filter (· != managedId)
          if awaited = some [] then ⟨.ok names, fieldNames, 1⟩
          else
            let rest := scanFrom typeKey awaited objects names fieldNames
            { rest with consumed := rest.consumed + 1 }

/-- Read thread objects until all ids that matter are seen. -/
def scan (typeKey : Text) (liveIds : Option (List Int)) (objects : List Document)
    (fieldNames : FieldNames) : RegistryScan :=
  scanFrom typeKey liveIds objects [] fieldNames

/-- Read the parts of a document as thread objects. -/
def scanDocument (typeKey : Text) (liveIds : Option (List Int)) (objects : Document)
    (fieldNames : FieldNames) : RegistryScan :=
  match objects.parts with
  | .ok objects => scan typeKey liveIds objects fieldNames
  | .error fault => ⟨.error fault, fieldNames, 0⟩

end ThreadRegistry

end ThreadStacks
