import ThreadStacks.Thread.Registry

/-!
# Discovery sessions

A session keeps the field names found so far from one request to the next, and the registry that
was read last.  A request that fails changes no registry; the field names that it found before it
failed are kept.
-/

namespace ThreadStacks

/-- What can be asked in a session. -/
inductive SessionStep where
  /-- Forget all field names. -/
  | forget
  | resolve (typeKey : Text) (fieldNames : List Text) (wanted : Text)
  | load (typeKey : Text) (liveIds : Option (List Int)) (objects : Document)
  | name (managedId : Int)
  | size

/-- What a session answers. -/
inductive SessionAnswer where
  | forgotten
  | fieldName (name : Except Fault Text)
  | loaded (scan : RegistryScan)
  | name (name : Document)
  | size (size : Except Fault Nat)

/-- What a session keeps. -/
structure Session where
  fieldNames : FieldNames
  registry : ThreadRegistry

namespace Session

def start : Session := ⟨[], .empty⟩

/-- Answer one request. -/
def answer (session : Session) : SessionStep → SessionAnswer × Session
  | .forget => (.forgotten, { session with fieldNames := [] })
  | .resolve typeKey fieldNames wanted =>
      let found := (FieldNames.resolve typeKey fieldNames wanted).run session.fieldNames
      (.fieldName found.1, { session with fieldNames := found.2 })
  | .load typeKey liveIds objects =>
      let scan := ThreadRegistry.scanDocument typeKey liveIds objects session.fieldNames
      let registry := match scan.names with
        | .ok names => .named names
        | .error _ => session.registry
      (.loaded scan, ⟨scan.fieldNames, registry⟩)
  | .name managedId => (.name (session.registry.name managedId), session)
  | .size => (.size session.registry.size, session)

/-- Answer requests one after the other. -/
def run (session : Session) : List SessionStep → List SessionAnswer
  | [] => []
  | step :: steps =>
      let answered := session.answer step
      answered.1 :: run answered.2 steps

/-- What a session keeps after requests. -/
def after (session : Session) (steps : List SessionStep) : Session :=
  steps.foldl (fun session step => (session.answer step).2) session

end Session

end ThreadStacks
