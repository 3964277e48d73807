import ThreadStacks.Proofs.Thread.FieldNames
import ThreadStacks.Thread.Session

/-!
# Field names over a session

Reading thread objects searches for two fields in each object that is looked at, and stops with the
first search that fails.  All that a reading does to the field names comes from these searches,
also where it fails at the id of a later object.  So the searches of a whole session, those that
are asked for and those inside readings, are made one after the other on the same names.
-/

namespace ThreadStacks

open FieldNames

/-! ## Searches inside a reading -/

namespace ThreadRegistry

/-- What is looked for in a thread object. -/
def objectRequests (typeKey : Text) : Document → List Request
  | .object fields =>
      [⟨typeKey, fields.map Prod.fst, idField⟩, ⟨typeKey, fields.map Prod.fst, nameField⟩]
  | _ => []

/-- What a thread object says under the names of its two fields. -/
def objectEntry (fields : Document.Fields) (idName nameName : Text) :
    Except Fault (Int × Document) :=
  match Table.get? idName fields with
  | none => .error (.missingKey idName)
  | some id => id.toInteger.map fun managedId =>
      (managedId, (Table.get? nameName fields).getD .null)

theorem run_readObject_object (typeKey : Text) (fields : Document.Fields) (known : FieldNames) :
    (readObject typeKey (.object fields)).run known =
      match Request.run ⟨typeKey, fields.map Prod.fst, idField⟩ known with
      | (.error fault, known) => (.error fault, known)
      | (.ok idName, known) =>
          match Request.run ⟨typeKey, fields.map Prod.fst, nameField⟩ known with
          | (.error fault, known) => (.error fault, known)
          | (.ok nameName, known) => (objectEntry fields idName nameName, known) := by
  rw [readObject, run_bind, Request.run]
  rcases (resolve typeKey (fields.map Prod.fst) idField).run known with ⟨fault | idName, middle⟩
  · rfl
  simp only [run_bind, Request.run]
  rcases (resolve typeKey (fields.map Prod.fst) nameField).run middle with ⟨fault | nameName, after⟩
  · rfl
  simp only [objectEntry]
  cases Table.get? idName fields with
  | none => rfl
  | some id =>
      simp only [run_bind]
      cases id.toInteger with
      | error fault => rfl
      | ok managedId => rfl

/-- Reading an object leaves the field names that its searches lead to, and where it does not fail,
none of its searches does. -/
theorem run_readObject (typeKey : Text) (object : Document) (known : FieldNames) :
    ((readObject typeKey object).run known).2 =
        (searchAll (objectRequests typeKey object) known).2 ∧
      ∀ entry, ((readObject typeKey object).run known).1 = .ok entry →
        ∀ search ∈ (searchAll (objectRequests typeKey object) known).1,
          ∃ name, search.outcome = .ok name := by
  cases object with
  | object fields =>
      rw [run_readObject_object, objectRequests, searchAll]
      rcases Request.run ⟨typeKey, fields.map Prod.fst, idField⟩ known with ⟨fault | idName, middle⟩
      · exact ⟨rfl, fun _ isRead => by cases isRead⟩
      simp only [searchAll]
      rcases Request.run ⟨typeKey, fields.map Prod.fst, nameField⟩ middle with
        ⟨fault | nameName, after⟩
      · exact ⟨rfl, fun _ isRead => by cases isRead⟩
      refine ⟨rfl, ?_⟩
      intro entry isRead search made
      rcases List.mem_cons.1 made with isId | others
      · exact ⟨idName, congrArg Search.outcome isId⟩
      · exact ⟨nameName, congrArg Search.outcome (List.mem_singleton.1 others)⟩
  | _ => exact ⟨rfl, fun _ _ _ made => absurd made List.not_mem_nil⟩

/-- A scan leaves the field names that the searches in the objects that it looks at lead to. -/
theorem fieldNames_scanFrom (typeKey : Text) (awaited : Option (List Int))
    (objects : List Document) (names : ThreadNames) (known : FieldNames) :
    let scanned := scanFrom typeKey awaited objects names known
    scanned.fieldNames =
      (searchAll ((objects.take scanned.consumed).flatMap (objectRequests typeKey)) known).2 := by
  induction objects generalizing awaited names known with
  | nil => rfl
  | cons object objects ih =>
      obtain ⟨leaves, succeeds⟩ := run_readObject typeKey object known
      rw [scanFrom]
      generalize (readObject typeKey object).run known = ran at leaves succeeds ⊢
      have alone : ((object :: objects).take 1).flatMap (objectRequests typeKey) =
          objectRequests typeKey object := List.append_nil _
      rcases ran with ⟨fault | ⟨id, name⟩, after⟩
      · simp only [alone]
        exact leaves
      simp only
      split
      next =>
        simp only [alone]
        exact leaves
      next =>
        simp only [List.take_succ_cons, List.flatMap_cons]
        rw [ih, searchAll_append (succeeds _ rfl), ← leaves]

/-- What is looked for when the parts of a document are read as thread objects. -/
def requests (typeKey : Text) (liveIds : Option (List Int)) (objects : Document)
    (known : FieldNames) : List Request :=
  match objects.parts with
  | .ok parts =>
      (parts.take (scan typeKey liveIds parts known).consumed).flatMap (objectRequests typeKey)
  | .error _ => []

theorem fieldNames_scanDocument (typeKey : Text) (liveIds : Option (List Int))
    (objects : Document) (known : FieldNames) :
    (scanDocument typeKey liveIds objects known).fieldNames =
      (searchAll (requests typeKey liveIds objects known) known).2 := by
  rw [scanDocument, requests]
  cases objects.parts with
  | error fault => rfl
  | ok parts => exact fieldNames_scanFrom typeKey liveIds parts [] known

theorem typeKey_of_mem_objectRequests {typeKey : Text} {object : Document} {request : Request}
    (isAsked : request ∈ objectRequests typeKey object) : request.typeKey = typeKey := by
  cases object with
  | object fields =>
      rcases List.mem_cons.1 isAsked with isId | others
      · rw [isId]
      · rw [List.mem_singleton.1 others]
  | _ => contradiction

theorem typeKey_of_mem_requests {typeKey : Text} {liveIds : Option (List Int)} {objects : Document}
    {known : FieldNames} {request : Request}
    (isAsked : request ∈ requests typeKey liveIds objects known) : request.typeKey = typeKey := by
  rw [requests] at isAsked
  split at isAsked
  next =>
    obtain ⟨object, -, isAsked⟩ := List.mem_flatMap.1 isAsked
    exact typeKey_of_mem_objectRequests isAsked
  next => contradiction

end ThreadRegistry

/-! ## Searches of a session -/

/-- The type whose objects a request is about. -/
def SessionStep.typeKey? : SessionStep → Option Text
  | .resolve typeKey _ _ | .load typeKey _ _ => some typeKey
  | .forget | .name _ | .size => none

/-- The searches that answering one request makes. -/
def SessionStep.searches (known : FieldNames) : SessionStep → List Search
  | .resolve typeKey fieldNames wanted =>
      [⟨⟨typeKey, fieldNames, wanted⟩, (Request.run ⟨typeKey, fieldNames, wanted⟩ known).1⟩]
  | .load typeKey liveIds objects =>
      (searchAll (ThreadRegistry.requests typeKey liveIds objects known) known).1
  | .forget | .name _ | .size => []

namespace Session

/-- The searches that answering requests makes. -/
def searches (session : Session) : List SessionStep → List Search
  | [] => []
  | step :: steps =>
      step.searches session.fieldNames ++ searches (session.answer step).2 steps

/-- Answering a request, unless it is to forget, does to the field names what its searches do. -/
theorem leads_answer (session : Session) {step : SessionStep} (keeps : step ≠ .forget) :
    Leads session.fieldNames (step.searches session.fieldNames)
      (session.answer step).2.fieldNames := by
  cases step with
  | forget => contradiction
  | resolve typeKey fieldNames wanted => exact .one ⟨typeKey, fieldNames, wanted⟩ _
  | load typeKey liveIds objects =>
      have leaves := ThreadRegistry.fieldNames_scanDocument typeKey liveIds objects
        session.fieldNames
      rw [answer]
      simp only [leaves]
      exact leads_searchAll _ _
  | name managedId => exact .none _
  | size => exact .none _

theorem leads_after (session : Session) {steps : List SessionStep} (keeps : .forget ∉ steps) :
    Leads session.fieldNames (session.searches steps) (session.after steps).fieldNames := by
  induction steps generalizing session with
  | nil => exact .none _
  | cons step steps ih =>
      rw [List.mem_cons, not_or] at keeps
      exact (session.leads_answer (Ne.symm keeps.1)).append (ih _ keeps.2)

/-- All searches that a request makes are in objects of its type. -/
theorem typeKey_of_mem_searches {known : FieldNames} {step : SessionStep} {search : Search}
    (made : search ∈ step.searches known) : step.typeKey? = some search.request.typeKey := by
  cases step with
  | resolve => rw [List.mem_singleton.1 made, SessionStep.typeKey?]
  | load typeKey liveIds objects =>
      have isAsked := request_mem_of_mem_searchAll made
      rw [ThreadRegistry.typeKey_of_mem_requests isAsked, SessionStep.typeKey?]
  | _ => contradiction

/-- While nothing is forgotten, a field name that was found stays: every later search for it, asked
for or inside a reading, finds it again, and every request does.  Each request keeps the names that
were known, adds those that its own searches have found and no others, also when it fails, and
leaves the names of other types as they are; where it is a search that fails, nothing changes. -/
theorem keeps_fieldNames (session : Session) (steps : List SessionStep)
    (keeps : .forget ∉ steps) :
    (session.searches steps).Pairwise (fun earlier later => ∀ name, earlier.outcome = .ok name →
        later.request.key = earlier.request.key → later.outcome = .ok name) ∧
      ∀ earlier step later, steps = earlier ++ step :: later →
        let before := session.after earlier
        let answered := before.answer step
        (∀ search ∈ session.searches earlier, ∀ name, search.outcome = .ok name →
          ∀ fieldNames wanted, Text.lower wanted = Text.lower search.request.wanted →
            (before.answer (.resolve search.request.typeKey fieldNames wanted)).1 =
              .fieldName (.ok name)) ∧
        before.fieldNames <+: answered.2.fieldNames ∧
        (∀ key name, Table.get? key answered.2.fieldNames = some name ↔
          Table.get? key before.fieldNames = some name ∨
            ∃ search ∈ step.searches before.fieldNames, search.found? = some (key, name)) ∧
        (∀ key : Text × Text, step.typeKey? ≠ some key.1 →
          Table.get? key answered.2.fieldNames = Table.get? key before.fieldNames) ∧
        ∀ fault, answered.1 = .fieldName (.error fault) →
          fault.kind = .key ∧ answered.2.fieldNames = before.fieldNames := by
  refine ⟨(session.leads_after keeps).pairwise, ?_⟩
  intro earlier step later split before answered
  rw [split, List.mem_append, List.mem_cons, not_or, not_or] at keeps
  obtain ⟨keepsEarlier, keepsStep, -⟩ := keeps
  have leadsEarlier := session.leads_after keepsEarlier
  have leads := before.leads_answer (Ne.symm keepsStep)
  refine ⟨?_, leads.isPrefix, fun key name => leads.get?_eq_some_iff, ?_, ?_⟩
  · intro search made name found fieldNames wanted same
    have again : Request.run ⟨search.request.typeKey, fieldNames, wanted⟩ before.fieldNames = _ :=
      leadsEarlier.run_of_found made found (Prod.ext rfl same)
    exact congrArg (fun ran => SessionAnswer.fieldName ran.1) again
  · intro key other
    refine leads.get?_of_typeKey_ne fun search made same => other ?_
    rw [typeKey_of_mem_searches made, same]
  · intro fault failed
    cases step with
    | resolve typeKey fieldNames wanted =>
        have failed : (Request.run ⟨typeKey, fieldNames, wanted⟩ before.fieldNames).1 = _ :=
          SessionAnswer.fieldName.inj failed
        exact Request.run_of_error failed
    | _ => contradiction

/-- The reading fails at the id of the second object, and the names of both fields stay; they are
not found for another type. -/
theorem keeps_fieldNames_failedLoad :
    let object (id : Document) : Document :=
      .object [("m_ManagedThreadId".toText, id), ("m_Name".toText, .null)]
    let load : SessionStep := .load "T".toText none (.list [object (.integer 7), object .null])
    let resolve : SessionStep := .resolve "T".toText [] "NAME".toText
    let other : SessionStep := .resolve "U".toText [] "Name".toText
    let loaded := start.after [load]
    let resolved := start.after [load, resolve]
    SessionStep.forget ∉ [load, resolve, other] ∧
      loaded.registry = .empty ∧
      loaded.fieldNames.map Prod.snd = ["m_ManagedThreadId".toText, "m_Name".toText] ∧
      (loaded.answer resolve).1 = .fieldName (.ok "m_Name".toText) ∧
      (resolved.answer other).1 =
        .fieldName (.error (.noMatchingField "Name".toText "U".toText [])) ∧
      (resolved.answer other).2.fieldNames = resolved.fieldNames := by
  intro object load resolve other loaded resolved
  have keeps : SessionStep.forget ∉ [load, resolve, other] := by simp [load, resolve, other]
  have made : ⟨⟨"T".toText, ["m_ManagedThreadId".toText, "m_Name".toText], "name".toText⟩,
      .ok "m_Name".toText⟩ ∈ start.searches [load] := .tail _ (.head _)
  obtain ⟨-, gives⟩ := start.keeps_fieldNames [load, resolve, other] keeps
  obtain ⟨again, -⟩ := gives [load] resolve [other] rfl
  obtain ⟨-, -, -, -, unchanged⟩ := gives [load, resolve] other [] rfl
  refine ⟨keeps, rfl, by decide, again _ made _ rfl [] "NAME".toText (by decide), rfl, ?_⟩
  exact (unchanged _ rfl).2

end Session

end ThreadStacks
