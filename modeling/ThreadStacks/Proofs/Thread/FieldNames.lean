import ThreadStacks.Proofs.Table
import ThreadStacks.Proofs.Thread.Infinite

/-!
# Searches for field names

A search finds a name that is known, or it adds the name that it finds behind all others, or it
fails and adds nothing.  What follows from that for many searches: what was found once is found
again, and nothing is known afterwards but what was known before and what was found.
-/

namespace ThreadStacks.FieldNames

/-! ## One search -/

/-- What is looked for: the type of an object, the names of its fields, and a part of a name. -/
structure Request where
  typeKey : Text
  fieldNames : List Text
  wanted : Text

/-- What was looked for and what came of it. -/
structure Search where
  request : Request
  outcome : Except Fault Text

namespace Request

/-- What the name that is found is kept under. -/
def key (request : Request) : Text × Text := (request.typeKey, Text.lower request.wanted)

/-- What comes of a request, and the names that are known after it. -/
def run (request : Request) (known : FieldNames) : Except Fault Text × FieldNames :=
  (resolve request.typeKey request.fieldNames request.wanted).run known

theorem run_eq (request : Request) (known : FieldNames) :
    request.run known =
      match Table.get? request.key known with
      | some name => (.ok name, known)
      | none =>
          match matching? request.fieldNames request.wanted with
          | some name => (.ok name, Table.put request.key name known)
          | none =>
              (.error (.noMatchingField request.wanted request.typeKey request.fieldNames),
                known) := by
  have got : (get : Discovery FieldNames).run known = (.ok known, known) := rfl
  rw [run, resolve, ThreadRegistry.run_bind, key]
  simp only [got]
  cases Table.get? (request.typeKey, Text.lower request.wanted) known with
  | some name => rfl
  | none =>
      cases matching? request.fieldNames request.wanted with
      | some name => rfl
      | none => rfl

variable {request : Request} {known : FieldNames}

/-- A known name is found, whatever fields there are. -/
theorem run_of_known {name : Text} (isKnown : Table.get? request.key known = some name) :
    request.run known = (.ok name, known) := by
  rw [run_eq, isKnown]

/-- All that a search can come to: the name was known, or a field has it and it is added, or there
is no such field. -/
theorem run_cases (request : Request) (known : FieldNames) :
    (∃ name, Table.get? request.key known = some name ∧
      request.run known = (.ok name, known)) ∨
    (∃ name, Table.get? request.key known = none ∧
      request.run known = (.ok name, known ++ [(request.key, name)])) ∨
    (∃ fault, fault.kind = .key ∧ request.run known = (.error fault, known)) := by
  rw [run_eq]
  cases isKnown : Table.get? request.key known with
  | some name => exact .inl ⟨name, rfl, rfl⟩
  | none =>
      refine .inr ?_
      cases matching? request.fieldNames request.wanted with
      | some name =>
          refine .inl ⟨name, rfl, ?_⟩
          rw [← Table.put_eq_append isKnown]
      | none => exact .inr ⟨_, rfl, rfl⟩

/-- A search that fails adds nothing. -/
theorem run_of_error {fault : Fault} (failed : (request.run known).1 = .error fault) :
    fault.kind = .key ∧ (request.run known).2 = known := by
  obtain ⟨name, -, ran⟩ | ⟨name, -, ran⟩ | ⟨other, isKey, ran⟩ := run_cases request known
  · rw [ran] at failed
    contradiction
  · rw [ran] at failed
    contradiction
  · rw [ran] at failed ⊢
    cases failed
    exact ⟨isKey, rfl⟩

theorem isPrefix_run (request : Request) (known : FieldNames) :
    known <+: (request.run known).2 := by
  obtain ⟨name, -, ran⟩ | ⟨name, -, ran⟩ | ⟨fault, -, ran⟩ := run_cases request known
  · exact ran ▸ List.prefix_rfl
  · exact ran ▸ List.prefix_append _ _
  · exact ran ▸ List.prefix_rfl

end Request

/-- What a search has found: the name, and what it is kept under. -/
def Search.found? (search : Search) : Option ((Text × Text) × Text) :=
  match search.outcome with
  | .ok name => some (search.request.key, name)
  | .error _ => none

/-- After a search there are the names that were known, and the one that it has found. -/
theorem get?_run_eq_some_iff (request : Request) (known : FieldNames) (key : Text × Text)
    (name : Text) :
    Table.get? key (request.run known).2 = some name ↔
      Table.get? key known = some name ∨
        Search.found? ⟨request, (request.run known).1⟩ = some (key, name) := by
  rw [Request.run_eq]
  cases isKnown : Table.get? request.key known with
  | some other =>
      refine ⟨.inl, fun given => given.elim id fun isFound => ?_⟩
      cases isFound
      exact isKnown
  | none =>
      cases matching? request.fieldNames request.wanted with
      | none => exact ⟨.inl, fun given => given.elim id nofun⟩
      | some other =>
          by_cases same : key = request.key
          · subst same
            simp [Search.found?, isKnown]
          · simp [Search.found?, Table.get?_put_other same, Ne.symm same]

/-! ## Searches one after the other -/

/-- Searches that are made one after the other lead from known names to known names. -/
inductive Leads : (before : FieldNames) → List Search → (after : FieldNames) → Prop where
  | none (known : FieldNames) : Leads known [] known
  | first {before after : FieldNames} (request : Request) {searches : List Search}
      (later : Leads (request.run before).2 searches after) :
      Leads before (⟨request, (request.run before).1⟩ :: searches) after

namespace Leads

variable {before middle after : FieldNames} {searches : List Search} {key : Text × Text}
  {name : Text}

theorem one (request : Request) (known : FieldNames) :
    Leads known [⟨request, (request.run known).1⟩] (request.run known).2 :=
  .first request (.none _)

theorem append {back : List Search} (front : Leads before searches middle)
    (rest : Leads middle back after) : Leads before (searches ++ back) after := by
  induction front with
  | none => exact rest
  | first request later ih => exact .first request (ih rest)

/-- No name that is known is removed or changed. -/
theorem isPrefix (leads : Leads before searches after) : before <+: after := by
  induction leads with
  | none => exact List.prefix_rfl
  | first request later ih => exact (request.isPrefix_run _).trans ih

/-- In the end those names are known that were known before, and those that were found. -/
theorem get?_eq_some_iff (leads : Leads before searches after) :
    Table.get? key after = some name ↔
      Table.get? key before = some name ∨
        ∃ search ∈ searches, search.found? = some (key, name) := by
  induction leads with
  | none => simp
  | first request later ih =>
      rw [ih, get?_run_eq_some_iff, or_assoc]
      simp

/-- Searches for one name all find it where it is known. -/
theorem outcome_of_known (leads : Leads before searches after)
    (isKnown : Table.get? key before = some name) {search : Search} (made : search ∈ searches)
    (same : search.request.key = key) : search.outcome = .ok name := by
  induction leads with
  | none => contradiction
  | first request later ih =>
      rcases List.mem_cons.1 made with isFirst | isLater
      · subst isFirst
        subst same
        exact congrArg Prod.fst (Request.run_of_known isKnown)
      · exact ih ((get?_run_eq_some_iff _ _ _ _).2 (.inl isKnown)) isLater

/-- What one search has found is what every later search for it finds. -/
theorem pairwise (leads : Leads before searches after) :
    searches.Pairwise fun earlier later => ∀ name, earlier.outcome = .ok name →
      later.request.key = earlier.request.key → later.outcome = .ok name := by
  induction leads with
  | none => exact .nil
  | @first before after request searches later ih =>
      refine .cons ?_ ih
      intro search made name found same
      have isKnown : Table.get? request.key (request.run before).2 = some name := by
        refine (get?_run_eq_some_iff _ _ _ _).2 (.inr ?_)
        rw [Search.found?, found]
      exact later.outcome_of_known isKnown made same

/-- What was found is found again by any request for it. -/
theorem run_of_found (leads : Leads before searches after) {search : Search}
    (made : search ∈ searches) (found : search.outcome = .ok name) {request : Request}
    (same : request.key = search.request.key) : request.run after = (.ok name, after) := by
  refine Request.run_of_known (leads.get?_eq_some_iff.2 (.inr ⟨search, made, ?_⟩))
  rw [Search.found?, found, same]

/-- Searches in objects of other types leave the names of a type as they are. -/
theorem get?_of_typeKey_ne (leads : Leads before searches after)
    (others : ∀ search ∈ searches, search.request.typeKey ≠ key.1) :
    Table.get? key after = Table.get? key before := by
  refine Option.ext fun name => leads.get?_eq_some_iff.trans (or_iff_left ?_)
  rintro ⟨⟨request, outcome⟩, made, isFound⟩
  cases outcome with
  | error fault => contradiction
  | ok found =>
      cases isFound
      exact others _ made rfl

end Leads

/-- Make requests one after the other, up to the first that fails. -/
def searchAll : List Request → FieldNames → List Search × FieldNames
  | [], known => ([], known)
  | request :: requests, known =>
      match request.run known with
      | (.error fault, known) => ([⟨request, .error fault⟩], known)
      | (.ok name, known) =>
          let later := searchAll requests known
          (⟨request, .ok name⟩ :: later.1, later.2)

theorem leads_searchAll (requests : List Request) (known : FieldNames) :
    Leads known (searchAll requests known).1 (searchAll requests known).2 := by
  induction requests generalizing known with
  | nil => exact .none known
  | cons request requests ih =>
      have first := Leads.one request known
      rw [searchAll]
      generalize request.run known = ran at first ⊢
      rcases ran with ⟨fault | name, middle⟩
      · exact first
      · exact first.append (ih middle)

/-- Requests behind others that do not fail are made when these have been made. -/
theorem searchAll_append {front : List Request} {known : FieldNames}
    (succeed : ∀ search ∈ (searchAll front known).1, ∃ name, search.outcome = .ok name)
    (back : List Request) :
    searchAll (front ++ back) known =
      ((searchAll front known).1 ++ (searchAll back (searchAll front known).2).1,
        (searchAll back (searchAll front known).2).2) := by
  induction front generalizing known with
  | nil => rfl
  | cons request front ih =>
      rw [searchAll] at succeed ⊢
      rw [List.cons_append, searchAll]
      generalize request.run known = ran at succeed ⊢
      rcases ran with ⟨fault | name, middle⟩
      · obtain ⟨name, isName⟩ := succeed _ (List.mem_singleton_self _)
        contradiction
      · have later := @ih middle fun search made => succeed search (List.mem_cons_of_mem _ made)
        simp only [later]
        rfl

theorem request_mem_of_mem_searchAll {requests : List Request} {known : FieldNames}
    {search : Search} (made : search ∈ (searchAll requests known).1) :
    search.request ∈ requests := by
  induction requests generalizing known with
  | nil => contradiction
  | cons request requests ih =>
      rw [searchAll] at made
      generalize request.run known = ran at made
      rcases ran with ⟨fault | name, middle⟩
      · rw [List.mem_singleton.1 made]
        exact List.mem_cons_self
      · rcases List.mem_cons.1 made with isFirst | isLater
        · rw [isFirst]
          exact List.mem_cons_self
        · exact List.mem_cons_of_mem _ (ih isLater)

end ThreadStacks.FieldNames
