import ThreadStacks.CommandLine.Snapshot
import ThreadStacks.Proofs.Group.Reading
import ThreadStacks.Proofs.Thread.Record
import ThreadStacks.Proofs.Thread.Registry

/-!
# Names found before the end

The program reads thread objects only until it has seen the ids of all live records.  The names of
these, and so the groups and their headers, are those that all thread objects give.
-/

namespace ThreadStacks.CommandLine.Snapshot

variable {records : List Document} {ids : List Int}

theorem liveIds_cons_object (fields : Document.Fields) (records : List Document) :
    liveIds (.object fields :: records) =
      match ThreadRecord.isAlive fields, Table.get? "managed_id".toText fields with
      | true, some managedId => do
          let managedId ← managedId.toInteger
          let others ← liveIds records
          pure (managedId :: others)
      | _, _ => liveIds records := rfl

/-- The ids of live threads are those of the later records, and the one of the first record if it is
live and has one. -/
theorem liveIds_cons_eq_ok {record : Document} (found : liveIds (record :: records) = .ok ids) :
    ∃ others, liveIds records = .ok others ∧ others ⊆ ids ∧
      (ThreadRecord.isLive record = true → ∀ id, ThreadRecord.managedId record = .ok id →
        id ∈ ids) := by
  cases record with
  | object fields =>
      have isLive : ThreadRecord.isLive (.object fields) = ThreadRecord.isAlive fields := rfl
      rw [isLive, ThreadRecord.managedId_object, Document.requiredField]
      rw [liveIds_cons_object] at found
      cases alive : ThreadRecord.isAlive fields with
      | false =>
          rw [alive] at found
          exact ⟨ids, found, List.Subset.refl ids, nofun⟩
      | true =>
          cases present : Table.get? "managed_id".toText fields with
          | none =>
              rw [alive, present] at found
              exact ⟨ids, found, List.Subset.refl ids, nofun⟩
          | some written =>
              rw [alive, present] at found
              obtain ⟨managedId, isNumber, found⟩ := Written.bind_eq_ok_iff.1 found
              obtain ⟨others, othersFound, made⟩ := Written.bind_eq_ok_iff.1 found
              cases made
              refine ⟨others, othersFound, List.subset_cons_self managedId others, ?_⟩
              intro _ id isId
              have same : managedId = id := Except.ok.inj (isNumber.symm.trans isId)
              exact same ▸ List.mem_cons_self
  | _ => contradiction

/-- The ids that discovery waits for are those that live threads are looked up by. -/
theorem mem_liveIds (found : liveIds records = .ok ids) {record : Document}
    (member : record ∈ records) (live : ThreadRecord.isLive record = true) {id : Int}
    (isId : ThreadRecord.managedId record = .ok id) : id ∈ ids := by
  induction records generalizing ids with
  | nil => contradiction
  | cons first records ih =>
      obtain ⟨others, othersFound, among, ofFirst⟩ := liveIds_cons_eq_ok found
      rcases List.mem_cons.1 member with same | later
      · subst same
        exact ofFirst live id isId
      · exact among (ih othersFound later)

/-- Nothing is looked for in an empty list of thread objects, and it has no names. -/
theorem outcome_registry_nil {snapshot : Snapshot} (given : snapshot.threadObjects = .list []) :
    snapshot.registry.outcome = .ok .empty := by
  rw [registry, given]
  rfl

theorem outcome_registry_cons {snapshot : Snapshot} {object : Document} {objects : List Document}
    (given : snapshot.threadObjects = .list (object :: objects))
    (found : liveIds snapshot.records = .ok ids) :
    snapshot.registry.outcome =
      ((ThreadRegistry.scan ThreadRegistry.threadType (some ids) (object :: objects) []).names.map
        ThreadRegistry.named).mapError (Stop.ofFault .threadObjects) := by
  rw [registry, given, found]
  rfl

/-- Where all thread objects can be read and no two have one id, the names that were found when
discovery stopped serve every live record as well as those of all thread objects: each has the same
name, and all have the same groups with the same headers, or the same fault. -/
theorem outcome_registry_of_distinct {snapshot : Snapshot} {objects : List Document}
    {entries : List (Int × Document)} {names : ThreadNames}
    (given : snapshot.threadObjects = .list objects)
    (full : (ThreadRegistry.scan ThreadRegistry.threadType none objects []).names = .ok names)
    (readable : ThreadRegistry.entries ThreadRegistry.threadType objects [] = .ok entries)
    (distinct : (entries.map Prod.fst).Nodup)
    (found : liveIds snapshot.records = .ok ids) :
    ∃ registry, snapshot.registry.outcome = .ok registry ∧
      (∀ record ∈ snapshot.records, ThreadRecord.isLive record = true →
        ∀ id, ThreadRecord.managedId record = .ok id →
          registry.name id = (ThreadRegistry.named names).name id) ∧
      ∀ jobs, ParallelThreads.ofRecords jobs registry snapshot.records =
        ParallelThreads.ofRecords jobs (.named names) snapshot.records := by
  rw [ThreadRegistry.scan, ThreadRegistry.names_scanFrom_none, readable] at full
  cases full
  have agree : ∃ registry, snapshot.registry.outcome = .ok registry ∧ ∀ id ∈ ids,
      registry.name id = (ThreadRegistry.named (Table.putAll entries [])).name id := by
    cases objects with
    | nil =>
        cases readable
        exact ⟨.empty, outcome_registry_nil given, fun _ _ => rfl⟩
    | cons object objects =>
        obtain ⟨early, scanned, same⟩ := ThreadRegistry.exists_names_scan readable distinct ids
        refine ⟨.named early, ?_, ?_⟩
        · rw [outcome_registry_cons given found, scanned]
          rfl
        · intro id wanted
          rw [ThreadRegistry.name, ThreadRegistry.name, same id wanted]
  obtain ⟨registry, ends, same⟩ := agree
  have sameName : ∀ record ∈ snapshot.records, ThreadRecord.isLive record = true →
      ∀ id, ThreadRecord.managedId record = .ok id →
        registry.name id = (ThreadRegistry.named (Table.putAll entries [])).name id := by
    intro record member live id isId
    exact same id (mem_liveIds found member live isId)
  refine ⟨registry, ends, sameName, ?_⟩
  intro jobs
  apply ParallelThreads.ofRecords_congr
  intro record member live
  exact ThreadRecord.read_congr (sameName record member live)

/-- Discovery stops before the third of four thread objects; the fourth one belongs to a thread that
has ended. -/
theorem outcome_registry_of_distinct_early :
    let object (fields : List (String × Document)) : Document :=
      .object (fields.map fun field => (field.1.toText, field.2))
    let threadObject (id : Document) (name : String) : Document :=
      object [("_name", .text name.toText), ("_managedThreadId", id)]
    let objects := [threadObject (.integer 2) "Worker", threadObject (.text "1".toText) "Main",
      threadObject (.integer 7) "Idle", threadObject (.integer 3) "Gone"]
    let record (id : Int) (alive : Bool) : Document := object [("managed_id", .integer id),
      ("alive", .bool alive), ("frames", .list [.text "A.B()".toText])]
    let snapshot : Snapshot := ⟨[record 1 true, record 3 false, record 2 true], .list objects⟩
    let names : ThreadNames := [(2, .text "Worker".toText), (1, .text "Main".toText),
      (7, .text "Idle".toText), (3, .text "Gone".toText)]
    (ThreadRegistry.scan ThreadRegistry.threadType none objects []).names = .ok names ∧
      (ThreadRegistry.scan ThreadRegistry.threadType (some [1, 2]) objects []).consumed = 2 ∧
      (names.map Prod.fst).Nodup ∧ liveIds snapshot.records = .ok [1, 2] ∧
      ∃ registry, snapshot.registry.outcome = .ok registry ∧ registry.name 7 = .null ∧
        registry.name 1 = (ThreadRegistry.named names).name 1 ∧
        ParallelThreads.ofRecords 1 registry snapshot.records =
          ParallelThreads.ofRecords 1 (.named names) snapshot.records := by
  intro object threadObject objects record snapshot names
  have full : (ThreadRegistry.scan ThreadRegistry.threadType none objects []).names = .ok names :=
    rfl
  have readable : ThreadRegistry.entries ThreadRegistry.threadType objects [] = .ok names := rfl
  have distinct : (names.map Prod.fst).Nodup := by decide
  have found : liveIds snapshot.records = .ok [1, 2] := rfl
  obtain ⟨registry, ends, same, grouped⟩ :=
    outcome_registry_of_distinct rfl full readable distinct found
  have early : snapshot.registry.outcome =
      .ok (.named [(2, .text "Worker".toText), (1, .text "Main".toText)]) := rfl
  have isEarly := Except.ok.inj (ends.symm.trans early)
  refine ⟨full, rfl, distinct, found, registry, ends, ?_, ?_, grouped 1⟩
  · rw [isEarly]
    rfl
  · exact same _ List.mem_cons_self rfl 1 rfl

end ThreadStacks.CommandLine.Snapshot
