import ThreadStacks.Proofs.CommandLine.Discovery
import ThreadStacks.Proofs.CommandLine.Run
import ThreadStacks.Proofs.Group.Essence

/-!
# What counts in a snapshot

A run prepares the same groups, but for their raw frames, from every two snapshots that are equal
once dead records and native frames are left out; and it rejects both for the same reason, or the
same fault escapes.
-/

namespace ThreadStacks.CommandLine

namespace Snapshot

/-- A snapshot without dead records and native frames. -/
def essence (snapshot : Snapshot) : Snapshot :=
  { snapshot with records := ThreadRecord.essences snapshot.records }

/-- A snapshot document without dead records and native frames. -/
def documentEssence : Document → Document
  | .object fields =>
      match Table.get? "threads".toText fields with
      | some (.list records) =>
          .object (Table.put "threads".toText (.list (ThreadRecord.essences records)) fields)
      | _ => .object fields
  | document => document

theorem ofDocument?_documentEssence (document : Document) :
    ofDocument? (documentEssence document) = (ofDocument? document).map essence := by
  cases document with
  | object fields =>
      rw [documentEssence, ofDocument?]
      cases given : Table.get? "threads".toText fields with
      | none => simp only [ofDocument?, given, Option.map_none]
      | some threads =>
          cases threads with
          | list records =>
              simp only [ofDocument?, Table.get?_put_same, Option.map_some, essence,
                Document.fieldOrNull,
                Table.get?_put_other (by decide : "thread_objects".toText ≠ "threads".toText)]
          | _ => simp only [ofDocument?, given, Option.map_none]
  | _ => rfl

/-- Discovery waits for the same ids. -/
theorem liveIds_essences (records : List Document) :
    liveIds (ThreadRecord.essences records) = liveIds records := by
  induction records with
  | nil => rfl
  | cons record records ih =>
      rw [ThreadRecord.essences_cons]
      cases dead : ThreadRecord.isDead record with
      | true =>
          obtain ⟨fields, rfl, notAlive⟩ := ThreadRecord.exists_fields_of_isDead dead
          rw [if_pos rfl, ih, liveIds_cons_object, notAlive]
      | false =>
          rw [if_neg (by decide)]
          cases record with
          | object fields =>
              rw [ThreadRecord.essence, liveIds_cons_object, liveIds_cons_object, ih,
                ThreadRecord.isAlive_withoutNative, ThreadRecord.get?_withoutNative (by decide)]
          | _ => rfl

theorem registry_essence (snapshot : Snapshot) : snapshot.essence.registry = snapshot.registry := by
  simp only [registry, essence, liveIds_essences]

theorem map_withoutRaw_outcome_threads (snapshot : Snapshot) (jobs : Setting Int)
    (registry : ThreadRegistry) :
    (snapshot.essence.threads jobs registry).outcome.map ParallelThreads.withoutRaw =
      (snapshot.threads jobs registry).outcome.map ParallelThreads.withoutRaw := by
  cases jobs with
  | missing => rfl
  | given count =>
      have same := ParallelThreads.firstFaultOrGroups_essences registry snapshot.records
      rw [outcome_threads_given, outcome_threads_given, ParallelThreads.outcome_ofRecords,
        ParallelThreads.outcome_ofRecords, Written.map_mapError, Written.map_mapError]
      exact congrArg _ same

/-- What counts in a snapshot decides what is prepared but for the raw frames. -/
theorem map_withoutRaw_prepared_essence (jobs : Setting Int) (snapshot : Snapshot) :
    (prepared jobs snapshot.essence).map ParallelThreads.withoutRaw =
      (prepared jobs snapshot).map ParallelThreads.withoutRaw := by
  rw [prepared, prepared, registry_essence]
  cases snapshot.registry.outcome with
  | error stop => rfl
  | ok registry =>
      refine Written.map_bind_congr (map_withoutRaw_outcome_threads snapshot jobs registry) ?_
      intro threads others same
      have sameGroups : threads.groups.isEmpty = others.groups.isEmpty := by
        have equal := congrArg (fun parallel => parallel.groups.isEmpty) same
        simpa only [ParallelThreads.withoutRaw, List.isEmpty_map] using equal
      rw [sameGroups]
      split
      next => rfl
      next => exact congrArg Except.ok same

end Snapshot

end ThreadStacks.CommandLine
