import ThreadStacks.Proofs.Group.Reading
import ThreadStacks.Proofs.Thread.Essence

/-!
# What counts in the records of a snapshot

Dead records and native frames have no part in grouping: the groups of records without them are the
same but for their raw frames, or the fault is the same.
-/

namespace ThreadStacks

namespace ThreadRecord

/-- Whether a record is that of a dead thread. -/
def isDead (record : Document) : Bool := record.fields.toOption.any fun fields => !isAlive fields

/-- The records of threads that are not dead, without their native frames. -/
def essences (records : List Document) : List Document :=
  (records.filter fun record => !isDead record).map essence

theorem essences_cons (record : Document) (records : List Document) :
    essences (record :: records) =
      if isDead record then essences records else essence record :: essences records := by
  rw [essences, List.filter_cons]
  cases isDead record with
  | true => rfl
  | false => rfl

theorem isLive_essence (record : Document) : isLive (essence record) = isLive record := by
  cases record with
  | object fields => exact isAlive_withoutNative
  | _ => rfl

/-- A dead record has no fault that counts, and it is not live. -/
theorem exists_fields_of_isDead {record : Document} (dead : isDead record = true) :
    ∃ fields, record = .object fields ∧ isAlive fields = false := by
  cases record with
  | object fields =>
      have notAlive : (!isAlive fields) = true := dead
      rw [Bool.not_eq_true'] at notAlive
      exact ⟨fields, rfl, notAlive⟩
  | _ => contradiction

/-- The live records among those that count are the live ones without their native frames, and a
record that is no object is found with or without the dead ones. -/
theorem outcome_live_essences (records : List Document) :
    (live (essences records)).outcome = (live records).outcome.map (List.map essence) := by
  induction records with
  | nil => rfl
  | cons record records ih =>
      rw [essences_cons, outcome_live_cons]
      cases dead : isDead record with
      | true =>
          obtain ⟨fields, rfl, notAlive⟩ := exists_fields_of_isDead dead
          have notLive : isLive (.object fields) = false := notAlive
          rw [if_pos rfl, ih, notLive]
          cases (live records).outcome <;> rfl
      | false =>
          rw [if_neg (by decide), outcome_live_cons, isLive_essence, ih]
          cases record with
          | object fields =>
              cases (live records).outcome with
              | error fault => rfl
              | ok others => cases isLive (.object fields) <;> rfl
          | _ => rfl

end ThreadRecord

namespace ParallelThreads

theorem firstFaultOrGroups_eq_bind_live (registry : ThreadRegistry) (records : List Document) :
    firstFaultOrGroups registry records = (do
      let live ← (ThreadRecord.live records).outcome
      let threads ← Written.firstFaultOrAll (live.map (ThreadRecord.outcome registry))
      pure ⟨Grouping.groups threads⟩) := by
  rw [firstFaultOrGroups, ThreadRecord.outcome_live, bind_assoc]
  rfl

/-- The groups of threads that are read one by one, without their raw frames. -/
theorem map_withoutRaw_groups (registry : ThreadRegistry) (live : List Document) :
    (do
      let threads ← Written.firstFaultOrAll (live.map (ThreadRecord.outcome registry))
      pure (ParallelThreads.mk (Grouping.groups threads)) : Except Fault _).map withoutRaw =
      (Written.firstFaultOrAll (live.map fun record =>
        (ThreadRecord.outcome registry record).map Thread.withoutRaw)).map
          fun threads => ⟨Grouping.groups threads⟩ := by
  have oneByOne : (live.map fun record =>
      (ThreadRecord.outcome registry record).map Thread.withoutRaw) =
        (live.map (ThreadRecord.outcome registry)).map (Except.map Thread.withoutRaw) := by
    rw [List.map_map]
    rfl
  rw [oneByOne, ← Written.map_firstFaultOrAll]
  cases Written.firstFaultOrAll (live.map (ThreadRecord.outcome registry)) with
  | error fault => rfl
  | ok threads =>
      change Except.ok (ParallelThreads.mk ((Grouping.groups threads).map _)) = _
      rw [Grouping.map_groups_withoutRaw]
      rfl

/-- Dead records and native frames have no part in the groups but for the raw frames, and no fault
comes from them. -/
theorem firstFaultOrGroups_essences (registry : ThreadRegistry) (records : List Document) :
    (firstFaultOrGroups registry (ThreadRecord.essences records)).map withoutRaw =
      (firstFaultOrGroups registry records).map withoutRaw := by
  rw [firstFaultOrGroups_eq_bind_live, firstFaultOrGroups_eq_bind_live,
    ThreadRecord.outcome_live_essences]
  cases (ThreadRecord.live records).outcome with
  | error fault => rfl
  | ok live =>
      refine (map_withoutRaw_groups registry (live.map ThreadRecord.essence)).trans ?_
      refine Eq.trans ?_ (map_withoutRaw_groups registry live).symm
      rw [List.map_map]
      have same : (fun record => (ThreadRecord.outcome registry record).map Thread.withoutRaw) ∘
          ThreadRecord.essence =
            fun record => (ThreadRecord.outcome registry record).map Thread.withoutRaw :=
        funext (ThreadRecord.outcome_essence registry)
      rw [same]

end ParallelThreads

end ThreadStacks
