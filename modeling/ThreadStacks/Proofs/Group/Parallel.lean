import ThreadStacks.Group.Parallel
import ThreadStacks.Proofs.Thread.Pool
import ThreadStacks.Proofs.Written

/-!
# Reading records with a pool of workers

The groups of a snapshot, or the fault that it is refused for, do not depend on how many workers
read its records, nor on when the workers start and finish.  A record that is no object is found
before any record is read; of the live records that cannot be read the first one counts, even if
another one fails earlier.
-/

namespace ThreadStacks

namespace ThreadRecord

/-- Whether a record is an object whose thread is alive. -/
def isLive (record : Document) : Bool := record.fields.toOption.any isAlive

/-- What reading a record comes to. -/
def outcome (registry : ThreadRegistry) (record : Document) : Except Fault Thread :=
  (read registry record).outcome

theorem outcome_live_cons (record : Document) (records : List Document) :
    (live (record :: records)).outcome =
      (do
        let _ ← record.fields
        let others ← (live records).outcome
        pure (if isLive record then record :: others else others)) := by
  rw [live, Written.outcome_bind, Written.outcome_ofExcept]
  cases isObject : record.fields with
  | error fault => rfl
  | ok fields =>
      have alive : isLive record = isAlive fields := by
        rw [isLive, isObject]
        rfl
      rw [alive]
      change (if isAlive fields = true then _ else _ : Noted (List Document)).outcome = _
      cases isAlive fields with
      | true =>
          simp only [if_true, Written.outcome_bind, Written.outcome_pure]
          rfl
      | false =>
          simp only [Bool.false_eq_true, if_false, Written.outcome_bind]
          exact (bind_pure (live records).outcome).symm

/-- A record that is no object is found wherever it stands. -/
theorem outcome_live (records : List Document) :
    (live records).outcome =
      (do
        let _ ← Written.firstFaultOrAll (records.map Document.fields)
        pure (records.filter isLive)) := by
  induction records with
  | nil => rfl
  | cons record records ih =>
      rw [outcome_live_cons, ih, List.map_cons, Written.firstFaultOrAll_cons, List.filter_cons]
      simp only [bind_assoc, pure_bind]

end ThreadRecord

namespace ParallelThreads

/-- The fault of the first record that is no object; else the fault of the first live record that
cannot be read; else the groups of the threads that are alive. -/
def firstFaultOrGroups (registry : ThreadRegistry) (records : List Document) :
    Except Fault ParallelThreads := do
  let _ ← Written.firstFaultOrAll (records.map Document.fields)
  let live := records.filter ThreadRecord.isLive
  let threads ← Written.firstFaultOrAll (live.map (ThreadRecord.outcome registry))
  pure ⟨Grouping.groups threads⟩

/-- The groups of the threads that are alive, where a pool reads their records by a schedule. -/
def ofRecordsUnder (schedule : List Pool.Event) (registry : ThreadRegistry)
    (records : List Document) : Noted ParallelThreads := do
  let live ← ThreadRecord.live records
  let threads ← Pool.run (Pool.finishOrder schedule) (live.map (ThreadRecord.read registry))
  pure ⟨Grouping.groups threads⟩

variable {registry : ThreadRegistry} {records : List Document}

/-- However the live records are read, only what that comes to counts. -/
theorem outcome_of_reads {reading : List Document → Noted (List Thread)}
    (reads : (reading (records.filter ThreadRecord.isLive)).outcome =
      Written.firstFaultOrAll
        ((records.filter ThreadRecord.isLive).map (ThreadRecord.outcome registry))) :
    (do
      let live ← ThreadRecord.live records
      let threads ← reading live
      pure (ParallelThreads.mk (Grouping.groups threads)) : Noted ParallelThreads).outcome =
      firstFaultOrGroups registry records := by
  simp only [Written.outcome_bind, Written.outcome_pure, ThreadRecord.outcome_live, bind_assoc,
    pure_bind, reads]
  rfl

/-- Every order in which a pool finishes its tasks comes to the same. -/
theorem outcome_run {order : List Nat} {live : List Document}
    (all : order.Perm (List.range live.length)) :
    (Pool.run order (live.map (ThreadRecord.read registry))).outcome =
      Written.firstFaultOrAll (live.map (ThreadRecord.outcome registry)) := by
  have taskCount : (live.map (ThreadRecord.read registry)).length = live.length := List.length_map _
  rw [Pool.run_eq_collect (by rwa [taskCount]), Written.outcome_collect, List.map_map]
  rfl

theorem outcome_readLive (jobs : Int) (live : List Document) :
    (readLive jobs registry live).outcome =
      Written.firstFaultOrAll (live.map (ThreadRecord.outcome registry)) := by
  rw [readLive]
  split
  next => exact outcome_run (.refl _)
  next => exact Written.outcome_collect _ _

theorem outcome_ofRecords (jobs : Int) :
    (ofRecords jobs registry records).outcome = firstFaultOrGroups registry records :=
  outcome_of_reads (outcome_readLive jobs _)

/-- With several workers and whenever they start and finish, the groups or the fault are those of
reading the records one after the other: of a record that is no object first, then of the first
live record that cannot be read.  Nor does a pool ever get stuck. -/
theorem outcome_ofRecordsUnder (registry : ThreadRegistry) (records : List Document) {jobs : Int}
    (several : 1 < jobs) :
    let liveCount := (records.filter ThreadRecord.isLive).length
    (ofRecords 1 registry records).outcome = firstFaultOrGroups registry records ∧
      (ofRecords jobs registry records).outcome = firstFaultOrGroups registry records ∧
      (∀ schedule, Pool.IsSchedule jobs.toNat liveCount schedule →
        (ofRecordsUnder schedule registry records).outcome =
          firstFaultOrGroups registry records) ∧
      ∀ schedule progress,
        (Pool.Progress.initial liveCount).follow? jobs.toNat schedule = some progress →
          ∃ rest, Pool.IsSchedule jobs.toNat liveCount (schedule ++ rest) := by
  refine ⟨outcome_ofRecords 1, outcome_ofRecords jobs, ?_, ?_⟩
  · intro schedule complete
    exact outcome_of_reads (outcome_run (Pool.finishOrder_perm complete))
  · intro schedule progress follows
    exact Pool.exists_isSchedule_append (by omega) follows

/-- Two workers read three live records.  The second one fails while the first one, which fails
too, is still being read; the fault is that of the first one. -/
theorem outcome_ofRecordsUnder_late_fault :
    let record (fields : List (String × Document)) : Document :=
      .object (fields.map fun field => (field.1.toText, field.2))
    let frames : String × Document := ("frames", .list [.text "A.B()".toText])
    let records := [record [("alive", .bool false)],
      record [("managed_id", .integer 1), frames, ("lock_count", .integer (-1))],
      record [frames], record [("managed_id", .integer 3), frames]]
    let schedule : List Pool.Event :=
      [.start 0, .start 1, .finish 1, .start 2, .finish 2, .finish 0]
    let liveCount := (records.filter ThreadRecord.isLive).length
    (1 : Int) < 2 ∧ Pool.IsSchedule 2 liveCount schedule ∧
      (ofRecordsUnder schedule .empty records).outcome = firstFaultOrGroups .empty records ∧
      Written.faultOf? (firstFaultOrGroups .empty records) = some (.lockCountOutOfRange (-1)) := by
  intro record frames records schedule liveCount
  have several : (1 : Int) < 2 := by decide
  have complete : Pool.IsSchedule 2 liveCount schedule := by decide
  obtain ⟨-, -, scheduled, -⟩ := outcome_ofRecordsUnder .empty records several
  exact ⟨several, complete, scheduled schedule complete, by decide⟩

end ParallelThreads

end ThreadStacks
