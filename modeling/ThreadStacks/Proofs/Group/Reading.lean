import ThreadStacks.Proofs.Group.Parallel

/-!
# Groups and the records that they come from

Where records can be grouped, every live one of them was read, and the groups are those of the
threads that were read.  Two registries that give the same threads give the same groups and the same
faults.
-/

namespace ThreadStacks.ParallelThreads

variable {registry other : ThreadRegistry} {records : List Document} {jobs : Int}

theorem readLive_congr {live : List Document}
    (same : ∀ record ∈ live, ThreadRecord.read registry record = ThreadRecord.read other record) :
    readLive jobs registry live = readLive jobs other live := by
  rw [readLive, readLive, List.map_congr_left same, Written.collect_congr same]

theorem eq_filter_of_outcome_live {live : List Document}
    (found : (ThreadRecord.live records).outcome = .ok live) :
    live = records.filter ThreadRecord.isLive := by
  rw [ThreadRecord.outcome_live] at found
  obtain ⟨_, -, made⟩ := Written.bind_eq_ok_iff.1 found
  exact (Except.ok.inj made).symm

/-- The groups, the fault and the notes depend on what the live records are read to only. -/
theorem ofRecords_congr
    (same : ∀ record ∈ records, ThreadRecord.isLive record = true →
      ThreadRecord.read registry record = ThreadRecord.read other record) :
    ofRecords jobs registry records = ofRecords jobs other records := by
  rw [ofRecords, ofRecords]
  apply Written.bind_congr_of_outcome
  intro live found
  have sameRead : readLive jobs registry live = readLive jobs other live := by
    apply readLive_congr
    intro record member
    rw [eq_filter_of_outcome_live found, List.mem_filter] at member
    exact same record member.1 member.2
  rw [sameRead]

theorem exists_fields_iff {record : Document} :
    (∃ fields, record.fields = .ok fields) ↔ ∃ fields, record = .object fields := by
  cases record with
  | object fields => exact ⟨fun _ => ⟨fields, rfl⟩, fun _ => ⟨fields, rfl⟩⟩
  | _ => exact ⟨nofun, nofun⟩

/-- What groups come from: every record is an object, and every live one was read. -/
theorem outcome_ofRecords_eq_ok_iff {parallel : ParallelThreads} :
    (ofRecords jobs registry records).outcome = .ok parallel ↔
      (∀ record ∈ records, ∃ fields, record = .object fields) ∧ ∃ threads,
        (records.filter ThreadRecord.isLive).map (ThreadRecord.outcome registry) =
          threads.map .ok ∧ parallel = ⟨Grouping.groups threads⟩ := by
  rw [outcome_ofRecords, firstFaultOrGroups]
  simp only [Written.bind_eq_ok_iff, ← exists_fields_iff,
    ← Written.exists_firstFaultOrAll_eq_ok_iff, Written.firstFaultOrAll_eq_ok_iff]
  constructor
  · intro grouped
    obtain ⟨fields, objects, threads, isRead, made⟩ := grouped
    exact ⟨⟨fields, objects⟩, threads, isRead, (Except.ok.inj made).symm⟩
  · intro given
    obtain ⟨⟨fields, objects⟩, threads, isRead, rfl⟩ := given
    exact ⟨fields, objects, threads, isRead, rfl⟩

/-! ## Records and their threads -/

section Reads

variable {live : List Document} {threads : List Thread}

/-- Every thread was read from a record. -/
theorem exists_record_of_mem (isRead : live.map (ThreadRecord.outcome registry) = threads.map .ok)
    {thread : Thread} (member : thread ∈ threads) :
    ∃ record ∈ live, ThreadRecord.outcome registry record = .ok thread := by
  apply List.mem_map.1
  rw [isRead]
  exact List.mem_map_of_mem member

/-- Every record was read to a thread. -/
theorem exists_thread_of_mem (isRead : live.map (ThreadRecord.outcome registry) = threads.map .ok)
    {record : Document} (member : record ∈ live) :
    ∃ thread ∈ threads, ThreadRecord.outcome registry record = .ok thread := by
  have outcome : ThreadRecord.outcome registry record ∈ threads.map Except.ok := by
    rw [← isRead]
    exact List.mem_map_of_mem member
  obtain ⟨thread, listed, same⟩ := List.mem_map.1 outcome
  exact ⟨thread, listed, same.symm⟩

end Reads

end ThreadStacks.ParallelThreads
