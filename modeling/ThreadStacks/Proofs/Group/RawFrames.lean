import ThreadStacks.Group.Export
import ThreadStacks.Proofs.Written
import ThreadStacks.Render.View

/-!
# Groups without their raw frames

The raw frames of a thread are kept to be drawn on request and for nothing else: grouping commutes
with forgetting them, and neither the exported document nor a table without raw frames shows them.
-/

namespace ThreadStacks

/-- A thread without its raw frames. -/
def Thread.withoutRaw (thread : Thread) : Thread := { thread with rawFrames := [] }

/-- A group of threads without their raw frames. -/
def ThreadGroup.withoutRaw (group : ThreadGroup) : ThreadGroup :=
  ⟨group.representative.withoutRaw, group.others.map Thread.withoutRaw⟩

/-- Groups of threads without their raw frames. -/
def ParallelThreads.withoutRaw (parallel : ParallelThreads) : ParallelThreads :=
  ⟨parallel.groups.map ThreadGroup.withoutRaw⟩

/-- A bucket of threads without their raw frames. -/
def Bucket.withoutRaw {Key : Type} (bucket : Bucket Key) : Bucket Key :=
  ⟨bucket.key, bucket.representative.withoutRaw, bucket.later.map Thread.withoutRaw⟩

/-! ## Grouping -/

namespace ThreadGroup

@[simp] theorem members_withoutRaw (group : ThreadGroup) :
    group.withoutRaw.members = group.members.map Thread.withoutRaw := rfl

@[simp] theorem threadCount_withoutRaw (group : ThreadGroup) :
    group.withoutRaw.threadCount = group.threadCount := by
  rw [threadCount, members_withoutRaw, List.length_map, threadCount]

@[simp] theorem managedIds_withoutRaw (group : ThreadGroup) :
    group.withoutRaw.managedIds = group.managedIds := by
  rw [managedIds, members_withoutRaw, List.map_map]
  rfl

@[simp] theorem kind_withoutRaw (group : ThreadGroup) : group.withoutRaw.kind = group.kind := by
  rw [kind, withoutRaw, List.isEmpty_map, kind]

@[simp] theorem header_withoutRaw (group : ThreadGroup) :
    group.withoutRaw.header = group.header := by
  rw [header, kind_withoutRaw, managedIds_withoutRaw]
  rfl

/-- An exported group does not show the raw frames. -/
@[simp] theorem toDocument_withoutRaw (group : ThreadGroup) :
    group.withoutRaw.toDocument = group.toDocument := by
  rw [toDocument, kind_withoutRaw, header_withoutRaw, threadCount_withoutRaw, managedIds_withoutRaw]
  rfl

end ThreadGroup

namespace Grouping

variable {Key : Type} [DecidableEq Key] {hash : Thread → Key}

theorem map_insert_withoutRaw (key : Key) (thread : Thread) (found : List (Bucket Key)) :
    (insert key thread found).map Bucket.withoutRaw =
      insert key thread.withoutRaw (found.map Bucket.withoutRaw) := by
  induction found with
  | nil => rfl
  | cons bucket found ih =>
      have accepts : (bucket.withoutRaw.key = key ∧
          bucket.withoutRaw.representative.sameStack thread.withoutRaw = true) ↔
            (bucket.key = key ∧ bucket.representative.sameStack thread = true) := .rfl
      rw [List.map_cons, insert, insert]
      simp only [accepts]
      split
      next => rfl
      next => rw [List.map_cons, ih]

/-- Where the hash does not see raw frames, neither does the grouping into buckets. -/
theorem map_buckets_withoutRaw (unseen : ∀ thread, hash (Thread.withoutRaw thread) = hash thread)
    (threads : List Thread) :
    (buckets hash threads).map Bucket.withoutRaw =
      buckets hash (threads.map Thread.withoutRaw) := by
  rw [buckets, buckets, List.foldl_map]
  refine (List.foldl_hom (List.map Bucket.withoutRaw) ?_).symm
  intro found thread
  have frames : thread.withoutRaw.frames = thread.frames := rfl
  rw [frames, unseen]
  split
  next => rfl
  next => exact (map_insert_withoutRaw (hash thread) thread found).symm

theorem map_insertBySize_withoutRaw (group : ThreadGroup) (groups : List ThreadGroup) :
    (insertBySize group groups).map ThreadGroup.withoutRaw =
      insertBySize group.withoutRaw (groups.map ThreadGroup.withoutRaw) := by
  induction groups with
  | nil => rfl
  | cons other groups ih =>
      rw [List.map_cons, insertBySize, insertBySize, ThreadGroup.threadCount_withoutRaw,
        ThreadGroup.threadCount_withoutRaw]
      split
      next => rw [List.map_cons, ih]
      next => rfl

theorem map_sortBySize_withoutRaw (groups : List ThreadGroup) :
    (sortBySize groups).map ThreadGroup.withoutRaw =
      sortBySize (groups.map ThreadGroup.withoutRaw) := by
  induction groups with
  | nil => rfl
  | cons group groups ih =>
      rw [sortBySize, map_insertBySize_withoutRaw, ih, List.map_cons, sortBySize]

/-- Raw frames have no part in grouping. -/
theorem map_groups_withoutRaw (threads : List Thread) :
    (groups threads).map ThreadGroup.withoutRaw = groups (threads.map Thread.withoutRaw) := by
  have group (bucket : Bucket StackHash) :
      bucket.group.withoutRaw = bucket.withoutRaw.group := by
    rw [ThreadGroup.withoutRaw, Bucket.group, List.map_reverse]
    rfl
  rw [groups, groupsWith, map_sortBySize_withoutRaw, List.map_map, groups, groupsWith,
    ← map_buckets_withoutRaw fun _ => rfl, List.map_map]
  exact congrArg sortBySize (List.map_congr_left fun bucket _ => group bucket)

end Grouping

/-! ## Exporting and drawing -/

namespace ParallelThreads

@[simp] theorem uniqueStacks_withoutRaw (parallel : ParallelThreads) :
    parallel.withoutRaw.uniqueStacks = parallel.uniqueStacks := List.length_map _

@[simp] theorem threadCount_withoutRaw (parallel : ParallelThreads) :
    parallel.withoutRaw.threadCount = parallel.threadCount := by
  obtain ⟨groups⟩ := parallel
  change totalThreadCount (groups.map ThreadGroup.withoutRaw) = totalThreadCount groups
  induction groups with
  | nil => rfl
  | cons group groups ih =>
      rw [List.map_cons, totalThreadCount, totalThreadCount, ih, ThreadGroup.threadCount_withoutRaw]

/-- The export does not show raw frames. -/
theorem toDocument_withoutRaw (parallel : ParallelThreads) :
    parallel.withoutRaw.toDocument = parallel.toDocument := by
  have groups : parallel.withoutRaw.groups.map ThreadGroup.toDocument =
      parallel.groups.map ThreadGroup.toDocument := by
    rw [withoutRaw, List.map_map]
    exact List.map_congr_left fun group _ => group.toDocument_withoutRaw
  rw [toDocument, groups, threadCount_withoutRaw, uniqueStacks_withoutRaw, toDocument]

end ParallelThreads

namespace Renderer

variable {renderer : Renderer}

theorem extraCells_withoutRaw (group : ThreadGroup) :
    extraCells group.withoutRaw = extraCells group := by
  have cells : exceptionCells group.withoutRaw = exceptionCells group := by
    rw [exceptionCells, ThreadGroup.kind_withoutRaw]
    rfl
  rw [extraCells, cells]
  rfl

/-- A group is drawn without its raw frames unless they are asked for. -/
theorem writeGroup_withoutRaw (plain : renderer.rawFrames = false) (group : ThreadGroup) :
    renderer.writeGroup group.withoutRaw = renderer.writeGroup group := by
  rw [writeGroup, writeGroup, plain, ThreadGroup.header_withoutRaw, writeExtraInformation,
    extraCells_withoutRaw]
  rfl

theorem top_map {Item Other : Type} (change : Item → Other) (limit : Option Int)
    (items : List Item) : top limit (items.map change) = (top limit items).map change := by
  cases limit with
  | none => rfl
  | some limit =>
      cases limit with
      | ofNat count => exact (List.map_take ..).symm
      | negSucc missing =>
          rw [top, top, List.length_map, List.map_take]

/-- The groups are drawn without raw frames unless they are asked for. -/
theorem writeGroups_withoutRaw (plain : renderer.rawFrames = false) (parallel : ParallelThreads)
    (limit : Option Int) :
    renderer.writeGroups parallel.withoutRaw limit = renderer.writeGroups parallel limit := by
  have same : (fun group => renderer.writeGroup (ThreadGroup.withoutRaw group)) =
      renderer.writeGroup := funext (writeGroup_withoutRaw plain)
  rw [writeGroups, ParallelThreads.withoutRaw, top_map, Written.each_map, same, writeGroups]

theorem writeOverview_withoutRaw (parallel : ParallelThreads) :
    renderer.writeOverview parallel.withoutRaw = renderer.writeOverview parallel := by
  rw [writeOverview, ParallelThreads.threadCount_withoutRaw,
    ParallelThreads.uniqueStacks_withoutRaw, writeOverview]

end Renderer

end ThreadStacks
