import ThreadStacks.Proofs.Group.StackClass

/-!
# Groups are the classes by size

The groups of a list of threads are its classes, sorted by their number of threads, and classes of
one size stay in the order of their first threads.  The hash has no part in that: a thread goes
into the bucket of its class even where other classes share the hash.
-/

namespace ThreadStacks.Grouping

variable {Key : Type} [DecidableEq Key] {hash : Thread → Key}

/-! ## Filling buckets -/

section Insert

variable {threads : List Thread} {thread : Thread} {bucket : Bucket Key} {stack : StackClass}

omit [DecidableEq Key] in
/-- A bucket takes a thread if and only if it holds the class of the thread. -/
theorem accepts_iff
    (respects : RespectsStacks hash)
    (textual : ∀ other ∈ threads, other.hasTextException = true)
    (threadTextual : thread.hasTextException = true)
    (holds : bucket.Holds hash threads stack) :
    (bucket.key = hash thread ∧ bucket.representative.sameStack thread = true) ↔
      thread.stackClass = stack := by
  obtain ⟨framed, ofStack⟩ := StackClass.mem_members.1 holds.representative_mem
  have representativeTextual := textual _ (List.mem_of_mem_filter framed)
  rw [Thread.sameStack_iff representativeTextual threadTextual, holds.key, ofStack]
  constructor
  · intro accepts
    exact accepts.2.symm
  · intro same
    exact ⟨respects _ _ (ofStack.trans same.symm), same.symm⟩

/-- Inserting a thread keeps the buckets in step with the classes. -/
theorem insert_holds
    (respects : RespectsStacks hash)
    (textual : ∀ other ∈ threads, other.hasTextException = true)
    (threadTextual : thread.hasTextException = true)
    (nonempty : thread.frames.isEmpty = false)
    {found : List (Bucket Key)} {classes : List StackClass}
    (holds : List.Forall₂ (Bucket.Holds hash threads) found classes)
    (distinct : classes.Nodup)
    (complete : thread.stackClass ∉ classes → StackClass.members threads thread.stackClass = []) :
    List.Forall₂ (Bucket.Holds hash (threads ++ [thread]))
      (insert (hash thread) thread found)
      (if thread.stackClass ∈ classes then classes else classes ++ [thread.stackClass]) := by
  induction holds with
  | nil =>
      have alone : [thread] = StackClass.members (threads ++ [thread]) thread.stackClass := by
        rw [StackClass.members_append_same nonempty, complete (by simp)]
        rfl
      exact .cons ⟨rfl, alone⟩ .nil
  | @cons bucket stack found classes first rest ih =>
      obtain ⟨fresh, distinct⟩ := List.nodup_cons.1 distinct
      have accepts := accepts_iff respects textual threadTextual first
      rw [insert]
      by_cases same : thread.stackClass = stack
      · subst same
        rw [if_pos (accepts.2 rfl), if_pos List.mem_cons_self]
        have grown : { bucket with later := thread :: bucket.later }.group.members =
            StackClass.members (threads ++ [thread]) thread.stackClass := by
          rw [StackClass.members_append_same nonempty, ← first.members]
          simp [Bucket.group, ThreadGroup.members]
        exact .cons ⟨first.key, grown⟩ (Bucket.Holds.skip_all rest fresh)
      · rw [if_neg (same ∘ accepts.1)]
        have more := ih distinct fun missing => complete (by simp [same, missing])
        simp only [List.mem_cons, same, false_or]
        split
        next known =>
          rw [if_pos known] at more
          exact .cons (first.skip same) more
        next new =>
          rw [if_neg new] at more
          exact .cons (first.skip same) more

end Insert

/-- The buckets of threads hold their classes, one bucket a class. -/
theorem buckets_hold (respects : RespectsStacks hash) (threads : List Thread)
    (textual : ∀ thread ∈ threads, thread.hasTextException = true) :
    List.Forall₂ (Bucket.Holds hash threads) (buckets hash threads)
      (StackClass.all threads) := by
  induction threads using List.reverseRecOn with
  | nil => exact .nil
  | append_singleton threads thread ih =>
      have before := ih fun other member => textual other (by simp [member])
      rw [buckets, List.foldl_concat, ← buckets]
      cases frames : thread.frames.isEmpty with
      | true =>
          rw [if_pos rfl, StackClass.all, StackClass.framed_append_empty frames, ← StackClass.all]
          refine before.imp fun bucket stack holds => ⟨holds.key, ?_⟩
          rw [holds.members, StackClass.members, StackClass.members,
            StackClass.framed_append_empty frames]
      | false =>
          rw [if_neg (by decide), StackClass.all_append frames]
          exact insert_holds respects (fun other member => textual other (by simp [member]))
            (textual thread (by simp)) frames before (StackClass.all_nodup threads)
            StackClass.members_eq_nil

/-- The members of the buckets are the classes. -/
theorem members_buckets (respects : RespectsStacks hash) (threads : List Thread)
    (textual : ∀ thread ∈ threads, thread.hasTextException = true) :
    (buckets hash threads).map (fun bucket => bucket.group.members) =
      StackClass.partition threads := by
  have equal : List.Forall₂ (· = ·)
      ((buckets hash threads).map fun bucket => bucket.group.members)
      ((StackClass.all threads).map (StackClass.members threads)) := by
    rw [List.forall₂_map_left_iff, List.forall₂_map_right_iff]
    exact (buckets_hold respects threads textual).imp fun _ _ holds => holds.members
  rwa [List.forall₂_eq_eq_eq] at equal

/-! ## Sorting by size -/

/-- Whether a group may stand before another one. -/
def notSmaller (group other : ThreadGroup) : Bool := other.threadCount ≤ group.threadCount

theorem notSmaller_trans (first second third : ThreadGroup) :
    notSmaller first second = true → notSmaller second third = true →
      notSmaller first third = true := by
  simp only [notSmaller, decide_eq_true_eq]
  omega

theorem notSmaller_total (first second : ThreadGroup) :
    (notSmaller first second || notSmaller second first) = true := by
  simp only [notSmaller, Bool.or_eq_true, decide_eq_true_eq]
  omega

/-- A group goes behind the larger ones, in front of the others. -/
theorem insertBySize_append (group : ThreadGroup) {larger others : List ThreadGroup}
    (isLarger : ∀ other ∈ larger, group.threadCount < other.threadCount)
    (notLarger : ∀ other ∈ others, other.threadCount ≤ group.threadCount) :
    insertBySize group (larger ++ others) = larger ++ group :: others := by
  induction larger with
  | nil =>
      cases others with
      | nil => rfl
      | cons other others =>
          have small := notLarger other List.mem_cons_self
          rw [List.nil_append, insertBySize, if_neg (by omega), List.nil_append]
  | cons other larger ih =>
      have large := isLarger other List.mem_cons_self
      have rest := ih fun other member => isLarger other (List.mem_cons_of_mem _ member)
      rw [List.cons_append, insertBySize, if_pos large, rest, List.cons_append]

/-- Sorting by size is the stable sort of the standard library. -/
theorem sortBySize_eq_mergeSort (groups : List ThreadGroup) :
    sortBySize groups = groups.mergeSort notSmaller := by
  induction groups with
  | nil => rw [sortBySize, List.mergeSort_nil]
  | cons group groups ih =>
      obtain ⟨larger, others, sorted, sortedRest, isLarger⟩ :=
        List.mergeSort_cons notSmaller_trans notSmaller_total group groups
      have ordered := List.pairwise_mergeSort notSmaller_trans notSmaller_total (group :: groups)
      rw [sorted] at ordered
      have notLarger := (List.pairwise_cons.1 (List.pairwise_append.1 ordered).2.1).1
      rw [sortBySize, ih, sortedRest, sorted]
      apply insertBySize_append
      · intro other member
        simpa [notSmaller] using isLarger other member
      · intro other member
        simpa [notSmaller] using notLarger other member

/-! ## Whether there are groups -/

theorem insert_ne_nil (key : Key) (thread : Thread) (found : List (Bucket Key)) :
    insert key thread found ≠ [] := by
  cases found with
  | nil => exact nofun
  | cons bucket rest =>
      rw [insert]
      split
      next => exact nofun
      next => exact nofun

/-- Nothing is put into buckets if and only if no thread has frames. -/
theorem buckets_eq_nil_iff (hash : Thread → Key) (threads : List Thread) :
    buckets hash threads = [] ↔ ∀ thread ∈ threads, thread.frames.isEmpty = true := by
  induction threads using List.reverseRecOn with
  | nil => exact ⟨fun _ => nofun, fun _ => rfl⟩
  | append_singleton threads thread ih =>
      rw [buckets, List.foldl_concat, ← buckets, List.forall_mem_append, List.forall_mem_singleton]
      split
      next empty => rw [ih, empty, and_iff_left rfl]
      next framed =>
        constructor
        · intro noBuckets
          exact absurd noBuckets (insert_ne_nil _ _ _)
        · intro allEmpty
          exact absurd allEmpty.2 framed

/-- There are no groups if and only if no thread has frames. -/
theorem groupsWith_eq_nil_iff (hash : Thread → Key) (threads : List Thread) :
    groupsWith hash threads = [] ↔ ∀ thread ∈ threads, thread.frames.isEmpty = true := by
  rw [← buckets_eq_nil_iff hash, groupsWith, sortBySize_eq_mergeSort, ← List.length_eq_zero_iff,
    List.length_mergeSort, List.length_map, List.length_eq_zero_iff]

/-! ## The groups -/

section Groups

variable {threads : List Thread}

/-- The members of the groups are the classes by size. -/
theorem members_groupsWith (respects : RespectsStacks hash)
    (textual : ∀ thread ∈ threads, thread.hasTextException = true) :
    (groupsWith hash threads).map ThreadGroup.members = StackClass.bySize threads := by
  have sorted (groups : List ThreadGroup) :
      (groups.mergeSort notSmaller).map ThreadGroup.members =
        (groups.map ThreadGroup.members).mergeSort
          fun part other => other.length ≤ part.length :=
    List.map_mergeSort fun _ _ _ _ => rfl
  rw [groupsWith, sortBySize_eq_mergeSort, sorted, List.map_map, StackClass.bySize,
    ← members_buckets respects threads textual]
  rfl

theorem members_injective : Function.Injective ThreadGroup.members := by
  intro first second equal
  obtain ⟨representative, others⟩ := List.cons.inj equal
  cases first
  cases second
  simp_all

/-- Up to order, the members of the groups are the parts of the partition. -/
theorem members_perm (respects : RespectsStacks hash)
    (textual : ∀ thread ∈ threads, thread.hasTextException = true) :
    ((groupsWith hash threads).map ThreadGroup.members).Perm (StackClass.partition threads) := by
  rw [members_groupsWith respects textual]
  exact List.mergeSort_perm _ _

theorem flatMap_members_perm (respects : RespectsStacks hash)
    (textual : ∀ thread ∈ threads, thread.hasTextException = true) :
    ((groupsWith hash threads).flatMap ThreadGroup.members).Perm
      (StackClass.framed threads) := by
  rw [List.flatMap_def]
  exact (members_perm respects textual).flatten.trans (StackClass.flatten_partition_perm threads)

/-- The members of the groups are among the given threads. -/
theorem mem_of_mem_group (respects : RespectsStacks hash)
    (textual : ∀ thread ∈ threads, thread.hasTextException = true) {group : ThreadGroup}
    (listed : group ∈ groupsWith hash threads) {thread : Thread}
    (member : thread ∈ group.members) : thread ∈ threads := by
  have inAll := List.mem_flatMap.2 ⟨group, listed, member⟩
  have framed := (flatMap_members_perm respects textual).mem_iff.1 inAll
  exact List.mem_of_mem_filter framed

theorem textual_of_mem_group (respects : RespectsStacks hash)
    (textual : ∀ thread ∈ threads, thread.hasTextException = true) {group : ThreadGroup}
    (listed : group ∈ groupsWith hash threads) {thread : Thread}
    (member : thread ∈ group.members) : thread.hasTextException = true :=
  textual thread (mem_of_mem_group respects textual listed member)

/-- Members of one group have the same stack. -/
theorem sameStack_of_mem_group (respects : RespectsStacks hash)
    (textual : ∀ thread ∈ threads, thread.hasTextException = true) {group : ThreadGroup}
    (listed : group ∈ groupsWith hash threads) {first second : Thread}
    (firstMem : first ∈ group.members) (secondMem : second ∈ group.members) :
    first.sameStack second = true := by
  have part := (members_perm respects textual).mem_iff.1 (List.mem_map_of_mem listed)
  rw [Thread.sameStack_iff (textual_of_mem_group respects textual listed firstMem)
    (textual_of_mem_group respects textual listed secondMem)]
  exact StackClass.stackClass_eq_of_mem_partition part firstMem secondMem

/-- Members of two groups are of two classes. -/
theorem pairwise_groupsWith (respects : RespectsStacks hash)
    (textual : ∀ thread ∈ threads, thread.hasTextException = true) :
    (groupsWith hash threads).Pairwise fun group other =>
      ∀ first ∈ group.members, ∀ second ∈ other.members,
        first.stackClass ≠ second.stackClass := by
  have symmetric : ∀ {part other : List Thread},
      (∀ first ∈ part, ∀ second ∈ other, first.stackClass ≠ second.stackClass) →
        ∀ first ∈ other, ∀ second ∈ part, first.stackClass ≠ second.stackClass :=
    fun apart first firstMem second secondMem => (apart second secondMem first firstMem).symm
  have parts := (members_perm respects textual).pairwise_iff symmetric |>.2
    (StackClass.pairwise_partition threads)
  exact List.pairwise_map.1 parts

theorem pairwise_sameStack_eq_false (respects : RespectsStacks hash)
    (textual : ∀ thread ∈ threads, thread.hasTextException = true) :
    (groupsWith hash threads).Pairwise fun group other =>
      ∀ first ∈ group.members, ∀ second ∈ other.members,
        first.sameStack second = false ∧ second.sameStack first = false := by
  apply (pairwise_groupsWith respects textual).imp_of_mem
  intro group other groupListed otherListed apart first firstMem second secondMem
  have firstTextual := textual_of_mem_group respects textual groupListed firstMem
  have secondTextual := textual_of_mem_group respects textual otherListed secondMem
  have different := apart first firstMem second secondMem
  constructor
  · rw [← Bool.not_eq_true, Thread.sameStack_iff firstTextual secondTextual]
    exact different
  · rw [← Bool.not_eq_true, Thread.sameStack_iff secondTextual firstTextual]
    exact different.symm

/-- A thread that has frames is in a group, and in no group before or behind it. -/
theorem exists_only_group (respects : RespectsStacks hash)
    (textual : ∀ thread ∈ threads, thread.hasTextException = true) {thread : Thread}
    (framed : thread ∈ StackClass.framed threads) :
    ∃ before group after, groupsWith hash threads = before ++ group :: after ∧
      thread ∈ group.members ∧ ∀ other ∈ before ++ after, thread ∉ other.members := by
  have inAll := (flatMap_members_perm respects textual).mem_iff.2 framed
  obtain ⟨group, listed, member⟩ := List.mem_flatMap.1 inAll
  obtain ⟨before, after, split⟩ := List.append_of_mem listed
  refine ⟨before, group, after, split, member, ?_⟩
  have apart := pairwise_groupsWith respects textual
  rw [split] at apart
  obtain ⟨-, fromGroup, toGroup⟩ := List.pairwise_append.1 apart
  intro other otherListed otherMember
  rcases List.mem_append.1 otherListed with inBefore | inAfter
  · exact toGroup other inBefore group List.mem_cons_self thread otherMember thread member rfl
  · exact (List.pairwise_cons.1 fromGroup).1 other inAfter thread member thread otherMember rfl

theorem kind_eq_single_iff (group : ThreadGroup) :
    group.kind = .single ↔ group.members.length = 1 := by
  rw [ThreadGroup.kind, ThreadGroup.members]
  cases group.others with
  | nil => simp
  | cons thread others => simp

/-- The groups do not depend on the hash. -/
theorem groupsWith_eq_groups (respects : RespectsStacks hash)
    (textual : ∀ thread ∈ threads, thread.hasTextException = true) :
    groupsWith hash threads = groups threads := by
  have ownRespects : RespectsStacks stackHash :=
    respectsStacks_stackHash StackHash.empty StackHash.add
  apply List.map_injective_iff.2 members_injective
  rw [members_groupsWith respects textual, groups, members_groupsWith ownRespects textual]

end Groups

/-- For every hash that adds up the signatures, even one that never tells two threads apart, the
groups are the stack classes of the threads that have frames, sorted by size.  So each of these
threads is in one group only, and the groups part the threads by their classes. -/
theorem groupsWith_stackHash (empty : Key) (add : Key → Text → Key) (threads : List Thread)
    (textual : ∀ thread ∈ threads, thread.hasTextException = true) :
    let groups := groupsWith (Thread.stackHash empty add) threads
    groups.map ThreadGroup.members = StackClass.bySize threads ∧
      (groups.flatMap ThreadGroup.members).Perm (StackClass.framed threads) ∧
      (∀ thread ∈ StackClass.framed threads, ∃ before group after,
        groups = before ++ group :: after ∧ thread ∈ group.members ∧
          ∀ other ∈ before ++ after, thread ∉ other.members) ∧
      (∀ group ∈ groups, ∀ first ∈ group.members, ∀ second ∈ group.members,
        first.sameStack second = true) ∧
      groups.Pairwise (fun group other => ∀ first ∈ group.members, ∀ second ∈ other.members,
        first.sameStack second = false ∧ second.sameStack first = false) ∧
      (∀ group ∈ groups, group.kind = .single ↔ group.members.length = 1) ∧
      groups = Grouping.groups threads := by
  have respects := respectsStacks_stackHash empty add
  refine ⟨members_groupsWith respects textual, flatMap_members_perm respects textual, ?_, ?_,
    pairwise_sameStack_eq_false respects textual, ?_, groupsWith_eq_groups respects textual⟩
  · intro thread framed
    exact exists_only_group respects textual framed
  · intro group listed first firstMem second secondMem
    exact sameStack_of_mem_group respects textual listed firstMem secondMem
  · intro group _
    exact kind_eq_single_iff group

/-- Five threads under a hash that is always the same: the second and the fifth have one stack, the
third differs from them by its exception, and the fourth has no frames. -/
theorem groupsWith_stackHash_colliding :
    let frame (signature : String) : StackFrame := ⟨[], [], [], signature.toText⟩
    let thread (id : Int) (frames : List StackFrame) (exception : Option ExceptionObject) :
        Thread := ⟨frames, [], ⟨.null, id, 0⟩, exception, .unsupported⟩
    let boom : ExceptionObject := ⟨.text "Boom".toText, .null⟩
    let threads := [thread 1 [frame "A"] none, thread 2 [frame "B", frame "A"] none,
      thread 3 [frame "B", frame "A"] (some boom), thread 4 [] none,
      thread 5 [frame "B", frame "A"] none]
    let groups := groupsWith (Thread.stackHash () fun _ _ => ()) threads
    (∀ thread ∈ threads, thread.hasTextException = true) ∧
      groups.map ThreadGroup.members = StackClass.bySize threads ∧
      groups.map ThreadGroup.managedIds = [[2, 5], [1], [3]] := by
  intro frame thread boom threads groups
  have textual : ∀ thread ∈ threads, thread.hasTextException = true := by decide
  exact ⟨textual, (groupsWith_stackHash () (fun _ _ => ()) threads textual).1, by decide⟩

end ThreadStacks.Grouping
