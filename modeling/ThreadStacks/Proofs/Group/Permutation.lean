import Mathlib.Data.Multiset.MapFold
import ThreadStacks.Proofs.Group.Grouping

/-!
# Groups of reordered threads

The order of the threads decides which member a group starts with and which of two equally large
groups is listed first, and nothing else: a group is a class with its members, and neither the
classes nor their members depend on the order.
-/

namespace ThreadStacks

/-- What a group is made of, apart from the order of its members. -/
structure GroupContent where
  exception : Option ExceptionObject
  signatures : List Text
  members : Multiset Thread

/-- The exception and the signatures that the members of a group share, and the members. -/
def ThreadGroup.content (group : ThreadGroup) : GroupContent :=
  ⟨group.representative.exception, group.representative.signatures, group.members⟩

/-- What groups are made of, apart from their order. -/
def ThreadGroup.contents (groups : List ThreadGroup) : Multiset GroupContent :=
  groups.map ThreadGroup.content

/-! ## Classes of reordered threads -/

namespace StackClass

/-- What a class of threads is made of. -/
def content (threads : List Thread) (stack : StackClass) : GroupContent :=
  ⟨stack.exception.map ExceptionObject.ofTexts, stack.signatures, stack.members threads⟩

variable {threads others : List Thread} (perm : threads.Perm others)

include perm

theorem framed_perm : (framed threads).Perm (framed others) := perm.filter _

theorem content_eq_of_perm (stack : StackClass) : stack.content threads = stack.content others := by
  have sameMembers : (stack.members threads).Perm (stack.members others) :=
    (framed_perm perm).filter _
  rw [content, content, Multiset.coe_eq_coe.2 sameMembers]

/-- The same classes are listed, maybe in another order. -/
theorem all_perm : (all threads).Perm (all others) := by
  rw [List.perm_ext_iff_of_nodup (all_nodup threads) (all_nodup others)]
  intro stack
  rw [mem_all, mem_all]
  simp only [(framed_perm perm).mem_iff]

end StackClass

/-! ## Groups of reordered threads -/

namespace Grouping

variable {Key : Type} [DecidableEq Key] {hash : Thread → Key} {threads : List Thread}

omit [DecidableEq Key] in
/-- A bucket that holds a class has its content. -/
theorem content_of_holds {bucket : Bucket Key} {stack : StackClass}
    (textual : ∀ thread ∈ threads, thread.hasTextException = true)
    (holds : bucket.Holds hash threads stack) : bucket.group.content = stack.content threads := by
  obtain ⟨framed, ofStack⟩ := StackClass.mem_members.1 holds.representative_mem
  have exception : bucket.representative.exception =
      bucket.representative.stackClass.exception.map ExceptionObject.ofTexts :=
    Thread.exception_eq_of_hasTextException (textual _ (List.mem_of_mem_filter framed))
  have signatures : bucket.representative.signatures =
      bucket.representative.stackClass.signatures := rfl
  rw [ThreadGroup.content, StackClass.content, holds.members]
  change GroupContent.mk bucket.representative.exception bucket.representative.signatures _ = _
  rw [exception, signatures, ofStack]

theorem content_buckets (respects : RespectsStacks hash)
    (textual : ∀ thread ∈ threads, thread.hasTextException = true) :
    (buckets hash threads).map (fun bucket => bucket.group.content) =
      (StackClass.all threads).map (StackClass.content threads) := by
  have equal : List.Forall₂ (· = ·)
      ((buckets hash threads).map fun bucket => bucket.group.content)
      ((StackClass.all threads).map (StackClass.content threads)) := by
    rw [List.forall₂_map_left_iff, List.forall₂_map_right_iff]
    exact (buckets_hold respects threads textual).imp fun _ _ => content_of_holds textual
  rwa [List.forall₂_eq_eq_eq] at equal

/-- The groups are made of the classes. -/
theorem contents_groupsWith (respects : RespectsStacks hash)
    (textual : ∀ thread ∈ threads, thread.hasTextException = true) :
    ThreadGroup.contents (groupsWith hash threads) =
      ((StackClass.all threads).map (StackClass.content threads) : List GroupContent) := by
  have sorted : (groupsWith hash threads).Perm ((buckets hash threads).map Bucket.group) := by
    rw [groupsWith, sortBySize_eq_mergeSort]
    exact List.mergeSort_perm _ _
  have contents := sorted.map ThreadGroup.content
  rw [List.map_map, Function.comp_def, content_buckets respects textual] at contents
  exact Multiset.coe_eq_coe.2 contents

/-- No group is larger than the one before it. -/
theorem pairwise_threadCount (hash : Thread → Key) (threads : List Thread) :
    ((groupsWith hash threads).map ThreadGroup.threadCount).Pairwise (· ≥ ·) := by
  have ordered := List.pairwise_mergeSort notSmaller_trans notSmaller_total
    ((buckets hash threads).map Bucket.group)
  rw [← sortBySize_eq_mergeSort, ← groupsWith] at ordered
  refine List.pairwise_map.2 (ordered.imp ?_)
  intro group other notSmaller
  exact of_decide_eq_true notSmaller

/-- The sizes of groups listed by size are determined by what the groups are made of. -/
theorem threadCounts_eq {groups others : List ThreadGroup}
    (ordered : (groups.map ThreadGroup.threadCount).Pairwise (· ≥ ·))
    (othersOrdered : (others.map ThreadGroup.threadCount).Pairwise (· ≥ ·))
    (same : ThreadGroup.contents groups = ThreadGroup.contents others) :
    groups.map ThreadGroup.threadCount = others.map ThreadGroup.threadCount := by
  have sizes : (groups.map ThreadGroup.threadCount).Perm (others.map ThreadGroup.threadCount) := by
    have perm := (Multiset.coe_eq_coe.1 same).map fun content => content.members.card
    rwa [List.map_map, List.map_map] at perm
  refine sizes.eq_of_pairwise ?_ ordered othersOrdered
  intro size other _ _ notSmaller notLarger
  exact Nat.le_antisymm notLarger notSmaller

/-- Reordering threads keeps the groups, up to their order and the order of their members, and it
keeps the sizes of the groups from the first to the last. -/
theorem groupsWith_perm (empty : Key) (add : Key → Text → Key) {threads others : List Thread}
    (perm : threads.Perm others)
    (textual : ∀ thread ∈ threads, thread.hasTextException = true) :
    let hash := Thread.stackHash empty add
    ThreadGroup.contents (groupsWith hash threads) =
        ThreadGroup.contents (groupsWith hash others) ∧
      (groupsWith hash threads).map ThreadGroup.threadCount =
        (groupsWith hash others).map ThreadGroup.threadCount := by
  intro hash
  have respects : RespectsStacks hash := respectsStacks_stackHash empty add
  have othersTextual : ∀ thread ∈ others, thread.hasTextException = true := by
    intro thread member
    exact textual thread (perm.mem_iff.2 member)
  have sameContent : StackClass.content threads = StackClass.content others :=
    funext (StackClass.content_eq_of_perm perm)
  have same : ThreadGroup.contents (groupsWith hash threads) =
      ThreadGroup.contents (groupsWith hash others) := by
    rw [contents_groupsWith respects textual, contents_groupsWith respects othersTextual,
      sameContent]
    exact Multiset.coe_eq_coe.2 ((StackClass.all_perm perm).map _)
  exact ⟨same, threadCounts_eq (pairwise_threadCount hash threads)
    (pairwise_threadCount hash others) same⟩

/-- Four threads and their reversal under a hash that is always the same: the groups hold the same
threads, but the members of a group and the groups of one size stand the other way round. -/
theorem groupsWith_perm_reverse :
    let thread (id : Int) (signature : String) : Thread :=
      ⟨[⟨[], [], [], signature.toText⟩], [], ⟨.null, id, 0⟩, none, .unsupported⟩
    let threads := [thread 1 "A", thread 2 "B", thread 3 "C", thread 4 "C"]
    let groups := groupsWith (Thread.stackHash () fun _ _ => ())
    threads.Perm threads.reverse ∧ (∀ thread ∈ threads, thread.hasTextException = true) ∧
      ThreadGroup.contents (groups threads) = ThreadGroup.contents (groups threads.reverse) ∧
      (groups threads).map ThreadGroup.threadCount =
        (groups threads.reverse).map ThreadGroup.threadCount ∧
      (groups threads).map ThreadGroup.managedIds = [[3, 4], [1], [2]] ∧
      (groups threads.reverse).map ThreadGroup.managedIds = [[4, 3], [2], [1]] := by
  intro thread threads groups
  have perm : threads.Perm threads.reverse := (List.reverse_perm threads).symm
  have textual : ∀ thread ∈ threads, thread.hasTextException = true := by decide
  obtain ⟨sameContents, sameSizes⟩ := groupsWith_perm () (fun _ _ => ()) perm textual
  exact ⟨perm, textual, sameContents, sameSizes, by decide, by decide⟩

end Grouping

end ThreadStacks
