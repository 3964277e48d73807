import Mathlib.Algebra.GroupWithZero.Nat
import Mathlib.Data.List.Infix
import ThreadStacks.Proofs.Render.Row

/-!
# Limited tables

A limit on the number of groups cuts the table behind a group.  Drawing a group depends on nothing
that was drawn before it, and the overview counts all groups, so what is left is a beginning of the
whole table.
-/

namespace ThreadStacks

/-- The threads in groups are counted group by group. -/
theorem ParallelThreads.totalThreadCount_eq_sum_map (groups : List ThreadGroup) :
    totalThreadCount groups = (groups.map ThreadGroup.threadCount).sum := by
  induction groups with
  | nil => rfl
  | cons group groups ih => rw [totalThreadCount, ih, List.map_cons, List.sum_cons]

namespace Renderer

variable {renderer : Renderer} {threads : ParallelThreads}

/-- How many of a number of groups a limit leaves.  A negative one counts from the end. -/
def leftCount (limit : Int) (groupCount : Nat) : Int :=
  if 0 ≤ limit then min limit groupCount else max (groupCount + limit) 0

/-- A limit leaves the first groups. -/
theorem exists_top_eq_take {Item : Type} (limit : Int) (items : List Item) :
    ∃ count : Nat,
      (count : Int) = leftCount limit items.length ∧ top (some limit) items = items.take count := by
  cases limit with
  | ofNat count =>
      refine ⟨min count items.length, ?_, ?_⟩
      · rw [leftCount, Int.ofNat_eq_natCast, if_pos (Int.natCast_nonneg count)]
        omega
      · exact List.take_eq_take_min
  | negSucc missing =>
      refine ⟨items.length - (missing + 1), ?_, rfl⟩
      rw [leftCount, if_neg (Int.not_le.2 (Int.negSucc_lt_zero missing))]
      omega

/-- A table with a limit, beside the whole table: it is the overview and the first groups. -/
structure IsCutBehind (renderer : Renderer) (threads : ParallelThreads) (limit : Int)
    (count : Nat) : Prop where
  count_eq : (count : Int) = leftCount limit threads.groups.length
  drawn : (renderer.writeTable threads (some limit)).outcome = .ok ()
  drawn_whole : (renderer.writeTable threads none).outcome = .ok ()
  text_eq : (renderer.writeTable threads (some limit)).text =
    (renderer.writeOverview threads).text ++
      (threads.groups.take count).flatMap fun group => (renderer.writeGroup group).text
  text_overview : (renderer.writeOverview threads).text =
    (renderer.paintedRows
      (overviewRows (threads.groups.map ThreadGroup.threadCount).sum threads.groups.length)).flatten
  text_begins : (renderer.writeTable threads (some limit)).text <+:
    (renderer.writeTable threads none).text

/-- The overview and the groups that are left are drawn one after the other. -/
theorem text_writeTable (renderer : Renderer) (textual : threads.IsTextual)
    (limit : Option Int) :
    (renderer.writeTable threads limit).text =
      (renderer.writeOverview threads).text ++
        (top limit threads.groups).flatMap fun group => (renderer.writeGroup group).text := by
  rw [writeTable_eq textual, writeOverview_eq]
  change (renderer.paintedRows (_ ++ _)).flatten = (renderer.paintedRows _).flatten ++ _
  rw [paintedRows_append, List.flatten_append, flatten_paintedRows_flatMap]
  congr 1
  refine List.flatMap_congr fun group left => ?_
  rw [writeGroup_eq (textual group ((isPrefix_top limit _).subset left))]
  rfl

/-- A limit cuts the table behind a group, and the overview counts all groups. -/
theorem exists_isCutBehind (renderer : Renderer) (textual : threads.IsTextual) (limit : Int) :
    ∃ count : Nat, renderer.IsCutBehind threads limit count := by
  obtain ⟨count, isCount, left⟩ := exists_top_eq_take limit threads.groups
  have limited := text_writeTable renderer textual (some limit)
  rw [left] at limited
  refine ⟨count, ?_⟩
  constructor
  case count_eq => exact isCount
  case drawn => rw [writeTable_eq textual]; rfl
  case drawn_whole => rw [writeTable_eq textual]; rfl
  case text_eq => exact limited
  case text_overview =>
    rw [writeOverview_eq, ParallelThreads.threadCount,
      ParallelThreads.totalThreadCount_eq_sum_map]
    rfl
  case text_begins =>
    rw [limited, text_writeTable renderer textual none, List.prefix_append_right_inj]
    exact (List.take_prefix count threads.groups : List.IsPrefix _ _).flatMap _

/-- A thread with a name and an exception, and two threads with the same stack. -/
def twoGroups : ParallelThreads :=
  let idle : List StackFrame := [⟨"Pool".toText, "Wait".toText, [], "Pool.Wait()".toText⟩]
  let failing : List StackFrame := [⟨"App".toText, "Run".toText, [], "App.Run()".toText⟩]
  ⟨[
    ⟨⟨failing, [.text "App.Run()".toText], ⟨.text "main".toText, 1, 11⟩,
      some ⟨.text "System.Exception".toText, .null⟩, .unsupported⟩, []⟩,
    ⟨⟨idle, [.text "Pool.Wait()".toText], ⟨.null, 2, 12⟩, none, .unsupported⟩,
      [⟨idle, [.text "Pool.Wait()".toText], ⟨.null, 3, 13⟩, none, .unsupported⟩]⟩]⟩

theorem isTextual_twoGroups : twoGroups.IsTextual := by
  intro group member
  rcases List.mem_cons.1 member with rfl | member
  · constructor
    · simp
    · rfl
  · obtain rfl := List.mem_singleton.1 member
    constructor
    · simp
    · rfl

theorem exists_isCutBehind_twoGroups :
    twoGroups.IsTextual ∧
      ∃ count : Nat, (Renderer.mk true true 40).IsCutBehind twoGroups (-1) count :=
  ⟨isTextual_twoGroups, exists_isCutBehind _ isTextual_twoGroups (-1)⟩

end Renderer

end ThreadStacks
