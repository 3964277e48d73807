import Mathlib.Data.List.Basic
import ThreadStacks.Thread.Pool

/-!
# Schedules of a worker pool

A schedule says when the workers of a pool take up the tasks and when they are done with them.  It
may put the tasks into any order, as long as no more of them run at one time than there are
workers.  Every schedule that comes to its end finishes each task once, so it fills the slots with
the outcomes of the tasks, and what is read from the slots is what doing the tasks one after the
other gives.
-/

namespace ThreadStacks.Pool

/-- What a worker does: take up a task, or be done with it. -/
inductive Event where
  | start (task : Nat)
  | finish (task : Nat)
  deriving DecidableEq, Repr

/-- The tasks that wait for a worker, and those that a worker is busy with. -/
structure Progress where
  waiting : List Nat
  running : List Nat
  deriving DecidableEq, Repr

/-- The tasks that an event finishes. -/
def Event.finished : Event → List Nat
  | .start _ => []
  | .finish task => [task]

/-- The order in which the tasks of a schedule are finished. -/
def finishOrder (schedule : List Event) : List Nat := schedule.flatMap Event.finished

namespace Progress

/-- The progress of a number of tasks before the first one is taken up. -/
def initial (count : Nat) : Progress := ⟨List.range count, []⟩

/-- The tasks that are not finished yet. -/
def unfinished (progress : Progress) : List Nat := progress.waiting ++ progress.running

/-- How many events are still to come. -/
def remaining (progress : Progress) : Nat :=
  2 * progress.waiting.length + progress.running.length

/-- The progress after an event, if the event can happen.  A task is only taken up while a worker
is free. -/
def after? (workers : Nat) (progress : Progress) : Event → Option Progress
  | .start task =>
      if task ∈ progress.waiting ∧ progress.running.length < workers then
        some ⟨progress.waiting.erase task, task :: progress.running⟩
      else none
  | .finish task =>
      if task ∈ progress.running then some ⟨progress.waiting, progress.running.erase task⟩
      else none

/-- The progress after all events of a schedule, if they can happen one after the other. -/
def follow? (workers : Nat) (progress : Progress) (schedule : List Event) : Option Progress :=
  schedule.foldlM (after? workers) progress

variable {workers task : Nat} {progress next final : Progress} {event : Event}
  {schedule rest : List Event}

@[simp] theorem follow?_cons :
    progress.follow? workers (event :: schedule) =
      (progress.after? workers event).bind fun next => next.follow? workers schedule := by
  rw [follow?, List.foldlM_cons]
  rfl

theorem follow?_append :
    progress.follow? workers (schedule ++ rest) =
      (progress.follow? workers schedule).bind fun next => next.follow? workers rest := by
  rw [follow?, List.foldlM_append]
  rfl

/-! ## One event -/

theorem after?_start_eq_some_iff :
    progress.after? workers (.start task) = some next ↔
      (task ∈ progress.waiting ∧ progress.running.length < workers) ∧
        next = ⟨progress.waiting.erase task, task :: progress.running⟩ := by
  rw [after?, Option.ite_none_right_eq_some, Option.some.injEq, eq_comm]

theorem after?_finish_eq_some_iff :
    progress.after? workers (.finish task) = some next ↔
      task ∈ progress.running ∧ next = ⟨progress.waiting, progress.running.erase task⟩ := by
  rw [after?, Option.ite_none_right_eq_some, Option.some.injEq, eq_comm]

/-- An event loses no task and adds none. -/
theorem after?_perm (happens : progress.after? workers event = some next) :
    (event.finished ++ next.unfinished).Perm progress.unfinished := by
  cases event with
  | start task =>
      obtain ⟨⟨waits, -⟩, rfl⟩ := after?_start_eq_some_iff.1 happens
      have taken := (List.perm_cons_erase waits).symm
      exact List.perm_middle.trans (taken.append_right progress.running)
  | finish task =>
      obtain ⟨runs, rfl⟩ := after?_finish_eq_some_iff.1 happens
      have ended := (List.perm_cons_erase runs).symm.append_left progress.waiting
      have moved : (task :: (progress.waiting ++ progress.running.erase task)).Perm
          (progress.waiting ++ task :: progress.running.erase task) := List.perm_middle.symm
      exact moved.trans ended

theorem remaining_after? (happens : progress.after? workers event = some next) :
    next.remaining + 1 = progress.remaining := by
  cases event with
  | start task =>
      obtain ⟨⟨waits, -⟩, rfl⟩ := after?_start_eq_some_iff.1 happens
      have fewer := List.length_erase_add_one waits
      simp only [remaining, List.length_cons]
      omega
  | finish task =>
      obtain ⟨runs, rfl⟩ := after?_finish_eq_some_iff.1 happens
      have fewer := List.length_erase_add_one runs
      simp only [remaining]
      omega

/-- Unless all tasks are finished, something can happen. -/
theorem exists_after? (someWorker : 0 < workers) (unfinished : progress.remaining ≠ 0) :
    ∃ event next, progress.after? workers event = some next := by
  obtain ⟨waiting, running⟩ := progress
  cases running with
  | cons task running =>
      exact ⟨.finish task, _, after?_finish_eq_some_iff.2 ⟨List.mem_cons_self, rfl⟩⟩
  | nil =>
      cases waiting with
      | cons task waiting =>
          exact ⟨.start task, _, after?_start_eq_some_iff.2 ⟨⟨List.mem_cons_self, someWorker⟩, rfl⟩⟩
      | nil => contradiction

/-! ## Schedules -/

theorem eq_of_remaining_eq_zero (finished : progress.remaining = 0) : progress = ⟨[], []⟩ := by
  obtain ⟨waiting, running⟩ := progress
  simp only [remaining] at finished
  have noneWaits : waiting = [] := List.length_eq_zero_iff.1 (by omega)
  have noneRuns : running = [] := List.length_eq_zero_iff.1 (by omega)
  rw [noneWaits, noneRuns]

theorem follow?_perm (follows : progress.follow? workers schedule = some final) :
    (finishOrder schedule ++ final.unfinished).Perm progress.unfinished := by
  induction schedule generalizing progress with
  | nil =>
      cases follows
      exact .refl _
  | cons event schedule ih =>
      rw [follow?_cons, Option.bind_eq_some_iff] at follows
      obtain ⟨next, happens, follows⟩ := follows
      have later := (ih follows).append_left event.finished
      rw [finishOrder, List.flatMap_cons, List.append_assoc]
      exact later.trans (after?_perm happens)

/-- However far a schedule has come, it can be brought to its end. -/
theorem exists_follow? (someWorker : 0 < workers) (progress : Progress) :
    ∃ schedule, progress.follow? workers schedule = some ⟨[], []⟩ := by
  induction left : progress.remaining generalizing progress with
  | zero => exact ⟨[], congrArg some (eq_of_remaining_eq_zero left)⟩
  | succ count ih =>
      obtain ⟨event, next, happens⟩ := exists_after? someWorker (by omega : progress.remaining ≠ 0)
      have fewer := remaining_after? happens
      obtain ⟨schedule, follows⟩ := ih next (by omega)
      refine ⟨event :: schedule, ?_⟩
      rw [follow?_cons, happens, Option.bind_some, follows]

end Progress

/-- Whether a number of workers can follow a schedule of a number of tasks to its end. -/
def IsSchedule (workers count : Nat) (schedule : List Event) : Prop :=
  (Progress.initial count).follow? workers schedule = some ⟨[], []⟩

instance (workers count : Nat) (schedule : List Event) :
    Decidable (IsSchedule workers count schedule) :=
  inferInstanceAs (Decidable (_ = _))

variable {workers count : Nat} {schedule : List Event}

/-- A schedule finishes every task once. -/
theorem finishOrder_perm (complete : IsSchedule workers count schedule) :
    (finishOrder schedule).Perm (List.range count) := by
  have perm := Progress.follow?_perm complete
  simpa [Progress.unfinished, Progress.initial] using perm

/-- What has happened so far is the beginning of a schedule. -/
theorem exists_isSchedule_append (someWorker : 0 < workers) {progress : Progress}
    (follows : (Progress.initial count).follow? workers schedule = some progress) :
    ∃ rest, IsSchedule workers count (schedule ++ rest) := by
  obtain ⟨rest, ends⟩ := Progress.exists_follow? someWorker progress
  refine ⟨rest, ?_⟩
  rw [IsSchedule, Progress.follow?_append, follows, Option.bind_some, ends]

/-! ## Slots -/

section Slots

variable {Failure Output Result : Type} {tasks : List (Written Failure Output Result)}

theorem length_foldl_finishTask (order : List Nat) (slots : Slots Failure Output Result) :
    (order.foldl (finishTask tasks) slots).length = slots.length := by
  induction order generalizing slots with
  | nil => rfl
  | cons task order ih =>
      rw [List.foldl_cons, ih, finishTask, List.length_set]

/-- A slot holds the outcome of its task if the task has finished, at whatever time. -/
theorem getElem?_foldl_finishTask (order : List Nat) (slots : Slots Failure Output Result)
    {index : Nat} (inside : index < slots.length) :
    (order.foldl (finishTask tasks) slots)[index]? =
      if index ∈ order then some tasks[index]? else slots[index]? := by
  induction order generalizing slots with
  | nil => rw [List.foldl_nil, if_neg List.not_mem_nil]
  | cons task order ih =>
      have insideLater : index < (finishTask tasks slots task).length := by
        rwa [finishTask, List.length_set]
      rw [List.foldl_cons, ih _ insideLater, finishTask]
      by_cases later : index ∈ order
      · rw [if_pos later, if_pos (List.mem_cons_of_mem task later)]
      · rw [if_neg later]
        by_cases same : task = index
        · subst same
          rw [List.getElem?_set_self inside, if_pos List.mem_cons_self]
        · rw [List.getElem?_set_ne same, if_neg]
          rw [List.mem_cons, not_or]
          exact ⟨Ne.symm same, later⟩

theorem slots_eq_of_perm {order : List Nat} (all : order.Perm (List.range tasks.length)) :
    order.foldl (finishTask tasks) (empty tasks) = tasks.map some := by
  have slotCount : (empty tasks).length = tasks.length := List.length_map _
  apply List.ext_getElem?
  intro index
  by_cases inside : index < tasks.length
  · have finishes : index ∈ order := all.mem_iff.2 (List.mem_range.2 inside)
    rw [getElem?_foldl_finishTask order _ (by rwa [slotCount]), if_pos finishes,
      List.getElem?_map, List.getElem?_eq_getElem inside, Option.map_some]
  · have slotsEnd : (order.foldl (finishTask tasks) (empty tasks)).length ≤ index := by
      rw [length_foldl_finishTask, slotCount]
      omega
    rw [List.getElem?_eq_none slotsEnd, List.getElem?_eq_none (by rw [List.length_map]; omega)]

theorem readSlots_map_some (tasks : List (Written Failure Output Result)) :
    readSlots (tasks.map some) = Written.collect id tasks := by
  induction tasks with
  | nil => rfl
  | cons task tasks ih => rw [List.map_cons, readSlots, ih, Written.collect, id]

/-- The order in which the tasks finish does not matter. -/
theorem run_eq_collect {order : List Nat} (all : order.Perm (List.range tasks.length)) :
    run order tasks = Written.collect id tasks := by
  rw [run, slots_eq_of_perm all, readSlots_map_some]

end Slots

end ThreadStacks.Pool
