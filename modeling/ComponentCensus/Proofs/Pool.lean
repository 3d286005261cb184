import ComponentCensus.Proofs.Steps
import ComponentCensus.Scan.Pool

/-!
# A pool gives what the tasks give

Workers may take turns in any order, but the results of a pool are the results of its tasks one by
one: each future stays with its task, and each step finishes one of them.

A future waits, is at work or is done.  A step first puts waiting futures to work while workers are
free, and then one of those at work is finished; which one is up to the schedule, of which nothing
is assumed.

## Main results

* `run_spec` : after some steps the futures stand for the tasks, and as many are finished.
* `Workers.mapM_eq` : with any number of workers the results are those of the tasks in their order,
  and so is the first error.

## Strategy

* `OnTasks` says that the futures stand for the tasks; no step changes which task a future is about
  (`onTasks_step`).
* While a task is unfinished and there is a worker, a step has one at work and finishes it
  (`unfinished_step`), so as many steps as there are tasks finish all of them.
-/

namespace ComponentCensus.Scan

variable {α β : Type} {work : α → β}

/-- A future that stands for a task: it has the task, or the result of the work on it. -/
def Future.IsOn (work : α → β) (task : α) : Future α β → Prop
  | .waiting own => own = task
  | .running own => own = task
  | .done result => result = work task

namespace Pool

/-- Futures that stand for tasks, in their order. -/
def OnTasks (work : α → β) (tasks : List α) (futures : List (Future α β)) : Prop :=
  List.Forall₂ (Future.IsOn work) tasks futures

/-- The number of tasks without a result. -/
def unfinished (futures : List (Future α β)) : Nat :=
  futures.countP fun future => future.result?.isNone

section Counts

variable (task : α) (result : β) (rest : List (Future α β))

@[simp]
theorem busy_waiting : busy (.waiting task :: rest) = busy rest :=
  List.countP_cons_of_neg Bool.false_ne_true

@[simp]
theorem busy_running : busy (.running task :: rest) = busy rest + 1 :=
  List.countP_cons_of_pos rfl

@[simp]
theorem busy_done : busy (.done result :: rest) = busy rest :=
  List.countP_cons_of_neg Bool.false_ne_true

@[simp]
theorem unfinished_waiting : unfinished (.waiting task :: rest) = unfinished rest + 1 :=
  List.countP_cons_of_pos rfl

@[simp]
theorem unfinished_running : unfinished (.running task :: rest) = unfinished rest + 1 :=
  List.countP_cons_of_pos rfl

@[simp]
theorem unfinished_done : unfinished (.done result :: rest) = unfinished rest :=
  List.countP_cons_of_neg Bool.false_ne_true

end Counts

/-! ## Free workers start -/

theorem onTasks_start {tasks : List α} {futures : List (Future α β)} (free : Nat)
    (htasks : OnTasks work tasks futures) : OnTasks work tasks (start free futures) := by
  -- along the futures, with the workers that are still free
  induction htasks generalizing free with
  | nil => exact .nil
  | cons hfuture hrest ih =>
      rename_i future _ _
      cases future with
      | running own => exact .cons hfuture (ih free)
      | done result => exact .cons hfuture (ih free)
      | waiting own =>
          cases free with
          | zero => exact .cons hfuture hrest
          | succ free => exact .cons hfuture (ih free)

theorem unfinished_start (free : Nat) (futures : List (Future α β)) :
    unfinished (start free futures) = unfinished futures := by
  fun_induction start free futures with
  | case1 => rfl
  | case2 free task rest ih => rw [unfinished_running, unfinished_running, ih]
  | case3 free result rest ih => rw [unfinished_done, unfinished_done, ih]
  | case4 => rfl
  | case5 free task rest ih => rw [unfinished_running, unfinished_waiting, ih]

/-- A free worker finds a task, unless all tasks are finished. -/
theorem busy_start_pos {free : Nat} {futures : List (Future α β)}
    (hworkers : 0 < free + busy futures) (hunfinished : 0 < unfinished futures) :
    0 < busy (start free futures) := by
  -- a future that is at work stays so, and the first one that waits gets a worker
  fun_induction start free futures with
  | case1 => exact absurd hunfinished (Nat.lt_irrefl 0)
  | case2 free task rest ih =>
      rw [busy_running]
      omega
  | case3 free result rest ih =>
      rw [busy_done] at hworkers ⊢
      rw [unfinished_done] at hunfinished
      exact ih hworkers hunfinished
  | case4 task rest =>
      rwa [Nat.zero_add] at hworkers
  | case5 free task rest ih =>
      rw [busy_running]
      omega

/-! ## A worker finishes -/

theorem onTasks_finish {tasks : List α} {futures : List (Future α β)} (chosen : Nat)
    (htasks : OnTasks work tasks futures) : OnTasks work tasks (finish work chosen futures) := by
  induction htasks generalizing chosen with
  | nil => exact .nil
  | cons hfuture hrest ih =>
      rename_i future _ _
      cases future with
      | waiting own => exact .cons hfuture (ih chosen)
      | done result => exact .cons hfuture (ih chosen)
      | running own =>
          -- the chosen one has the result of its own task
          cases chosen with
          | zero => exact .cons (congrArg work hfuture) hrest
          | succ chosen => exact .cons hfuture (ih chosen)

theorem unfinished_finish {chosen : Nat} {futures : List (Future α β)}
    (hchosen : chosen < busy futures) :
    unfinished (finish work chosen futures) + 1 = unfinished futures := by
  fun_induction finish work chosen futures with
  | case1 => exact absurd hchosen (Nat.not_lt_zero _)
  | case2 chosen task rest ih =>
      rw [busy_waiting] at hchosen
      rw [unfinished_waiting, unfinished_waiting, ih hchosen]
  | case3 chosen result rest ih =>
      rw [busy_done] at hchosen
      rw [unfinished_done, unfinished_done, ih hchosen]
  | case4 task rest => rw [unfinished_done, unfinished_running]
  | case5 chosen task rest ih =>
      rw [busy_running] at hchosen
      rw [unfinished_running, unfinished_running, ih (by omega)]

/-! ## Steps and runs -/

theorem onTasks_step {tasks : List α} {futures : List (Future α β)} (size chosen : Nat)
    (htasks : OnTasks work tasks futures) : OnTasks work tasks (step work size chosen futures) :=
  onTasks_finish _ (onTasks_start _ htasks)

/-- Every step finishes a task, whoever is chosen. -/
theorem unfinished_step {size : Nat} (hsize : 0 < size) (chosen : Nat) {futures : List (Future α β)}
    (hunfinished : 0 < unfinished futures) :
    unfinished (step work size chosen futures) + 1 = unfinished futures := by
  have hworkers : 0 < size - busy futures + busy futures := by omega
  have hbusy := busy_start_pos hworkers hunfinished
  have hfinish := @unfinished_finish _ _ work _ _ (Nat.mod_lt chosen hbusy)
  rw [unfinished_start] at hfinish
  exact hfinish

/-- What holds of the futures after some steps. -/
theorem run_spec {size : Nat} (hsize : 0 < size) (schedule : Nat → Nat) (tasks : List α)
    (steps : Nat) (hsteps : steps ≤ tasks.length) :
    OnTasks work tasks (run work size schedule tasks steps) ∧
      unfinished (run work size schedule tasks steps) + steps = tasks.length := by
  induction steps with
  | zero =>
      constructor
      · show List.Forall₂ (Future.IsOn work) tasks (tasks.map Future.waiting)
        rw [List.forall₂_map_right_iff]
        exact List.forall₂_same.mpr fun _ _ => rfl
      · show (tasks.map Future.waiting).countP _ + 0 = tasks.length
        rw [List.countP_map]
        exact List.countP_eq_length.mpr fun _ _ => rfl
  | succ steps ih =>
      obtain ⟨htasks, hcount⟩ := ih (by omega)
      -- fewer steps than tasks leave a task unfinished
      have hleft : 0 < unfinished (run work size schedule tasks steps) := by omega
      have hstep := @unfinished_step _ _ work _ hsize (schedule steps) _ hleft
      refine ⟨onTasks_step size _ htasks, ?_⟩
      show unfinished (step work size _ _) + (steps + 1) = _
      omega

theorem filterMap_result?_of_finished {tasks : List α} {futures : List (Future α β)}
    (htasks : OnTasks work tasks futures) (hfinished : unfinished futures = 0) :
    futures.filterMap Future.result? = tasks.map work := by
  induction htasks with
  | nil => rfl
  | cons hfuture hrest ih =>
      rename_i future _ _
      cases future with
      | waiting own => simp at hfinished
      | running own => simp at hfinished
      | done result =>
          obtain rfl : result = work _ := hfuture
          rw [unfinished_done] at hfinished
          rw [List.map_cons, ← ih hfinished]
          rfl

/-- A pool with workers gives the results of its tasks, however the workers take turns. -/
theorem results_eq {size : Nat} (hsize : 0 < size) (schedule : Nat → Nat) (tasks : List α) :
    results work size schedule tasks = tasks.map work := by
  obtain ⟨htasks, hcount⟩ := @run_spec _ _ work _ hsize schedule tasks tasks.length Nat.le.refl
  exact filterMap_result?_of_finished htasks (by omega)

end Pool

/-- Neither the number of workers nor their turns make a difference. -/
theorem Workers.mapM_eq {ε : Type} (workers : Workers) (work : α → Except ε β) (tasks : List α) :
    workers.mapM work tasks = tasks.mapM work := by
  unfold Workers.mapM
  split
  · next hpool =>
    have hsize : 0 < workers.jobs.toNat := by omega
    rw [Pool.results_eq hsize, List.mapM_map]
    rfl
  · rfl

end ComponentCensus.Scan
