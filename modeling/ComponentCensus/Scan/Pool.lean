/-!
# A pool of workers

Tasks are handed to a pool all at once.  A worker that is free takes the first task that waits, and
those at work finish in any order.  Results are collected in the order of the tasks.
-/

namespace ComponentCensus.Scan

/-- How far the work on a task is. -/
inductive Future (α β : Type) where
  | waiting (task : α)
  | running (task : α)
  | done (result : β)

namespace Future

variable {α β : Type}

/-- Whether a worker is at work on a task. -/
def isRunning : Future α β → Bool
  | .running _ => true
  | _ => false

/-- The result, once there is one. -/
def result? : Future α β → Option β
  | .done result => some result
  | _ => none

end Future

namespace Pool

variable {α β : Type}

/-- The number of workers at work. -/
def busy (futures : List (Future α β)) : Nat :=
  futures.countP Future.isRunning

/-- Free workers take the first tasks that wait. -/
def start : Nat → List (Future α β) → List (Future α β)
  | _, [] => []
  | free, .running task :: rest => .running task :: start free rest
  | free, .done result :: rest => .done result :: start free rest
  | 0, .waiting task :: rest => .waiting task :: rest
  | free + 1, .waiting task :: rest => .running task :: start free rest

/-- One of the workers at work finishes, counted from the earliest task. -/
def finish (work : α → β) : Nat → List (Future α β) → List (Future α β)
  | _, [] => []
  | chosen, .waiting task :: rest => .waiting task :: finish work chosen rest
  | chosen, .done result :: rest => .done result :: finish work chosen rest
  | 0, .running task :: rest => .done (work task) :: rest
  | chosen + 1, .running task :: rest => .running task :: finish work chosen rest

/-- Free workers take tasks, and then one of those at work finishes. -/
def step (work : α → β) (size chosen : Nat) (futures : List (Future α β)) : List (Future α β) :=
  let started := start (size - busy futures) futures
  finish work (chosen % busy started) started

/-- The futures of tasks after some steps; a schedule says who finishes in each of them. -/
def run (work : α → β) (size : Nat) (schedule : Nat → Nat) (tasks : List α) :
    Nat → List (Future α β)
  | 0 => tasks.map .waiting
  | steps + 1 => step work size (schedule steps) (run work size schedule tasks steps)

/-- The results of tasks, in their order. -/
def results (work : α → β) (size : Nat) (schedule : Nat → Nat) (tasks : List α) : List β :=
  (run work size schedule tasks tasks.length).filterMap Future.result?

end Pool

/-- How many workers there are, and in which order they happen to finish. -/
structure Workers where
  jobs : Int := 1
  schedule : Nat → Nat := fun _ => 0

/-- The results of tasks that may fail, up to the first failure in the order of the tasks.  A pool
is made for several workers with several tasks only. -/
def Workers.mapM {ε α β : Type} (workers : Workers) (work : α → Except ε β) (tasks : List α) :
    Except ε (List β) :=
  if 1 < workers.jobs ∧ 1 < tasks.length then
    (Pool.results work workers.jobs.toNat workers.schedule tasks).mapM id
  else
    tasks.mapM work

end ComponentCensus.Scan
