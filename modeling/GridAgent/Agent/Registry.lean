import GridAgent.Agent.Request
import GridAgent.Table

/-!
# Executions on an agent

An agent executes a task at most once at a time. Each execution has a number of its own: it is
registered unless its task is executing already, is asked to stop at most once, and ends its own
registration and no other.
-/

namespace GridAgent.Agent

/-- An execution of a task. -/
structure Execution where
  /-- The executed task. -/
  task : TaskId
  /-- The execution has been asked to stop. -/
  stopRequested : Bool := false
  deriving DecidableEq, Repr

/-- The executions of an agent. -/
structure Registry where
  /-- Every execution there ever was. -/
  executions : Table RunId Execution := .empty
  /-- The execution of each task that is executing. -/
  running : Table TaskId RunId := .empty
  /-- Number of executions so far. -/
  count : Nat := 0

namespace Registry

instance : Inhabited Registry := ⟨{}⟩

/-- Registers an execution of a task, unless the task is executing. -/
def register (r : Registry) (task : TaskId) : Option RunId × Registry :=
  if r.running.contains task then (none, r)
  else
    (some r.count,
      { executions := r.executions.set r.count { task }
        running := r.running.set task r.count
        count := r.count + 1 })

/-- The task of an execution. -/
def taskOf? (r : Registry) (run : RunId) : Option TaskId :=
  (r.executions.get? run).map Execution.task

/-- Ends the registration of an execution, if it is still the one registered for its task. -/
def unregister (r : Registry) (run : RunId) : Registry :=
  match r.taskOf? run with
  | none => r
  | some task =>
    if r.running.get? task = some run then { r with running := r.running.erase task } else r

/-- The execution has been asked to stop. -/
def stopRequested (r : Registry) (run : RunId) : Bool :=
  ((r.executions.get? run).map Execution.stopRequested).getD false

/-- Asks an execution to stop; answers whether it had been asked before. -/
def requestStop (r : Registry) (run : RunId) : Bool × Registry :=
  (r.stopRequested run,
    { r with executions := r.executions.modify run fun e => { e with stopRequested := true } })

/-- The executing tasks in ascending order. -/
def taskIds (r : Registry) : List TaskId := r.running.keys.mergeSort Id.le

end Registry

end GridAgent.Agent
