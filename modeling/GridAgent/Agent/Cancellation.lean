import GridAgent.Agent.Infrastructure

/-!
# Cancelling an execution

An execution is asked to stop once: the first request marks the task as cancelling, if this pod
still holds it, and cancels the execution whatever the store answers; every later one does nothing.
While the worker is called, the agent looks at the store from time to time and stops an execution
whose task is marked for cancellation.
-/

namespace GridAgent.Agent

/-- A task that this pod holds. -/
def heldBy (pod : PodId) : Expectation :=
  (Expectation.anyOf [.dispatched, .processing]).ownedBy pod

/-- Stops an execution; answers whether this request is the first. -/
def stopExecution (s : Settings) (task : TaskId) (run : RunId) : Fallible AgentError Bool := do
  let before ← Call.requestStop run
  if before then return false
  let marked ← attempt
    (Call.updateTask task (heldBy s.podId) { status := .cancelling })
  Call.cancel run
  match marked with
  | .ok _ => return true
  | .error (.conflict _) => return true
  | .error cause => throw (.store cause)

/-- Looks at the store once; answers whether to look again. -/
def lookForCancellation (s : Settings) (task : TaskId) (run : RunId) : Action Bool := do
  match ← (Call.readTask task).run with
  | .ok (some t) =>
    if t.status.isCancellation then
      let _ ← (stopExecution s task run).run
      return false
    else return true
  | _ => return true

end GridAgent.Agent
