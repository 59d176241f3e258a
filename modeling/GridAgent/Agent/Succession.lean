import GridAgent.Agent.Infrastructure
import GridAgent.Task.Lineage

/-!
# Succession

A failed attempt is recorded, and its lineage goes on with a successor until the retries are used
up. A successor is created once for each parent, moves from creation to submitted, and is pushed to
the queue by whoever moved it.
-/

namespace GridAgent.Agent

/-- Moves a successor from creation to submitted and pushes it. One that has left creation is as it
should be, also when it leaves at this very moment. -/
def submitSuccessor (s : Settings) (successor : TaskRecord) :
    Fallible AgentError TaskRecord := do
  if successor.status ≠ .creating then return successor
  let now ← Call.now
  let change : TaskUpdate := { status := .submitted, submitted := some now }
  match ← attempt (updateTask s successor.id (.status .creating) change) with
  | .ok submitted =>
    orFail .queue (push s [submitted.id])
    return submitted
  | .error (.conflict _) => return successor
  | .error cause => throw (.store cause)

/-- Sees to it that a task has a submitted successor. -/
def ensureSuccessor (s : Settings) (parent : TaskRecord) : Fallible AgentError TaskRecord := do
  let id ← Call.newTaskId
  let now ← Call.now
  let successor ← orFail .store (createSuccessor s parent (parent.successor id now))
  submitSuccessor s successor

/-- Ends an attempt with a failure. While retries are left a successor takes over; otherwise the
results are given up. The options of the given record are the effective ones and pass on. -/
def retryTask (s : Settings) (t : TaskRecord) (expected : Expectation) (reason : String) :
    Fallible AgentError TaskRecord := do
  let plan := RetryPlan.ofTask t
  let now ← Call.now
  let change := TaskUpdate.finish plan.failedStatus (.failure reason) now
  let stored ← orFail .store (updateTask s t.id expected change)
  let updated := { stored with options := t.options }
  match plan with
  | .exhausted => abandonResults t.id
  | .retry => let _ ← ensureSuccessor s updated
  return updated

end GridAgent.Agent
