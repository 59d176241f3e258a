import GridAgent.Task.Record

/-!
# Retry lineages

A failed task is superseded by a successor that continues its lineage, until the lineage has used up
its retries. A successor starts afresh: it keeps what the task is about and forgets what happened to
the attempt before it.
-/

namespace GridAgent

/-- What becomes of a lineage after a failed attempt. -/
inductive RetryPlan where
  /-- The task is superseded by a successor. -/
  | retry
  /-- No retry is left: the lineage ends. -/
  | exhausted
  deriving DecidableEq, Repr

namespace RetryPlan

/-- A lineage is exhausted when the task has as many ancestors as it may have retries. -/
def ofTask (t : TaskRecord) : RetryPlan :=
  if t.options.retryLimit ≤ t.ancestors.length then .exhausted else .retry

/-- Status of the failed attempt. -/
def failedStatus : RetryPlan → TaskStatus
  | retry => .retried
  | exhausted => .error

/-- The written name. -/
def name : RetryPlan → String
  | retry => "Retry"
  | exhausted => "Exhausted"

end RetryPlan

/-- The next attempt of a lineage, in creation and without owner. -/
def TaskRecord.successor (parent : TaskRecord) (id : TaskId) (now : Date) : TaskRecord :=
  { TaskRecord.first id parent.session parent.payload parent.options now with
    initial := parent.initial
    ancestors := parent.ancestors ++ [parent.id]
    dependencies := parent.dependencies
    remaining := parent.remaining
    outputs := parent.outputs }

end GridAgent
