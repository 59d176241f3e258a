import GridAgent.Status

/-!
# The life of a task

Which status may follow which. A task that has ended or is suspended stays as it is, and one that is
marked for cancellation can only end by it. A task is active while somebody has to deal with it.
-/

namespace GridAgent.TaskStatus

/-- The statuses that may come directly after a status. -/
def next : TaskStatus → List TaskStatus
  | creating => [submitted, error]
  | pending => [error]
  | submitted => [dispatched]
  | dispatched => [processing, submitted, error, retried, cancelling, cancelled]
  | processing => [completed, timeout, error, retried, submitted, cancelling, cancelled]
  | cancelling => [cancelled]
  | completed | error | timeout | cancelled | retried | paused => []

/-- Nothing on an agent's part changes the status any more: the task has ended or is suspended. -/
def isClosed (status : TaskStatus) : Bool := status.isTerminal || status == .paused

/-- Somebody has to deal with the task. -/
def isActive : TaskStatus → Bool
  | submitted | dispatched | processing | cancelling => true
  | _ => false

/-- The task has ended with results. -/
def isSuccess : TaskStatus → Bool
  | completed => true
  | _ => false

/-- The task has ended without results, and nothing continues it. -/
def isFailure : TaskStatus → Bool
  | error | timeout | cancelled => true
  | _ => false

/-- A task may be in this status without having all its data. -/
def mayWait : TaskStatus → Bool
  | creating | pending | error => true
  | _ => false

/-- Nothing comes before creation. -/
theorem creating_not_mem_next (status : TaskStatus) : creating ∉ status.next := by
  cases status <;> decide

/-- Nothing comes after an end. -/
theorem next_of_isTerminal {status : TaskStatus} (h : status.isTerminal = true) :
    status.next = [] := by
  cases status <;> first | rfl | cases h

theorem isSuccess_iff {status : TaskStatus} : status.isSuccess = true ↔ status = .completed := by
  cases status <;> simp [isSuccess]

theorem isFailure_iff {status : TaskStatus} :
    status.isFailure = true ↔ status = .error ∨ status = .timeout ∨ status = .cancelled := by
  cases status <;> simp [isFailure]

/-- A success is an end. -/
theorem isTerminal_of_isSuccess {status : TaskStatus} (h : status.isSuccess = true) :
    status.isTerminal = true := by
  cases status <;> first | rfl | cases h

/-- A failure is an end. -/
theorem isTerminal_of_isFailure {status : TaskStatus} (h : status.isFailure = true) :
    status.isTerminal = true := by
  cases status <;> first | rfl | cases h

/-- What has failed is not retried. -/
theorem ne_retried_of_isFailure {status : TaskStatus} (h : status.isFailure = true) :
    status ≠ .retried := by
  rintro rfl
  cases h

/-- Nothing comes after a closed status, and only after one. -/
theorem isClosed_iff_next {status : TaskStatus} : status.isClosed = true ↔ status.next = [] := by
  cases status <;> simp [isClosed, isTerminal, next]

/-- A closed status is not active. -/
theorem isActive_of_isClosed {status : TaskStatus} (h : status.isClosed = true) :
    status.isActive = false := by
  cases status <;> first | rfl | cases h

end GridAgent.TaskStatus
