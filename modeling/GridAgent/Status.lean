/-!
# Statuses

The life of a task, the administrative state of a session, and what is to become of a delivered
message. Each status has one name, which is how it is written and read.
-/

namespace GridAgent

/-- Life of a task record. -/
inductive TaskStatus where
  /-- Created; its data dependencies are not resolved yet. -/
  | creating
  /-- Ready and pushed to the queue. -/
  | submitted
  /-- Claimed by an agent; execution has not started. -/
  | dispatched
  /-- Execution has started on the owning agent. -/
  | processing
  /-- Ended with a result. -/
  | completed
  /-- Ended without a result. -/
  | error
  /-- Ended because the worker ran out of time. -/
  | timeout
  /-- Cancellation is requested while the task may still be running. -/
  | cancelling
  /-- Ended by cancellation. -/
  | cancelled
  /-- Superseded: a successor continues the lineage. -/
  | retried
  /-- Suspended by administration. -/
  | paused
  /-- Held back by administration. -/
  | pending
  deriving DecidableEq, Repr

namespace TaskStatus

/-- Every status, in order of declaration. -/
def all : List TaskStatus :=
  [creating, submitted, dispatched, processing, completed, error, timeout, cancelling, cancelled,
    retried, paused, pending]

/-- The written name. -/
def name : TaskStatus → String
  | creating => "Creating"
  | submitted => "Submitted"
  | dispatched => "Dispatched"
  | processing => "Processing"
  | completed => "Completed"
  | error => "Error"
  | timeout => "Timeout"
  | cancelling => "Cancelling"
  | cancelled => "Cancelled"
  | retried => "Retried"
  | paused => "Paused"
  | pending => "Pending"

/-- The status with a given name. -/
def ofName? (s : String) : Option TaskStatus := all.find? (·.name = s)

/-- No further change ever happens from this status. -/
def isTerminal : TaskStatus → Bool
  | completed | error | timeout | cancelled | retried => true
  | _ => false

/-- An owner pod holds the task. -/
def isOwned : TaskStatus → Bool
  | dispatched | processing => true
  | _ => false

/-- Cancellation is requested or done. -/
def isCancellation : TaskStatus → Bool
  | cancelling | cancelled => true
  | _ => false

end TaskStatus

/-- Administrative state of a session. -/
inductive SessionStatus where
  | running
  | paused
  | cancelled
  | closed
  | purged
  | deleted
  deriving DecidableEq, Repr

namespace SessionStatus

/-- Every status, in order of declaration. -/
def all : List SessionStatus := [running, paused, cancelled, closed, purged, deleted]

/-- The written name. -/
def name : SessionStatus → String
  | running => "Running"
  | paused => "Paused"
  | cancelled => "Cancelled"
  | closed => "Closed"
  | purged => "Purged"
  | deleted => "Deleted"

/-- The status with a given name. -/
def ofName? (s : String) : Option SessionStatus := all.find? (·.name = s)

/-- Tasks of this session must not be started any more. -/
def isTerminated : SessionStatus → Bool
  | cancelled | closed | purged | deleted => true
  | _ => false

end SessionStatus

/-- What the queue does with a message once its handler is done. -/
inductive Settlement where
  /-- Remove it: it is dealt with. -/
  | ack
  /-- Make it visible again. -/
  | release
  /-- Never deliver it again. -/
  | reject
  deriving DecidableEq, Repr

/-- The written name of a settlement. -/
def Settlement.name : Settlement → String
  | .ack => "Ack"
  | .release => "Release"
  | .reject => "Reject"

/-- What a handler decides about its message. -/
inductive Disposition where
  /-- Nothing decided yet. -/
  | waiting
  /-- Not processable right now. -/
  | postponed
  /-- Fully handled. -/
  | processed
  /-- The task will not run. -/
  | cancelled
  /-- The message must never be delivered again. -/
  | poisonous
  /-- Still being worked on. -/
  | running
  /-- Handling failed. -/
  | failed
  deriving DecidableEq, Repr

namespace Disposition

/-- Every disposition, in order of declaration. -/
def all : List Disposition :=
  [waiting, postponed, processed, cancelled, poisonous, running, failed]

/-- The written name. -/
def name : Disposition → String
  | waiting => "Waiting"
  | postponed => "Postponed"
  | processed => "Processed"
  | cancelled => "Cancelled"
  | poisonous => "Poisonous"
  | running => "Running"
  | failed => "Failed"

/-- The disposition with a given name. -/
def ofName? (s : String) : Option Disposition := all.find? (·.name = s)

/-- Handled and cancelled messages leave the queue, poisonous ones are rejected, and every other
message becomes visible again. -/
def settlement : Disposition → Settlement
  | processed | cancelled => .ack
  | poisonous => .reject
  | waiting | postponed | running | failed => .release

end Disposition

end GridAgent
