import GridAgent.Agent.Loop
import GridAgent.Health.Monitor
import GridAgent.Queue
import GridAgent.Simulation.Step

/-!
# Answers of steps

What each step of a scenario shows. Elapsed times are milliseconds of the timer.
-/

namespace GridAgent.Simulation

open Agent

/-- How a handled message or a run of the loop ended. -/
inductive Ending (α : Type) where
  /-- With a report. -/
  | reported (report : α)
  /-- With a failure. -/
  | failed (cause : AgentError)
  /-- It broke off. -/
  | died

/-- What a request to stop an execution did. -/
structure StopReport where
  /-- The execution had been asked to stop before. -/
  before : Bool
  /-- The execution has been asked to stop. -/
  after : Bool
  /-- Whether this request was the first, or why it failed. -/
  result : Except AgentError Bool

/-- What prefetching brought. -/
structure PrefetchReport where
  /-- The scratch directory. -/
  dir : String
  /-- What would be sent to the worker. -/
  requests : List WorkRequest
  /-- Contents of the files, in order. -/
  files : List (List UInt8)
  /-- The directory is still there. -/
  left : Bool

/-- The answer of a step. -/
inductive Answer where
  | nothing
  | ok
  | flag (value : Bool)
  | number (value : Nat)
  | failed (cause : AgentError)
  | record (record : Option TaskRecord)
  | session (session : Option SessionRecord)
  | tasks (tasks : List TaskId)
  | statuses (statuses : List TaskStatus)
  | lineage (attempts : List TaskRecord)
  | dataState (available aborted : Bool)
  | bytes (bytes : List UInt8)
  | names (names : List String)
  | calls (calls : List (TaskId × List WorkRequest))
  | delivery (task : TaskId) (disposition : Disposition)
  | pulled (tasks : List TaskId) (elapsed : Nat)
  | disposed (result : Except QueueError Unit) (disposition : Disposition)
  | queue (queue : Queue)
  | replied (result : Except WorkerError Output) (elapsed : Nat)
  | acquired (acquired : Acquired)
  | handled (ending : Ending HandlerReport) (elapsed : Nat) (events : Option (List (List Answer)))
  | ran (ending : Ending Exit) (elapsed : Nat) (events : Option (List (List Answer)))
  | stopped (report : StopReport)
  | running (loop single : List TaskId)
  | report (report : HealthReport)
  | monitor (monitor : HealthMonitor)
  | prefetched (report : PrefetchReport)

/-- What is shown of the state after a step. -/
structure Snapshot where
  /-- Each task with its status and owner, in ascending order. -/
  tasks : List (TaskId × TaskStatus × Option PodId) := []
  /-- Visible messages. -/
  pending : List TaskId := []
  /-- Number of deliveries in flight. -/
  inFlight : Nat := 0
  deriving DecidableEq

end GridAgent.Simulation
