import GridAgent.Agent.Request
import GridAgent.Backoff.Retrying
import GridAgent.Settings

/-!
# Calls to the infrastructure

Calls to the store, the queue, the object storage and the liveness checker are tried again after
transient failures, as the settings say. Giving up results is the exception: what fails there is let
go, and the outcome of the task stands.
-/

namespace GridAgent.Agent

/-- Tries a call as often as the settings allow. -/
def retrying {ε α : Type} [Transient ε] (s : Settings) (call : Fallible ε α) : Fallible ε α :=
  s.retryPolicy.retrying Call.pause call

/-- Reads a record. -/
def readTask (s : Settings) (task : TaskId) : Fallible StoreError (Option TaskRecord) :=
  retrying s (Call.readTask task)

/-- Reads a session. -/
def readSession (s : Settings) (session : SessionId) :
    Fallible StoreError (Option SessionRecord) :=
  retrying s (Call.readSession session)

/-- Updates a record that is as expected. -/
def updateTask (s : Settings) (task : TaskId) (expected : Expectation) (change : TaskUpdate) :
    Fallible StoreError TaskRecord :=
  retrying s (Call.updateTask task expected change)

/-- Gives a task a successor unless it has one. -/
def createSuccessor (s : Settings) (parent candidate : TaskRecord) :
    Fallible StoreError TaskRecord :=
  retrying s (Call.createSuccessor parent candidate)

/-- Finds the successor of a task. -/
def findSuccessor (s : Settings) (task : TaskId) : Fallible StoreError (Option TaskRecord) :=
  retrying s (Call.findSuccessor task)

/-- Asks whether the owner of a task still runs it. -/
def isAlive (s : Settings) (t : TaskRecord) (owner : PodId) : Fallible CheckError Bool :=
  retrying s (Call.isAlive t.session t.id owner)

/-- Pushes tasks to the queue. -/
def push (s : Settings) (tasks : List TaskId) : Fallible QueueError Unit :=
  retrying s (Call.push tasks)

/-- Fetches an object. -/
def fetch (s : Settings) (data : DataId) : Fallible StorageError (List UInt8) :=
  retrying s (Call.fetch data)

/-- Gives up the results of a task; a failure is let go. -/
def abandonResults {ε : Type} (task : TaskId) : Fallible ε Unit := do
  let _ ← (Call.abandon task).run

end GridAgent.Agent
