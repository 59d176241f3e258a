import GridAgent.Error
import GridAgent.Health.Report
import GridAgent.Program
import GridAgent.Session
import GridAgent.Worker

/-!
# What a handler asks for

Everything that an agent does with a message is a program over these requests. Each request is one
call to a collaborator and is answered at once as far as the program can tell; between two requests
anything may happen elsewhere.
-/

namespace GridAgent.Agent

/-- Number of an execution on its agent. -/
abbrev RunId := Nat

/-- Number of a stream to the worker. -/
abbrev StreamId := Nat

/-- One call to a collaborator. -/
inductive Request where
  /-- Reads the clock. -/
  | now
  /-- Lets some time pass. -/
  | pause (wait : Span)
  /-- Makes up a task identifier. -/
  | newTaskId
  /-- Reads a record. -/
  | readTask (task : TaskId)
  /-- Updates a record that is as expected. -/
  | updateTask (task : TaskId) (expected : Expectation) (change : TaskUpdate)
  /-- Gives a task a successor unless it has one. -/
  | createSuccessor (parent candidate : TaskRecord)
  /-- Finds the successor of a task. -/
  | findSuccessor (task : TaskId)
  /-- Reads a session. -/
  | readSession (session : SessionId)
  /-- Asks whether the owner of a task still runs it. -/
  | isAlive (session : SessionId) (task : TaskId) (owner : PodId)
  /-- Pushes tasks to the queue. -/
  | push (tasks : List TaskId)
  /-- Fetches an object. -/
  | fetch (data : DataId)
  /-- Makes the results of a task available. -/
  | finalize (task : TaskId)
  /-- Gives up the results of a task. -/
  | abandon (task : TaskId)
  /-- Makes the scratch directory of a task. -/
  | makeScratch (task : TaskId)
  /-- Writes an object into the scratch directory of a task. -/
  | saveScratch (task : TaskId) (data : DataId) (bytes : List UInt8)
  /-- Removes the scratch directory of a task. -/
  | clearScratch (task : TaskId)
  /-- Is the agent shutting down? -/
  | shutdownRequested
  /-- Answers a liveness probe. -/
  | probeLiveness
  /-- Registers a task as executing, unless it is. -/
  | register (task : TaskId)
  /-- Ends an execution. -/
  | unregister (run : RunId)
  /-- Has the execution been asked to stop? -/
  | stopRequested (run : RunId)
  /-- Asks the execution to stop; answers whether it had been asked before. -/
  | requestStop (run : RunId)
  /-- Cancels the execution: after the grace delay the call to the worker is cut off. -/
  | cancel (run : RunId)
  /-- Begins to watch for a cancellation. -/
  | beginWatch (run : RunId)
  /-- Ends the watch. -/
  | endWatch (run : RunId)
  /-- Opens a stream to the worker. -/
  | connect (run : RunId) (task : TaskId) (deadline : Option Date)
  /-- Sends a request to the worker. -/
  | send (run : RunId) (stream : StreamId) (request : WorkRequest)
  /-- Tells the worker that no request follows. -/
  | finishSending (run : RunId) (stream : StreamId)
  /-- Waits for the reply of the worker. -/
  | awaitReply (run : RunId) (stream : StreamId)
  /-- Closes the stream. -/
  | hangUp (stream : StreamId)
  /-- Decides on the message. -/
  | dispose (message : DeliveryId) (disposition : Disposition)
  /-- Hands the message back to the queue. -/
  | settle (message : DeliveryId)
  /-- Breaks off for good; nothing follows. -/
  | breakOff (run : RunId)

/-- What each call answers. -/
def Request.Reply : Request → Type
  | now => Date
  | pause _ => Unit
  | newTaskId => TaskId
  | readTask _ => Except StoreError (Option TaskRecord)
  | updateTask .. => Except StoreError TaskRecord
  | createSuccessor .. => Except StoreError TaskRecord
  | findSuccessor _ => Except StoreError (Option TaskRecord)
  | readSession _ => Except StoreError (Option SessionRecord)
  | isAlive .. => Except CheckError Bool
  | push _ => Except QueueError Unit
  | fetch _ => Except StorageError (List UInt8)
  | finalize _ => Except AgentError Unit
  | abandon _ => Except AgentError Unit
  | makeScratch _ => Except StorageError Unit
  | saveScratch .. => Except StorageError Unit
  | clearScratch _ => Unit
  | shutdownRequested => Bool
  | probeLiveness => HealthReport
  | register _ => Option RunId
  | unregister _ => Unit
  | stopRequested _ => Bool
  | requestStop _ => Bool
  | cancel _ => Unit
  | beginWatch _ => Unit
  | endWatch _ => Unit
  | connect .. => Except WorkerError StreamId
  | send .. => Except WorkerError Unit
  | finishSending .. => Except WorkerError Unit
  | awaitReply .. => Except WorkerError Output
  | hangUp _ => Unit
  | dispose .. => Except QueueError Unit
  | settle _ => Except QueueError Unit
  | breakOff _ => Empty

/-- The collaborators of an agent. -/
def collaborators : Interface := ⟨Request, Request.Reply⟩

/-- A program over the collaborators. -/
abbrev Action (α : Type) : Type := Program collaborators α

/-- A program over the collaborators that may fail. -/
abbrev Fallible (ε α : Type) : Type := ExceptT ε Action α

/-- Makes a request. -/
def ask (request : Request) : Action request.Reply := .call request .done

/-- The outcome of a program that may fail, failure included. -/
def attempt {ε ε' α : Type} (p : Fallible ε α) : Fallible ε' (Except ε α) := ExceptT.lift p

/-- Goes on with an outcome. -/
def resume {ε α : Type} (outcome : Except ε α) : Fallible ε α := ExceptT.mk (.done outcome)

/-- A failure of one collaborator as a failure of the agent. -/
def orFail {ε α : Type} (cause : ε → AgentError) (p : Fallible ε α) : Fallible AgentError α :=
  ExceptT.adapt cause p

/-! The calls one by one, with the type of what they answer. -/

namespace Call

/-- Reads the clock. -/
def now : Action Date := ask .now

/-- Lets some time pass. -/
def pause (wait : Span) : Action Unit := ask (.pause wait)

/-- Makes up a task identifier. -/
def newTaskId : Action TaskId := ask .newTaskId

/-- Reads a record. -/
def readTask (task : TaskId) : Fallible StoreError (Option TaskRecord) := ask (.readTask task)

/-- Updates a record that is as expected. -/
def updateTask (task : TaskId) (expected : Expectation) (change : TaskUpdate) :
    Fallible StoreError TaskRecord :=
  ask (.updateTask task expected change)

/-- Gives a task a successor unless it has one. -/
def createSuccessor (parent candidate : TaskRecord) : Fallible StoreError TaskRecord :=
  ask (.createSuccessor parent candidate)

/-- Finds the successor of a task. -/
def findSuccessor (task : TaskId) : Fallible StoreError (Option TaskRecord) :=
  ask (.findSuccessor task)

/-- Reads a session. -/
def readSession (session : SessionId) : Fallible StoreError (Option SessionRecord) :=
  ask (.readSession session)

/-- Asks whether the owner of a task still runs it. -/
def isAlive (session : SessionId) (task : TaskId) (owner : PodId) : Fallible CheckError Bool :=
  ask (.isAlive session task owner)

/-- Pushes tasks to the queue. -/
def push (tasks : List TaskId) : Fallible QueueError Unit := ask (.push tasks)

/-- Fetches an object. -/
def fetch (data : DataId) : Fallible StorageError (List UInt8) := ask (.fetch data)

/-- Makes the results of a task available. -/
def finalize (task : TaskId) : Fallible AgentError Unit := ask (.finalize task)

/-- Gives up the results of a task. -/
def abandon (task : TaskId) : Fallible AgentError Unit := ask (.abandon task)

/-- Makes the scratch directory of a task. -/
def makeScratch (task : TaskId) : Fallible StorageError Unit := ask (.makeScratch task)

/-- Writes an object into the scratch directory of a task. -/
def saveScratch (task : TaskId) (data : DataId) (bytes : List UInt8) : Fallible StorageError Unit :=
  ask (.saveScratch task data bytes)

/-- Removes the scratch directory of a task. -/
def clearScratch (task : TaskId) : Action Unit := ask (.clearScratch task)

/-- Is the agent shutting down? -/
def shutdownRequested : Action Bool := ask .shutdownRequested

/-- Answers a liveness probe. -/
def probeLiveness : Action HealthReport := ask .probeLiveness

/-- Registers a task as executing, unless it is. -/
def register (task : TaskId) : Action (Option RunId) := ask (.register task)

/-- Ends an execution. -/
def unregister (run : RunId) : Action Unit := ask (.unregister run)

/-- Has the execution been asked to stop? -/
def stopRequested (run : RunId) : Action Bool := ask (.stopRequested run)

/-- Asks the execution to stop; answers whether it had been asked before. -/
def requestStop (run : RunId) : Action Bool := ask (.requestStop run)

/-- Cancels the execution. -/
def cancel (run : RunId) : Action Unit := ask (.cancel run)

/-- Begins to watch for a cancellation. -/
def beginWatch (run : RunId) : Action Unit := ask (.beginWatch run)

/-- Ends the watch. -/
def endWatch (run : RunId) : Action Unit := ask (.endWatch run)

/-- Opens a stream to the worker. -/
def connect (run : RunId) (task : TaskId) (deadline : Option Date) :
    Fallible WorkerError StreamId :=
  ask (.connect run task deadline)

/-- Sends a request to the worker. -/
def send (run : RunId) (stream : StreamId) (request : WorkRequest) : Fallible WorkerError Unit :=
  ask (.send run stream request)

/-- Tells the worker that no request follows. -/
def finishSending (run : RunId) (stream : StreamId) : Fallible WorkerError Unit :=
  ask (.finishSending run stream)

/-- Waits for the reply of the worker. -/
def awaitReply (run : RunId) (stream : StreamId) : Fallible WorkerError Output :=
  ask (.awaitReply run stream)

/-- Closes the stream. -/
def hangUp (stream : StreamId) : Action Unit := ask (.hangUp stream)

/-- Decides on the message. -/
def dispose (message : DeliveryId) (disposition : Disposition) : Fallible QueueError Unit :=
  ask (.dispose message disposition)

/-- Hands the message back to the queue. -/
def settle (message : DeliveryId) : Fallible QueueError Unit := ask (.settle message)

/-- Breaks off for good. -/
def breakOff (run : RunId) : Action Empty := ask (.breakOff run)

end Call

end GridAgent.Agent
