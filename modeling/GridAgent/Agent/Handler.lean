import GridAgent.Agent.Acquire
import GridAgent.Agent.Cancellation
import GridAgent.Agent.Prefetch

/-!
# Handling a message

A message is handled from acquisition to settlement: the task is acquired, its data is prefetched,
the worker is called and its output is recorded. Every change of the record expects the task to be
held by this pod, and a lost update ends the attempt. Whatever happens, the message is settled once.
-/

namespace GridAgent.Agent

open Acquisition

/-- How an executed attempt ends. -/
structure Resolution where
  /-- Status of the task. -/
  status : TaskStatus
  /-- What becomes of the message. -/
  disposition : Disposition
  /-- What counts against the error budget. -/
  fault : Option String := none

/-- The same end with a fault. -/
def Resolution.withFault (r : Resolution) (fault : String) : Resolution :=
  { r with fault := some fault }

/-- What happened to a message. -/
structure HandlerReport where
  /-- The delivered task. -/
  task : TaskId
  /-- How acquisition ended. -/
  outcome : Outcome
  /-- Status of the task; none without a task. -/
  status : Option TaskStatus
  /-- What becomes of the message. -/
  disposition : Disposition
  /-- What counts against the error budget. -/
  fault : Option String := none

/-- A task that this pod holds and that has not started. -/
def claimedBy (pod : PodId) : Expectation := (Expectation.status .dispatched).ownedBy pod

/-- A task that this pod is executing. -/
def executedBy (pod : PodId) : Expectation := (Expectation.status .processing).ownedBy pod

/-- A conditional update whose loss is an answer. -/
def transition (s : Settings) (task : TaskId) (expected : Expectation) (change : TaskUpdate) :
    Fallible AgentError (Except LostUpdate TaskRecord) := do
  match ← attempt (updateTask s task expected change) with
  | .ok t => return .ok t
  | .error (.conflict lost) => return .error lost
  | .error cause => throw (.store cause)

/-- Ends a cancelled attempt and gives up its results. -/
def finishCancellation (s : Settings) (task : TaskId) : Fallible AgentError Resolution := do
  let now ← Call.now
  let expected := Expectation.anyOf [.dispatched, .processing, .cancelling]
  match ← transition s task expected { status := .cancelled, ended := some now } with
  | .ok _ =>
    abandonResults task
    return ⟨.cancelled, .cancelled, none⟩
  | .error lost =>
    if lost.status = .cancelled then
      abandonResults task
      return ⟨.cancelled, .cancelled, none⟩
    else return ⟨lost.status, .cancelled, none⟩

/-- Someone else changed the record during the attempt. -/
def onLostUpdate (s : Settings) (task : TaskId) (lost : LostUpdate) :
    Fallible AgentError Resolution :=
  if lost.status.isCancellation then finishCancellation s task
  else return ⟨lost.status, .postponed, none⟩

/-- Hands the task back to the queue: submitted and without owner. -/
def release (s : Settings) (task : TaskId) (expected : Expectation) :
    Fallible AgentError Resolution := do
  let now ← Call.now
  match ← transition s task expected (.release now) with
  | .ok _ => return ⟨.submitted, .postponed, none⟩
  | .error lost => onLostUpdate s task lost

/-- Ends the attempt with an output, without a successor, and gives up its results. -/
def finishWithout (s : Settings) (task : TaskId) (expected : Expectation) (status : TaskStatus)
    (output : Output) : Fallible AgentError Resolution := do
  let now ← Call.now
  match ← transition s task expected (.finish status output now) with
  | .ok _ =>
    abandonResults task
    return ⟨status, .processed, none⟩
  | .error lost => onLostUpdate s task lost

/-- Ends the attempt with a failure; a successor takes over while retries are left. -/
def retryAttempt (s : Settings) (t : TaskRecord) (expected : Expectation) (reason : String)
    (disposition : Disposition) : Fallible AgentError Resolution := do
  match ← attempt (retryTask s t expected reason) with
  | .ok updated => return ⟨updated.status, disposition, none⟩
  | .error (.store (.conflict lost)) => onLostUpdate s t.id lost
  | .error cause => throw cause

/-- Ends an attempt whose call to the worker failed: cancelled if it was asked to stop, handed back
if a healthy agent shuts down, and retried otherwise. -/
def onWorkerFailure (s : Settings) (t : TaskRecord) (run : RunId) (cause : WorkerError) :
    Fallible AgentError Resolution := do
  if ← Call.stopRequested run then finishCancellation s t.id
  else
    let retry : Fallible AgentError Resolution := do
      let resolution ← retryAttempt s t (heldBy s.podId) cause.message .cancelled
      return resolution.withFault cause.message
    if ← Call.shutdownRequested then
      let health ← Call.probeLiveness
      if health.isHealthy then release s t.id (heldBy s.podId) else retry
    else retry

/-- Records success and makes the results available. -/
def complete (s : Settings) (task : TaskId) (output : Output) :
    Fallible AgentError Resolution := do
  let now ← Call.now
  match ← transition s task (executedBy s.podId) (.finish .completed output now) with
  | .error lost => onLostUpdate s task lost
  | .ok _ =>
    let resolution : Resolution := ⟨.completed, .processed, none⟩
    match ← attempt (Call.finalize task) with
    | .ok () => return resolution
    | .error cause => return resolution.withFault cause.message

/-- Records what the worker replied. -/
def recordOutput (s : Settings) (t : TaskRecord) (run : RunId) (output : Output) :
    Fallible AgentError Resolution :=
  match output.status with
  | .success => complete s t.id output
  | .timeout => finishWithout s t.id (executedBy s.podId) .timeout output
  | .error => do
    if ← Call.stopRequested run then finishCancellation s t.id
    else
      let reason := output.error.getD "worker reported an error"
      retryAttempt s t (executedBy s.podId) reason .processed

/-- Sends requests one after the other. -/
def sendAll (run : RunId) (stream : StreamId) : List WorkRequest → Fallible WorkerError Unit
  | [] => return ()
  | request :: rest => do
    Call.send run stream request
    sendAll run stream rest

/-- Sends everything, closes this side and waits for the reply. -/
def exchange (run : RunId) (stream : StreamId) (requests : List WorkRequest) :
    Fallible WorkerError Output := do
  sendAll run stream requests
  Call.finishSending run stream
  Call.awaitReply run stream

/-- The end of the time that a call may take. A duration beyond 64 bits of milliseconds sets no
bound; an end beyond the calendar breaks the handler off. -/
def callDeadline (t : TaskRecord) (run : RunId) (now : Date) :
    Fallible AgentError (Option Date) :=
  match t.options.maxDurationMillis with
  | none => return none
  | some millis =>
    if Nat.pow 2 63 ≤ millis then return none
    else
      match now.add? (.ofMillis millis) with
      | some deadline => return some deadline
      | none => do
        let never ← Call.breakOff run
        nomatch never

/-- Marks the task as started and calls the worker on an open stream, which is closed in any case.
-/
def callWorker (s : Settings) (t : TaskRecord) (run : RunId) (stream : StreamId)
    (requests : List WorkRequest) : Fallible AgentError Resolution := do
  let now ← Call.now
  let started : TaskUpdate := { status := .processing, started := some now }
  match ← attempt (transition s t.id (claimedBy s.podId) started) with
  | .error cause =>
    Call.hangUp stream
    throw cause
  | .ok (.error lost) =>
    let outcome ← attempt (onLostUpdate s t.id lost)
    Call.hangUp stream
    resume outcome
  | .ok (.ok stored) =>
    let t := { stored with options := t.options }
    let reply ← attempt (exchange run stream requests)
    Call.hangUp stream
    match reply with
    | .ok output => recordOutput s t run output
    | .error cause => onWorkerFailure s t run cause

/-- Opens a stream to the worker and calls it. A worker that cannot be reached has not started
anything, and the task is handed back. -/
def reachWorker (s : Settings) (t : TaskRecord) (run : RunId) (requests : List WorkRequest) :
    Fallible AgentError Resolution := do
  let now ← Call.now
  let deadline ← callDeadline t run now
  match ← attempt (Call.connect run t.id deadline) with
  | .ok stream => callWorker s t run stream requests
  | .error (.unavailable reason) =>
    if ← Call.stopRequested run then
      onWorkerFailure s t run (.unavailable reason)
    else release s t.id (claimedBy s.podId)
  | .error cause => onWorkerFailure s t run cause

/-- Calls the worker under watch for a cancellation, unless the agent shuts down. -/
def runWorker (s : Settings) (t : TaskRecord) (run : RunId) (requests : List WorkRequest) :
    Fallible AgentError Resolution := do
  let shutdown ← Call.shutdownRequested
  let stopped ← Call.stopRequested run
  if shutdown && !stopped then release s t.id (claimedBy s.podId)
  else
    Call.beginWatch run
    let outcome ← attempt (reachWorker s t run requests)
    Call.endWatch run
    resume outcome

/-- Executes an acquired task. -/
def execute (s : Settings) (t : TaskRecord) (run : RunId) : Fallible AgentError Resolution := do
  if ← Call.shutdownRequested then release s t.id (claimedBy s.podId)
  else
    match ← attempt (prefetch s t) with
    | .ok requests => runWorker s t run requests
    | .error (.notFound data) =>
      let reason := "data " ++ data.toString ++ " not found"
      finishWithout s t.id (claimedBy s.podId) .error (.failure reason)
    | .error cause =>
      let resolution ← retryAttempt s t (claimedBy s.podId) cause.message .cancelled
      return resolution.withFault cause.message

/-- Decides on the message. -/
def dispose (message : DeliveryId) (disposition : Disposition) : Fallible AgentError Unit :=
  orFail .queue (Call.dispose message disposition)

/-- Executes an acquired task under a registration, so that a task executes once on an agent at a
time; a duplicate is postponed. -/
def executeRegistered (s : Settings) (message : DeliveryId) (report : HandlerReport)
    (t : TaskRecord) : Fallible AgentError HandlerReport := do
  match ← Call.register report.task with
  | none =>
    dispose message .postponed
    return { report with outcome := .taskIsProcessingHere, disposition := .postponed }
  | some run =>
    let outcome ← attempt (execute s t run)
    Call.unregister run
    Call.clearScratch report.task
    let resolution ← resume outcome
    dispose message resolution.disposition
    return { report with
      status := some resolution.status
      disposition := resolution.disposition
      fault := resolution.fault }

/-- Handles a message up to its settlement. -/
def process (s : Settings) (message : DeliveryId) (task : TaskId) :
    Fallible AgentError HandlerReport := do
  let acquired ← acquire s task
  let report : HandlerReport :=
    { task, outcome := acquired.outcome, status := acquired.status
      disposition := acquired.disposition }
  match acquired.outcome, acquired.task with
  | .acquired, some t => executeRegistered s message report t
  | _, _ =>
    dispose message acquired.disposition
    return report

/-- Handles a message and settles it. A failure of the handling outweighs one of the settlement. -/
def handleMessage (s : Settings) (message : DeliveryId) (task : TaskId) :
    Fallible AgentError HandlerReport := do
  let outcome ← attempt (process s message task)
  let settled ← attempt (Call.settle message)
  let report ← resume outcome
  match settled with
  | .ok () => return report
  | .error cause => throw (.queue cause)

end GridAgent.Agent
