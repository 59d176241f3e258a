import GridAgent.Agent.Registry
import GridAgent.Health.Report
import GridAgent.Task.Draft
import GridAgent.Worker

/-!
# Steps of a scenario

A scenario is a list of steps on the collaborators of an agent and on the agent itself. Hooks
disturb the calls that the agent makes: at chosen calls of a point they make steps before or after
the call, or let it fail.
-/

namespace GridAgent.Simulation

/-- Calls of an agent that hooks can disturb. -/
inductive Point where
  | initTasks
  | readTask
  | updateTask
  | createSuccessor
  | findSuccessor
  | initSessions
  | readSession
  | isAlive
  | initQueue
  | pull
  | push
  | initStorage
  | fetch
  | initWorker
  | connect
  | send
  | finishSending
  | awaitReply
  | finalize
  | abandon
  | dispose
  | settle
  deriving DecidableEq, Repr

namespace Point

/-- Every point. -/
def all : List Point :=
  [initTasks, readTask, updateTask, createSuccessor, findSuccessor, initSessions, readSession,
    isAlive, initQueue, pull, push, initStorage, fetch, initWorker, connect, send, finishSending,
    awaitReply, finalize, abandon, dispose, settle]

/-- The written name. -/
def name : Point → String
  | initTasks => "tasks.init"
  | readTask => "tasks.read"
  | updateTask => "tasks.update"
  | createSuccessor => "tasks.create_successor"
  | findSuccessor => "tasks.find_successor"
  | initSessions => "sessions.init"
  | readSession => "sessions.read"
  | isAlive => "checker"
  | initQueue => "pull.init"
  | pull => "pull"
  | push => "push"
  | initStorage => "storage.init"
  | fetch => "storage.get"
  | initWorker => "worker.init"
  | connect => "worker.connect"
  | send => "worker.send"
  | finishSending => "worker.finish"
  | awaitReply => "worker.reply"
  | finalize => "finalizer.finalize"
  | abandon => "finalizer.abort"
  | dispose => "message.set_status"
  | settle => "message.settle"

/-- The point with a given name. -/
def ofName? (s : String) : Option Point := all.find? (·.name = s)

/-- What a call of the point can fail with. -/
def Failure : Point → Type
  | initTasks | readTask | updateTask | createSuccessor | findSuccessor => StoreError
  | initSessions | readSession => StoreError
  | isAlive => CheckError
  | initQueue | pull | push | dispose | settle => QueueError
  | initStorage | fetch => StorageError
  | initWorker | connect | send | finishSending | awaitReply => WorkerError
  | finalize | abandon => AgentError

end Point

/-- A step on the collaborators. -/
inductive PlainStep where
  | session (session : SessionRecord)
  | setSession (session : SessionId) (status : SessionStatus)
  | readSession (session : SessionId)
  | task (draft : TaskDraft)
  | get (task : TaskId)
  | read (task : TaskId)
  | all
  | update (task : TaskId) (expected : Expectation) (draft : UpdateDraft)
  | createSuccessor (parent : TaskDraft) (id : TaskId)
  | createAs (parent candidate : TaskDraft)
  | findSuccessor (task : TaskId)
  | transitions (task : TaskId)
  | lineage (task : TaskId)
  | resolveData (data : DataId)
  | abortData (data : DataId)
  | dataState (data : DataId)
  | failStore (calls : Nat)
  | storeHealth (report : Option HealthReport)
  | dead (pod : PodId)
  | alive (pod : PodId)
  | isAlive (pod : PodId)
  | questions
  | push (tasks : List TaskId)
  | failPulls (pulls : Nat)
  | queueHealth (report : Option HealthReport)
  | put (data : DataId) (bytes : List UInt8)
  | fetch (data : DataId)
  | storageUnavailable (unavailable : Bool)
  | script (behaviours : List Behaviour)
  | workerHealth (report : Option HealthReport)
  | mostActive
  | calls
  | advance (millis : Int)
  | setClock (date : Date)
  | sleep (millis : Nat)
  | shutdown
  | scratch
  | blockScratch
  | deliver (task : TaskId) (message : String)
  | pull (most : Nat) (cancelled : Bool) (messages : String)
  | setDisposition (message : String) (disposition : Disposition)
  | settle (message : String)
  | queue
  | connect (task : TaskId) (stream : String) (deadline : Option Date)
  | send (stream : String) (data : DataId) (path : String)
  | finishSending (stream : String)
  | awaitReply (stream : String) (abortAt : Option Nat)
  | abortStream (stream : String)
  | dropStream (stream : String)

/-- A disturbance of the calls of a point. -/
structure Hook where
  /-- The disturbed point. -/
  point : Point
  /-- Numbers of the disturbed calls, from one; every call when left out. -/
  calls : Option (List Nat)
  /-- The disturbance comes after the call. -/
  after : Bool
  /-- Steps to make. -/
  steps : List PlainStep
  /-- What the call answers instead. -/
  failure : Option point.Failure

/-- The hook disturbs a call of its point. -/
def Hook.disturbs (h : Hook) (call : Nat) : Bool :=
  match h.calls with
  | none => true
  | some calls => calls.contains call

/-- Where an execution is registered: by the loop, or by a single handler. -/
inductive Side where
  | loop
  | single
  deriving DecidableEq, Repr

/-- A step of a scenario. Beside the longer ones others can be made at given times after their
start. -/
inductive Step where
  | plain (step : PlainStep)
  | hooks (hooks : List Hook)
  | acquire (task : TaskId) (shutdown : Bool)
  | handle (task : TaskId) (shutdown : Bool) (events : Option (List (Nat × List Step)))
  | run (shutdown : Bool) (shutdownAt : Nat) (events : Option (List (Nat × List Step)))
  /-- Runs the loop until every task has ended, which is looked at every so many milliseconds. -/
  | runToEnd (lookEvery : Nat)
  | stop (task : TaskId) (side : Side)
  | running
  | init
  | check (probe : Probe)
  | health
  | resetHealth
  | finalize (task : TaskId)
  | abandon (task : TaskId)
  | prefetch (task : TaskId) (cleanup : Bool)

end GridAgent.Simulation
