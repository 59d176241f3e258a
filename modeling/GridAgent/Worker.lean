import GridAgent.Error
import GridAgent.Health.Report
import GridAgent.Table
import GridAgent.Task.Record

/-!
# The worker

An agent opens a stream to its worker for each task, sends the header of the task and one request
for each fetched object, closes its side and waits for one reply. This worker plays a script: each
connection takes the next behaviour, or the usual one past the end of the script. What a stream
replies follows from its behaviour and from how much time its deadline leaves.
-/

namespace GridAgent

/-- What is sent to the worker. -/
inductive WorkRequest where
  /-- The header of a task. -/
  | init (task : TaskId) (session : SessionId) (payload : DataId) (outputs : List DataId)
    (options : Options)
  /-- A fetched object, found at a path. -/
  | data (data : DataId) (path : String)

/-- How the worker behaves on one stream. -/
inductive Behaviour where
  /-- Replies success at once. -/
  | succeed
  /-- Works for some milliseconds and then replies success, unless the deadline comes first. -/
  | work (millis : Nat)
  /-- Replies that the task failed. -/
  | fail (message : String)
  /-- Replies that time ran out. -/
  | timeOut
  /-- Refuses the connection. -/
  | unreachable
  /-- Breaks the stream during execution. -/
  | crash (message : String)
  /-- Never replies. -/
  | hang
  deriving DecidableEq, Repr

/-- When and what a stream replies. -/
inductive WorkerReply where
  /-- At once. -/
  | now (answer : Except WorkerError Output)
  /-- After some time. -/
  | after (wait : Span) (output : Output)
  /-- Never. -/
  | never

/-- The output of a call that ran out of time. -/
def Output.maxDurationExceeded : Output := .timedOut "max duration exceeded"

/-- What a stream replies when its deadline leaves a budget of time, or no bound. Work that takes
longer than the budget runs out of time at its end. -/
def Behaviour.reply (b : Behaviour) (budget : Option Span) : WorkerReply :=
  match b with
  | .succeed => .now (.ok .success)
  | .work millis =>
    match budget with
    | some budget =>
      if budget.nanos < (Span.ofMillis millis).nanos then .after budget .maxDurationExceeded
      else .after (.ofMillis millis) .success
    | none => .after (.ofMillis millis) .success
  | .fail message => .now (.ok (.failure message))
  | .timeOut => .now (.ok .maxDurationExceeded)
  | .crash message => .now (.error (.fault message))
  | .hang => .never
  | .unreachable => .now (.error (.unavailable "connection lost"))

/-- An open stream. -/
structure Stream where
  /-- The task it is for. -/
  task : TaskId
  /-- How the worker behaves on it. -/
  behaviour : Behaviour
  /-- End of the time the call may take. -/
  deadline : Option Date
  /-- What was sent and not looked at yet. -/
  requests : List WorkRequest := []

/-- State of the worker. -/
structure Worker where
  /-- Behaviour past the end of the script. -/
  usual : Behaviour := .succeed
  /-- Behaviours of the next connections. -/
  script : List Behaviour := []
  /-- Open streams. -/
  streams : Table Nat Stream := .empty
  /-- Number of connections made so far. -/
  connections : Nat := 0
  /-- Number of streams open. -/
  active : Nat := 0
  /-- Highest number of streams ever open at the same time. -/
  mostActive : Nat := 0
  /-- What each call brought that came to waiting for a reply, oldest first. -/
  calls : List (TaskId × List WorkRequest) := []
  /-- Answer to probes; healthy when unset. -/
  health : Option HealthReport := none

namespace Worker

instance : Inhabited Worker := ⟨{}⟩

/-- Answer to a probe. -/
def report (w : Worker) : HealthReport := w.health.getD .healthy

/-- Opens a stream with the next behaviour. -/
def connect (w : Worker) (task : TaskId) (deadline : Option Date) :
    Except WorkerError Nat × Worker :=
  let behaviour := w.script.headD w.usual
  let w := { w with script := w.script.tail }
  if behaviour = .unreachable then (.error (.unavailable "connection refused"), w)
  else
    let stream := w.connections
    (.ok stream,
      { w with
        streams := w.streams.set stream { task, behaviour, deadline }
        connections := stream + 1
        active := w.active + 1
        mostActive := max w.mostActive (w.active + 1) })

/-- Sends a request. -/
def send (w : Worker) (stream : Nat) (request : WorkRequest) : Worker :=
  { w with
    streams := w.streams.modify stream fun s => { s with requests := s.requests ++ [request] } }

/-- Notes what a stream brought once its reply is waited for. -/
def noteCall (w : Worker) (stream : Nat) : Worker :=
  match w.streams.get? stream with
  | none => w
  | some s =>
    { w with
      calls := w.calls ++ [(s.task, s.requests)]
      streams := w.streams.set stream { s with requests := [] } }

/-- What a stream replies at a moment of the worker's own clock. -/
def replyAt (w : Worker) (stream : Nat) (now : Date) : WorkerReply :=
  match w.streams.get? stream with
  | none => .never
  | some s => s.behaviour.reply (s.deadline.map fun d => d.elapsedSince now)

/-- Closes a stream. -/
def close (w : Worker) (stream : Nat) : Worker :=
  if w.streams.contains stream then
    { w with streams := w.streams.erase stream, active := w.active - 1 }
  else w

end Worker

end GridAgent
