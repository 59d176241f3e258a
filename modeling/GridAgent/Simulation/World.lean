import GridAgent.Objects
import GridAgent.Pods
import GridAgent.Queue.Pull
import GridAgent.Scratch
import GridAgent.Simulation.Answer
import GridAgent.Simulation.Scheduler
import GridAgent.Simulation.Token
import GridAgent.Store

/-!
# The world of a scenario

One agent with its collaborators, the hooks on its calls and what is going on at the moment. Two
clocks run apart: the record clock stands still unless a step moves it, and the timer counts
milliseconds that pass while everyone waits.
-/

namespace GridAgent.Simulation

open Agent

/-- The tokens of an execution. -/
structure ExecutionTokens where
  /-- Fired when the execution is cancelled or the agent shuts down. -/
  cancel : Token
  /-- Cuts the call to the worker off. -/
  abort : Token
  /-- The call to the worker is over. -/
  done : Token

/-- State of a scenario. -/
structure World where
  /-- Settings of the agent. -/
  settings : Settings
  /-- The record clock. -/
  clock : Date
  /-- A reading of the worker's own clock. -/
  workerClock : Date
  /-- The timer. -/
  time : Nat := 0
  store : Store := {}
  sessions : Table SessionId SessionRecord := .empty
  queue : Queue := {}
  objects : Objects := {}
  pods : Pods := {}
  worker : Worker := {}
  scratch : Scratch := {}
  health : HealthMonitor
  /-- How long an empty pull waits, in milliseconds. -/
  pollTimeout : Nat
  /-- The last task identifier that was made up. -/
  lastTaskId : Nat := 1000000
  hooks : List Hook := []
  /-- Numbers of calls since the hooks were set. -/
  calls : Table Point Nat := .empty
  tokens : Tokens := {}
  /-- The token that tells the agent to shut down. -/
  shutdown : Token := 0
  /-- Executions of the loop. -/
  looped : Registry := {}
  /-- Executions of single handlers. -/
  singles : Registry := {}
  executionTokens : Table (Side × RunId) ExecutionTokens := .empty
  streamTokens : Table StreamId Token := .empty
  /-- Free slots of the loop. -/
  slots : Nat
  /-- Handlers of the loop that ended and were not looked at. -/
  joined : List Joined := []
  /-- Messages by the names that steps give them. -/
  messages : Table String DeliveryId := .empty
  /-- Streams by the names that steps give them. -/
  streams : Table String StreamId := .empty
  /-- Answers of the events that are over. -/
  events : Table Nat (List Answer) := .empty
  /-- Number of events so far. -/
  eventCount : Nat := 0
  /-- What the steps showed, last one first. -/
  trace : List (Answer × Snapshot) := []
  /-- Every step was made. -/
  isOver : Bool := false

instance : Timed World where
  time w := w.time
  nextDue? w := w.queue.nextDue?
  advanceTo w time := { w with time, queue := w.queue.arrive time }

/-- A script on the world. -/
abbrev Play (α : Type) : Type := Script World α

namespace World

/-- The executions of one side. -/
def registry (w : World) : Side → Registry
  | .loop => w.looped
  | .single => w.singles

/-- Changes the executions of one side. -/
def withRegistry (w : World) (r : Registry) : Side → World
  | .loop => { w with looped := r }
  | .single => { w with singles := r }

/-- What is shown of the world. -/
def snapshot (w : World) : Snapshot where
  tasks := w.store.taskIds.filterMap fun id =>
    (w.store.get? id).map fun t => (id, t.status, t.owner)
  pending := w.queue.ready
  inFlight := w.queue.inFlight

/-- What the collaborators of the agent report. -/
def dependencies (w : World) : HealthReport :=
  .combineAll [w.store.report, .healthy, w.queue.report, w.objects.report, w.worker.report]

/-- Answers a probe. -/
def probe (w : World) (probe : Probe) : HealthReport × World :=
  let (report, health) := w.health.check probe w.dependencies
  (report, { w with health })

/-- Counts a failure; answers whether it used up the error budget. -/
def recordError (w : World) : Bool × World :=
  let (exhausted, health) := w.health.recordError
  (exhausted, { w with health })

/-- Makes a token, below another one if there is one. -/
def makeToken (w : World) (parent : Option Token) : Token × World :=
  let (token, tokens) := w.tokens.make parent
  (token, { w with tokens })

/-- Fires a token. -/
def fire (w : World) (token : Token) : World := { w with tokens := w.tokens.fire token }

/-- Makes a fresh token for shutting down, which is fired if asked for. -/
def renewShutdown (w : World) (fired : Bool) : World :=
  let (token, w) := w.makeToken none
  let w := { w with shutdown := token }
  if fired then w.fire token else w

end World

/-! ## Small scripts -/

/-- The token is fired. -/
def fired (token : Token) : Signal World := .holds fun w => w.tokens.isFired token

/-- Changes one part of the world by a call that answers something. -/
def onStore {α : Type} (call : Store → α × Store) : Play α := Script.modifyGet fun w =>
  let (a, store) := call w.store
  (a, { w with store })

/-- Changes the queue by a call that answers something. -/
def onQueue {α : Type} (call : Queue → α × Queue) : Play α := Script.modifyGet fun w =>
  let (a, queue) := call w.queue
  (a, { w with queue })

/-- Changes the worker by a call that answers something. -/
def onWorker {α : Type} (call : Worker → α × Worker) : Play α := Script.modifyGet fun w =>
  let (a, worker) := call w.worker
  (a, { w with worker })

/-- Changes the scratch area by a call that answers something. -/
def onScratch {α : Type} (call : Scratch → α × Scratch) : Play α := Script.modifyGet fun w =>
  let (a, scratch) := call w.scratch
  (a, { w with scratch })

/-- Changes the tokens of the world by making one. -/
def makeToken (parent : Option Token) : Play Token := Script.modifyGet fun w => w.makeToken parent

/-- Fires a token. -/
def fire (token : Token) : Play Unit := Script.modify fun w => w.fire token

/-- The timer. -/
def timer : Play Nat := Script.gets World.time

/-- Waits some milliseconds. -/
def sleep (millis : Nat) : Play Unit := do
  let start ← timer
  Script.await [(.moment (start + millis), ())]

/-- Waits until work on files is done, which takes no time but lets everyone else go first. -/
def fileWork : Play Unit := Script.await [(.quiet, ())]

/-- Waits for a token, but no longer than some milliseconds; answers whether it was fired. -/
def firesWithin (token : Token) (millis : Nat) : Play Bool := do
  let start ← timer
  Script.await [(fired token, true), (.moment (start + millis), false)]

/-- Plays a program by playing each of its requests. -/
def playProgram {I : Interface} {α : Type}
    (serve : (request : I.Request) → Play (I.Reply request)) : Program I α → Play α
  | .done value => return value
  | .call request next => do
    let reply ← serve request
    playProgram serve (next reply)

/-- Plays a request of a pull, whose wait is over when the time is up or the token is fired. -/
def playPullRequest (cancel : Token) : (request : PullRequest) → Play request.Reply
  | .look most => onQueue fun q => q.take most
  | .wait => do
    let start ← timer
    let timeout ← Script.gets World.pollTimeout
    Script.await [
      (.holds fun w => !w.queue.ready.isEmpty, true),
      (.moment (start + timeout), false),
      (fired cancel, false)]

/-- Looks for messages until there is an answer. `looks` bounds how often messages may be gone when
they are looked for. -/
def pullWithin (most : Nat) (cancel : Token) : (looks : Nat) → Play Pulled
  | 0 => return .ok []
  | looks + 1 => do
    match ← playProgram (I := pullSurroundings) (playPullRequest cancel) (lookOnce most) with
    | some answer => return answer
    | none => pullWithin most cancel looks

/-- Pulls messages. -/
def pullMessages (most : Nat) (cancel : Token) : Play Pulled :=
  pullWithin most cancel plenty

/-- Opens a stream to the worker whose calls a token cuts off. -/
def openStream (task : TaskId) (abort : Token) (deadline : Option Date) :
    Play (Except WorkerError StreamId) := do
  let opened ← onWorker fun worker => worker.connect task deadline
  match opened with
  | .error _ => return opened
  | .ok stream =>
    Script.modify fun w => { w with streamTokens := w.streamTokens.set stream abort }
    return opened

/-- The calls of the stream are cut off. -/
def isCutOff (w : World) (stream : StreamId) : Bool :=
  match w.streamTokens.get? stream with
  | some token => w.tokens.isFired token
  | none => false

/-- Sends a request, unless the calls of the stream are cut off. -/
def sendOn (stream : StreamId) (request : WorkRequest) : Play (Except WorkerError Unit) :=
  Script.modifyGet fun w =>
    if isCutOff w stream then (.error .aborted, w)
    else (.ok (), { w with worker := w.worker.send stream request })

/-- Waits for the reply of a stream, unless its calls are cut off. -/
def replyOn (stream : StreamId) : Play (Except WorkerError Output) := do
  onWorker fun worker => ((), worker.noteCall stream)
  let cutOff : Signal World × Except WorkerError Output :=
    (.holds fun w => isCutOff w stream, .error .aborted)
  match ← Script.gets fun w => w.worker.replyAt stream w.workerClock with
  | .now answer => return answer
  | .after wait output =>
    let start ← timer
    Script.await [(.moment (start + wait.ceilMillis), .ok output), cutOff]
  | .never => Script.await [cutOff]

end GridAgent.Simulation
