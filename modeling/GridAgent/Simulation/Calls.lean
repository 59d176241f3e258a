import GridAgent.Finalizer
import GridAgent.Simulation.PlainStep

/-!
# Calls of the agent

Each request of an agent's program becomes a script on the world. Hooks come before and after the
calls they disturb: a failure before a call means that the call does not happen, and one after it
hides a call that did.
-/

namespace GridAgent.Simulation

open Agent

/-- Counts a call of a point; answers its number and the hooks that disturb it. -/
def countCall (point : Point) : Play (List Hook) := Script.modifyGet fun w =>
  let call := (w.calls.get? point).getD 0 + 1
  (w.hooks.filter fun h => h.point = point && h.disturbs call,
    { w with calls := w.calls.set point call })

/-- Makes steps one after the other; answers what they show. -/
def plainSteps : List PlainStep → Play (List Answer)
  | [] => return []
  | step :: rest => do
    let answer ← plainStep step
    let answers ← plainSteps rest
    return answer :: answers

/-- The failure that a hook gives a point. -/
def Hook.failureAt (h : Hook) (point : Point) : Option point.Failure :=
  if e : h.point = point then e ▸ h.failure else none

/-- Makes the steps of hooks; answers the first failure. -/
def playHooks (point : Point) (hooks : List Hook) : Play (Option point.Failure) := do
  let _ ← plainSteps (hooks.flatMap Hook.steps)
  return hooks.findSome? fun h => h.failureAt point

/-- Makes a call under the hooks of a point. -/
def hooked {α : Type} (point : Point) (call : Play (Except point.Failure α)) :
    Play (Except point.Failure α) := do
  let hooks ← countCall point
  let (after, before) := hooks.partition Hook.after
  match ← playHooks point before with
  | some failure => return .error failure
  | none =>
    let answer ← call
    match ← playHooks point after with
    | some failure => return .error failure
    | none => return answer

/-- Pushes tasks to the queue. -/
def playPush (tasks : List TaskId) : Play (Except QueueError Unit) :=
  hooked .push (Script.modifyGet fun w => (.ok (), { w with queue := w.queue.push tasks }))

/-- Plays a call of the finalizer. Its calls to the store are its own: hooks do not see them. -/
def playFinalizerCall : (request : Finalizer.Request) → Play request.Reply
  | .now => Script.gets World.clock
  | .countTasks => Script.gets fun w => w.store.taskIds.length
  | .readTask task => onStore (Store.read task)
  | .resolve data now => onStore fun s => s.resolveData data now
  | .giveUp data now => onStore fun s => s.abortData data now
  | .push tasks => playPush tasks

/-- Plays a program of the finalizer. -/
def playFinalizer {α : Type} (p : Finalizer.Action α) : Play (Except AgentError α) :=
  playProgram (I := Finalizer.collaborators) playFinalizerCall p.run

/-- Makes the results of a task available. -/
def playFinalize (task : TaskId) : Play (Except AgentError Unit) :=
  hooked .finalize (playFinalizer (Finalizer.finalize task))

/-- Gives up the results of a task. -/
def playAbandon (task : TaskId) : Play (Except AgentError Unit) :=
  hooked .abandon (playFinalizer (Finalizer.abandon task))

/-- Where a program of the agent runs. -/
structure Seat where
  /-- Where its executions are registered. -/
  side : Side
  /-- The token that tells it to shut down. -/
  shutdown : Token

/-- The tokens of an execution. -/
def tokensOf (w : World) (seat : Seat) (run : RunId) : ExecutionTokens :=
  (w.executionTokens.get? (seat.side, run)).getD ⟨seat.shutdown, seat.shutdown, seat.shutdown⟩

/-- Makes a task identifier up. -/
def makeTaskId : Play TaskId := Script.modifyGet fun w =>
  (.ofNat (w.lastTaskId + 1), { w with lastTaskId := w.lastTaskId + 1 })

/-- Changes the executions of a side by a call that answers something. -/
def onRegistry {α : Type} (side : Side) (call : Registry → α × Registry) : Play α :=
  Script.modifyGet fun w =>
    let (a, registry) := call (w.registry side)
    (a, w.withRegistry registry side)

/-- Registers an execution and makes its tokens. -/
def playRegister (seat : Seat) (task : TaskId) : Play (Option RunId) := do
  match ← onRegistry seat.side fun r => r.register task with
  | none => return none
  | some run =>
    let cancel ← makeToken (some seat.shutdown)
    let abort ← makeToken none
    let done ← makeToken none
    Script.modify fun w =>
      { w with executionTokens := w.executionTokens.set (seat.side, run) ⟨cancel, abort, done⟩ }
    return some run

/-- A call to the worker is cut off when its execution is. -/
def unlessAborted {α : Type} (seat : Seat) (run : RunId) (call : Play (Except WorkerError α)) :
    Play (Except WorkerError α) := do
  let tokens ← Script.gets fun w => tokensOf w seat run
  match ← Script.interruptible (fired tokens.abort) call with
  | some answer => return answer
  | none => return .error .aborted

/-- Opens a stream for an execution. -/
def playConnect (seat : Seat) (run : RunId) (task : TaskId) (deadline : Option Date) :
    Play (Except WorkerError StreamId) :=
  hooked .connect do
    let tokens ← Script.gets fun w => tokensOf w seat run
    openStream task tokens.abort deadline

/-- The handler breaks off: the call to the worker is over, and nothing follows. -/
def playBreakOff (seat : Seat) (run : RunId) : Play Empty := do
  let tokens ← Script.gets fun w => tokensOf w seat run
  fire tokens.done
  Script.die

/-- The files that are listed and removed at a time. -/
def listing : Nat := 256

/-- Removes the directory of a task, so many files at a time. Whoever else works on files comes in
between. -/
def playClear (task : TaskId) : (listings : Nat) → Play Unit
  | 0 => onScratch fun s => ((), s.clear task)
  | listings + 1 => do
    fileWork
    if ← onScratch fun s => s.clearSome task listing then playClear task listings

/-- Plays a call of the agent. Watching is left to `playCall`. -/
def playSimpleCall (seat : Seat) : (request : Request) → Play request.Reply
  | .now => Script.gets World.clock
  | .pause wait => sleep wait.ceilMillis
  | .newTaskId => makeTaskId
  | .readTask task => hooked .readTask (onStore (Store.read task))
  | .updateTask task expected change =>
    hooked .updateTask (onStore (Store.update task expected change))
  | .createSuccessor parent candidate =>
    hooked .createSuccessor (onStore (Store.createSuccessor parent candidate))
  | .findSuccessor task => hooked .findSuccessor (onStore (Store.findSuccessor task))
  | .readSession session =>
    hooked .readSession (Script.gets fun w => .ok (w.sessions.get? session))
  | .isAlive _ _ owner => hooked .isAlive (Script.modifyGet fun w =>
    let (alive, pods) := w.pods.isAlive owner
    (.ok alive, { w with pods }))
  | .push tasks => playPush tasks
  | .fetch data => hooked .fetch (Script.gets fun w => w.objects.fetch data)
  | .finalize task => playFinalize task
  | .abandon task => playAbandon task
  | .makeScratch task => do
    fileWork
    onScratch fun s => s.make task
  | .saveScratch task data bytes => do
    fileWork
    onScratch fun s => s.save task data bytes
  | .clearScratch task => playClear task plenty
  | .shutdownRequested => Script.gets fun w => w.tokens.isFired seat.shutdown
  | .probeLiveness => Script.modifyGet fun w => w.probe .liveness
  | .register task => playRegister seat task
  | .unregister run => onRegistry seat.side fun r => ((), r.unregister run)
  | .stopRequested run => Script.gets fun w => (w.registry seat.side).stopRequested run
  | .requestStop run => onRegistry seat.side fun r => r.requestStop run
  | .cancel run => Script.modify fun w => w.fire (tokensOf w seat run).cancel
  | .beginWatch _ => return ()
  | .endWatch run => Script.modify fun w => w.fire (tokensOf w seat run).done
  | .connect run task deadline => playConnect seat run task deadline
  | .send run stream request => unlessAborted seat run (hooked .send (sendOn stream request))
  | .finishSending run _ => unlessAborted seat run (hooked .finishSending (return .ok ()))
  | .awaitReply run stream => unlessAborted seat run (hooked .awaitReply (replyOn stream))
  | .hangUp stream => onWorker fun worker => ((), worker.close stream)
  | .dispose message disposition =>
    hooked .dispose (onQueue fun q => q.dispose message disposition)
  | .settle message => hooked .settle (Script.modifyGet fun w =>
    (.ok (), { w with queue := w.queue.settle message w.time }))
  | .breakOff run => playBreakOff seat run

/-- Cuts the call to the worker off once the grace delay after a cancellation is over, unless the
call is over before. -/
def escalate (tokens : ExecutionTokens) (grace : Nat) : Play Unit := do
  let cancelled ← Script.await [(fired tokens.done, false), (fired tokens.cancel, true)]
  if cancelled then
    if !(← firesWithin tokens.done grace) then fire tokens.abort

/-- Looks at the store again and again until the call to the worker is over or the task is found
cancelled; at most so many times. -/
def watchStore (done : Token) (interval : Nat) (look : Play Bool) : (looks : Nat) → Play Unit
  | 0 => return ()
  | looks + 1 => do
    if !(← firesWithin done interval) then
      if ← look then watchStore done interval look looks

/-- Watches for a cancellation beside the call to the worker. -/
def beginWatch (seat : Seat) (run : RunId) : Play Unit := do
  let settings ← Script.gets World.settings
  let tokens ← Script.gets fun w => tokensOf w seat run
  Script.spawn (escalate tokens settings.graceMillis)
  match ← Script.gets fun w => (w.registry seat.side).taskOf? run with
  | none => return ()
  | some task =>
    let look : Play Bool := playProgram (I := collaborators) (playSimpleCall seat)
      (lookForCancellation settings task run)
    Script.spawn (watchStore tokens.done settings.cancellationPollMillis look plenty)

/-- Plays a call of the agent. -/
def playCall (seat : Seat) : (request : Request) → Play request.Reply
  | .beginWatch run => beginWatch seat run
  | request => playSimpleCall seat request

/-- Plays a program of the agent. -/
def playAction {α : Type} (seat : Seat) (p : Action α) : Play α :=
  playProgram (I := collaborators) (playCall seat) p

end GridAgent.Simulation
