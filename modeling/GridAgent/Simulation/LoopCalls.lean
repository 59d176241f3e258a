import GridAgent.Simulation.Calls

/-!
# Calls of the agent loop

The loop runs beside its handlers. Each handler feeds its result into the error budget before its
slot becomes free, so that the next pull sees it.
-/

namespace GridAgent.Simulation

open Agent

/-- Where the loop runs. -/
structure LoopSeat where
  /-- Where its handlers run. -/
  handlers : Seat
  /-- The token that stops the loop, below the one for shutting down. -/
  stop : Token

/-- Frees a slot of the loop and shows it how a handler ended. -/
def leaveSlot (w : World) (joined : Joined) : World :=
  { w with slots := w.slots + 1, joined := w.joined ++ [joined] }

/-- What a handler of the loop leaves behind. -/
def concludeHandler (stop : Token) (w : World) :
    Option (Except AgentError HandlerReport) → World
  | some outcome =>
    let (exhausted, health) := recordResult w.health outcome
    let w := { w with health }
    leaveSlot (if exhausted then w.fire stop else w) (.reported outcome)
  | none => leaveSlot w .died

/-- Handles a message in a slot of the loop. -/
def playHandler (seat : LoopSeat) (message : DeliveryId) : Play Unit := do
  let settings ← Script.gets World.settings
  match ← Script.gets fun w => taskOfMessage w message with
  | none => return ()
  | some task =>
    let outcome ← Script.mortal
      (playAction seat.handlers (handleMessage settings message task).run)
    Script.modify fun w => concludeHandler seat.stop w outcome

/-- Takes a handler that has ended. -/
def takeJoined : Play (Option Joined) := Script.modifyGet fun w =>
  match w.joined with
  | [] => (none, w)
  | joined :: rest => (some joined, { w with joined := rest })

/-- Waits for a handler to end. -/
def awaitJoined : (looks : Nat) → Play Joined
  | 0 => return .died
  | looks + 1 => do
    Script.await [(.holds fun w => !w.joined.isEmpty, ())]
    match ← takeJoined with
    | some joined => return joined
    | none => awaitJoined looks

/-- Waits for a slot and takes it, unless the loop is stopped. -/
def takeSlot (stop : Token) : (looks : Nat) → Play Bool
  | 0 => return false
  | looks + 1 => do
    let free ← Script.await [(fired stop, false), (.holds fun w => 0 < w.slots, true)]
    if free then
      let taken ← Script.modifyGet fun w =>
        if 0 < w.slots then (true, { w with slots := w.slots - 1 }) else (false, w)
      if taken then return true else takeSlot stop looks
    else return false

/-- A collaborator that has nothing to prepare, under the hooks of its point. -/
def prepareAt (point : Point) (cause : point.Failure → AgentError) :
    Play (Except AgentError Unit) := do
  match ← hooked point (return .ok () : Play (Except point.Failure Unit)) with
  | .ok () => return .ok ()
  | .error failure => return .error (cause failure)

/-- Prepares a collaborator. -/
def prepare : Collaborator → Play (Except AgentError Unit)
  | .tasks => prepareAt .initTasks .store
  | .sessions => prepareAt .initSessions .store
  | .queue => prepareAt .initQueue .queue
  | .storage => prepareAt .initStorage .storage
  | .worker => prepareAt .initWorker .worker

/-- Pulls messages, unless the loop is stopped meanwhile. -/
def playPull (stop : Token) (most : Nat) :
    Play (Option Pulled) :=
  Script.interruptible (fired stop) (hooked .pull (pullMessages most stop))

/-- Waits before the next pull, unless the loop is stopped. -/
def playIdle (stop : Token) : Play Unit := do
  let _ ← firesWithin stop (← Script.gets fun w => w.settings.pullIdleMillis)

/-- Hands a message back; a failure is let go. -/
def playHandBack (message : DeliveryId) : Play Unit := do
  let _ ← hooked .settle (Script.modifyGet fun w =>
    (.ok (), { w with queue := w.queue.settle message w.time }))

/-- Plays a call of the loop. -/
def playLoopCall (seat : LoopSeat) : (request : LoopRequest) → Play request.Reply
  | .isInitialized => Script.gets fun w => w.health.initialized
  | .prepare collaborator => prepare collaborator
  | .markInitialized => Script.modify fun w => { w with health := w.health.markInitialized }
  | .isStopped => Script.gets fun w => w.tokens.isFired seat.stop
  | .stop => fire seat.stop
  | .tryJoin => takeJoined
  | .join => awaitJoined plenty
  | .pull most => playPull seat.stop most
  | .idle => playIdle seat.stop
  | .takeSlot => takeSlot seat.stop plenty
  | .start message => Script.spawn (playHandler seat message)
  | .handBack message => playHandBack message
  | .recordError => Script.modifyGet World.recordError
  | .hasFailed => Script.gets fun w => w.health.failed

/-- Plays a program of the loop. -/
def playLoop {α : Type} (seat : LoopSeat) (p : LoopAction α) : Play α :=
  playProgram (I := loopSurroundings) (playLoopCall seat) p

end GridAgent.Simulation
