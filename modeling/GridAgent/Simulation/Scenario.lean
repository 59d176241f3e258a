import GridAgent.Simulation.LoopCalls

/-!
# Scenarios

A scenario makes its steps one after the other on a fresh world, and shows the answer of each step
and the state after it. A handler or a run of the loop may have events beside it, at given times
after its start; the step is over when its main part and all its events are.
-/

namespace GridAgent.Simulation

open Agent

/-- What a scenario starts from. -/
structure Setup where
  /-- Settings of the agent. -/
  settings : Settings
  /-- First reading of the record clock. -/
  clock : Date
  /-- A reading of the worker's own clock. -/
  workerClock : Date
  /-- How the worker behaves past its script. -/
  behaviour : Behaviour
  /-- How long an empty pull waits, in milliseconds. -/
  pollTimeout : Nat
  /-- Milliseconds until a released message becomes visible again. -/
  redeliveryDelay : Nat
  /-- Number of the identifier before the first one that is made up for a task. -/
  lastTaskId : Nat := 1000000

/-- The world before the first step. -/
def Setup.world (s : Setup) : World :=
  let (shutdown, tokens) := ({} : Tokens).make none
  { settings := s.settings
    clock := s.clock
    workerClock := s.workerClock
    queue := { redeliveryDelay := s.redeliveryDelay }
    worker := { usual := s.behaviour }
    health := { budget := s.settings.maxErrors }
    pollTimeout := s.pollTimeout
    lastTaskId := s.lastTaskId
    slots := s.settings.slots
    tokens
    shutdown }

/-- Where a single handler runs. -/
def singleSeat : Play Seat := Script.gets fun w => ⟨.single, w.shutdown⟩

/-- Makes a fresh token for shutting down. A step inside an event keeps the one there is. -/
def beginStep (inEvent shutdown : Bool) : Play Unit := Script.modify fun w =>
  if inEvent then (if shutdown then w.fire w.shutdown else w) else w.renewShutdown shutdown

/-- Makes a step at some time after the start of another one; its answers are kept under a number.
-/
def playEvent (number moment : Nat) (steps : Play (List Answer)) : Play Unit := do
  sleep moment
  let answers ← steps
  Script.modify fun w => { w with events := w.events.set number answers }

/-- Starts an event; answers its number. -/
def startEvent (moment : Nat) (steps : Play (List Answer)) : Play Nat := do
  let number ← Script.modifyGet fun w => (w.eventCount, { w with eventCount := w.eventCount + 1 })
  Script.spawn (playEvent number moment steps)
  return number

/-- Starts several events; answers their numbers. -/
def startEvents : List (Nat × Play (List Answer)) → Play (List Nat)
  | [] => return []
  | (moment, steps) :: rest => do
    let number ← startEvent moment steps
    let numbers ← startEvents rest
    return number :: numbers

/-- Waits for events; answers what they showed. -/
def awaitEvents (numbers : List Nat) : Play (List (List Answer)) := do
  Script.await [(.holds fun w => numbers.all w.events.contains, ())]
  Script.gets fun w => numbers.map fun number => (w.events.get? number).getD []

/-- Plays the main part of a step beside its events; answers what it brought and how long it took.
-/
def besideEvents {α : Type} (events : Option (List (Nat × Play (List Answer)))) (main : Play α) :
    Play (α × Nat × Option (List (List Answer))) := do
  let numbers ← startEvents (events.getD [])
  let start ← timer
  let result ← main
  let stop ← timer
  let answers ← awaitEvents numbers
  return (result, stop - start, events.map fun _ => answers)

/-- How a program that may die ended. -/
def Ending.of {α : Type} : Option (Except AgentError α) → Ending α
  | some (.ok report) => .reported report
  | some (.error cause) => .failed cause
  | none => .died

/-- Acquires a task. -/
def acquireStep (task : TaskId) : Play Answer := do
  let settings ← Script.gets World.settings
  match ← playAction (← singleSeat) (acquire settings task).run with
  | .ok acquired => return .acquired acquired
  | .error cause => return .failed cause

/-- Delivers a task and handles the message. -/
def handleMain (task : TaskId) : Play (Ending HandlerReport) := do
  let settings ← Script.gets World.settings
  let message ← onQueue fun q => q.deliver task
  let seat ← singleSeat
  Ending.of <$> Script.mortal (playAction seat (handleMessage settings message task).run)

/-- Shuts the agent down after some time, unless the token tells that the run is over. -/
def shutDownLater (shutdown finished : Token) (millis : Nat) : Play Unit := do
  if !(← firesWithin finished millis) then fire shutdown

/-- Looks every so many milliseconds whether each task has ended, and shuts the agent down then;
looks at most so often, and not once the token tells that the run is over. -/
def shutDownWhenDone (shutdown finished : Token) (millis : Nat) : (looks : Nat) → Play Unit
  | 0 => return ()
  | looks + 1 => do
    let done ← Script.gets fun w => w.store.tasks.values.all fun t => t.status.isTerminal
    if done then fire shutdown
    else if !(← firesWithin finished millis) then shutDownWhenDone shutdown finished millis looks

/-- Runs the loop beside a script that gets the token that shuts the agent down and the one that
tells that the run is over. -/
def runMain (beside : (shutdown finished : Token) → Play Unit) : Play (Ending Exit) := do
  let settings ← Script.gets World.settings
  let shutdown ← Script.gets World.shutdown
  let stop ← makeToken (some shutdown)
  let finished ← makeToken none
  Script.spawn (beside shutdown finished)
  let outcome ← playLoop ⟨⟨.loop, shutdown⟩, stop⟩ (Loop.run settings plenty).run
  fire finished
  match outcome with
  | .ok (some exit) => return .reported exit
  | .ok none => return .died
  | .error cause => return .failed cause

/-- Stops an execution on the side of the loop. -/
def stopOnLoop (task : TaskId) : Play Answer := do
  let settings ← Script.gets World.settings
  match ← Script.gets fun w => w.looped.running.get? task with
  | none => return .flag false
  | some run =>
    let seat : Seat := ⟨.loop, ← Script.gets World.shutdown⟩
    match ← playAction seat (stopExecution settings task run).run with
    | .ok first => return .flag first
    | .error cause => return .failed cause

/-- Stops an execution of a single handler. -/
def stopSingle (task : TaskId) : Play Answer := do
  let settings ← Script.gets World.settings
  match ← Script.gets fun w => w.singles.running.get? task with
  | none => return .nothing
  | some run =>
    let before ← Script.gets fun w => w.singles.stopRequested run
    let result ← playAction (← singleSeat) (stopExecution settings task run).run
    let after ← Script.gets fun w => w.singles.stopRequested run
    return .stopped ⟨before, after, result⟩

/-- Shows that a call of the finalizer succeeded, or why it did not. -/
def answerUnit : Except AgentError Unit → Answer
  | .ok () => .ok
  | .error cause => .failed cause

/-- Initializes the collaborators. -/
def initStep : Play Answer := do
  let seat ← singleSeat
  answerUnit <$> playLoop ⟨seat, seat.shutdown⟩ Loop.startUp.run

/-- The files that requests tell the worker of. -/
def filesOf (w : World) (task : TaskId) (requests : List WorkRequest) : List (List UInt8) :=
  let files := (w.scratch.dirs.get? task).getD .empty
  requests.filterMap fun
    | .data data _ => files.get? data
    | .init .. => none

/-- Prefetches the data of a task and clears up twice if asked to. -/
def prefetchStep (task : TaskId) (cleanup : Bool) : Play Answer := do
  let settings ← Script.gets World.settings
  match ← Script.gets fun w => w.store.get? task with
  | none => return .nothing
  | some t =>
    let seat ← singleSeat
    match ← playAction seat (prefetch settings t).run with
    | .error cause => return .failed (.storage cause)
    | .ok requests =>
      let files ← Script.gets fun w => filesOf w task requests
      if cleanup then
        playAction seat (Call.clearScratch task)
        playAction seat (Call.clearScratch task)
      let left ← Script.gets fun w => w.scratch.dirs.contains task
      return .prefetched ⟨Scratch.dirPath settings.scratchRoot task, requests, files, left⟩

mutual

/-- Makes a step. -/
def playStep (inEvent : Bool) : Step → Play Answer
  | .plain step => plainStep step
  | .hooks hooks => change fun w => { w with hooks, calls := .empty }
  | .acquire task shutdown => do
    beginStep inEvent shutdown
    acquireStep task
  | .handle task shutdown events => do
    beginStep inEvent shutdown
    let (ending, elapsed, answers) ← besideEvents (playEvents? events) (handleMain task)
    return .handled ending elapsed answers
  | .run shutdown shutdownAt events => do
    beginStep inEvent shutdown
    let (ending, elapsed, answers) ← besideEvents (playEvents? events)
      (runMain fun shutdown finished => shutDownLater shutdown finished shutdownAt)
    return .ran ending elapsed answers
  | .runToEnd lookEvery => do
    beginStep inEvent false
    let (ending, elapsed, answers) ← besideEvents none
      (runMain fun shutdown finished => shutDownWhenDone shutdown finished lookEvery plenty)
    return .ran ending elapsed answers
  | .stop task .loop => stopOnLoop task
  | .stop task .single => stopSingle task
  | .running => observe fun w => .running w.looped.taskIds w.singles.taskIds
  | .init => initStep
  | .check probe => Script.modifyGet fun w =>
    let (report, w) := w.probe probe
    (.report report, w)
  | .health => observe fun w => .monitor w.health
  | .resetHealth => change fun w => { w with health := w.health.reset }
  | .finalize task => answerUnit <$> playFinalize task
  | .abandon task => answerUnit <$> playAbandon task
  | .prefetch task cleanup => prefetchStep task cleanup

/-- Makes steps inside an event; answers what they show. -/
def playSteps : List Step → Play (List Answer)
  | [] => return []
  | step :: rest => do
    let answer ← playStep true step
    let answers ← playSteps rest
    return answer :: answers

/-- The events beside a step, if it has any. -/
def playEvents? : Option (List (Nat × List Step)) → Option (List (Nat × Play (List Answer)))
  | none => none
  | some events => some (playEvents events)

/-- The events beside a step. -/
def playEvents : List (Nat × List Step) → List (Nat × Play (List Answer))
  | [] => []
  | (moment, steps) :: rest => (moment, playSteps steps) :: playEvents rest

end

/-- Makes the steps of a scenario and keeps what they show. -/
def playScenario : List Step → Play Unit
  | [] => Script.modify fun w => { w with isOver := true }
  | step :: rest => do
    let answer ← playStep false step
    Script.modify fun w => { w with trace := (answer, w.snapshot) :: w.trace }
    playScenario rest

/-- The world after the last step of a scenario. -/
def finalWorld (setup : Setup) (steps : List Step) : World :=
  runThreads World.isOver setup.world (playScenario steps {} fun _ => .ended)

/-- What the steps of a scenario show, and the state after each. -/
def runScenario (setup : Setup) (steps : List Step) : List (Answer × Snapshot) :=
  (finalWorld setup steps).trace.reverse

end GridAgent.Simulation
