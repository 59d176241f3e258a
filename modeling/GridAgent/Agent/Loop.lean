import GridAgent.Agent.Handler
import GridAgent.Health.Monitor
import GridAgent.Queue.Pull

/-!
# The agent loop

The agent pulls messages as long as it is not stopped, and starts a handler for each message once a
slot is free. Messages that are pulled and find the agent stopped are handed back untouched. The
loop ends when it is stopped from outside or the error budget is used up, and waits for its handlers
then. `handled` counts the messages given to handlers, and `acquired` those whose task was acquired.
-/

namespace GridAgent.Agent

/-- What has to be initialized before the loop starts. -/
inductive Collaborator where
  | tasks
  | sessions
  | queue
  | storage
  | worker
  deriving DecidableEq, Repr

/-- The collaborators in order of initialization. -/
def Collaborator.all : List Collaborator := [tasks, sessions, queue, storage, worker]

/-- How a handler ended. -/
inductive Joined where
  /-- With a report or a failure. -/
  | reported (outcome : Except AgentError HandlerReport)
  /-- It broke off. -/
  | died

/-- The task was acquired. -/
def Joined.isAcquired : Joined → Bool
  | .reported (.ok report) => report.outcome.isAcquired
  | _ => false

/-- Feeds the result of a handler into the error budget; answers whether it used it up. -/
def recordResult (m : HealthMonitor) : Except AgentError HandlerReport → Bool × HealthMonitor
  | .ok report =>
    match report.fault with
    | none => (false, m.recordSuccess)
    | some _ => m.recordError
  | .error _ => m.recordError

/-- What the loop asks for. -/
inductive LoopRequest where
  /-- Has the agent started? -/
  | isInitialized
  /-- Initializes a collaborator. -/
  | prepare (collaborator : Collaborator)
  /-- The agent has started. -/
  | markInitialized
  /-- Is the loop stopped? -/
  | isStopped
  /-- Stops the loop. -/
  | stop
  /-- Takes a handler that has ended, if there is one. -/
  | tryJoin
  /-- Waits for a handler to end. -/
  | join
  /-- Pulls messages; no answer when the loop is stopped meanwhile. -/
  | pull (most : Nat)
  /-- Waits before the next pull. -/
  | idle
  /-- Waits for a free slot and takes it; not when the loop is stopped. -/
  | takeSlot
  /-- Starts a handler in the slot just taken. -/
  | start (message : DeliveryId)
  /-- Hands a message back. -/
  | handBack (message : DeliveryId)
  /-- Counts a failure; answers whether it used up the error budget. -/
  | recordError
  /-- Has the agent failed? -/
  | hasFailed

/-- What each request answers. -/
def LoopRequest.Reply : LoopRequest → Type
  | isInitialized => Bool
  | prepare _ => Except AgentError Unit
  | markInitialized => Unit
  | isStopped => Bool
  | stop => Unit
  | tryJoin => Option Joined
  | join => Joined
  | pull _ => Option Pulled
  | idle => Unit
  | takeSlot => Bool
  | start _ => Unit
  | handBack _ => Unit
  | recordError => Bool
  | hasFailed => Bool

/-- The surroundings of the loop. -/
def loopSurroundings : Interface := ⟨LoopRequest, LoopRequest.Reply⟩

/-- A program of the loop. -/
abbrev LoopAction (α : Type) : Type := Program loopSurroundings α

/-- Makes a request. -/
def askLoop (request : LoopRequest) : LoopAction request.Reply := .call request .done

/-- Summary of a run of the loop. -/
structure Exit where
  /-- Messages that went through a handler. -/
  handled : Nat := 0
  /-- Of those, the ones whose task was acquired. -/
  acquired : Nat := 0
  /-- The error budget is used up. -/
  budgetExhausted : Bool := false
  deriving DecidableEq, Repr

/-- Where a run of the loop is. -/
structure Progress where
  /-- The summary so far. -/
  exit : Exit := {}
  /-- Handlers that were started and not joined yet. -/
  outstanding : Nat := 0

/-- The progress after a handler has ended. -/
def Progress.count (p : Progress) (joined : Joined) (failed : Bool) : Progress where
  exit := {
    handled := p.exit.handled + 1
    acquired := p.exit.acquired + if joined.isAcquired then 1 else 0
    budgetExhausted := p.exit.budgetExhausted || failed }
  outstanding := p.outstanding - 1

/-- How a round of the loop ends. -/
inductive Turn where
  /-- With another round. -/
  | again (progress : Progress)
  /-- With the end of the loop. -/
  | leave (progress : Progress)

namespace Loop

/-- Has the agent started? -/
def isInitialized : LoopAction Bool := askLoop .isInitialized

/-- The agent has started. -/
def markInitialized : LoopAction Unit := askLoop .markInitialized

/-- Is the loop stopped? -/
def isStopped : LoopAction Bool := askLoop .isStopped

/-- Stops the loop. -/
def stop : LoopAction Unit := askLoop .stop

/-- Takes a handler that has ended, if there is one. -/
def tryJoin : LoopAction (Option Joined) := askLoop .tryJoin

/-- Waits for a handler to end. -/
def join : LoopAction Joined := askLoop .join

/-- Pulls messages. -/
def pull (most : Nat) : LoopAction (Option Pulled) := askLoop (.pull most)

/-- Waits before the next pull. -/
def idle : LoopAction Unit := askLoop .idle

/-- Waits for a free slot and takes it. -/
def takeSlot : LoopAction Bool := askLoop .takeSlot

/-- Starts a handler. -/
def start (message : DeliveryId) : LoopAction Unit := askLoop (.start message)

/-- Hands a message back. -/
def handBack (message : DeliveryId) : LoopAction Unit := askLoop (.handBack message)

/-- Counts a failure. -/
def recordError : LoopAction Bool := askLoop .recordError

/-- Has the agent failed? -/
def hasFailed : LoopAction Bool := askLoop .hasFailed

/-- Initializes collaborators one after the other. -/
def prepareAll : List Collaborator → ExceptT AgentError LoopAction Unit
  | [] => return ()
  | collaborator :: rest => do
    ExceptT.mk (askLoop (.prepare collaborator))
    prepareAll rest

/-- Initializes every collaborator; the agent has started then. -/
def startUp : ExceptT AgentError LoopAction Unit := do
  prepareAll Collaborator.all
  markInitialized

/-- Counts a handler that has ended. -/
def reap (p : Progress) (joined : Joined) : LoopAction Progress := do
  match joined with
  | .reported _ => pure ()
  | .died => if ← recordError then stop
  return p.count joined (← hasFailed)

/-- Counts the handlers that have ended. -/
def reapFinished : (outstanding : Nat) → Progress → LoopAction Progress
  | 0, p => return p
  | n + 1, p => do
    match ← tryJoin with
    | none => return p
    | some joined => reapFinished n (← reap p joined)

/-- Waits for every handler to end. -/
def drain : (outstanding : Nat) → Progress → LoopAction Progress
  | 0, p => return p
  | n + 1, p => do
    let joined ← join
    drain n (← reap p joined)

/-- Hands messages back. -/
def handBackAll : List DeliveryId → LoopAction Unit
  | [] => return ()
  | message :: rest => do
    handBack message
    handBackAll rest

/-- Starts a handler for each message as slots become free. Once the loop is stopped, the rest is
handed back. -/
def startAll : List DeliveryId → Progress → LoopAction Progress
  | [], p => return p
  | message :: rest, p => do
    if ← takeSlot then
      start message
      startAll rest { p with outstanding := p.outstanding + 1 }
    else
      handBackAll (message :: rest)
      return p

/-- The error budget is used up: the loop ends. -/
def exhausted (p : Progress) : LoopAction Turn := do
  stop
  return .leave { p with exit := { p.exit with budgetExhausted := true } }

/-- One round: counts the handlers that have ended, pulls, and starts handlers. -/
def round (s : Settings) (p : Progress) : LoopAction Turn := do
  if ← isStopped then return .leave p
  let p ← reapFinished p.outstanding p
  match ← pull s.pullBatchSize with
  | none => return .leave p
  | some (.error _) =>
    if ← recordError then exhausted p
    else
      idle
      return .again p
  | some (.ok []) =>
    idle
    return .again p
  | some (.ok messages) => return .again (← startAll messages p)

/-- Makes rounds until the loop ends; no answer when it does not end within so many rounds. -/
def rounds (s : Settings) : (most : Nat) → Progress → LoopAction (Option Progress)
  | 0, _ => return none
  | most + 1, p => do
    match ← round s p with
    | .again p => rounds s most p
    | .leave p => return some p

/-- Waits for the handlers and sums up. -/
def finish (p : Progress) : LoopAction Exit := do
  let p ← drain p.outstanding p
  let failed ← hasFailed
  return { p.exit with budgetExhausted := p.exit.budgetExhausted || failed }

/-- Runs the loop; no answer when it does not end within so many rounds. -/
def run (s : Settings) (most : Nat) : ExceptT AgentError LoopAction (Option Exit) := do
  if !(← isInitialized) then startUp
  match ← rounds s most {} with
  | none => return none
  | some p => some <$> finish p

end Loop

end GridAgent.Agent
