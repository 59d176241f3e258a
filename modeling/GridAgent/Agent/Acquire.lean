import GridAgent.Acquisition.Decision
import GridAgent.Agent.Succession

/-!
# Acquiring a task

A message is turned into the ownership of a task, or into what becomes of the message. In each round
the agent reads the task and its session, decides, and applies the change that the decision asks
for. A lost update means that another agent was faster: the next round reads and decides again, as
often as the settings allow.
-/

namespace GridAgent.Agent

open Acquisition

/-- Result of the protocol for one message. -/
structure Acquired where
  /-- Why. -/
  outcome : Outcome
  /-- Status of the task; none without a task. -/
  status : Option TaskStatus
  /-- What becomes of the message. -/
  disposition : Disposition
  /-- The record as the protocol leaves it. -/
  task : Option TaskRecord

/-- A decision that changes nothing. -/
def Acquired.ofDecision (d : Decision) (task : Option TaskRecord) : Acquired :=
  ⟨d.outcome, d.status, d.disposition, task⟩

/-- Looks at the successor of a retried task and finishes what an agent left undone. -/
def repairLineage (s : Settings) (t : TaskRecord) :
    Fallible AgentError (Option SuccessorState) := do
  match ← orFail .store (findSuccessor s t.id) with
  | none =>
    let _ ← ensureSuccessor s t
    return some .notFound
  | some successor =>
    match successor.status with
    | .creating =>
      let _ ← submitSuccessor s successor
      return some .creating
    | .pending => return some .pending
    | .submitted => return some .submitted
    | _ => return none

/-- Why an abandoned task is retried. -/
def abandonedReason : Option PodId → String
  | some owner => "owner " ++ owner.name ++ " stopped while processing"
  | none => "processing without owner"

/-- What an abandoned task is expected to be. -/
def abandonedExpectation : Option PodId → Expectation
  | some owner => (Expectation.status .processing).ownedBy owner
  | none => (Expectation.status .processing).unowned

/-- Makes the change that a decision asks for; answers the record after it, or none when the record
stays. -/
def makeTransition (s : Settings) (t : TaskRecord) (now : Date) :
    Transition → Fallible AgentError (Option TaskRecord)
  | .none => return none
  | .claim => do
    let claim := TaskUpdate.dispatch s.podId s.podName now
    orFail .store (some <$> updateTask s t.id (Expectation.status .submitted).unowned claim)
  | .resetToSubmitted owner =>
    orFail .store (some <$>
      updateTask s t.id ((Expectation.status .dispatched).ownedBy owner) (.release now))
  | .retryAbandoned owner =>
    some <$> retryTask s t (abandonedExpectation owner) (abandonedReason owner)
  | .finishCancellation => do
    let cancelled ← orFail .store
      (updateTask s t.id (.status .cancelling) { status := .cancelled, ended := some now })
    abandonResults t.id
    return some cancelled

/-- Carries out a decision on a task. -/
def carryOut (s : Settings) (t : TaskRecord) (d : Decision) : Fallible AgentError Acquired := do
  let now ← Call.now
  match ← makeTransition s t now d.transition with
  | some updated =>
    let updated := { updated with options := t.options }
    return { Acquired.ofDecision d (some updated) with status := some updated.status }
  | none =>
    match d.outcome with
    | .taskIsRetried _ =>
      let state ← repairLineage s t
      return { Acquired.ofDecision d (some t) with outcome := .taskIsRetried state }
    | _ => return .ofDecision d (some t)

/-- The verdict still hangs on the liveness of a pod although it was told. -/
def undecided (task : TaskId) : AgentError := .inconsistent task "decision still needs liveness"

/-- A missing task cannot be run by anyone. -/
def livenessOfMissing (task : TaskId) : AgentError :=
  .inconsistent task "liveness requested for a missing task"

/-- Reads the task, with the options it leaves open filled in, and its session. -/
def readSituation (s : Settings) (task : TaskId) : Fallible AgentError Situation := do
  let record ← orFail .store (readTask s task)
  let session ← match record with
    | some t => orFail .store (readSession s t.session)
    | none => pure none
  let now ← Call.now
  let shutdown ← Call.shutdownRequested
  return {
    task := record.map fun t => session.elim t fun session => t.withDefaults session.defaults
    session
    pod := s.podId
    now
    dispatchTimeout := s.dispatchTimeout
    shutdown
    ownerAlive := none }

/-- Decides, with the answer of the liveness checker where the decision hangs on it. -/
def reachDecision (s : Settings) (task : TaskId) (situation : Situation) :
    Fallible AgentError Decision :=
  match decide situation with
  | .decided decision => return decision
  | .needsLiveness owner =>
    match situation.task with
    | none => throw (livenessOfMissing task)
    | some t => do
      let alive ← orFail .check (isAlive s t owner)
      match decide { situation with ownerAlive := some alive } with
      | .decided decision => return decision
      | .needsLiveness _ => throw (undecided task)

/-- One round: reads, decides and carries the decision out. Answers the lost update, if there is
one. -/
def acquireOnce (s : Settings) (task : TaskId) :
    Fallible AgentError (Except LostUpdate Acquired) := do
  let situation ← readSituation s task
  let decision ← reachDecision s task situation
  match situation.task with
  | none => return .ok (.ofDecision decision none)
  | some t =>
    match ← attempt (carryOut s t decision) with
    | .ok acquired => return .ok acquired
    | .error (.store (.conflict lost)) => return .error lost
    | .error cause => throw cause

/-- The task keeps moving: someone else is driving it. -/
def Acquired.gaveUp (lost : LostUpdate) : Acquired :=
  ⟨.messageDuplicated, some lost.status, .postponed, none⟩

/-- Makes a round, and up to `left` more while updates are lost. -/
def acquireWithin (s : Settings) (task : TaskId) : (left : Nat) → Fallible AgentError Acquired
  | 0 => do
    match ← acquireOnce s task with
    | .ok acquired => return acquired
    | .error lost => return .gaveUp lost
  | left + 1 => do
    match ← acquireOnce s task with
    | .ok acquired => return acquired
    | .error _ => acquireWithin s task left

/-- Runs the protocol for a delivered task. -/
def acquire (s : Settings) (task : TaskId) : Fallible AgentError Acquired :=
  acquireWithin s task (s.maxRounds - 1)

end GridAgent.Agent
