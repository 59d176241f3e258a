import GridAgent.Session
import GridAgent.Task.Record

/-!
# What to do with a delivered task

`decide` looks at the record of a delivered task, its session, the clock and the shutdown flag, and
says what becomes of the message and which change of the record it asks for. It never touches the
store. Where the answer hangs on whether another pod is still alive it asks for that first, and is
asked again with the answer.
-/

namespace GridAgent.Acquisition

/-- State of the successor of a retried task. -/
inductive SuccessorState where
  | creating
  | submitted
  | pending
  | notFound
  deriving DecidableEq, Repr

/-- Why a message ends the way it does. -/
inductive Outcome where
  | acquired
  | taskNotFound
  | cancelledAfterFirstRead
  | sessionNotExecutable
  | sessionPaused
  | taskIsCreating
  | taskIsPending
  | taskIsPaused
  | taskIsProcessed
  | taskIsError
  | taskIsTimeout
  | taskIsCancelled
  | taskIsCancelling
  | taskIsRetried (successor : Option SuccessorState)
  | processingHere
  | messageDuplicated
  | timeoutNotExceeded
  | dispatchedCrashed
  | podIdEmptyAfterAcquisition
  | taskIsProcessingHere
  | taskIsProcessingPodIdEmpty
  | taskIsProcessingElsewhere
  | taskIsProcessingButSeemsCrashed
  deriving DecidableEq, Repr

/-- The written name of a successor's state. -/
def SuccessorState.name : SuccessorState → String
  | creating => "RetryIsCreating"
  | submitted => "RetryIsSubmitted"
  | pending => "RetryIsPending"
  | notFound => "RetryIsNotFound"

/-- The successor's state with a given name. -/
def SuccessorState.ofName? (s : String) : Option SuccessorState :=
  [creating, submitted, pending, notFound].find? (·.name = s)

/-- The written name of an outcome. -/
def Outcome.name : Outcome → String
  | acquired => "Acquired"
  | taskNotFound => "TaskNotFound"
  | cancelledAfterFirstRead => "CancelledAfterFirstRead"
  | sessionNotExecutable => "SessionNotExecutable"
  | sessionPaused => "SessionPaused"
  | taskIsCreating => "TaskIsCreating"
  | taskIsPending => "TaskIsPending"
  | taskIsPaused => "TaskIsPaused"
  | taskIsProcessed => "TaskIsProcessed"
  | taskIsError => "TaskIsError"
  | taskIsTimeout => "TaskIsTimeout"
  | taskIsCancelled => "TaskIsCancelled"
  | taskIsCancelling => "TaskIsCancelling"
  | taskIsRetried none => "TaskIsRetried"
  | taskIsRetried (some s) => "TaskIsRetried" ++ s.name
  | processingHere => "AcquisitionFailedProcessingHere"
  | messageDuplicated => "AcquisitionFailedMessageDuplicated"
  | timeoutNotExceeded => "AcquisitionFailedTimeoutNotExceeded"
  | dispatchedCrashed => "AcquisitionFailedDispatchedCrashed"
  | podIdEmptyAfterAcquisition => "PodIdEmptyAfterAcquisition"
  | taskIsProcessingHere => "TaskIsProcessingHere"
  | taskIsProcessingPodIdEmpty => "TaskIsProcessingPodIdEmpty"
  | taskIsProcessingElsewhere => "TaskIsProcessingElsewhere"
  | taskIsProcessingButSeemsCrashed => "TaskIsProcessingButSeemsCrashed"

/-- The task is this agent's to execute. -/
def Outcome.isAcquired (o : Outcome) : Bool := o = .acquired

/-- Change of the record that a decision asks for. -/
inductive Transition where
  /-- The record stays. -/
  | none
  /-- A submitted task without owner becomes dispatched under this pod. -/
  | claim
  /-- A dispatched task of a dead owner becomes submitted again. -/
  | resetToSubmitted (owner : PodId)
  /-- A task in processing without a live owner is retried. -/
  | retryAbandoned (owner : Option PodId)
  /-- A cancelling task becomes cancelled. -/
  | finishCancellation
  deriving DecidableEq, Repr

/-- What becomes of a message and its task. -/
structure Decision where
  /-- Why. -/
  outcome : Outcome
  /-- Status of the task once the change is made; none without a task. -/
  status : Option TaskStatus
  /-- What becomes of the message. -/
  disposition : Disposition
  /-- Change of the record. -/
  transition : Transition
  deriving DecidableEq, Repr

/-- A decision, or the question it hangs on. -/
inductive Verdict where
  /-- Does this pod still run the task? -/
  | needsLiveness (owner : PodId)
  /-- Decided. -/
  | decided (decision : Decision)
  deriving DecidableEq, Repr

/-- Everything a decision looks at. -/
structure Situation where
  /-- Record of the task. -/
  task : Option TaskRecord
  /-- Its session. -/
  session : Option SessionRecord
  /-- Pod of the deciding agent. -/
  pod : PodId
  /-- Clock reading. -/
  now : Date
  /-- How long another agent may hold a claim unquestioned. -/
  dispatchTimeout : Span
  /-- The agent is shutting down. -/
  shutdown : Bool
  /-- Whether the owner is alive, once asked. -/
  ownerAlive : Option Bool

/-- Who holds a task, seen from one pod. -/
inductive Holder where
  | nobody
  | thisPod
  | other (pod : PodId)

/-- Who holds the task, seen from a pod. -/
def holder (t : TaskRecord) (pod : PodId) : Holder :=
  match t.owner with
  | none => .nobody
  | some owner => if owner = pod then .thisPod else .other owner

/-- A claim has outlived the timeout. A claim without a date has, and so has one exactly as old as
the timeout. -/
def claimOutlived (t : TaskRecord) (now : Date) (timeout : Span) : Bool :=
  match t.acquired with
  | none => true
  | some acquired => timeout.nanos ≤ (now.elapsedSince acquired).nanos

/-- Decides on a record of a running session. -/
def decideRecord (s : Situation) (t : TaskRecord) : Verdict :=
  let stays (outcome : Outcome) (disposition : Disposition) : Verdict :=
    .decided ⟨outcome, some t.status, disposition, .none⟩
  match t.status, holder t s.pod with
  | .creating, _ => stays .taskIsCreating .postponed
  | .pending, _ => stays .taskIsPending .postponed
  | .paused, _ => stays .taskIsPaused .processed
  | .completed, _ => stays .taskIsProcessed .processed
  | .error, _ => stays .taskIsError .cancelled
  | .timeout, _ => stays .taskIsTimeout .processed
  | .cancelled, _ => stays .taskIsCancelled .cancelled
  | .retried, _ => stays (.taskIsRetried none) .poisonous
  | .cancelling, _ =>
    .decided ⟨.taskIsCancelling, some .cancelled, .cancelled, .finishCancellation⟩
  | .submitted, .nobody => .decided ⟨.acquired, some .dispatched, .waiting, .claim⟩
  | .submitted, .thisPod => stays .processingHere .postponed
  | .submitted, .other _ => stays .messageDuplicated .postponed
  | .dispatched, .thisPod => stays .acquired .waiting
  | .dispatched, .nobody => stays .podIdEmptyAfterAcquisition .postponed
  | .dispatched, .other owner =>
    if claimOutlived t s.now s.dispatchTimeout then
      match s.ownerAlive with
      | none => .needsLiveness owner
      | some true => stays .messageDuplicated .postponed
      | some false =>
        .decided ⟨.dispatchedCrashed, some .submitted, .postponed, .resetToSubmitted owner⟩
    else stays .timeoutNotExceeded .postponed
  | .processing, .thisPod => stays .taskIsProcessingHere .postponed
  | .processing, .nobody =>
    .decided ⟨.taskIsProcessingPodIdEmpty, some .retried, .cancelled, .retryAbandoned none⟩
  | .processing, .other owner =>
    match s.ownerAlive with
    | none => .needsLiveness owner
    | some true => stays .taskIsProcessingElsewhere .postponed
    | some false =>
      .decided
        ⟨.taskIsProcessingButSeemsCrashed, some .retried, .processed, .retryAbandoned (some owner)⟩

/-- Decides what becomes of a delivered task. -/
def decide (s : Situation) : Verdict :=
  match s.task with
  | none => .decided ⟨.taskNotFound, none, .postponed, .none⟩
  | some t =>
    let stays (outcome : Outcome) (disposition : Disposition) : Verdict :=
      .decided ⟨outcome, some t.status, disposition, .none⟩
    if s.shutdown then stays .cancelledAfterFirstRead .waiting
    else
      match s.session with
      | none => stays .sessionNotExecutable .postponed
      | some session =>
        if session.status.isTerminated then stays .sessionNotExecutable .postponed
        else if session.status = .paused then stays .sessionPaused .postponed
        else decideRecord s t

end GridAgent.Acquisition
