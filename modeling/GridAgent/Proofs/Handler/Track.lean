import GridAgent.Proofs.Cluster.Operation
import GridAgent.Proofs.Program.Conduct
import GridAgent.Proofs.Status

/-!
# The books of a job

What an actor may do next depends on what it was answered before. Its books say how far the job is,
what it has read and written of its task, and what it still owes: promoted tasks that are not pushed
yet, a message that is not settled. Every update that an agent ever asks for is listed, with the
books under which it may ask for it.
-/

namespace GridAgent.Cluster

open Agent (RunId StreamId claimedBy heldBy executedBy abandonedExpectation)

/-- How far a job is. -/
inductive Stage where
  /-- The task is being acquired, or the message is about to be settled without an execution. -/
  | acquiring
  /-- An execution is registered and has not started. -/
  | executing (run : RunId)
  /-- The execution has started, and the stream to the worker is open. -/
  | talking (run : RunId)
  /-- The stream to the worker is closed. -/
  | answered (run : RunId)
  /-- The execution is over. -/
  | left
  /-- An execution is being stopped from outside. -/
  | stopping (run : RunId)
  deriving DecidableEq, Repr

namespace Stage

/-- The registered execution of the job. -/
def run? : Stage → Option RunId
  | executing run => some run
  | talking run => some run
  | answered run => some run
  | _ => none

/-- The stage once the execution has started. -/
def started : Stage → Stage
  | executing run => talking run
  | stage => stage

/-- The stage once the stream is closed. -/
def hungUp : Stage → Stage
  | talking run => answered run
  | stage => stage

/-- The execution has not started. -/
def isEarly : Stage → Bool
  | acquiring => true
  | executing _ => true
  | stopping _ => true
  | _ => false

/-- The job stops an execution from outside. -/
def isStopping : Stage → Bool
  | stopping _ => true
  | _ => false

/-- No execution has been registered. -/
def isOutside : Stage → Bool
  | acquiring => true
  | stopping _ => true
  | _ => false

/-- The execution has started, and the stream is open. -/
def isTalking : Stage → Bool
  | talking _ => true
  | _ => false

/-- The execution has started and is not over. -/
def hasStarted : Stage → Bool
  | talking _ => true
  | answered _ => true
  | _ => false

/-- An execution that has started is registered. -/
theorem run?_of_hasStarted {stage : Stage} (h : stage.hasStarted = true) :
    stage.run?.isSome = true := by
  cases stage <;> first | rfl | cases h

theorem hasStarted_of_isTalking {stage : Stage} (h : stage.isTalking = true) :
    stage.hasStarted = true := by
  cases stage <;> first | rfl | cases h

@[simp] theorem hasStarted_hungUp (stage : Stage) : stage.hungUp.hasStarted = stage.hasStarted := by
  cases stage <;> rfl

@[simp] theorem isEarly_hungUp (stage : Stage) : stage.hungUp.isEarly = stage.isEarly := by
  cases stage <;> rfl

@[simp] theorem isStopping_hungUp (stage : Stage) : stage.hungUp.isStopping = stage.isStopping := by
  cases stage <;> rfl

@[simp] theorem isOutside_hungUp (stage : Stage) : stage.hungUp.isOutside = stage.isOutside := by
  cases stage <;> rfl

@[simp] theorem isTalking_hungUp (stage : Stage) : stage.hungUp.isTalking = false := by
  cases stage <;> rfl

@[simp] theorem isOutside_started (stage : Stage) :
    stage.started.isOutside = stage.isOutside := by
  cases stage <;> rfl

/-- Starting an execution keeps its registration. -/
@[simp] theorem run?_started (stage : Stage) : stage.started.run? = stage.run? := by
  cases stage <;> rfl

/-- Closing the stream keeps the registration. -/
@[simp] theorem run?_hungUp (stage : Stage) : stage.hungUp.run? = stage.run? := by
  cases stage <;> rfl

end Stage

/-- Where a job begins. -/
def Job.stage : Job → Stage
  | handle .. => .acquiring
  | acquire _ => .acquiring
  | stop run _ => .stopping run
  | watch run _ => .stopping run

/-- The books of a job. -/
structure Track where
  /-- How far the job is. -/
  stage : Stage
  /-- An identifier that was made up and is not used yet. -/
  reserved : Option TaskId := none
  /-- Tasks that became submitted and are not pushed yet. -/
  owed : List TaskId := []
  /-- The task was found or made dispatched under this pod. -/
  attached : Bool := false
  /-- The status of the task was found or made one that stays. -/
  closed : Bool := false
  /-- An update was lost to a cancellation. -/
  cancelled : Bool := false
  /-- The execution was found asked to stop. -/
  stopped : Bool := false
  /-- The stream to the worker. -/
  stream : Option StreamId := none
  /-- The worker could not be reached. -/
  unreached : Bool := false
  /-- The cancellation of an acquired task was lost. -/
  doomed : Bool := false
  /-- The task was handed back. -/
  released : Bool := false
  /-- What was decided on the message. -/
  disposed : Option Disposition := none
  /-- The message was handed back to the queue. -/
  settled : Bool := false

namespace Track

/-- The books of a job that has not begun. -/
def start (job : Job) : Track := { stage := job.stage }

/-- The books after a look at the task. -/
def read (pod : PodId) (k : Track) : Except StoreError (Option TaskRecord) → Track
  | .ok (some record) =>
    { k with
      attached := record.status = .dispatched && record.isOwnedBy pod
      closed := k.closed || record.status.isClosed }
  | _ => k

/-- The books after an update of the task. -/
def wrote (k : Track) : TaskStatus → Track
  | .dispatched => { k with attached := true }
  | .processing => { k with stage := k.stage.started }
  | .submitted => { k with released := true }
  | status => { k with closed := k.closed || status.isClosed }

/-- The books after a lost update of the task. -/
def lost (k : Track) (wanted : TaskStatus) (found : LostUpdate) : Track :=
  { k with
    closed := k.closed || found.status.isClosed
    cancelled := k.cancelled || found.status.isCancellation
    doomed := k.doomed || (k.attached && wanted = .cancelled) }

/-- What a look at the task can change in the books. -/
theorem read_eq (pod : PodId) (k : Track) (answer : Except StoreError (Option TaskRecord)) :
    k.read pod answer = { k with
      attached := (k.read pod answer).attached
      closed := (k.read pod answer).closed } := by
  rcases answer with _ | _ | _ <;> rfl

section
variable (k : Track) (status : TaskStatus)

@[simp] theorem wrote_reserved : (k.wrote status).reserved = k.reserved := by cases status <;> rfl

@[simp] theorem wrote_owed : (k.wrote status).owed = k.owed := by cases status <;> rfl

@[simp] theorem wrote_cancelled : (k.wrote status).cancelled = k.cancelled := by cases status <;> rfl

@[simp] theorem wrote_stopped : (k.wrote status).stopped = k.stopped := by cases status <;> rfl

@[simp] theorem wrote_stream : (k.wrote status).stream = k.stream := by cases status <;> rfl

@[simp] theorem wrote_unreached : (k.wrote status).unreached = k.unreached := by cases status <;> rfl

@[simp] theorem wrote_doomed : (k.wrote status).doomed = k.doomed := by cases status <;> rfl

@[simp] theorem wrote_disposed : (k.wrote status).disposed = k.disposed := by cases status <;> rfl

@[simp] theorem wrote_settled : (k.wrote status).settled = k.settled := by cases status <;> rfl

@[simp] theorem wrote_isOutside : (k.wrote status).stage.isOutside = k.stage.isOutside := by
  cases status <;> first | rfl | exact Stage.isOutside_started k.stage

/-- A status that stays closes the task in the books too. -/
theorem wrote_of_isClosed (h : status.isClosed = true) :
    k.wrote status = { k with closed := true } := by
  cases status <;> simp_all [wrote, TaskStatus.isClosed, TaskStatus.isTerminal]

/-- A task is closed in the books if it was, or if the status that was written stays. -/
theorem wrote_closed (h : (k.wrote status).closed = true) :
    k.closed = true ∨ status.isClosed = true := by
  cases status <;> simp_all [wrote, TaskStatus.isClosed, TaskStatus.isTerminal]

/-- Only the start of the execution changes the stage. -/
theorem wrote_stage (h : status ≠ .processing) : (k.wrote status).stage = k.stage := by
  cases status <;> first | exact absurd rfl h | rfl

end

/-- The books after the answer to an update. A promotion of a task that is being created is no
update of the job's own task. -/
def updated (k : Track) (task : TaskId) (expected : Expectation) (change : TaskUpdate) :
    Except StoreError TaskRecord → Track
  | .ok _ =>
    if expected = .status .creating then { k with owed := task :: k.owed }
    else k.wrote change.status
  | .error (.conflict found) =>
    if expected = .status .creating then k else k.lost change.status found
  | .error _ => k

theorem updated_reserved (k : Track) (task : TaskId) (expected : Expectation)
    (change : TaskUpdate) (answer : Except StoreError TaskRecord) :
    (k.updated task expected change answer).reserved = k.reserved := by
  rcases answer with (_ | found | _) | record
  · rfl
  · simp only [updated]
    split <;> rfl
  · rfl
  · simp only [updated]
    split
    · rfl
    · exact wrote_reserved k change.status

/-- An update keeps the registration. -/
theorem updated_run? (k : Track) (task : TaskId) (expected : Expectation) (change : TaskUpdate)
    (answer : Except StoreError TaskRecord) :
    (k.updated task expected change answer).stage.run? = k.stage.run? := by
  rcases answer with (_ | found | _) | record
  · rfl
  · simp only [updated]
    split <;> rfl
  · rfl
  · simp only [updated]
    split
    · rfl
    · cases change.status <;> first | rfl | exact Stage.run?_started k.stage

theorem updated_promotion_ok (k : Track) (task : TaskId) (change : TaskUpdate)
    (record : TaskRecord) :
    k.updated task (.status .creating) change (.ok record) = { k with owed := task :: k.owed } := by
  simp only [updated, if_true]

theorem updated_promotion_error (k : Track) (task : TaskId) (change : TaskUpdate)
    (cause : StoreError) : k.updated task (.status .creating) change (.error cause) = k := by
  cases cause with
  | conflict found => simp only [updated, if_true]
  | _ => rfl

theorem updated_ok {expected : Expectation} (he : expected ≠ .status .creating) (k : Track)
    (task : TaskId) (change : TaskUpdate) (record : TaskRecord) :
    k.updated task expected change (.ok record) = k.wrote change.status :=
  if_neg he

theorem updated_conflict {expected : Expectation} (he : expected ≠ .status .creating) (k : Track)
    (task : TaskId) (change : TaskUpdate) (found : LostUpdate) :
    k.updated task expected change (.error (.conflict found)) = k.lost change.status found :=
  if_neg he

/-- The books after the answer to a call of the agent. -/
def noteAgent (pod : PodId) (k : Track) :
    (request : Agent.Request) → request.Reply → Track
  | .newTaskId, task => { k with reserved := some task }
  | .readTask _, reply => k.read pod reply
  | .updateTask task expected change, reply => k.updated task expected change reply
  | .createSuccessor .., .ok _ => { k with reserved := none }
  | .push _, _ => { k with owed := [] }
  | .register _, some run => { k with stage := .executing run }
  | .unregister _, _ => { k with stage := .left }
  | .stopRequested _, asked => { k with stopped := k.stopped || asked }
  | .connect .., .ok stream => { k with stream := some stream }
  | .connect .., .error _ => { k with unreached := true }
  | .hangUp _, _ => { k with stage := k.stage.hungUp }
  | .dispose _ disposition, .ok _ => { k with disposed := some disposition }
  | .settle _, _ => { k with settled := true }
  | _, _ => k

/-- What a decision on the message can change in the books. -/
theorem noteAgent_dispose (pod : PodId) (k : Track) (message : DeliveryId)
    (disposition : Disposition) (answer : Except QueueError Unit) :
    k.noteAgent pod (.dispose message disposition) answer = { k with
      disposed := (k.noteAgent pod (.dispose message disposition) answer).disposed } := by
  cases answer <;> rfl

/-- The books after the answer to a call of the finalizer. -/
def noteFinalizer (k : Track) : (request : Finalizer.Request) → request.Reply → Track
  | .resolve .., (tasks : List TaskId) => { k with owed := k.owed ++ tasks }
  | .push _, _ => { k with owed := [] }
  | _, _ => k

/-- The books after the answer to a call. -/
def note (pod : PodId) (k : Track) : (operation : Operation) → operation.Reply → Track
  | .agent request, reply => k.noteAgent pod request reply
  | .finalizer request, reply => k.noteFinalizer request reply

/-- The task may still be changed, and nothing is decided on the message. -/
structure Free (k : Track) : Prop where
  /-- No cancellation of the task was lost. -/
  doomed : k.doomed = false
  /-- The task was not handed back. -/
  released : k.released = false
  /-- Nothing is decided on the message. -/
  disposed : k.disposed = none
  /-- The message is not settled. -/
  settled : k.settled = false

/-- The message may be settled with a disposition: it comes back, or the task does not need it, or
the task has been taken away and another message of it is on the way. -/
def Allows (k : Track) (disposition : Disposition) : Prop :=
  disposition.settlement = .release ∨ k.closed = true ∨
    (k.doomed = true ∧ k.attached = true ∧ k.released = false)

/-- The attempt may be cancelled: an update was lost to a cancellation, or the execution was asked
to stop and the worker is not called any more, or not yet. -/
def MayCancel (k : Track) : Prop :=
  k.cancelled = true ∨
    (k.stopped = true ∧ ((∃ run, k.stage = .answered run) ∨ k.unreached = true))

/-- The execution is registered, and the worker is not being called. -/
def IsIdle (k : Track) : Prop := ∃ run, k.stage = .executing run ∨ k.stage = .answered run

end Track

/-- The updates that an agent asks for on the task of its job. -/
inductive Write (pod : PodId) (k : Track) : Expectation → TaskUpdate → Prop where
  /-- Claims a submitted task without owner. -/
  | claim (name : String) (now : Date) (stage : k.stage = .acquiring) :
    Write pod k (Expectation.status .submitted).unowned (.dispatch pod name now)
  /-- Takes a task from a pod that has not started it. -/
  | reset (owner : PodId) (now : Date) (stage : k.stage = .acquiring)
    (detached : k.attached = false) :
    Write pod k ((Expectation.status .dispatched).ownedBy owner) (.release now)
  /-- Ends an attempt that was abandoned during execution. -/
  | recover (owner : Option PodId) (plan : RetryPlan) (reason : String) (now : Date)
    (stage : k.stage = .acquiring) :
    Write pod k (abandonedExpectation owner) (.finish plan.failedStatus (.failure reason) now)
  /-- Ends a task that is marked for cancellation. -/
  | bury (now : Date) (stage : k.stage = .acquiring) (detached : k.attached = false) :
    Write pod k (.status .cancelling) { status := .cancelled, ended := some now }
  /-- Starts the execution. -/
  | start (run : RunId) (now : Date) (stage : k.stage = .executing run) :
    Write pod k (claimedBy pod) { status := .processing, started := some now }
  /-- Hands the task back. -/
  | release (expected : Expectation) (now : Date)
    (held : expected = claimedBy pod ∨ expected = heldBy pod) (idle : k.IsIdle) :
    Write pod k expected (.release now)
  /-- Ends the attempt with a failure. -/
  | fail (expected : Expectation) (plan : RetryPlan) (reason : String) (now : Date)
    (held : expected = claimedBy pod ∨ expected = heldBy pod ∨ expected = executedBy pod)
    (idle : k.IsIdle) :
    Write pod k expected (.finish plan.failedStatus (.failure reason) now)
  /-- Ends the attempt with what the worker replied. -/
  | conclude (run : RunId) (status : TaskStatus) (output : Output) (now : Date)
    (outcome : status = .completed ∧ output.status = .success ∨
      status = .timeout ∧ output.status = .timeout)
    (stage : k.stage = .answered run) :
    Write pod k (executedBy pod) (.finish status output now)
  /-- Ends the attempt as cancelled, whoever owns the task. -/
  | cancel (now : Date) (idle : k.IsIdle) (cause : k.MayCancel) :
    Write pod k (.anyOf [.dispatched, .processing, .cancelling])
      { status := .cancelled, ended := some now }
  /-- Marks the task of an execution for cancellation. -/
  | stop (run : RunId) (stage : k.stage = .stopping run) :
    Write pod k (heldBy pod) { status := .cancelling }

namespace Track

/-- Other tasks may be promoted: the own task is closed, or about to be, by its handler. -/
def MayPromote (k : Track) : Prop := k.closed = true ∧ k.stage.isStopping = false

/-- The promotion of a task that is being created. -/
def IsPromotion (expected : Expectation) (change : TaskUpdate) : Prop :=
  expected = .status .creating ∧
    ∃ now : Date, change = { status := .submitted, submitted := some now }

/-- The calls that an agent may make, with nothing owed. -/
def MayAsk (pod : PodId) (job : Job) (k : Track) : Agent.Request → Prop
  | .readTask task => task = job.task ∧ (k.stage = .acquiring ∨ ∃ run, k.stage = .stopping run)
  | .updateTask task expected change =>
    (task = job.task ∧ k.Free ∧ Write pod k expected change) ∨
      (k.MayPromote ∧ IsPromotion expected change)
  | .createSuccessor parent candidate =>
    parent.id = job.task ∧ k.closed = true ∧ k.reserved = some candidate.id ∧
      ∃ now, candidate = parent.successor candidate.id now
  | .finalize _ => k.stage.isStopping = false
  | .register task =>
    task = job.task ∧ k.stage = .acquiring ∧ k.attached = true ∧ k.Free ∧ job.message?.isSome
  | .unregister run => k.stage = .executing run ∨ k.stage = .answered run
  | .stopRequested run => k.stage.run? = some run
  | .requestStop run => k.stage = .stopping run
  | .connect run task _ => task = job.task ∧ k.stage = .executing run
  | .send run stream _ => k.stage = .talking run ∧ k.stream = some stream
  | .finishSending run stream => k.stage = .talking run ∧ k.stream = some stream
  | .awaitReply run stream => k.stage = .talking run ∧ k.stream = some stream
  | .hangUp stream => k.stage.run?.isSome ∧ k.stream = some stream
  | .dispose message _ =>
    job.message? = some message ∧ k.stage.run? = none ∧ k.disposed = none ∧ k.settled = false
  | .settle message =>
    job.message? = some message ∧ k.stage.run? = none ∧ k.settled = false ∧
      k.Allows (k.disposed.getD .waiting)
  | _ => True

/-- The calls that may be made. What is owed is pushed before anything else is done. -/
def May (pod : PodId) (job : Job) (k : Track) : Operation → Prop
  | .agent (.push tasks) => k.owed ⊆ tasks
  | .agent request => k.owed = [] ∧ k.MayAsk pod job request
  | .finalizer .now => True
  | .finalizer (.resolve ..) => k.stage.isStopping = false
  | .finalizer (.push tasks) => k.owed ⊆ tasks
  | .finalizer _ => k.owed = []

/-- The answers that are counted on: records come under the identifiers asked for, and the creation
of a successor fails only when the store cannot be reached. -/
def Credible : (operation : Operation) → operation.Reply → Prop
  | .agent (.readTask task), .ok (some record) => record.id = task
  | .agent (.updateTask task _ _), .ok record => record.id = task
  | .agent (.createSuccessor ..), .error cause => ∃ reason, cause = .unavailable reason
  | _, _ => True

end Track

/-- How a job is done on a pod. -/
def conduct (pod : PodId) (job : Job) : Conduct operations Track :=
  ⟨Track.May pod job, Track.Credible, Track.note pod⟩

/-- How a job is done on a pod, with the settling of results as a single call. -/
def agentConduct (pod : PodId) (job : Job) : Conduct Agent.collaborators Track where
  may k request := k.May pod job (.agent request)
  credible request reply := Track.Credible (.agent request) reply
  note k request reply := k.noteAgent pod request reply

/-- The books of an actor. -/
def Actor.track (a : Actor) : Track :=
  a.past.foldr (fun answered k => k.note a.pod answered.operation answered.reply) (.start a.job)

@[simp] theorem Actor.track_start (s : Settings) (job : Job) :
    (Actor.start s job).track = .start job := rfl

end GridAgent.Cluster
