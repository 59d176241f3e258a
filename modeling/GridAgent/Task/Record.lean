import GridAgent.Id.Set
import GridAgent.Status
import GridAgent.Task.Options

/-!
# Task records

The record of a task is the authoritative document about it. Records change only by an update, which
always sets the status and may change the owner, set dates and store an output; an end date also
settles how long the task took. An expectation says in which statuses and under which owner an
update may be applied.
-/

namespace GridAgent

/-- How an execution ended, as the worker reports it. -/
inductive OutputStatus where
  | success
  | error
  | timeout
  deriving DecidableEq, Repr

namespace OutputStatus

/-- Every output status, in order of declaration. -/
def all : List OutputStatus := [success, error, timeout]

/-- The written name. -/
def name : OutputStatus → String
  | success => "Success"
  | error => "Error"
  | timeout => "Timeout"

/-- The output status with a given name. -/
def ofName? (s : String) : Option OutputStatus := all.find? (·.name = s)

end OutputStatus

/-- Output of an execution, as stored on the task. -/
structure Output where
  /-- How the execution ended. -/
  status : OutputStatus
  /-- What went wrong. -/
  error : Option String
  deriving DecidableEq, Repr

namespace Output

/-- The execution produced its results. -/
def success : Output := ⟨.success, none⟩

/-- The execution failed. -/
def failure (message : String) : Output := ⟨.error, some message⟩

/-- The execution ran out of time. -/
def timedOut (message : String) : Output := ⟨.timeout, some message⟩

end Output

/-- The authoritative document about one task. -/
structure TaskRecord where
  /-- The task. -/
  id : TaskId
  /-- Its session. -/
  session : SessionId
  /-- Root of the retry lineage; the task itself for a first attempt. -/
  initial : TaskId
  /-- Ancestors in the lineage, oldest first. -/
  ancestors : List TaskId
  /-- Where the task is in its life. -/
  status : TaskStatus
  /-- Pod that holds the task. -/
  owner : Option PodId
  /-- Name of that pod for people. -/
  ownerName : Option String
  /-- When the owner took the task. -/
  acquired : Option Date
  /-- The object that the worker is given. -/
  payload : DataId
  /-- Data the task needs. -/
  dependencies : IdSet .data
  /-- Data the task needs that is not resolved yet. -/
  remaining : IdSet .data
  /-- Results the task is expected to produce. -/
  outputs : List DataId
  /-- Execution options. -/
  options : Options
  /-- When the record was made. -/
  created : Date
  /-- When the task last became ready. -/
  submitted : Option Date
  /-- When execution started. -/
  started : Option Date
  /-- When the task ended. -/
  ended : Option Date
  /-- Time from creation to end; none when the end is earlier. -/
  creationToEnd : Option Span
  /-- Time from start to end; none when the end is earlier or the task never started. -/
  processingToEnd : Option Span
  /-- Output of the execution. -/
  output : Option Output
  deriving DecidableEq

/-- Owner change carried by an update. -/
inductive OwnerChange where
  /-- The owner stays. -/
  | keep
  /-- A pod takes the task. -/
  | assign (pod : PodId) (name : String)
  /-- Nobody holds the task any more. -/
  | clear
  deriving DecidableEq, Repr

/-- A change of a record. Every update sets a status; dates and output are set when present. -/
structure TaskUpdate where
  /-- Status after the update. -/
  status : TaskStatus
  /-- What happens to the owner. -/
  owner : OwnerChange := .keep
  /-- When the owner took the task. -/
  acquired : Option Date := none
  /-- When the task became ready. -/
  submitted : Option Date := none
  /-- When execution started. -/
  started : Option Date := none
  /-- When the task ended. -/
  ended : Option Date := none
  /-- Output of the execution. -/
  output : Option Output := none

namespace TaskUpdate

/-- The pod claims a submitted task. -/
def dispatch (pod : PodId) (name : String) (now : Date) : TaskUpdate :=
  { status := .dispatched, owner := .assign pod name, acquired := some now }

/-- The task goes back to the queue without an owner. -/
def release (now : Date) : TaskUpdate :=
  { status := .submitted, owner := .clear, submitted := some now }

/-- The task ends in a status with an output. -/
def finish (status : TaskStatus) (output : Output) (now : Date) : TaskUpdate :=
  { status, output := some output, ended := some now }

end TaskUpdate

namespace TaskRecord

/-- First attempt of a lineage, still being created. -/
def first (id : TaskId) (session : SessionId) (payload : DataId) (options : Options) (now : Date) :
    TaskRecord where
  id := id
  session := session
  initial := id
  ancestors := []
  status := .creating
  owner := none
  ownerName := none
  acquired := none
  payload := payload
  dependencies := .empty
  remaining := .empty
  outputs := []
  options := options
  created := now
  submitted := none
  started := none
  ended := none
  creationToEnd := none
  processingToEnd := none
  output := none

/-- The pod holds the task. -/
def isOwnedBy (t : TaskRecord) (pod : PodId) : Bool := t.owner = some pod

/-- Changes the owner; clearing it forgets the name and the date of acquisition too. -/
def changeOwner (t : TaskRecord) : OwnerChange → TaskRecord
  | .keep => t
  | .assign pod name => { t with owner := some pod, ownerName := some name }
  | .clear => { t with owner := none, ownerName := none, acquired := none }

/-- Sets an end date and the durations that follow from it. -/
def endAt (t : TaskRecord) (moment : Date) : TaskRecord :=
  { t with
    ended := some moment
    creationToEnd := moment.since? t.created
    processingToEnd := t.started.bind moment.since? }

/-- Applies an update: status, owner, dates and output, and the durations once the end is known. -/
def apply (t : TaskRecord) (u : TaskUpdate) : TaskRecord :=
  let t := { t with status := u.status }
  let t := t.changeOwner u.owner
  let t := { t with
    acquired := u.acquired.or t.acquired
    submitted := u.submitted.or t.submitted
    started := u.started.or t.started
    output := u.output.or t.output }
  match u.ended with
  | some moment => t.endAt moment
  | none => t

/-- Options left open are filled in from the defaults of a session. -/
def withDefaults (t : TaskRecord) (defaults : Options) : TaskRecord :=
  { t with options := t.options.mergedWith defaults }

end TaskRecord

/-- Condition on the owner of a record. -/
inductive OwnerMatch where
  /-- Any owner or none. -/
  | any
  /-- No owner. -/
  | unowned
  /-- A given pod. -/
  | is (pod : PodId)
  deriving DecidableEq, Repr

/-- What a conditional update expects of the record it changes. -/
structure Expectation where
  /-- Statuses in which the update may be applied. -/
  statuses : List TaskStatus
  /-- Condition on the owner. -/
  owner : OwnerMatch := .any
  deriving DecidableEq, Repr

/-- The owner of a record meets a condition. -/
def OwnerMatch.holds (m : OwnerMatch) (t : TaskRecord) : Bool :=
  match m with
  | .any => true
  | .unowned => t.owner.isNone
  | .is pod => t.isOwnedBy pod

namespace Expectation

/-- One of several statuses, whoever owns the task. -/
def anyOf (statuses : List TaskStatus) : Expectation := { statuses }

/-- One status, whoever owns the task. -/
def status (s : TaskStatus) : Expectation := { statuses := [s] }

/-- The same statuses with no owner. -/
def unowned (e : Expectation) : Expectation := { e with owner := .unowned }

/-- The same statuses under a given owner. -/
def ownedBy (e : Expectation) (pod : PodId) : Expectation := { e with owner := .is pod }

/-- The record is what the update expects. -/
def holds (e : Expectation) (t : TaskRecord) : Bool :=
  e.owner.holds t && e.statuses.contains t.status

end Expectation

end GridAgent
