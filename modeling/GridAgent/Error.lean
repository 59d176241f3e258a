import GridAgent.Id
import GridAgent.Status
import GridAgent.Decimal.Shortest
import GridAgent.Text.Quoted

/-!
# Errors

One type of causes for each collaborator of an agent, gathered in `AgentError`. Each cause has one
wording. A transient cause is a hiccup of the infrastructure, worth another try; every other cause
is an answer.
-/

namespace GridAgent

/-- Causes that are worth another try. -/
class Transient (ε : Type) where
  /-- The cause is a hiccup of the infrastructure. -/
  isTransient : ε → Bool

export Transient (isTransient)

/-- A conditional update lost: the record was not what the update expects. -/
structure LostUpdate where
  /-- Status of the record. -/
  status : TaskStatus
  /-- Owner of the record. -/
  owner : Option PodId
  deriving DecidableEq, Repr

/-- An owner as it stands in a diagnosis. -/
def describeOwner : Option PodId → String
  | none => "None"
  | some pod => "Some(PodId(" ++ Text.Quoted.encode pod.name ++ "))"

/-- The wording of a lost update. -/
def LostUpdate.message (l : LostUpdate) : String :=
  "conditional update lost: task is " ++ l.status.name ++ " (owner " ++ describeOwner l.owner ++ ")"

/-- What a store call can fail with. -/
inductive StoreError where
  /-- There is no such task. -/
  | notFound (task : TaskId)
  /-- The record was not what the update expects. -/
  | conflict (lost : LostUpdate)
  /-- The store cannot be reached. -/
  | unavailable (reason : String)
  deriving DecidableEq, Repr

/-- The wording of a store error. -/
def StoreError.message : StoreError → String
  | .notFound task => "task " ++ task.toString ++ " not found"
  | .conflict lost => lost.message
  | .unavailable reason => "store unavailable: " ++ reason

instance : Transient StoreError where
  isTransient
    | .unavailable _ => true
    | _ => false

/-- What a queue call can fail with. -/
inductive QueueError where
  /-- The queue cannot be reached. -/
  | unavailable (reason : String)
  /-- The message has its disposition already. -/
  | alreadySettled (message : String)
  deriving DecidableEq, Repr

/-- The wording of a queue error. -/
def QueueError.message : QueueError → String
  | .unavailable reason => "queue unavailable: " ++ reason
  | .alreadySettled message => "message " ++ message ++ " already settled"

instance : Transient QueueError where
  isTransient
    | .unavailable _ => true
    | _ => false

/-- What fetching data can fail with. -/
inductive StorageError where
  /-- There is no such object. -/
  | notFound (data : DataId)
  /-- The object storage cannot be reached. -/
  | unavailable (reason : String)
  /-- The scratch area cannot be written. -/
  | scratch (reason : String)
  deriving DecidableEq, Repr

/-- The wording of a storage error. -/
def StorageError.message : StorageError → String
  | .notFound data => "data " ++ data.toString ++ " not found"
  | .unavailable reason => "object storage unavailable: " ++ reason
  | .scratch reason => "scratch area: " ++ reason

instance : Transient StorageError where
  isTransient
    | .unavailable _ => true
    | _ => false

/-- What a call to the worker can fail with. -/
inductive WorkerError where
  /-- The worker cannot be reached; no work was started. -/
  | unavailable (reason : String)
  /-- The worker broke down during execution. -/
  | fault (reason : String)
  /-- The call was cut off. -/
  | aborted
  deriving DecidableEq, Repr

/-- The wording of a worker error. -/
def WorkerError.message : WorkerError → String
  | .unavailable reason => "worker unavailable: " ++ reason
  | .fault reason => "worker fault: " ++ reason
  | .aborted => "worker call aborted"

/-- Asking whether a pod is alive failed. -/
structure CheckError where
  /-- Why. -/
  reason : String
  deriving DecidableEq, Repr

/-- The wording of a failed check. -/
def CheckError.message (e : CheckError) : String := "processing check failed: " ++ e.reason

instance : Transient CheckError where
  isTransient _ := true

/-- What is wrong with settings. -/
inductive SettingsError where
  /-- A count that must be positive is zero. -/
  | zero (field : String)
  /-- The retry multiplier is not finite or below one. -/
  | multiplier (value : Float)
  /-- The pod has no name. -/
  | emptyPodId
  /-- The text is no settings file. -/
  | malformed
  deriving DecidableEq

/-- The wording of a settings error. -/
def SettingsError.message : SettingsError → String
  | .zero field => field ++ " must be at least 1"
  | .multiplier value =>
    "invalid retry multiplier " ++ Decimal.plain value ++ ": must be finite and >= 1.0"
  | .emptyPodId => "pod id must not be empty"
  | .malformed => "failed to parse configuration"

/-- Whatever an agent can fail with. -/
inductive AgentError where
  | store (cause : StoreError)
  | queue (cause : QueueError)
  | storage (cause : StorageError)
  | worker (cause : WorkerError)
  | check (cause : CheckError)
  | settings (cause : SettingsError)
  /-- The store holds a record no agent should have made. -/
  | inconsistent (task : TaskId) (reason : String)
  /-- A handler died. -/
  | handlerDied (reason : String)
  deriving DecidableEq

/-- The wording of an error. -/
def AgentError.message : AgentError → String
  | .store cause => cause.message
  | .queue cause => cause.message
  | .storage cause => cause.message
  | .worker cause => cause.message
  | .check cause => cause.message
  | .settings cause => cause.message
  | .inconsistent task reason => "store inconsistency on " ++ task.toString ++ ": " ++ reason
  | .handlerDied reason => "handler task failed: " ++ reason

/-- Whether a cause is worth another try. Calls to the worker are never tried again, and settings
and broken records do not mend, so there the question does not arise. -/
def AgentError.isTransient? : AgentError → Option Bool
  | .store cause => some (isTransient cause)
  | .queue cause => some (isTransient cause)
  | .storage cause => some (isTransient cause)
  | .check cause => some (isTransient cause)
  | .worker _ | .settings _ | .inconsistent .. | .handlerDied _ => none

instance : Coe StoreError AgentError := ⟨.store⟩
instance : Coe QueueError AgentError := ⟨.queue⟩
instance : Coe StorageError AgentError := ⟨.storage⟩
instance : Coe WorkerError AgentError := ⟨.worker⟩
instance : Coe CheckError AgentError := ⟨.check⟩
instance : Coe SettingsError AgentError := ⟨.settings⟩

end GridAgent
