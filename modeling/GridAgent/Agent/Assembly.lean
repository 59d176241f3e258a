import GridAgent.Health.Monitor
import GridAgent.Settings

/-!
# Assembling an agent

An agent is assembled from its settings and its parts. The settings are checked first; then every
part that is missing and has no default is named.
-/

namespace GridAgent.Agent

/-- A part of an agent. -/
inductive Part where
  | taskStore
  | sessionStore
  | processingChecker
  | queues
  | objectStorage
  | worker
  | resultFinalizer
  | clock
  | idGenerator
  deriving DecidableEq, Repr

namespace Part

/-- Every part. -/
def all : List Part :=
  [taskStore, sessionStore, processingChecker, queues, objectStorage, worker, resultFinalizer,
    clock, idGenerator]

/-- The parts that have no default, in the order in which they are missed. -/
def necessary : List Part :=
  [taskStore, sessionStore, processingChecker, queues, objectStorage, worker, resultFinalizer]

/-- The written name. -/
def name : Part → String
  | taskStore => "task_store"
  | sessionStore => "session_store"
  | processingChecker => "processing_checker"
  | queues => "queues"
  | objectStorage => "object_storage"
  | worker => "worker"
  | resultFinalizer => "result_finalizer"
  | clock => "clock"
  | idGenerator => "id_generator"

/-- The part with a given name. -/
def ofName? (s : String) : Option Part := all.find? (·.name = s)

end Part

/-- Why an agent cannot be assembled. -/
inductive AssemblyError where
  /-- Something is wrong with the settings. -/
  | settings (cause : SettingsError)
  /-- Parts are missing. -/
  | missing (parts : List Part)

/-- The wording of an assembly error. -/
def AssemblyError.message : AssemblyError → String
  | .settings cause => cause.message
  | .missing parts => "missing collaborators: " ++ Text.Quoted.encodeList (parts.map Part.name)

/-- Assembles an agent; answers its health monitor. -/
def assemble (s : Settings) (given : List Part) : Except AssemblyError HealthMonitor :=
  match s.validate with
  | .error cause => .error (.settings cause)
  | .ok () =>
    let missing := Part.necessary.filter fun part => !given.contains part
    if missing.isEmpty then .ok { budget := s.maxErrors } else .error (.missing missing)

end GridAgent.Agent
