import GridAgent.Backoff
import GridAgent.Error

/-!
# Settings of an agent

Durations are kept in whole milliseconds. `validate` finds the first thing that is wrong: a pod
without a name, a count that must be positive, or a retry multiplier that is not finite or below
one.
-/

namespace GridAgent

/-- Settings of an agent. -/
structure Settings where
  /-- Identity of the agent's pod. -/
  podId : PodId
  /-- Name of the pod for people. -/
  podName : String
  /-- Tasks executed at the same time. -/
  slots : Nat := 1
  /-- Messages asked for in one pull. -/
  pullBatchSize : Nat := 1
  /-- Pause after an empty or failed pull. -/
  pullIdleMillis : Nat := 200
  /-- How long another agent may hold a claim before its liveness is questioned. -/
  dispatchTimeoutMillis : Nat := 300000
  /-- Delay between a cancellation request and the hard abort. -/
  graceMillis : Nat := 15000
  /-- Pause between two looks at the store for a cancellation. -/
  cancellationPollMillis : Nat := 1000
  /-- Failures in a row that are tolerated; negative for any number. -/
  maxErrors : Int := 5
  /-- Rounds of reading and deciding for one message. -/
  maxRounds : Nat := 3
  /-- Wait after the first transient failure. -/
  retryBaseMillis : Nat := 100
  /-- Factor from each wait to the next. -/
  retryMultiplier : Float := 2.0
  /-- Attempts at an infrastructure call. -/
  retryMaxAttempts : Nat := 5
  /-- Directory under which each task has its scratch directory. -/
  scratchRoot : String

namespace Settings

/-- The defaults for a pod that was given a name at random. -/
def defaults (generatedPod scratchRoot : String) : Settings :=
  { podId := ⟨generatedPod⟩, podName := generatedPod, scratchRoot }

/-- A number that is finite and at least one. -/
def isGrowth (x : Float) : Bool := x.isFinite && 1.0 ≤ x

/-- The first thing that is wrong with the settings. -/
def validate (s : Settings) : Except SettingsError Unit :=
  if s.podId.name.isEmpty then .error .emptyPodId
  else if s.slots < 1 then .error (.zero "slots")
  else if s.pullBatchSize < 1 then .error (.zero "pull_batch_size")
  else if s.maxRounds < 1 then .error (.zero "max_acquisition_rounds")
  else if s.retryMaxAttempts < 1 then .error (.zero "infra_retry_max_attempts")
  else if isGrowth s.retryMultiplier then .ok ()
  else .error (.multiplier s.retryMultiplier)

/-- How infrastructure calls are tried again. -/
def retryPolicy (s : Settings) : RetryPolicy :=
  ⟨.ofMillis s.retryBaseMillis, s.retryMultiplier, s.retryMaxAttempts⟩

/-- How long another agent may hold a claim before its liveness is questioned. -/
def dispatchTimeout (s : Settings) : Span := .ofMillis s.dispatchTimeoutMillis

/-- Whole milliseconds of a span as they are kept: 64 bits, the rest dropped. -/
def keptMillis (d : Span) : Nat := d.millis % Nat.pow 2 64

/-- One change of the settings. -/
inductive Change where
  /-- Sets the pod, and its name for people with it. -/
  | podId (pod : PodId)
  | podName (name : String)
  | slots (n : Nat)
  | pullBatchSize (n : Nat)
  | pullIdle (d : Span)
  | dispatchTimeout (d : Span)
  | grace (d : Span)
  | cancellationPoll (d : Span)
  | maxErrors (n : Int)
  | maxRounds (n : Nat)
  | retryPolicy (p : RetryPolicy)
  | scratchRoot (path : String)

/-- Makes one change. -/
def change (s : Settings) : Change → Settings
  | .podId pod => { s with podId := pod, podName := pod.name }
  | .podName name => { s with podName := name }
  | .slots n => { s with slots := n }
  | .pullBatchSize n => { s with pullBatchSize := n }
  | .pullIdle d => { s with pullIdleMillis := keptMillis d }
  | .dispatchTimeout d => { s with dispatchTimeoutMillis := keptMillis d }
  | .grace d => { s with graceMillis := keptMillis d }
  | .cancellationPoll d => { s with cancellationPollMillis := keptMillis d }
  | .maxErrors n => { s with maxErrors := n }
  | .maxRounds n => { s with maxRounds := n }
  | .retryPolicy p =>
    { s with
      retryBaseMillis := keptMillis p.base
      retryMultiplier := p.multiplier
      retryMaxAttempts := p.maxAttempts }
  | .scratchRoot path => { s with scratchRoot := path }

/-- Makes a list of changes and checks the outcome. -/
def build (start : Settings) (changes : List Change) : Except SettingsError Settings :=
  let s := changes.foldl change start
  s.validate.map fun _ => s

end Settings

end GridAgent
