import GridAgent.Json.Fields
import GridAgent.Settings

/-!
# Settings in JSON

Every setting may be missing and then has its default; none may be null. The name of the pod for
people does not follow a given pod.
-/

namespace GridAgent.Settings

/-- The fields in order. -/
def fieldNames : List String :=
  ["pod_id", "pod_name", "slots", "pull_batch_size", "pull_idle_backoff_ms", "dispatch_timeout_ms",
    "grace_delay_ms", "cancellation_poll_interval_ms", "max_error_allowed",
    "max_acquisition_rounds", "infra_retry_base_delay_ms", "infra_retry_multiplier",
    "infra_retry_max_attempts", "scratch_root"]

/-- Reads settings on top of defaults. -/
def ofJson? (d : Settings) (j : Json) : Option Settings := do
  let f ← j.fields? fieldNames 0
  let pod ← f.withDefault Json.text? d.podId.name "pod_id"
  return {
    podId := ⟨pod⟩
    podName := ← f.withDefault Json.text? d.podName "pod_name"
    slots := ← f.withDefault (Json.natOfBits? 64) d.slots "slots"
    pullBatchSize := ← f.withDefault (Json.natOfBits? 64) d.pullBatchSize "pull_batch_size"
    pullIdleMillis := ← f.withDefault (Json.natOfBits? 64) d.pullIdleMillis "pull_idle_backoff_ms"
    dispatchTimeoutMillis :=
      ← f.withDefault (Json.natOfBits? 64) d.dispatchTimeoutMillis "dispatch_timeout_ms"
    graceMillis := ← f.withDefault (Json.natOfBits? 64) d.graceMillis "grace_delay_ms"
    cancellationPollMillis :=
      ← f.withDefault (Json.natOfBits? 64) d.cancellationPollMillis "cancellation_poll_interval_ms"
    maxErrors :=
      ← f.withDefault (Json.intIn? (-Nat.pow 2 63) (Nat.pow 2 63 - 1)) d.maxErrors
        "max_error_allowed"
    maxRounds := ← f.withDefault (Json.natOfBits? 32) d.maxRounds "max_acquisition_rounds"
    retryBaseMillis :=
      ← f.withDefault (Json.natOfBits? 64) d.retryBaseMillis "infra_retry_base_delay_ms"
    retryMultiplier := ← f.withDefault Json.number? d.retryMultiplier "infra_retry_multiplier"
    retryMaxAttempts :=
      ← f.withDefault (Json.natOfBits? 32) d.retryMaxAttempts "infra_retry_max_attempts"
    scratchRoot := ← f.withDefault Json.text? d.scratchRoot "scratch_root" }

end GridAgent.Settings
