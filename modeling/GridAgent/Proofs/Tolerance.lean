import GridAgent.Proofs.Handler.Persisting

/-!
# Hiccups of the store

A message is handled while nobody else does anything. However the store refuses the calls that the
handler makes itself, if never as often in a row as a call is tried, the handler reports the same as
though no call had been refused, and leaves the same records, data and messages behind.

The calls that the finalizer makes are not tried again. A single refusal there, after the task has
been completed, and whatever waits for the results waits for ever.
-/

namespace GridAgent.Cluster

open Agent Surroundings

variable {σ : Surroundings} {s : Settings} {w : Scene}

/-- What is left of a run once it has ended: its value, and everything shared. -/
def ending {α : Type} : α × Scene → α × Shared := Prod.map id Scene.shared

/-- However the calls of a handler to the store are refused, if never as often in a row as a call is
tried, and no call of the finalizer is, it ends as though none had been refused: it reports the same,
and the records, the data that is available or given up and the messages are the same. -/
theorem handler_tolerates_refusals (sheltered : σ.Shelters)
    (bearable : w.Bearable s.retryMaxAttempts) (message : DeliveryId) (task : TaskId) :
    (σ.solo ((Job.handle message task).program s) w).map ending =
      (σ.solo ((Job.handle message task).program s) w.calmed).map ending := by
  have same : (σ.solo ((Job.handle message task).program s) w).map calmedEnd =
      σ.solo ((Job.handle message task).program s) w.calmed :=
    sheltered.handleMessage message task w bearable
  rw [← same, Option.map_map]
  rfl

/-! A task that another one waits for. -/

/-- A submitted task that produces a data object. -/
def producingTask : TaskRecord := { plainTask with outputs := [.ofNat 5] }

/-- A task in creation that needs what the other one produces. -/
def waitingTask : TaskRecord :=
  { TaskRecord.first (.ofNat 2) (.ofNat 1) (.ofNat 1) {} morning with
    dependencies := .ofList [.ofNat 5]
    remaining := .ofList [.ofNat 5] }

/-- Both are stored, an agent has the message about the first one, and some calls are refused. -/
def producingScene (refusals : Nat → Option String) : Scene where
  shared :=
    { store := (({} : Store).insert producingTask).insert waitingTask
      queue := (({} : Queue).deliver producingTask.id).2 }
  refusals := refusals

/-- Surroundings in which nothing else goes wrong. -/
def plainSurroundings (exposes : Operation → Bool) : Surroundings where
  pod := ⟨"first"⟩
  replies _ := plainly morning
  exposes := exposes
  reads_sessions := nofun

/-- The handler of the message. -/
def producing : Program operations (Except AgentError HandlerReport) :=
  (Job.handle 1 producingTask.id).program (plainFleet.settings ⟨"first"⟩)

/-- What is seen of the end of the handler: the status and the fault it reports, the status of the
waiting task, and the visible messages. -/
def sight : Except AgentError HandlerReport × Shared →
    Option (Option TaskStatus × Option String) × Option TaskStatus × List TaskId
  | (result, shared) =>
    ((match result with
      | .ok report => some (report.status, report.fault)
      | .error _ => none),
      (shared.store.get? waitingTask.id).map TaskRecord.status, shared.queue.ready)

/-- Every call of a handler can be refused, and none of a finalizer. -/
def ofHandlers : Operation → Bool
  | .agent _ => true
  | .finalizer _ => false

/-- Four of five calls to the store are refused. -/
def often (k : Nat) : Option String := if k % 5 = 4 then none else some injected

/-- The sixth call to the store is refused, which is the first one of the finalizer. -/
def once (k : Nat) : Option String := if k = 5 then some injected else none

theorem often_bearable :
    (producingScene often).Bearable (plainFleet.settings ⟨"first"⟩).retryMaxAttempts where
  healthy := rfl
  spared k := by
    refine ⟨4 - k % 5, show 4 - k % 5 < 5 by omega, ?_⟩
    show (if (k + (4 - k % 5)) % 5 = 4 then none else some injected) = none
    rw [if_pos (by omega)]

theorem once_bearable :
    (producingScene once).Bearable (plainFleet.settings ⟨"first"⟩).retryMaxAttempts where
  healthy := rfl
  spared k := by
    by_cases h : k = 5
    · exact ⟨1, show 1 < 5 by omega, by rw [h]; rfl⟩
    · exact ⟨0, show 0 < 5 by omega, if_neg h⟩

/-- With four of five calls of the handler refused the task is completed without a fault, and what
waits for its result is submitted and pushed. -/
theorem handler_tolerates_refusals_often :
    (((plainSurroundings ofHandlers).solo producing (producingScene often)).map ending).map sight =
      some (some (some .completed, none), some .submitted, [waitingTask.id]) := by
  have calm : ((plainSurroundings ofHandlers).solo producing (producingScene often)).map ending =
      ((plainSurroundings ofHandlers).solo producing (producingScene often).calmed).map ending :=
    handler_tolerates_refusals (fun _ => rfl) often_bearable 1 producingTask.id
  rw [calm]
  decide +kernel

/-- A single refusal is not tolerated where it meets the finalizer: the handler reports a fault, and
the task that waits for the result stays in creation, where without the refusal it is pushed. -/
theorem not_always_tolerated :
    ∃ (σ : Surroundings) (w : Scene),
      w.Bearable (plainFleet.settings ⟨"first"⟩).retryMaxAttempts ∧
      2 ≤ (plainFleet.settings ⟨"first"⟩).retryMaxAttempts ∧
      (σ.solo producing w).map ending ≠ (σ.solo producing w.calmed).map ending ∧
      ((σ.solo producing w).map ending).map sight =
        some (some (some .completed, some "store unavailable: injected failure"),
          some .creating, []) ∧
      ((σ.solo producing w.calmed).map ending).map sight =
        some (some (some .completed, none), some .submitted, [waitingTask.id]) := by
  have refused : (((plainSurroundings fun _ => true).solo producing
      (producingScene once)).map ending).map sight =
        some (some (some .completed, some "store unavailable: injected failure"),
          some .creating, []) := by decide +kernel
  have calm : (((plainSurroundings fun _ => true).solo producing
      (producingScene once).calmed).map ending).map sight =
        some (some (some .completed, none), some .submitted, [waitingTask.id]) := by decide +kernel
  refine ⟨_, _, once_bearable, by decide, fun same => ?_, refused, calm⟩
  rw [same, calm] at refused
  exact absurd refused (by decide)

end GridAgent.Cluster
