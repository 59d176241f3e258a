import GridAgent.Agent.Handler
import GridAgent.Proofs.Cluster.Tolerance

/-!
# A handler persists

Every call to the store that a handler makes itself is tried again while the store is out of reach.
Where the calls of the finalizer are sheltered, everything that is done for a message ends as though
no call had been refused, from the smallest step to the whole.
-/

namespace GridAgent.Cluster

open Agent Acquisition

/-- No call of the finalizer is refused. -/
def Surroundings.Shelters (σ : Surroundings) : Prop :=
  ∀ request, σ.exposes (.finalizer request) = false

/-- However calls to the store are refused, if never as often in a row as each is tried, the program
ends as though none were. -/
abbrev Persists (σ : Surroundings) (s : Settings) {ε α : Type} (p : Fallible ε α) : Prop :=
  WithstandsOr σ s.retryMaxAttempts p

section
variable {σ : Surroundings} {s : Settings} {attempts : Nat} {t : TaskRecord} {task : TaskId}
  {run : RunId}

/-- A request that is made once and does not go to the store. -/
theorem withstands_elsewhere {request : Request}
    (own : agentCall request = .call (.agent request) .done)
    (elsewhere : (Operation.agent request).refusal? = none) :
    Withstands σ attempts (ask request) := by
  refine withstands_ask ?_
  rw [own]
  exact tolerates_call (.inl elsewhere)

theorem withstands_now : Withstands σ attempts Call.now := withstands_elsewhere rfl rfl

theorem withstands_shutdownRequested : Withstands σ attempts Call.shutdownRequested :=
  withstands_elsewhere rfl rfl

theorem withstands_stopRequested (run : RunId) : Withstands σ attempts (Call.stopRequested run) :=
  withstands_elsewhere rfl rfl

theorem withstands_hangUp (stream : StreamId) : Withstands σ attempts (Call.hangUp stream) :=
  withstands_elsewhere rfl rfl

/-! Calls to the store are tried again. -/

theorem persists_readTask : Persists σ s (readTask s task) :=
  withstands_tried (isTry_call (.agent (.readTask task)) rfl)

theorem persists_readSession (session : SessionId) : Persists σ s (readSession s session) :=
  withstands_tried (isTry_call (.agent (.readSession session)) rfl)

theorem persists_updateTask (expected : Expectation) (change : TaskUpdate) :
    Persists σ s (updateTask s task expected change) :=
  withstands_tried (isTry_call (.agent (.updateTask task expected change)) rfl)

theorem persists_createSuccessor (parent candidate : TaskRecord) :
    Persists σ s (createSuccessor s parent candidate) :=
  withstands_tried (isTry_call (.agent (.createSuccessor parent candidate)) rfl)

theorem persists_findSuccessor : Persists σ s (findSuccessor s task) :=
  withstands_tried (isTry_call (.agent (.findSuccessor task)) rfl)

theorem persists_isAlive (owner : PodId) : Persists σ s (isAlive s t owner) :=
  WithstandsOr.retried (withstands_elsewhere rfl rfl)

theorem persists_push (tasks : List TaskId) : Persists σ s (push s tasks) :=
  WithstandsOr.retried (withstands_elsewhere rfl rfl)

theorem persists_fetch (data : DataId) : Persists σ s (fetch s data) :=
  WithstandsOr.retried (withstands_elsewhere rfl rfl)

/-- The way results are given up where the finalizer is sheltered. -/
theorem Surroundings.Shelters.abandonResults {ε : Type} (h : σ.Shelters) (task : TaskId) :
    Persists σ s (abandonResults task : Fallible ε Unit) := by
  refine Withstands.andThen (withstands_ask ?_) fun _ => withstands_done _
  exact tolerates_finalizerCalls h _

theorem Surroundings.Shelters.finalize (h : σ.Shelters) (task : TaskId) :
    Persists σ s (Call.finalize task) := by
  exact withstands_ask (tolerates_finalizerCalls h _)

/-! Succession. -/

theorem persists_submitSuccessor (successor : TaskRecord) :
    Persists σ s (submitSuccessor s successor) := by
  unfold submitSuccessor
  split
  · exact withstands_done _
  · refine withstands_now.andThen fun now => ?_
    refine (persists_updateTask _ _).attempted fun outcome => ?_
    rcases outcome with (_ | lost | _) | submitted
    · exact withstands_done _
    · exact withstands_done _
    · exact withstands_done _
    · exact (persists_push _).orFail.andThen fun _ => withstands_done _

theorem persists_ensureSuccessor (parent : TaskRecord) :
    Persists σ s (ensureSuccessor s parent) := by
  unfold ensureSuccessor
  refine (withstands_elsewhere rfl rfl : Withstands σ _ Call.newTaskId).andThen fun id => ?_
  refine withstands_now.andThen fun now => ?_
  exact (persists_createSuccessor _ _).orFail.andThen persists_submitSuccessor

theorem Surroundings.Shelters.retryTask (h : σ.Shelters) (t : TaskRecord) (expected : Expectation)
    (reason : String) : Persists σ s (retryTask s t expected reason) := by
  unfold Agent.retryTask
  refine withstands_now.andThen fun now => ?_
  refine (persists_updateTask _ _).orFail.andThen fun stored => ?_
  cases RetryPlan.ofTask t with
  | exhausted => exact (h.abandonResults t.id).andThen fun _ => withstands_done _
  | retry => exact (persists_ensureSuccessor _).andThen fun _ => withstands_done _

/-! Acquisition. -/

theorem persists_repairLineage (t : TaskRecord) : Persists σ s (repairLineage s t) := by
  unfold repairLineage
  refine persists_findSuccessor.orFail.andThen fun found => ?_
  cases found with
  | none => exact (persists_ensureSuccessor t).andThen fun _ => withstands_done _
  | some successor =>
    simp only
    split
    · exact (persists_submitSuccessor successor).andThen fun _ => withstands_done _
    all_goals exact withstands_done _

theorem Surroundings.Shelters.makeTransition (h : σ.Shelters) (t : TaskRecord) (now : Date)
    (transition : Transition) : Persists σ s (makeTransition s t now transition) := by
  cases transition with
  | none => exact withstands_done _
  | claim => exact (persists_updateTask _ _).mapped.orFail
  | resetToSubmitted owner => exact (persists_updateTask _ _).mapped.orFail
  | retryAbandoned owner => exact (h.retryTask t _ _).mapped
  | finishCancellation =>
    refine (persists_updateTask _ _).orFail.andThen fun cancelled => ?_
    exact (h.abandonResults t.id).andThen fun _ => withstands_done _

theorem Surroundings.Shelters.carryOut (h : σ.Shelters) (t : TaskRecord) (d : Decision) :
    Persists σ s (carryOut s t d) := by
  unfold Agent.carryOut
  refine withstands_now.andThen fun now => ?_
  refine (h.makeTransition t now d.transition).andThen fun updated => ?_
  cases updated with
  | some updated => exact withstands_done _
  | none =>
    simp only
    split
    · exact (persists_repairLineage t).andThen fun _ => withstands_done _
    · exact withstands_done _

theorem persists_readSituation (task : TaskId) : Persists σ s (readSituation s task) := by
  unfold readSituation
  refine persists_readTask.orFail.andThen fun record => ?_
  cases record with
  | none =>
    refine WithstandsOr.andThen (withstands_done _) fun found => ?_
    refine withstands_now.andThen fun now => ?_
    exact withstands_shutdownRequested.andThen fun shutdown => withstands_done _
  | some t =>
    refine (persists_readSession t.session).orFail.andThen fun found => ?_
    refine withstands_now.andThen fun now => ?_
    exact withstands_shutdownRequested.andThen fun shutdown => withstands_done _

theorem persists_reachDecision (task : TaskId) (situation : Situation) :
    Persists σ s (reachDecision s task situation) := by
  unfold reachDecision
  split
  · exact withstands_done _
  · split
    · exact withstands_done _
    · refine (persists_isAlive _).orFail.andThen fun alive => ?_
      split <;> exact withstands_done _

theorem Surroundings.Shelters.acquireOnce (h : σ.Shelters) (task : TaskId) :
    Persists σ s (acquireOnce s task) := by
  unfold Agent.acquireOnce
  refine (persists_readSituation task).andThen fun situation => ?_
  refine (persists_reachDecision task situation).andThen fun decision => ?_
  cases situation.task with
  | none => exact withstands_done _
  | some t =>
    refine (h.carryOut t decision).attempted fun outcome => ?_
    rcases outcome with cause | acquired
    · split <;> exact withstands_done _
    · exact withstands_done _

theorem Surroundings.Shelters.acquireWithin (h : σ.Shelters) (task : TaskId) (left : Nat) :
    Persists σ s (acquireWithin s task left) := by
  induction left with
  | zero =>
    refine (h.acquireOnce task).andThen fun outcome => ?_
    cases outcome <;> exact withstands_done _
  | succ left ih =>
    refine (h.acquireOnce task).andThen fun outcome => ?_
    cases outcome with
    | ok acquired => exact withstands_done _
    | error lost => exact ih

/-! Attempts. -/

theorem persists_transition (expected : Expectation) (change : TaskUpdate) :
    Persists σ s (transition s task expected change) := by
  refine (persists_updateTask _ _).attempted fun outcome => ?_
  rcases outcome with (_ | lost | _) | updated <;> exact withstands_done _

theorem Surroundings.Shelters.finishCancellation (h : σ.Shelters) (task : TaskId) :
    Persists σ s (finishCancellation s task) := by
  unfold Agent.finishCancellation
  refine withstands_now.andThen fun now => ?_
  refine (persists_transition _ _).andThen fun outcome => ?_
  cases outcome with
  | ok updated => exact (h.abandonResults task).andThen fun _ => withstands_done _
  | error lost =>
    simp only
    split
    · exact (h.abandonResults task).andThen fun _ => withstands_done _
    · exact withstands_done _

theorem Surroundings.Shelters.onLostUpdate (h : σ.Shelters) (task : TaskId) (lost : LostUpdate) :
    Persists σ s (onLostUpdate s task lost) := by
  unfold Agent.onLostUpdate
  split
  · exact h.finishCancellation task
  · exact withstands_done _

theorem Surroundings.Shelters.release (h : σ.Shelters) (task : TaskId) (expected : Expectation) :
    Persists σ s (release s task expected) := by
  unfold Agent.release
  refine withstands_now.andThen fun now => ?_
  refine (persists_transition _ _).andThen fun outcome => ?_
  cases outcome with
  | ok updated => exact withstands_done _
  | error lost => exact h.onLostUpdate task lost

theorem Surroundings.Shelters.finishWithout (h : σ.Shelters) (task : TaskId)
    (expected : Expectation) (status : TaskStatus) (output : Output) :
    Persists σ s (finishWithout s task expected status output) := by
  unfold Agent.finishWithout
  refine withstands_now.andThen fun now => ?_
  refine (persists_transition _ _).andThen fun outcome => ?_
  cases outcome with
  | ok updated => exact (h.abandonResults task).andThen fun _ => withstands_done _
  | error lost => exact h.onLostUpdate task lost

theorem Surroundings.Shelters.retryAttempt (h : σ.Shelters) (t : TaskRecord)
    (expected : Expectation) (reason : String) (disposition : Disposition) :
    Persists σ s (retryAttempt s t expected reason disposition) := by
  refine (h.retryTask t expected reason).attempted fun outcome => ?_
  rcases outcome with cause | updated
  · split
    · exact withstands_done _
    · exact h.onLostUpdate t.id _
    · exact withstands_done _
  · exact withstands_done _

theorem Surroundings.Shelters.onWorkerFailure (h : σ.Shelters) (t : TaskRecord) (run : RunId)
    (cause : WorkerError) : Persists σ s (onWorkerFailure s t run cause) := by
  unfold Agent.onWorkerFailure
  refine (withstands_stopRequested run).andThen fun stopped => ?_
  split
  · exact h.finishCancellation t.id
  · refine withstands_shutdownRequested.andThen fun shutdown => ?_
    have retried : Persists σ s (do
        let resolution ← Agent.retryAttempt s t (heldBy s.podId) cause.message .cancelled
        return resolution.withFault cause.message) :=
      (h.retryAttempt t _ _ _).andThen fun _ => withstands_done _
    split
    · refine (withstands_elsewhere rfl rfl : Withstands σ _ Call.probeLiveness).andThen ?_
      intro health
      split
      · exact h.release t.id _
      · exact retried
    · exact retried

theorem Surroundings.Shelters.complete (h : σ.Shelters) (task : TaskId) (output : Output) :
    Persists σ s (complete s task output) := by
  unfold Agent.complete
  refine withstands_now.andThen fun now => ?_
  refine (persists_transition _ _).andThen fun outcome => ?_
  cases outcome with
  | error lost => exact h.onLostUpdate task lost
  | ok updated =>
    refine (h.finalize task).attempted fun settled => ?_
    cases settled <;> exact withstands_done _

theorem Surroundings.Shelters.recordOutput (h : σ.Shelters) (t : TaskRecord) (run : RunId)
    (output : Output) : Persists σ s (recordOutput s t run output) := by
  unfold Agent.recordOutput
  split
  · exact h.complete t.id output
  · exact h.finishWithout t.id _ _ _
  · refine (withstands_stopRequested run).andThen fun stopped => ?_
    split
    · exact h.finishCancellation t.id
    · exact h.retryAttempt t _ _ _

/-! The worker. -/

theorem persists_sendAll (run : RunId) (stream : StreamId) (requests : List WorkRequest) :
    Persists σ s (sendAll run stream requests) := by
  induction requests with
  | nil => exact withstands_done _
  | cons request rest ih =>
    exact WithstandsOr.andThen (withstands_elsewhere rfl rfl) fun _ => ih

theorem persists_exchange (run : RunId) (stream : StreamId) (requests : List WorkRequest) :
    Persists σ s (exchange run stream requests) := by
  refine (persists_sendAll run stream requests).andThen fun _ => ?_
  exact WithstandsOr.andThen (withstands_elsewhere rfl rfl) fun _ => withstands_elsewhere rfl rfl

theorem persists_callDeadline (t : TaskRecord) (run : RunId) (now : Date) :
    Persists σ s (callDeadline t run now) := by
  unfold callDeadline
  split
  · exact withstands_done _
  · split
    · exact withstands_done _
    · split
      · exact withstands_done _
      · exact (withstands_elsewhere rfl rfl : Withstands σ _ (Call.breakOff run)).andThen nofun

theorem Surroundings.Shelters.callWorker (h : σ.Shelters) (t : TaskRecord) (run : RunId)
    (stream : StreamId) (requests : List WorkRequest) :
    Persists σ s (callWorker s t run stream requests) := by
  unfold Agent.callWorker
  refine withstands_now.andThen fun now => ?_
  refine (persists_transition _ _).attempted fun outcome => ?_
  rcases outcome with cause | lost | stored
  · exact (withstands_hangUp stream).andThen fun _ => withstands_done _
  · refine (h.onLostUpdate t.id lost).attempted fun ended => ?_
    exact (withstands_hangUp stream).andThen fun _ => withstandsOr_resume ended
  · refine (persists_exchange run stream requests).attempted fun reply => ?_
    refine (withstands_hangUp stream).andThen fun _ => ?_
    cases reply with
    | ok output => exact h.recordOutput _ run output
    | error cause => exact h.onWorkerFailure _ run cause

theorem Surroundings.Shelters.reachWorker (h : σ.Shelters) (t : TaskRecord) (run : RunId)
    (requests : List WorkRequest) : Persists σ s (reachWorker s t run requests) := by
  unfold Agent.reachWorker
  refine withstands_now.andThen fun now => ?_
  refine (persists_callDeadline t run now).andThen fun deadline => ?_
  have connected : Persists σ s (Call.connect run t.id deadline) := withstands_elsewhere rfl rfl
  refine connected.attempted fun outcome => ?_
  rcases outcome with (reason | _ | _) | stream
  · refine (withstands_stopRequested run).andThen fun stopped => ?_
    split
    · exact h.onWorkerFailure t run _
    · exact h.release t.id _
  · exact h.onWorkerFailure t run _
  · exact h.onWorkerFailure t run _
  · exact h.callWorker t run stream requests

theorem Surroundings.Shelters.runWorker (h : σ.Shelters) (t : TaskRecord) (run : RunId)
    (requests : List WorkRequest) : Persists σ s (runWorker s t run requests) := by
  unfold Agent.runWorker
  refine withstands_shutdownRequested.andThen fun shutdown => ?_
  refine (withstands_stopRequested run).andThen fun stopped => ?_
  split
  · exact h.release t.id _
  · refine (withstands_elsewhere rfl rfl : Withstands σ _ (Call.beginWatch run)).andThen fun _ => ?_
    refine (h.reachWorker t run requests).attempted fun outcome => ?_
    refine (withstands_elsewhere rfl rfl : Withstands σ _ (Call.endWatch run)).andThen fun _ => ?_
    exact withstandsOr_resume outcome

/-! Executions. -/

theorem persists_prefetchAll (needed : List DataId) : Persists σ s (prefetchAll s task needed) := by
  induction needed with
  | nil => exact withstands_done _
  | cons data rest ih =>
    have one : Persists σ s (prefetchObject s task data) := by
      refine (persists_fetch data).andThen fun bytes => ?_
      exact WithstandsOr.andThen (withstands_elsewhere rfl rfl) fun _ => withstands_done _
    exact one.andThen fun _ => ih.andThen fun _ => withstands_done _

theorem persists_prefetch (t : TaskRecord) : Persists σ s (prefetch s t) := by
  refine WithstandsOr.andThen (withstands_elsewhere rfl rfl) fun _ => ?_
  exact (persists_prefetchAll _).andThen fun _ => withstands_done _

theorem Surroundings.Shelters.execute (h : σ.Shelters) (t : TaskRecord) (run : RunId) :
    Persists σ s (execute s t run) := by
  unfold Agent.execute
  refine withstands_shutdownRequested.andThen fun shutdown => ?_
  split
  · exact h.release t.id _
  · refine (persists_prefetch t).attempted fun outcome => ?_
    rcases outcome with (data | _ | _) | requests
    · exact h.finishWithout t.id _ _ _
    · exact (h.retryAttempt t _ _ _).andThen fun _ => withstands_done _
    · exact (h.retryAttempt t _ _ _).andThen fun _ => withstands_done _
    · exact h.runWorker t run requests

theorem persists_dispose (message : DeliveryId) (disposition : Disposition) :
    Persists σ s (dispose message disposition) :=
  WithstandsOr.orFail (withstands_elsewhere rfl rfl)

theorem Surroundings.Shelters.executeRegistered (h : σ.Shelters) (message : DeliveryId)
    (report : HandlerReport) (t : TaskRecord) :
    Persists σ s (executeRegistered s message report t) := by
  have registered : Withstands σ s.retryMaxAttempts (Call.register report.task) :=
    withstands_elsewhere rfl rfl
  refine registered.andThen fun registration => ?_
  cases registration with
  | none => exact (persists_dispose message _).andThen fun _ => withstands_done _
  | some run =>
    refine (h.execute t run).attempted fun outcome => ?_
    refine (withstands_elsewhere rfl rfl : Withstands σ _ (Call.unregister run)).andThen fun _ => ?_
    have cleared : Withstands σ s.retryMaxAttempts (Call.clearScratch report.task) :=
      withstands_elsewhere rfl rfl
    refine cleared.andThen fun _ => ?_
    refine (withstandsOr_resume outcome).andThen fun resolution => ?_
    exact (persists_dispose message _).andThen fun _ => withstands_done _

/-! Handling. -/

theorem Surroundings.Shelters.process (h : σ.Shelters) (message : DeliveryId) (task : TaskId) :
    Persists σ s (process s message task) := by
  unfold Agent.process
  refine (h.acquireWithin task _).andThen fun acquired => ?_
  simp only
  split
  · exact h.executeRegistered message _ _
  · exact (persists_dispose message _).andThen fun _ => withstands_done _

/-- Everything that is done for a message ends as though no call had been refused. -/
theorem Surroundings.Shelters.handleMessage (h : σ.Shelters) (message : DeliveryId)
    (task : TaskId) : Persists σ s (handleMessage s message task) := by
  refine (h.process message task).attempted fun outcome => ?_
  have settled : WithstandsOr σ s.retryMaxAttempts (Call.settle message) :=
    withstands_elsewhere rfl rfl
  refine settled.attempted fun settlement => ?_
  refine (withstandsOr_resume outcome).andThen fun report => ?_
  cases settlement <;> exact withstands_done _

end

end GridAgent.Cluster
