import GridAgent.Agent.Handler
import GridAgent.Proofs.Handler.Succession

/-!
# The books while a task is executed

An execution asks only for updates that its stage allows, talks to the worker only after it has
marked the task as started, and ends with a disposition under which its message may be settled: the
message comes back, or the task is closed, or a cancellation was lost because the task had been taken
away.
-/

namespace GridAgent.Cluster

open Agent Program Track

variable {pod : PodId} {job : Job} {k : Track} {s : Settings} {run : RunId}

namespace Track

/-- The execution is registered, and the worker is not being called. -/
def IdlesIn (run : RunId) (k : Track) : Prop := k.stage = .executing run ∨ k.stage = .answered run

/-- The execution may still change the task. -/
structure Executes (run : RunId) (k : Track) : Prop where
  /-- The worker is not being called. -/
  idle : k.IdlesIn run
  /-- Nothing is owed. -/
  owed : k.owed = []
  /-- The task may still be changed. -/
  free : k.Free
  /-- The task was this agent's to execute. -/
  attached : k.attached = true

/-- An attempt has ended in the stage in which it was. -/
structure Ended (k k' : Track) : Prop where
  /-- The stage is the same. -/
  stage : k'.stage = k.stage
  /-- The stream is the same. -/
  stream : k'.stream = k.stream
  /-- Nothing is owed. -/
  owed : k'.owed = []
  /-- Nothing is decided on the message. -/
  disposed : k'.disposed = none
  /-- The message is not settled. -/
  settled : k'.settled = false

/-- An attempt has ended with a resolution under which its message may be settled. -/
def Resolved (k : Track) (resolution : Resolution) (k' : Track) : Prop :=
  k.Ended k' ∧ k'.Allows resolution.disposition

/-- An attempt is over, wherever it was. -/
structure Over (run : RunId) (k : Track) : Prop where
  /-- The worker is not being called. -/
  idle : k.IdlesIn run
  /-- Nothing is owed. -/
  owed : k.owed = []
  /-- Nothing is decided on the message. -/
  disposed : k.disposed = none
  /-- The message is not settled. -/
  settled : k.settled = false

/-- An attempt is over with a resolution under which its message may be settled. -/
def ResolvedIn (run : RunId) (resolution : Resolution) (k : Track) : Prop :=
  k.Over run ∧ k.Allows resolution.disposition

theorem Executes.isIdle (h : k.Executes run) : k.IsIdle := ⟨run, h.idle⟩

theorem Executes.ended (h : k.Executes run) : k.Ended k :=
  ⟨rfl, rfl, h.owed, h.free.disposed, h.free.settled⟩

/-- An update that does not start the execution leaves it in its stage. -/
theorem Executes.ended_wrote (h : k.Executes run) {status : TaskStatus} (hs : status ≠ .processing) :
    k.Ended (k.wrote status) :=
  ⟨wrote_stage k status hs, wrote_stream k status, (wrote_owed k status).trans h.owed,
    (wrote_disposed k status).trans h.free.disposed,
    (wrote_settled k status).trans h.free.settled⟩

theorem Executes.ended_lost (h : k.Executes run) (wanted : TaskStatus) (found : LostUpdate) :
    k.Ended (k.lost wanted found) :=
  ⟨rfl, rfl, h.owed, h.free.disposed, h.free.settled⟩

/-- After a lost update that is no cancellation the execution may go on. -/
theorem Executes.lost (h : k.Executes run) {wanted : TaskStatus} (found : LostUpdate)
    (hw : wanted ≠ .cancelled) : (k.lost wanted found).Executes run := by
  refine ⟨h.idle, h.owed, ⟨?_, h.free.released, h.free.disposed, h.free.settled⟩, h.attached⟩
  simp [Track.lost, h.free.doomed, hw]

theorem Ended.trans {k k' k'' : Track} (h : k.Ended k') (h' : k'.Ended k'') : k.Ended k'' :=
  ⟨h'.stage.trans h.stage, h'.stream.trans h.stream, h'.owed, h'.disposed, h'.settled⟩

theorem Resolved.trans {k k' k'' : Track} {resolution : Resolution} (h : k.Ended k')
    (h' : k'.Resolved resolution k'') : k.Resolved resolution k'' :=
  ⟨h.trans h'.1, h'.2⟩

theorem Ended.over {k k' : Track} (h : k.Ended k') (hi : k.IdlesIn run) : k'.Over run :=
  ⟨hi.imp h.stage.trans h.stage.trans, h.owed, h.disposed, h.settled⟩

end Track

/-- What a conditional update of the task answers. -/
theorem transition_does {expected : Expectation} {change : TaskUpdate} (ho : k.owed = [])
    (hf : k.Free) (hw : Write pod k expected change) :
    Does pod job (transition s job.task expected change) k
      (fun answer k' => match answer with
        | .ok record => record.id = job.task ∧ k' = k.wrote change.status
        | .error found => k' = k.lost change.status found)
      (fun _ k' => k' = k) := by
  unfold transition
  refine followsOr_bind.mpr (followsOr_attempt.mpr ((updateTask_does ho hf hw).mono ?_ ?_))
  · exact fun record k' h => h
  · rintro (task | found | reason) k' h
    all_goals exact h

/-- A cancellation ends the attempt: the task is closed, or the cancellation was lost. -/
theorem finishCancellation_does (h : k.Executes run) (hc : k.MayCancel) :
    Does pod job (finishCancellation s job.task) k k.Resolved (fun _ k' => k.Ended k') := by
  unfold finishCancellation
  refine (keeps_now h.owed).lift fun now => ?_
  refine followsOr_bind.mpr ((transition_does h.owed h.free (.cancel now h.isIdle hc)).mono ?_ ?_)
  · rintro (found | record) k₁ h₁
    · have he : k.Ended k₁ := h₁ ▸ h.ended_lost _ found
      have allows : k₁.Allows .cancelled := by
        refine .inr (.inr ?_)
        rw [h₁]
        exact ⟨by simp [Track.lost, h.attached], h.attached, h.free.released⟩
      simp only
      split
      · exact abandonResults_then he.owed ⟨he, allows⟩
      · exact ⟨he, allows⟩
    · obtain ⟨-, hk₁⟩ := h₁
      have he : k.Ended k₁ := hk₁ ▸ h.ended_wrote nofun
      have closed : k₁.closed = true := by
        rw [hk₁]
        exact Bool.or_true _
      exact abandonResults_then he.owed ⟨he, .inr (.inl closed)⟩
  · rintro _ _ rfl
    exact h.ended

/-- A lost update ends the attempt: it is cancelled or postponed. -/
theorem onLostUpdate_does {found : LostUpdate} (h : k.Executes run)
    (hc : found.status.isCancellation = true → k.cancelled = true) :
    Does pod job (onLostUpdate s job.task found) k k.Resolved (fun _ k' => k.Ended k') := by
  unfold onLostUpdate
  split
  · next hf => exact finishCancellation_does h (.inl (hc hf))
  · exact ⟨h.ended, .inl rfl⟩

/-- What becomes of an attempt after an update that is no cancellation was lost. -/
theorem onLostUpdate_of_lost {found : LostUpdate} {wanted : TaskStatus} (h : k.Executes run)
    (hw : wanted ≠ .cancelled) :
    Does pod job (onLostUpdate s job.task found) (k.lost wanted found) k.Resolved
      (fun _ k' => k.Ended k') := by
  have he := h.ended_lost wanted found
  refine (onLostUpdate_does (h.lost found hw) ?_).mono ?_ ?_
  · intro hc
    simp [Track.lost, hc]
  · exact fun _ _ h' => Resolved.trans he h'
  · exact fun _ _ h' => he.trans h'

/-- The task is handed back, or the attempt ends by a lost update. -/
theorem release_does {expected : Expectation} (h : k.Executes run)
    (held : expected = claimedBy pod ∨ expected = heldBy pod) :
    Does pod job (release s job.task expected) k k.Resolved (fun _ k' => k.Ended k') := by
  unfold release
  refine (keeps_now h.owed).lift fun now => ?_
  refine followsOr_bind.mpr ((transition_does h.owed h.free
    (.release expected now held h.isIdle)).mono ?_ ?_)
  · rintro (found | record) k₁ h₁
    · rw [h₁]
      exact onLostUpdate_of_lost h nofun
    · rw [h₁.2]
      exact ⟨h.ended_wrote nofun, .inl rfl⟩
  · rintro _ _ rfl
    exact h.ended

/-- The task ends without a successor, or the attempt ends by a lost update. -/
theorem finishWithout_does {expected : Expectation} {status : TaskStatus} {output : Output}
    (h : k.Executes run) (hs : status.isClosed = true) (hn : status ≠ .cancelled)
    (hw : ∀ now, Write pod k expected (.finish status output now)) :
    Does pod job (finishWithout s job.task expected status output) k k.Resolved
      (fun _ k' => k.Ended k') := by
  unfold finishWithout
  refine (keeps_now h.owed).lift fun now => ?_
  refine followsOr_bind.mpr ((transition_does h.owed h.free (hw now)).mono ?_ ?_)
  · rintro (found | record) k₁ h₁
    · rw [h₁]
      exact onLostUpdate_of_lost h hn
    · obtain ⟨-, hk₁⟩ := h₁
      have he : k.Ended k₁ := by
        rw [hk₁]
        refine h.ended_wrote ?_
        rintro rfl
        cases hs
      have closed : k₁.closed = true := by rw [hk₁.trans (wrote_of_isClosed k status hs)]
      exact abandonResults_then he.owed ⟨he, .inr (.inl closed)⟩
  · rintro _ _ rfl
    exact h.ended

/-- The attempt fails and the task is closed, or the attempt ends by a lost update. -/
theorem retryAttempt_does {t : TaskRecord} {expected : Expectation} {reason : String}
    {disposition : Disposition} (h : k.Executes run) (ht : t.id = job.task)
    (held : expected = claimedBy pod ∨ expected = heldBy pod ∨ expected = executedBy pod) :
    Does pod job (retryAttempt s t expected reason disposition) k k.Resolved
      (fun _ k' => k.Ended k') := by
  have after : ∀ {k₁}, SameButReserved { k with closed := true } k₁ →
      k.Ended k₁ ∧ k₁.closed = true := by
    rintro _ ⟨reserved, rfl⟩
    exact ⟨⟨rfl, rfl, h.owed, h.free.disposed, h.free.settled⟩, rfl⟩
  unfold retryAttempt
  refine followsOr_bind.mpr (followsOr_attempt.mpr ((retryTask_does h.owed h.free ht
    fun plan now => .fail expected plan reason now held h.isIdle).mono ?_ ?_))
  · rintro updated k₁ ⟨-, hk₁⟩
    exact ⟨(after hk₁).1, .inr (.inl (after hk₁).2)⟩
  · rintro cause k₁ (⟨found, plan, rfl, rfl⟩ | ⟨hl, hk₁⟩)
    · simp only [ht]
      exact onLostUpdate_of_lost h (by cases plan <;> exact nofun)
    · have he : k.Ended k₁ := hk₁.elim (fun e => e ▸ h.ended) fun hk₁ => (after hk₁).1
      split
      · next heq => cases heq
      · next heq => exact absurd (Except.error.inj heq) (hl _)
      · exact he

/-- Whether the execution was asked to stop is noted. -/
theorem stopRequested_does (ho : k.owed = []) (hs : k.stage.run? = some run) :
    Program.Follows (agentConduct pod job) (Call.stopRequested run) k
      fun asked k' => k' = { k with stopped := k.stopped || asked } :=
  ⟨⟨ho, hs⟩, fun _ _ => rfl⟩

theorem Track.IdlesIn.run? (h : k.IdlesIn run) : k.stage.run? = some run := by
  rcases h with h | h <;> rw [h] <;> rfl

/-- What was found out about a stop changes nothing else. -/
theorem Track.Executes.asked (h : k.Executes run) (asked : Bool) :
    ({ k with stopped := k.stopped || asked } : Track).Executes run :=
  ⟨h.idle, h.owed, ⟨h.free.doomed, h.free.released, h.free.disposed, h.free.settled⟩, h.attached⟩

/-- A failed call to the worker ends the attempt. The execution may be cancelled if it was asked to
stop, since the worker has answered or was never reached. -/
theorem onWorkerFailure_does {t : TaskRecord} {cause : WorkerError} (hp : s.podId = pod)
    (ht : t.id = job.task) (h : k.Executes run)
    (hc : k.stage = .answered run ∨ k.unreached = true) :
    Does pod job (onWorkerFailure s t run cause) k k.Resolved (fun _ k' => k.Ended k') := by
  unfold onWorkerFailure
  refine followsOr_bind.mpr (followsOr_lift.mpr ((stopRequested_does h.owed h.idle.run?).mono ?_))
  intro asked k₁ hk₁
  have h₁ : k₁.Executes run := hk₁ ▸ h.asked asked
  have he : k.Ended k₁ := by
    rw [hk₁]
    exact ⟨rfl, rfl, h.owed, h.free.disposed, h.free.settled⟩
  have retry : Does pod job (do
      let resolution ← retryAttempt s t (heldBy s.podId) cause.message .cancelled
      return resolution.withFault cause.message) k₁ k.Resolved (fun _ k' => k.Ended k') := by
    refine followsOr_bind.mpr ((retryAttempt_does h₁ ht (.inr (.inl (by rw [hp])))).mono ?_ ?_)
    · exact fun _ _ h' => Resolved.trans he h'
    · exact fun _ _ h' => he.trans h'
  split
  · next hasked =>
    rw [ht]
    have cause : k₁.MayCancel := by
      refine .inr ⟨?_, hc.imp (fun hs => ⟨run, ?_⟩) fun hu => ?_⟩
      · rw [hk₁]
        simp [hasked]
      · rw [hk₁]
        exact hs
      · rw [hk₁]
        exact hu
    refine (finishCancellation_does h₁ cause).mono ?_ ?_
    · exact fun _ _ h' => Resolved.trans he h'
    · exact fun _ _ h' => he.trans h'
  · refine (keeps_shutdownRequested h₁.owed).lift fun shutdown => ?_
    split
    · refine (keeps_probeLiveness h₁.owed).lift fun health => ?_
      split
      · rw [ht]
        refine (release_does h₁ (.inr (by rw [hp]))).mono ?_ ?_
        · exact fun _ _ h' => Resolved.trans he h'
        · exact fun _ _ h' => he.trans h'
      · exact retry
    · exact retry

/-- Success ends the attempt, also when the results cannot be made available. -/
theorem complete_does {output : Output} (hp : s.podId = pod) (h : k.Executes run)
    (hs : k.stage = .answered run) (ho : output.status = .success) :
    Does pod job (complete s job.task output) k k.Resolved (fun _ k' => k.Ended k') := by
  unfold complete
  rw [hp]
  refine (keeps_now h.owed).lift fun now => ?_
  refine followsOr_bind.mpr ((transition_does h.owed h.free
    (.conclude run .completed output now (.inl ⟨rfl, ho⟩) hs)).mono ?_ ?_)
  · rintro (found | record) k₁ h₁
    · rw [h₁]
      exact onLostUpdate_of_lost h nofun
    · obtain ⟨-, hk₁⟩ := h₁
      have he : k.Ended k₁ := hk₁ ▸ h.ended_wrote nofun
      have closed : k₁.closed = true := by
        rw [hk₁]
        exact Bool.or_true _
      have answered : k₁.stage.isStopping = false := by
        rw [hk₁]
        exact congrArg Stage.isStopping hs
      refine keeps_attempt (keeps_finalize he.owed answered job.task) ?_
      rintro (cause | _)
      · exact ⟨he, .inr (.inl closed)⟩
      · exact ⟨he, .inr (.inl closed)⟩
  · rintro _ _ rfl
    exact h.ended

/-- What the worker replied ends the attempt. -/
theorem recordOutput_does {t : TaskRecord} {output : Output} (hp : s.podId = pod)
    (ht : t.id = job.task) (h : k.Executes run) (hs : k.stage = .answered run) :
    Does pod job (recordOutput s t run output) k k.Resolved (fun _ k' => k.Ended k') := by
  unfold recordOutput
  split
  · next ho =>
    rw [ht]
    exact complete_does hp h hs ho
  · next ho =>
    rw [ht, hp]
    exact finishWithout_does h rfl nofun fun now =>
      .conclude run .timeout output now (.inr ⟨rfl, ho⟩) hs
  · refine followsOr_bind.mpr (followsOr_lift.mpr ((stopRequested_does h.owed h.idle.run?).mono ?_))
    intro asked k₁ hk₁
    have h₁ : k₁.Executes run := hk₁ ▸ h.asked asked
    have he : k.Ended k₁ := by
      rw [hk₁]
      exact ⟨rfl, rfl, h.owed, h.free.disposed, h.free.settled⟩
    split
    · next hasked =>
      rw [ht]
      have cause : k₁.MayCancel := by
        refine .inr ⟨?_, .inl ⟨run, ?_⟩⟩
        · rw [hk₁]
          simp [hasked]
        · rw [hk₁]
          exact hs
      refine (finishCancellation_does h₁ cause).mono ?_ ?_
      · exact fun _ _ h' => Resolved.trans he h'
      · exact fun _ _ h' => he.trans h'
    · refine (retryAttempt_does h₁ ht (.inr (.inr (by rw [hp])))).mono ?_ ?_
      · exact fun _ _ h' => Resolved.trans he h'
      · exact fun _ _ h' => he.trans h'

/-- The worker is being called on the stream of the execution. -/
structure Track.Talks (run : RunId) (stream : StreamId) (k : Track) : Prop where
  /-- The worker is being called. -/
  stage : k.stage = .talking run
  /-- The stream is that of the execution. -/
  stream : k.stream = some stream
  /-- Nothing is owed. -/
  owed : k.owed = []

/-- Sending to the worker keeps the books. -/
theorem keeps_sendAll {stream : StreamId} (h : k.Talks run stream) (requests : List WorkRequest) :
    KeepsBooksOr pod job k (sendAll run stream requests) := by
  induction requests with
  | nil => rfl
  | cons request rest ih =>
    have one : KeepsBooksOr pod job k (Call.send run stream request) :=
      keeps_call ⟨h.owed, h.stage, h.stream⟩ fun _ => rfl
    refine keeps_of_followsOr (one.orFail (fun _ => ?_) fun _ => rfl)
    exact ih.followsOr (fun _ => rfl) fun _ => rfl

/-- Calling the worker keeps the books. -/
theorem keeps_exchange {stream : StreamId} (h : k.Talks run stream) (requests : List WorkRequest) :
    KeepsBooksOr pod job k (exchange run stream requests) := by
  have finish : KeepsBooksOr pod job k (Call.finishSending run stream) :=
    keeps_call ⟨h.owed, h.stage, h.stream⟩ fun _ => rfl
  have reply : KeepsBooksOr pod job k (Call.awaitReply run stream) :=
    keeps_call ⟨h.owed, h.stage, h.stream⟩ fun _ => rfl
  refine keeps_of_followsOr ((keeps_sendAll h requests).orFail (fun _ => ?_) fun _ => rfl)
  refine finish.orFail (fun _ => ?_) fun _ => rfl
  exact reply.followsOr (fun _ => rfl) fun _ => rfl

/-- Finding the deadline keeps the books; where there is none nothing follows. -/
theorem keeps_callDeadline {t : TaskRecord} {now : Date} (ho : k.owed = []) :
    KeepsBooksOr pod job k (callDeadline t run now) := by
  unfold callDeadline
  split
  · rfl
  · split
    · rfl
    · split
      · rfl
      · refine keeps_of_followsOr (followsOr_bind.mpr ⟨⟨ho, trivial⟩, ?_⟩)
        intro never
        exact nomatch never

/-- Closing the stream ends the call to the worker. -/
theorem hangUp_does {stream : StreamId} (ho : k.owed = []) (hs : k.stage.run? = some run)
    (hk : k.stream = some stream) :
    Program.Follows (agentConduct pod job) (Call.hangUp stream) k
      fun _ k' => k' = { k with stage := k.stage.hungUp } := by
  refine ⟨⟨ho, ?_, hk⟩, fun _ _ => rfl⟩
  rw [hs]
  rfl

/-- An attempt that is over stays so when its stream is closed. -/
theorem hangUp_of_over {stream : StreamId} (h : k.Over run) (hk : k.stream = some stream) :
    KeepsBooks pod job k (Call.hangUp stream) := by
  refine Follows.mono (hangUp_does h.owed h.idle.run? hk) ?_
  rintro _ k' rfl
  have same : k.stage.hungUp = k.stage := by
    rcases h.idle with hs | hs <;> rw [hs] <;> rfl
  rw [same]

/-- An execution that has started and whose stream is closed again has its reply. -/
theorem Track.Executes.answered {k₁ k₂ : Track} (h : k.Executes run) (hs : k.stage = .executing run)
    (started : k₁ = k.wrote .processing) (closed : k₂ = { k₁ with stage := k₁.stage.hungUp }) :
    k₂.stage = .answered run ∧ k₂.Executes run := by
  have stage : k₁.stage = .talking run := by
    rw [started]
    simp only [Track.wrote, hs, Stage.started]
  have answered : k₂.stage = .answered run := by
    rw [closed]
    simp only [stage, Stage.hungUp]
  refine ⟨answered, .inr answered, ?_, ?_, ?_⟩
  · rw [closed, started]
    exact h.owed
  · rw [closed, started]
    exact ⟨h.free.doomed, h.free.released, h.free.disposed, h.free.settled⟩
  · rw [closed, started]
    exact h.attached

/-- An execution on an open stream ends the attempt, and the stream is closed. -/
theorem callWorker_does {t : TaskRecord} {stream : StreamId} (hp : s.podId = pod)
    (ht : t.id = job.task) (h : k.Executes run) (hs : k.stage = .executing run)
    (hk : k.stream = some stream) (requests : List WorkRequest) :
    Does pod job (callWorker s t run stream requests) k (ResolvedIn run)
      (fun _ k' => k'.Over run) := by
  unfold callWorker
  rw [ht, hp]
  refine (keeps_now h.owed).lift fun now => ?_
  refine followsOr_bind.mpr (followsOr_attempt.mpr
    ((transition_does h.owed h.free (.start run now hs)).mono ?_ ?_))
  · rintro (found | stored) k₁ h₁
    · refine followsOr_bind.mpr (followsOr_attempt.mpr ?_)
      rw [h₁]
      have hn : TaskStatus.processing ≠ .cancelled := nofun
      refine (onLostUpdate_of_lost h hn).mono ?_ ?_
      · rintro resolution k₂ ⟨he, ha⟩
        have isOver := he.over h.idle
        exact (hangUp_of_over isOver (he.stream.trans hk)).lift fun _ => ⟨isOver, ha⟩
      · intro cause k₂ he
        have isOver := he.over h.idle
        exact (hangUp_of_over isOver (he.stream.trans hk)).lift fun _ => isOver
    · obtain ⟨hid, hk₁⟩ := h₁
      have stage : k₁.stage = .talking run := by
        rw [hk₁]
        simp only [Track.wrote, hs, Stage.started]
      have opened : k₁.stream = some stream := hk₁ ▸ hk
      have owed : k₁.owed = [] := hk₁ ▸ h.owed
      refine keeps_attempt (keeps_exchange ⟨stage, opened, owed⟩ requests) fun reply => ?_
      refine followsOr_bind.mpr (followsOr_lift.mpr ?_)
      refine Follows.mono (hangUp_does owed (by rw [stage]; rfl) opened) ?_
      intro _ k₂ hk₂
      obtain ⟨answered, h₂⟩ := h.answered hs hk₁ hk₂
      have isOver {k₃ : Track} (he : k₂.Ended k₃) : k₃.Over run := he.over h₂.idle
      have ht₂ : ({ stored with options := t.options } : TaskRecord).id = job.task := hid
      cases reply with
      | ok output =>
        refine (recordOutput_does hp ht₂ h₂ answered).mono ?_ fun _ _ he => isOver he
        exact fun _ _ hr => ⟨isOver hr.1, hr.2⟩
      | error cause =>
        refine (onWorkerFailure_does hp ht₂ h₂ (.inl answered)).mono ?_ fun _ _ he => isOver he
        exact fun _ _ hr => ⟨isOver hr.1, hr.2⟩
  · rintro cause _ rfl
    have isOver := h.ended.over h.idle
    exact (hangUp_of_over isOver hk).lift fun _ => isOver

/-- Whether the worker was reached is noted. -/
theorem connect_does {deadline : Option Date} (ho : k.owed = []) (hs : k.stage = .executing run) :
    Does pod job (Call.connect run job.task deadline) k
      (fun stream k' => k' = { k with stream := some stream })
      (fun _ k' => k' = { k with unreached := true }) := by
  refine ⟨⟨ho, rfl, hs⟩, ?_⟩
  rintro (cause | stream) _
  · rfl
  · rfl

/-- An execution ends the attempt whether the worker can be reached or not. -/
theorem reachWorker_does {t : TaskRecord} (hp : s.podId = pod) (ht : t.id = job.task)
    (h : k.Executes run) (hs : k.stage = .executing run) (requests : List WorkRequest) :
    Does pod job (reachWorker s t run requests) k (ResolvedIn run) (fun _ k' => k'.Over run) := by
  unfold reachWorker
  rw [ht]
  refine (keeps_now h.owed).lift fun now => ?_
  refine (keeps_callDeadline h.owed).orFail (fun deadline => ?_) fun _ => h.ended.over h.idle
  refine followsOr_bind.mpr (followsOr_attempt.mpr ((connect_does h.owed hs).mono ?_ ?_))
  · intro stream k₁ hk₁
    have h₁ : k₁.Executes run := by
      rw [hk₁]
      exact ⟨h.idle, h.owed, ⟨h.free.doomed, h.free.released, h.free.disposed, h.free.settled⟩,
        h.attached⟩
    exact callWorker_does hp ht h₁ (by rw [hk₁]; exact hs) (by rw [hk₁]) requests
  · intro cause k₁ hk₁
    have h₁ : k₁.Executes run := by
      rw [hk₁]
      exact ⟨h.idle, h.owed, ⟨h.free.doomed, h.free.released, h.free.disposed, h.free.settled⟩,
        h.attached⟩
    have unreached : k₁.unreached = true := by rw [hk₁]
    have isOver {k₂ : Track} (he : k₁.Ended k₂) : k₂.Over run := he.over h₁.idle
    cases cause with
    | unavailable reason =>
      refine followsOr_bind.mpr (followsOr_lift.mpr
        ((stopRequested_does h₁.owed h₁.idle.run?).mono ?_))
      intro asked k₂ hk₂
      have h₂ : k₂.Executes run := hk₂ ▸ h₁.asked asked
      have isOver {k₃ : Track} (he : k₂.Ended k₃) : k₃.Over run := he.over h₂.idle
      split
      · have unreached₂ : k₂.unreached = true := by
          rw [hk₂]
          exact unreached
        refine (onWorkerFailure_does hp ht h₂ (.inr unreached₂)).mono ?_ fun _ _ he => isOver he
        exact fun _ _ hr => ⟨isOver hr.1, hr.2⟩
      · refine (release_does h₂ (.inl (by rw [hp]))).mono ?_ fun _ _ he => isOver he
        exact fun _ _ hr => ⟨isOver hr.1, hr.2⟩
    | _ =>
      refine (onWorkerFailure_does hp ht h₁ (.inr unreached)).mono ?_ fun _ _ he => isOver he
      exact fun _ _ hr => ⟨isOver hr.1, hr.2⟩

/-- An attempt under watch ends as the attempt does. -/
theorem runWorker_does {t : TaskRecord} (hp : s.podId = pod) (ht : t.id = job.task)
    (h : k.Executes run) (hs : k.stage = .executing run) (requests : List WorkRequest) :
    Does pod job (runWorker s t run requests) k (ResolvedIn run) (fun _ k' => k'.Over run) := by
  unfold runWorker
  refine (keeps_shutdownRequested h.owed).lift fun shutdown => ?_
  refine followsOr_bind.mpr (followsOr_lift.mpr ((stopRequested_does h.owed h.idle.run?).mono ?_))
  intro asked k₁ hk₁
  have h₁ : k₁.Executes run := hk₁ ▸ h.asked asked
  have isOver {k₂ : Track} (he : k₁.Ended k₂) : k₂.Over run := he.over h₁.idle
  split
  · rw [ht]
    refine (release_does h₁ (.inl (by rw [hp]))).mono ?_ fun _ _ he => isOver he
    exact fun _ _ hr => ⟨isOver hr.1, hr.2⟩
  · refine (keeps_beginWatch h₁.owed run).lift fun _ => ?_
    refine followsOr_bind.mpr (followsOr_attempt.mpr ?_)
    refine (reachWorker_does hp ht h₁ (by rw [hk₁]; exact hs) requests).mono ?_ ?_
    · intro resolution k₂ hr
      exact (keeps_endWatch hr.1.owed run).lift fun _ => hr
    · intro cause k₂ ho
      exact (keeps_endWatch ho.owed run).lift fun _ => ho

/-- Prefetching keeps the books. -/
theorem keeps_prefetch {t : TaskRecord} (ho : k.owed = []) :
    KeepsBooksOr pod job k (prefetch s t) := by
  have object : ∀ data, KeepsBooksOr pod job k (prefetchObject s t.id data) := by
    intro data
    refine keeps_of_followsOr ((keeps_fetch ho data).orFail (fun bytes => ?_) fun _ => rfl)
    exact (keeps_saveScratch ho t.id data bytes).orFail (fun _ => rfl) fun _ => rfl
  have objects : ∀ needed, KeepsBooksOr pod job k (prefetchAll s t.id needed) := by
    intro needed
    induction needed with
    | nil => rfl
    | cons data rest ih =>
      refine keeps_of_followsOr ((object data).orFail (fun request => ?_) fun _ => rfl)
      exact ih.orFail (fun _ => rfl) fun _ => rfl
  refine keeps_of_followsOr ((keeps_makeScratch ho t.id).orFail (fun _ => ?_) fun _ => rfl)
  exact (objects _).orFail (fun _ => rfl) fun _ => rfl

/-- The execution of an acquired task ends the attempt. -/
theorem execute_does {t : TaskRecord} (hp : s.podId = pod) (ht : t.id = job.task)
    (h : k.Executes run) (hs : k.stage = .executing run) :
    Does pod job (execute s t run) k (ResolvedIn run) (fun _ k' => k'.Over run) := by
  have isOver {k₁ : Track} (he : k.Ended k₁) : k₁.Over run := he.over h.idle
  unfold execute
  refine (keeps_shutdownRequested h.owed).lift fun shutdown => ?_
  rw [ht, hp]
  split
  · refine (release_does h (.inl rfl)).mono ?_ fun _ _ he => isOver he
    exact fun _ _ hr => ⟨isOver hr.1, hr.2⟩
  · refine keeps_attempt (keeps_prefetch h.owed) fun prefetched => ?_
    split
    · exact runWorker_does hp ht h hs _
    · have hn : TaskStatus.error ≠ .cancelled := nofun
      refine (finishWithout_does h rfl hn fun now =>
        .fail _ .exhausted _ now (.inl rfl) h.isIdle).mono ?_ fun _ _ he => isOver he
      exact fun _ _ hr => ⟨isOver hr.1, hr.2⟩
    · refine followsOr_bind.mpr ((retryAttempt_does h ht (.inl rfl)).mono ?_ fun _ _ he => isOver he)
      exact fun _ _ hr => ⟨isOver hr.1, hr.2⟩

end GridAgent.Cluster
