import GridAgent.Proofs.Handler.Routine

/-!
# Errands

Most of what an agent does for a task are errands: it settles results, retries the task, talks to the
worker and records what it replied. On an errand the agent does not look at the task, does not decide
on a message or an execution, and resets no claim of another pod. Most errands are chores, which do not
even read the session, and on which the agent never breaks off; only the deadline of a call may make it
do so. All this holds whatever the collaborators answer, so under any rules that let it run errands an
agent runs them all.
-/

namespace GridAgent.Agent

/-- The request decides on a message or on an execution. -/
def Request.isDecisive : Request → Bool
  | .register _ | .unregister _ | .dispose .. | .settle _ => true
  | _ => false

/-- The request does not look at the task, decides neither on a message nor on an execution, and resets
no claim of another pod. -/
def Request.IsErrand (pod : PodId) : Request → Prop
  | .readTask _ => False
  | .updateTask _ expected _ =>
    ∀ owner, expected = (Expectation.status .dispatched).ownedBy owner → owner = pod
  | .register _ => False
  | .unregister _ => False
  | .dispose .. => False
  | .settle _ => False
  | _ => True

/-- The request is an errand that neither reads a session nor breaks off. -/
def Request.IsChore (pod : PodId) : Request → Prop
  | .readSession _ => False
  | .breakOff _ => False
  | request => request.IsErrand pod

/-- Chores are errands. -/
theorem Request.IsChore.isErrand {pod : PodId} {request : Request} (h : request.IsChore pod) :
    request.IsErrand pod := by
  cases request <;> first | exact h | exact h.elim

/-- Errands decide on nothing. -/
theorem Request.IsErrand.isDecisive {pod : PodId} {request : Request} (h : request.IsErrand pod) :
    request.isDecisive = false := by
  cases request <;> first | rfl | exact h.elim

end GridAgent.Agent

namespace GridAgent.Cluster

open Agent Program

/-- Wherever the books are as described the request may be made, and it leaves them so. -/
abbrev Allows {σ : Type} (C : Conduct collaborators σ) (I : σ → Prop) (request : Request) : Prop :=
  ∀ k, I k → C.may k request ∧ ∀ reply, I (C.note k request reply)

/-- Wherever the books are as described the program asks only what it may, and it leaves them so. -/
abbrev Preserves {σ α : Type} (C : Conduct collaborators σ) (I : σ → Prop) (p : Action α) : Prop :=
  ∀ k, I k → p.Follows C k fun _ k' => I k'

/-- The same of a program that may fail. -/
abbrev PreservesOr {σ ε α : Type} (C : Conduct collaborators σ) (I : σ → Prop) (p : Fallible ε α) :
    Prop :=
  Preserves C I (α := Except ε α) p

section
variable {σ : Type} {C : Conduct collaborators σ} {I : σ → Prop} {ε ε' α β : Type} {s : Settings}

theorem Allows.call {request : Request} (h : Allows C I request) :
    Preserves C I (.call request .done) := fun k hk =>
  ⟨(h k hk).1, fun reply _ => (h k hk).2 reply⟩

namespace PreservesOr

/-- It comes to the same whether the program fails or not. -/
theorem iff_followsOr {p : Fallible ε α} : PreservesOr C I p ↔
    ∀ k, I k → FollowsOr C p k (fun _ k' => I k') fun _ k' => I k' := by
  refine forall₂_congr fun k _ => iff_of_eq (congrArg _ ?_)
  funext outcome k'
  cases outcome <;> rfl

theorem follows {p : Fallible ε α} {k : σ} (h : PreservesOr C I p) (hk : I k) :
    FollowsOr C p k (fun _ k' => I k') fun _ k' => I k' :=
  iff_followsOr.mp h k hk

theorem pure {value : α} : PreservesOr C I (Pure.pure value : Fallible ε α) := fun _ hk => hk

/-- Any failure may end the program. -/
theorem failed {cause : ε} : PreservesOr C I (throw cause : Fallible ε α) := fun _ hk => hk

/-- Going on with an outcome asks nothing. -/
theorem resumed (outcome : Except ε α) : PreservesOr C I (resume outcome) := fun _ hk => hk

theorem andThen {p : Fallible ε α} {f : α → Fallible ε β} (hp : PreservesOr C I p)
    (hf : ∀ value, PreservesOr C I (f value)) : PreservesOr C I (p >>= f) := fun k hk => by
  refine follows_bind.mpr (Follows.mono (hp k hk) ?_)
  rintro (cause | value) k' hk'
  · exact hk'
  · exact hf value k' hk'

theorem mapped {p : Fallible ε α} (hp : PreservesOr C I p) (f : α → β) : PreservesOr C I (f <$> p) :=
  fun k hk => follows_bind.mpr
    (Follows.mono (hp k hk) fun outcome k' hk' => by cases outcome <;> exact hk')

theorem attempted {p : Fallible ε α} {f : Except ε α → Fallible ε' β} (hp : PreservesOr C I p)
    (hf : ∀ outcome, PreservesOr C I (f outcome)) : PreservesOr C I (attempt p >>= f) := fun k hk => by
  refine follows_bind.mpr (follows_bind.mpr (Follows.mono (hp k hk) ?_))
  exact fun outcome k' => hf outcome k'

/-- What comes after the outcome may need less of the books. -/
theorem attemptedInto {J : σ → Prop} {p : Fallible ε α} {f : Except ε α → Fallible ε' β} {k : σ}
    (hp : PreservesOr C I p) (hk : I k) (less : ∀ k, I k → J k)
    (hf : ∀ outcome, PreservesOr C J (f outcome)) :
    FollowsOr C (attempt p >>= f) k (fun _ k' => J k') fun _ k' => J k' :=
  followsOr_bind.mpr (followsOr_attempt.mpr ((hp.follows hk).mono
    (fun value k' hk' => (hf (.ok value)).follows (less k' hk'))
    fun cause k' hk' => (hf (.error cause)).follows (less k' hk')))

theorem orFail {p : Fallible ε α} {cause : ε → AgentError} (hp : PreservesOr C I p) :
    PreservesOr C I (orFail cause p) := fun k hk =>
  follows_bind.mpr (Follows.mono (hp k hk) fun _ _ hk' => hk')

/-- More after a request that cannot fail. -/
theorem asked (request : Request) (hr : Allows C I request) {f : request.Reply → Fallible ε β}
    (hf : ∀ reply, PreservesOr C I (f reply)) :
    PreservesOr C I (liftM (ask request : Action request.Reply) >>= f) := fun k hk =>
  ⟨(hr k hk).1, fun reply _ => hf reply _ ((hr k hk).2 reply)⟩

/-- Trying again does if each try and each pause does. -/
theorem tried [Transient ε] {p : Fallible ε α} (hp : PreservesOr C I p)
    (hpause : ∀ wait, Allows C I (.pause wait)) : PreservesOr C I (retrying s p) := fun k hk => by
  refine Follows.mono (followsOr_retrying (J := I) (K := I) (Q := fun _ => I) (E := fun _ => I)
    ?_ (fun k' wait => (hpause wait).call k') hk) ?_
  · intro k' hk'
    refine Follows.mono (hp k' hk') ?_
    rintro (cause | value) k'' hk''
    · exact ⟨hk'', fun _ => hk''⟩
    · exact hk''
  · rintro (cause | value) k' hk' <;> exact hk'

end PreservesOr

end

/-- A pod may run its chores wherever the books are as described, and they leave them so. -/
def LetsChores {σ : Type} (pod : PodId) (C : Conduct collaborators σ) (I : σ → Prop) : Prop :=
  ∀ request : Request, request.IsChore pod → Allows C I request

/-- What an agent expects of a task but the claim of another pod. -/
abbrev Spares (pod : PodId) (expected : Expectation) : Prop :=
  ∀ owner, expected = (Expectation.status .dispatched).ownedBy owner → owner = pod

namespace Spares

variable {pod : PodId} {expected : Expectation}

/-- What a claim is not is spared. -/
theorem of_ne (h : expected.statuses ≠ [.dispatched]) : Spares pod expected :=
  fun _ he => absurd (congrArg Expectation.statuses he) h

theorem claimed : Spares pod (claimedBy pod) := by
  rintro owner h
  cases h
  rfl

theorem held : Spares pod (heldBy pod) :=
  of_ne (show [TaskStatus.dispatched, .processing] ≠ [.dispatched] by decide)

theorem executed : Spares pod (executedBy pod) :=
  of_ne (show [TaskStatus.processing] ≠ [.dispatched] by decide)

theorem abandoned {owner : Option PodId} : Spares pod (abandonedExpectation owner) := by
  apply of_ne
  cases owner <;> exact (show [TaskStatus.processing] ≠ [.dispatched] by decide)

end Spares

namespace LetsChores

open PreservesOr

variable {σ : Type} {C : Conduct collaborators σ} {I : σ → Prop} {pod : PodId} {ε α : Type}
  {s : Settings} {task : TaskId} {t : TaskRecord} {expected : Expectation} {run : RunId}

/-! Calls. -/

/-- A chore whose failure is an answer. -/
theorem call (lets : LetsChores pod C I) (request : Request) (hr : request.IsChore pod) :
    Preserves C I (.call request .done) :=
  (lets request hr).call

/-- More after a chore that cannot fail. -/
theorem asks (lets : LetsChores pod C I) (request : Request) (hr : request.IsChore pod)
    {f : request.Reply → Fallible ε α} (hf : ∀ reply, PreservesOr C I (f reply)) :
    PreservesOr C I (liftM (ask request : Action request.Reply) >>= f) :=
  asked request (lets request hr) hf

theorem tries [Transient ε] (lets : LetsChores pod C I) {p : Fallible ε α}
    (hp : PreservesOr C I p) : PreservesOr C I (retrying s p) :=
  hp.tried fun wait => lets (.pause wait) trivial

theorem updateTask (lets : LetsChores pod C I) {change : TaskUpdate} (hs : Spares pod expected) :
    PreservesOr C I (updateTask s task expected change) :=
  lets.tries (lets.call (.updateTask task expected change) hs)

theorem abandonResults (lets : LetsChores pod C I) :
    PreservesOr C I (abandonResults task : Fallible ε Unit) :=
  lets.asks (.abandon task) trivial fun _ => pure

/-! Succession. -/

theorem submitSuccessor (lets : LetsChores pod C I) {successor : TaskRecord} :
    PreservesOr C I (submitSuccessor s successor) := by
  unfold Agent.submitSuccessor
  split
  · exact pure
  · refine lets.asks .now trivial fun now => ?_
    refine (lets.updateTask (Spares.of_ne (by decide))).attempted ?_
    rintro ((other | found | reason) | submitted)
    · exact failed
    · exact pure
    · exact failed
    · exact (lets.tries (lets.call (.push _) trivial)).orFail.andThen fun _ => pure

theorem ensureSuccessor (lets : LetsChores pod C I) {parent : TaskRecord} :
    PreservesOr C I (ensureSuccessor s parent) := by
  unfold Agent.ensureSuccessor
  refine lets.asks .newTaskId trivial fun id => ?_
  refine lets.asks .now trivial fun now => ?_
  exact (lets.tries (lets.call (.createSuccessor _ _) trivial)).orFail.andThen
    fun successor => lets.submitSuccessor

theorem retryTask (lets : LetsChores pod C I) {reason : String} (hs : Spares pod expected) :
    PreservesOr C I (retryTask s t expected reason) := by
  unfold Agent.retryTask
  refine lets.asks .now trivial fun now => ?_
  refine (lets.updateTask hs).orFail.andThen fun stored => ?_
  cases RetryPlan.ofTask t with
  | exhausted => exact lets.abandonResults.andThen fun _ => pure
  | retry => exact lets.ensureSuccessor.andThen fun _ => pure

theorem repairLineage (lets : LetsChores pod C I) : PreservesOr C I (repairLineage s t) := by
  unfold Agent.repairLineage
  refine (lets.tries (lets.call (.findSuccessor _) trivial)).orFail.andThen fun found => ?_
  cases found with
  | none => exact lets.ensureSuccessor.andThen fun _ => pure
  | some successor =>
    simp only
    split
    · exact lets.submitSuccessor.andThen fun _ => pure
    all_goals exact pure

/-- The change that a decision asks for is a series of chores, unless it resets the claim of another
pod. -/
theorem makeTransition (lets : LetsChores pod C I) {now : Date} {change : Acquisition.Transition}
    (spares : ∀ owner, change = .resetToSubmitted owner → owner = pod) :
    PreservesOr C I (makeTransition s t now change) := by
  cases change with
  | none => exact pure
  | claim => exact ((lets.updateTask (Spares.of_ne (by decide))).mapped some).orFail
  | resetToSubmitted owner =>
    refine ((lets.updateTask ?_).mapped some).orFail
    rintro other h
    obtain rfl : owner = other := by
      cases h
      rfl
    exact spares owner rfl
  | retryAbandoned owner => exact (lets.retryTask Spares.abandoned).mapped some
  | finishCancellation =>
    exact (lets.updateTask (Spares.of_ne (by decide))).orFail.andThen fun cancelled =>
      lets.abandonResults.andThen fun _ => pure

/-- Deciding asks whether a pod is alive at most. -/
theorem reachDecision (lets : LetsChores pod C I) {situation : Acquisition.Situation} :
    PreservesOr C I (reachDecision s task situation) := by
  unfold Agent.reachDecision
  split
  · exact pure
  · next owner _ =>
    split
    · exact failed
    · next t _ =>
      refine (lets.tries
        (lets.call (.isAlive t.session t.id owner) trivial)).orFail.andThen fun alive => ?_
      split
      · exact pure
      · exact failed

/-! Ending an attempt. -/

theorem transition (lets : LetsChores pod C I) {change : TaskUpdate} (hs : Spares pod expected) :
    PreservesOr C I (transition s task expected change) := by
  unfold Agent.transition
  refine (lets.updateTask hs).attempted ?_
  rintro ((other | found | reason) | updated)
  · exact failed
  · exact pure
  · exact failed
  · exact pure

theorem finishCancellation (lets : LetsChores pod C I) :
    PreservesOr C I (finishCancellation s task) := by
  unfold Agent.finishCancellation
  refine lets.asks .now trivial fun now => ?_
  refine (lets.transition (Spares.of_ne (by decide))).andThen ?_
  rintro (lost | updated)
  · simp only
    split
    · exact lets.abandonResults.andThen fun _ => pure
    · exact pure
  · exact lets.abandonResults.andThen fun _ => pure

theorem onLostUpdate (lets : LetsChores pod C I) (lost : LostUpdate) :
    PreservesOr C I (onLostUpdate s task lost) := by
  unfold Agent.onLostUpdate
  split
  · exact lets.finishCancellation
  · exact pure

theorem release (lets : LetsChores pod C I) (hs : Spares pod expected) :
    PreservesOr C I (release s task expected) := by
  unfold Agent.release
  refine lets.asks .now trivial fun now => ?_
  refine (lets.transition hs).andThen ?_
  rintro (lost | updated)
  · exact lets.onLostUpdate lost
  · exact pure

theorem finishWithout (lets : LetsChores pod C I) {status : TaskStatus} {output : Output}
    (hs : Spares pod expected) :
    PreservesOr C I (finishWithout s task expected status output) := by
  unfold Agent.finishWithout
  refine lets.asks .now trivial fun now => ?_
  refine (lets.transition hs).andThen ?_
  rintro (lost | updated)
  · exact lets.onLostUpdate lost
  · exact lets.abandonResults.andThen fun _ => pure

theorem retryAttempt (lets : LetsChores pod C I) {reason : String} {disposition : Disposition}
    (hs : Spares pod expected) :
    PreservesOr C I (retryAttempt s t expected reason disposition) := by
  unfold Agent.retryAttempt
  refine (lets.retryTask hs).attempted fun outcome => ?_
  split
  · exact pure
  · exact lets.onLostUpdate _
  · exact failed

theorem onWorkerFailure (lets : LetsChores s.podId C I) {cause : WorkerError} :
    PreservesOr C I (onWorkerFailure s t run cause) := by
  have retried : PreservesOr C I (do
      let resolution ← Agent.retryAttempt s t (heldBy s.podId) cause.message .cancelled
      return resolution.withFault cause.message : Fallible AgentError Resolution) :=
    (lets.retryAttempt Spares.held).andThen fun _ => pure
  unfold Agent.onWorkerFailure
  refine lets.asks (.stopRequested run) trivial fun stopped => ?_
  split
  · exact lets.finishCancellation
  · refine lets.asks .shutdownRequested trivial fun shutdown => ?_
    split
    · refine lets.asks .probeLiveness trivial fun health => ?_
      split
      · exact lets.release Spares.held
      · exact retried
    · exact retried

theorem complete (lets : LetsChores s.podId C I) {output : Output} :
    PreservesOr C I (complete s task output) := by
  unfold Agent.complete
  refine lets.asks .now trivial fun now => ?_
  refine (lets.transition Spares.executed).andThen ?_
  rintro (lost | updated)
  · exact lets.onLostUpdate lost
  · refine attempted (lets.call (.finalize task) trivial) fun outcome => ?_
    cases outcome <;> exact pure

theorem recordOutput (lets : LetsChores s.podId C I) {output : Output} :
    PreservesOr C I (recordOutput s t run output) := by
  unfold Agent.recordOutput
  split
  · exact lets.complete
  · exact lets.finishWithout Spares.executed
  · refine lets.asks (.stopRequested run) trivial fun stopped => ?_
    split
    · exact lets.finishCancellation
    · exact lets.retryAttempt Spares.executed

/-! Execution. -/

theorem prefetchAll (lets : LetsChores pod C I) {needed : List DataId} :
    PreservesOr C I (prefetchAll s task needed) := by
  induction needed with
  | nil => exact pure
  | cons data rest ih =>
    have fetched : PreservesOr C I (fetch s data) := lets.tries (lets.call (.fetch data) trivial)
    have one : PreservesOr C I (prefetchObject s task data) := fetched.andThen fun bytes =>
      andThen (lets.call (.saveScratch task data bytes) trivial) fun _ => pure
    exact one.andThen fun _ => ih.andThen fun _ => pure

theorem prefetch (lets : LetsChores pod C I) : PreservesOr C I (prefetch s t) :=
  andThen (lets.call (.makeScratch t.id) trivial) fun _ => lets.prefetchAll.andThen fun _ => pure

theorem sendAll (lets : LetsChores pod C I) {stream : StreamId} {requests : List WorkRequest} :
    PreservesOr C I (sendAll run stream requests) := by
  induction requests with
  | nil => exact pure
  | cons request rest ih => exact andThen (lets.call (.send run stream request) trivial) fun _ => ih

theorem exchange (lets : LetsChores pod C I) {stream : StreamId} {requests : List WorkRequest} :
    PreservesOr C I (exchange run stream requests) :=
  lets.sendAll.andThen fun _ =>
    andThen (lets.call (.finishSending run stream) trivial) fun _ =>
      lets.call (.awaitReply run stream) trivial

theorem callWorker (lets : LetsChores s.podId C I) {stream : StreamId} {requests : List WorkRequest} :
    PreservesOr C I (callWorker s t run stream requests) := by
  unfold Agent.callWorker
  refine lets.asks .now trivial fun now => ?_
  refine (lets.transition Spares.claimed).attempted ?_
  rintro (cause | lost | stored)
  · exact lets.asks (.hangUp stream) trivial fun _ => failed
  · refine (lets.onLostUpdate lost).attempted fun outcome => ?_
    exact lets.asks (.hangUp stream) trivial fun _ => resumed _
  · refine lets.exchange.attempted fun reply => ?_
    refine lets.asks (.hangUp stream) trivial fun _ => ?_
    cases reply with
    | ok output => exact lets.recordOutput
    | error cause => exact lets.onWorkerFailure

/-- Wherever the books are as described a clock reading later a call gets its deadline, or breaks off as
it may. -/
def LetsDeadline (C : Conduct collaborators σ) (I : σ → Prop) (t : TaskRecord) (run : RunId) : Prop :=
  ∀ k now, I k → FollowsOr C (callDeadline t run now) (C.note k .now now) (fun _ k' => I k')
    fun _ _ => False

theorem reachWorker (lets : LetsChores s.podId C I) (deadline : LetsDeadline C I t run)
    {requests : List WorkRequest} : PreservesOr C I (reachWorker s t run requests) := by
  unfold Agent.reachWorker
  refine iff_followsOr.mpr fun k hk => ?_
  refine followsOr_bind.mpr (followsOr_lift.mpr ⟨(lets .now trivial k hk).1, fun now _ => ?_⟩)
  refine followsOr_bind.mpr ((deadline k now hk).mono ?_ fun _ _ h => h.elim)
  intro until? k' hk'
  refine (attempted (lets.call (.connect run t.id until?) trivial) fun outcome => ?_).follows hk'
  split
  · exact lets.callWorker
  · refine lets.asks (.stopRequested run) trivial fun stopped => ?_
    split
    · exact lets.onWorkerFailure
    · exact lets.release Spares.claimed
  · exact lets.onWorkerFailure

theorem runWorker (lets : LetsChores s.podId C I) (deadline : LetsDeadline C I t run)
    {requests : List WorkRequest} : PreservesOr C I (runWorker s t run requests) := by
  unfold Agent.runWorker
  refine lets.asks .shutdownRequested trivial fun shutdown => ?_
  refine lets.asks (.stopRequested run) trivial fun stopped => ?_
  split
  · exact lets.release Spares.claimed
  · refine lets.asks (.beginWatch run) trivial fun _ => ?_
    refine (lets.reachWorker deadline).attempted fun outcome => ?_
    exact lets.asks (.endWatch run) trivial fun _ => resumed outcome

/-- An execution is a series of chores, and may break off over a deadline. -/
theorem execute (lets : LetsChores s.podId C I) (deadline : LetsDeadline C I t run) :
    PreservesOr C I (execute s t run) := by
  unfold Agent.execute
  refine lets.asks .shutdownRequested trivial fun shutdown => ?_
  split
  · exact lets.release Spares.claimed
  · refine lets.prefetch.attempted fun outcome => ?_
    split
    · exact lets.runWorker deadline
    · exact lets.finishWithout Spares.claimed
    · exact (lets.retryAttempt Spares.claimed).andThen fun _ => pure

/-- Stopping an execution is a series of chores too. -/
theorem stopExecution (lets : LetsChores s.podId C I) : PreservesOr C I (stopExecution s task run) := by
  unfold Agent.stopExecution
  refine lets.asks (.requestStop run) trivial fun before => ?_
  split
  · exact pure
  · refine attempted (lets.call
      (.updateTask task (heldBy s.podId) { status := .cancelling }) Spares.held) fun marked => ?_
    refine lets.asks (.cancel run) trivial fun _ => ?_
    split
    · exact pure
    · exact pure
    · exact failed

end LetsChores

/-! Errands as such. -/

/-- The rules of a pod that runs errands. -/
def errands (pod : PodId) : Conduct collaborators Unit :=
  ⟨fun _ request => request.IsErrand pod, fun _ _ => True, fun _ _ _ => ()⟩

/-- The program runs errands of a pod, and nothing else. -/
abbrev RunsErrands {ε α : Type} (pod : PodId) (p : Fallible ε α) : Prop :=
  PreservesOr (errands pod) (fun _ => True) p

namespace RunsErrands

variable {pod : PodId} {ε α : Type} {s : Settings} {task : TaskId} {t : TaskRecord} {run : RunId}

theorem letsChores (pod : PodId) : LetsChores pod (errands pod) fun _ => True :=
  fun _ hr _ _ => ⟨hr.isErrand, fun _ => trivial⟩

/-- An execution is a series of errands. -/
theorem execute : RunsErrands s.podId (execute s t run) := by
  refine (letsChores s.podId).execute fun k now _ => ?_
  exact (callDeadline_steady (keeps_call trivial fun _ => rfl)).mono (fun _ _ _ => trivial)
    fun _ _ h => h

/-- Rules that let a pod run errands are followed by whatever runs them, and what no errand changes in
the books stays. -/
theorem follows {σ : Type} {C : Conduct collaborators σ} {I : σ → Prop} {k : σ}
    {p : Fallible ε α} (h : RunsErrands pod p) (lets : ∀ k request, I k → request.IsErrand pod →
      C.may k request ∧ ∀ reply, I (C.note k request reply)) (hk : I k) :
    FollowsOr C p k (fun _ k' => I k') fun _ k' => I k' := by
  refine Follows.mono (Follows.along (D := C) (J := fun _ k' => I k') ?_ (h () trivial) hk) ?_
  · exact fun _ k' request hi he =>
      ⟨(lets k' request hi he).1, fun reply _ => ⟨trivial, (lets k' request hi he).2 reply⟩⟩
  · rintro (cause | value) k' ⟨-, hi, -⟩ <;> exact hi

/-- Rules that let a pod run errands and do not note them are kept. -/
theorem keeps {σ : Type} {C : Conduct collaborators σ} {k : σ} {p : Fallible ε α}
    (h : RunsErrands pod p) (lets : ∀ request, request.IsErrand pod →
      C.may k request ∧ ∀ reply, C.note k request reply = k) :
    Keeps C (I := collaborators) (α := Except ε α) p k := by
  refine keeps_of_followsOr (h.follows (I := fun k' => k' = k) ?_ rfl)
  rintro _ request rfl he
  exact lets request he

end RunsErrands

end GridAgent.Cluster
