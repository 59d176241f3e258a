import GridAgent.Agent.Handler
import GridAgent.Proofs.Acquisition.Decision
import GridAgent.Proofs.Program.Conduct

/-!
# Jobs that keep one set of books

Some rules look at a job in one state of the books from beginning to end: what matters to them are
the records that the job is shown and the successors it creates, and no answer changes the books.
Rules that grant a job its calls in such a state are obeyed by everything that an agent does for the
task. Whatever the rules let the job know of a record of its task holds of every record it goes on
with.
-/

namespace GridAgent.Agent

open Program

/-- The request neither reads nor changes a record, an execution or a message. -/
def Request.isWork : Request → Bool
  | .now | .pause _ | .findSuccessor _ | .readSession _ | .isAlive .. => true
  | .fetch _ | .makeScratch _ | .saveScratch .. | .clearScratch _ => true
  | .shutdownRequested | .probeLiveness | .stopRequested _ => true
  | .beginWatch _ | .endWatch _ | .breakOff _ => true
  | .connect .. | .send .. | .finishSending .. | .awaitReply .. | .hangUp _ => true
  | _ => false

/-- The request neither reads nor changes a record, settles no results, begins or ends no execution, and
has nothing to do with the files of one. -/
def Request.isPlain : Request → Bool
  | .newTaskId | .push _ => true
  | .requestStop _ | .cancel _ => true
  | .dispose .. | .settle _ => true
  | .saveScratch .. | .clearScratch _ | .send .. => false
  | request => request.isWork

/-- The request is made on the way out of a handler, whatever happened before. -/
def Request.isWayOut : Request → Bool
  | .endWatch _ | .unregister _ | .clearScratch _ | .settle _ => true
  | _ => false

end GridAgent.Agent

namespace GridAgent.Cluster

open Agent Program Acquisition

section
variable {σ α β ε ε' : Type} {C : Conduct collaborators σ} {k : σ}

/-- The program keeps the books and ends with a value as described. -/
abbrev Steady (C : Conduct collaborators σ) (k : σ) (p : Action α) (Q : α → Prop) : Prop :=
  p.Follows C k fun value k' => k' = k ∧ Q value

/-- The program keeps the books and ends with a value as described, or fails; it may have changed the
books then, if the failure and the books are of a given kind. -/
abbrev SteadyOr (C : Conduct collaborators σ) (k : σ) (E : ε → σ → Prop) (p : Fallible ε α)
    (Q : α → Prop) : Prop :=
  FollowsOr C p k (fun value k' => k' = k ∧ Q value) fun cause k' => k' = k ∨ E cause k'

/-- No failure changes the books. -/
abbrev never (_ : ε) (_ : σ) : Prop := False

variable {D : ε → σ → Prop} {E : ε' → σ → Prop}

/-- What keeps the books ends with some value. -/
theorem steady_of_keeps {p : Action α} (h : Keeps C p k) : Steady C k p fun _ => True :=
  Follows.mono h fun _ _ hk => ⟨hk, trivial⟩

theorem steadyOr_of_keeps {p : Fallible ε α} (h : Keeps C (I := collaborators) p k) :
    SteadyOr C k D p fun _ => True :=
  h.followsOr (fun _ => ⟨rfl, trivial⟩) fun _ => .inl rfl

/-- What is known of the value may be weakened. -/
theorem SteadyOr.mono {p : Fallible ε α} {Q R : α → Prop} (h : SteadyOr C k D p Q)
    (hQR : ∀ value, Q value → R value) : SteadyOr C k D p R :=
  FollowsOr.mono h (fun value _ hq => ⟨hq.1, hQR value hq.2⟩) fun _ _ hk => hk

/-- A sequence keeps the books if both programs do. -/
theorem SteadyOr.andThen {p : Fallible ε α} {f : α → Fallible ε β} {Q : α → Prop} {R : β → Prop}
    (hp : SteadyOr C k D p Q) (hf : ∀ value, Q value → SteadyOr C k D (f value) R) :
    SteadyOr C k D (p >>= f) R := by
  refine followsOr_bind.mpr (FollowsOr.mono hp ?_ fun _ _ hk => hk)
  rintro value _ ⟨rfl, hq⟩
  exact hf value hq

/-- The same after a program that cannot fail. -/
theorem Steady.andThen {p : Action α} {f : α → Fallible ε β} {Q : α → Prop} {R : β → Prop}
    (hp : Steady C k p Q) (hf : ∀ value, Q value → SteadyOr C k D (f value) R) :
    SteadyOr C k D (liftM p >>= f) R := by
  refine followsOr_bind.mpr (followsOr_lift.mpr (Follows.mono hp ?_))
  rintro value _ ⟨rfl, hq⟩
  exact hf value hq

/-- The same with the outcome of a program that may fail, where the rest goes on from the books that
a failure leaves. -/
theorem SteadyOr.attemptedElse {p : Fallible ε α} {f : Except ε α → Fallible ε' β} {Q : α → Prop}
    {R : β → Prop} (hp : SteadyOr C k D p Q)
    (hf : ∀ outcome, (∀ value, outcome = .ok value → Q value) → SteadyOr C k E (f outcome) R)
    (he : ∀ cause k', D cause k' → FollowsOr C (f (.error cause)) k'
      (fun value k'' => k'' = k ∧ R value) fun cause k'' => k'' = k ∨ E cause k'') :
    SteadyOr C k E (attempt p >>= f) R := by
  refine followsOr_bind.mpr (followsOr_attempt.mpr (FollowsOr.mono hp ?_ ?_))
  · rintro value _ ⟨rfl, hq⟩
    exact hf (.ok value) fun _ e => Except.ok.inj e ▸ hq
  · rintro cause k' (rfl | hk)
    · exact hf (.error cause) nofun
    · exact he cause k' hk

/-- The same where failures leave the books. -/
theorem SteadyOr.attempted {p : Fallible ε α} {f : Except ε α → Fallible ε' β} {Q : α → Prop}
    {R : β → Prop} (hp : SteadyOr C k never p Q)
    (hf : ∀ outcome, (∀ value, outcome = .ok value → Q value) → SteadyOr C k E (f outcome) R) :
    SteadyOr C k E (attempt p >>= f) R :=
  hp.attemptedElse hf fun _ _ hk => hk.elim

/-- The same with the failure as one of the agent. -/
theorem SteadyOr.orFail {p : Fallible ε α} {cause : ε → AgentError} {E : AgentError → σ → Prop}
    {Q : α → Prop} (hp : SteadyOr C k (fun e => E (cause e)) p Q) :
    SteadyOr C k E (orFail cause p) Q :=
  followsOr_orFail.mpr hp

/-- The same with the value put to use. -/
theorem SteadyOr.mapped {p : Fallible ε α} {f : α → β} {Q : β → Prop}
    (hp : SteadyOr C k D p fun value => Q (f value)) : SteadyOr C k D (f <$> p) Q :=
  followsOr_map.mpr hp

/-- Going on with an outcome that is as described. -/
theorem steadyOr_resume {outcome : Except ε α} {Q : α → Prop}
    (h : ∀ value, outcome = .ok value → Q value) : SteadyOr C k D (resume outcome) Q := by
  cases outcome with
  | ok value => exact ⟨rfl, h value rfl⟩
  | error cause => exact .inl rfl

/-- Trying again keeps the books if each try and each pause does. -/
theorem SteadyOr.tried [Transient ε] {s : Settings} {p : Fallible ε α} {Q : α → Prop}
    (hp : SteadyOr C k never p Q) (hpause : ∀ wait, Keeps C (Call.pause wait) k) :
    SteadyOr C k D (retrying s p) Q := by
  refine followsOr_retrying (J := fun k' => k' = k) (K := fun k' => k' = k) ?_ ?_ rfl
  · rintro _ rfl
    refine FollowsOr.mono hp (fun _ _ hq => hq) fun _ _ hk => ?_
    exact ⟨hk.imp_right False.elim, fun _ => hk.elim id False.elim⟩
  · rintro _ wait rfl
    exact hpause wait

/-- Talking to the worker keeps the books if each call of the exchange does. -/
theorem exchange_steady {E : WorkerError → σ → Prop} {run : RunId} {stream : StreamId}
    {requests : List WorkRequest}
    (sends : ∀ request ∈ requests, Keeps C (.call (.send run stream request) .done) k)
    (finish : Keeps C (.call (.finishSending run stream) .done) k)
    (waits : Keeps C (.call (.awaitReply run stream) .done) k) :
    SteadyOr C k E (exchange run stream requests) fun _ => True := by
  have sent : SteadyOr C k E (sendAll run stream requests) fun _ => True := by
    induction requests with
    | nil => exact ⟨rfl, trivial⟩
    | cons request rest ih =>
      refine (steadyOr_of_keeps (sends request List.mem_cons_self)).andThen fun _ _ => ?_
      exact ih fun other ho => sends other (List.mem_cons_of_mem _ ho)
  exact sent.andThen fun _ _ => (steadyOr_of_keeps finish).andThen fun _ _ => steadyOr_of_keeps waits

/-- A call gets a deadline, or the handler breaks off. -/
theorem callDeadline_steady {t : TaskRecord} {run : RunId} {now : Date}
    (breaks : Keeps C (.call (.breakOff run) .done) k) :
    FollowsOr C (callDeadline t run now) k (fun _ k' => k' = k) fun _ _ => False := by
  unfold Agent.callDeadline
  split
  · exact rfl
  · split
    · exact rfl
    · split
      · exact rfl
      · exact breaks.lift fun never => nomatch never

end

/-- In these books the rules let an agent work, and work changes nothing in them. -/
def LetsWork {σ : Type} (C : Conduct collaborators σ) (k : σ) : Prop :=
  ∀ request : Request, request.isWork = true →
    C.may k request ∧ ∀ reply, C.note k request reply = k

namespace LetsWork

variable {σ : Type} {C : Conduct collaborators σ} {k : σ} {s : Settings}

theorem asks (h : LetsWork C k) {request : Request} (hr : request.isWork = true) :
    Keeps C (.call request .done) k :=
  keeps_call (h request hr).1 (h request hr).2

theorem prefetchAll {E : StorageError → σ → Prop} (h : LetsWork C k) (task : TaskId)
    (needed : List DataId) : SteadyOr C k E (prefetchAll s task needed) fun _ => True := by
  induction needed with
  | nil => exact ⟨rfl, trivial⟩
  | cons data rest ih =>
    have fetched : SteadyOr C k E (fetch s data) fun _ => True :=
      (steadyOr_of_keeps (h.asks rfl)).tried fun _ => h.asks rfl
    have one : SteadyOr C k E (prefetchObject s task data) fun _ => True :=
      fetched.andThen fun bytes _ =>
        (steadyOr_of_keeps (h.asks rfl)).andThen fun _ _ => ⟨rfl, trivial⟩
    exact one.andThen fun _ _ => ih.andThen fun _ _ => ⟨rfl, trivial⟩

/-- Filling the scratch directory is work. -/
theorem prefetch {E : StorageError → σ → Prop} (h : LetsWork C k) (t : TaskRecord) :
    SteadyOr C k E (prefetch s t) fun _ => True :=
  (steadyOr_of_keeps (h.asks rfl)).andThen fun _ _ =>
    (h.prefetchAll t.id (neededData t)).andThen fun _ _ => ⟨rfl, trivial⟩

/-- Talking to the worker is work. -/
theorem exchange {E : WorkerError → σ → Prop} (h : LetsWork C k) (run : RunId)
    (stream : StreamId) (requests : List WorkRequest) :
    SteadyOr C k E (exchange run stream requests) fun _ => True :=
  exchange_steady (fun _ _ => h.asks rfl) (h.asks rfl) (h.asks rfl)

end LetsWork

/-- The record was shown as a successor: it was found, or it is what became of one to be stored. -/
inductive IsShown {σ : Type} (C : Conduct collaborators σ) (t : TaskRecord) : Prop
  /-- It was found. -/
  | found (task : TaskId) (shown : C.credible (.findSuccessor task) (.ok (some t)))
  /-- It was stored, or another one had been stored before. -/
  | stored (parent candidate : TaskRecord)
    (shown : C.credible (.createSuccessor parent candidate) (.ok t))

/-- The task was shown to have failed: what is described says so, or an update was lost to its
cancellation. -/
inductive HasFailed {σ : Type} (C : Conduct collaborators σ) (task : TaskId) (R : TaskRecord → Prop) :
    Prop
  /-- A record as described says so. -/
  | described (t : TaskRecord) (record : R t) (failed : t.status.isFailure = true)
  /-- It was cancelled before an update. -/
  | lost (expected : Expectation) (change : TaskUpdate) (found : LostUpdate)
    (shown : C.credible (.updateTask task expected change) (.error (.conflict found)))
    (cancelled : found.status = .cancelled)

/-- In these books the rules grant an agent most of its calls for a task: all but to start and retry
it, and to register an execution, deal with its files and end it. Results are settled once the task was
shown to have ended. No answer changes the books, and every record of the task that is shown is as
described. -/
structure Grants {σ : Type} (C : Conduct collaborators σ) (k : σ) (task : TaskId)
    (R : TaskRecord → Prop) : Prop where
  /-- What is described has the identifier of the task. -/
  id : ∀ t, R t → t.id = task
  /-- Most calls are granted. -/
  plain : ∀ request, request.isPlain = true →
    C.may k request ∧ ∀ reply, C.note k request reply = k
  /-- The results of a completed task may be made available. -/
  finalize : ∀ t, R t → t.status = .completed →
    C.may k (.finalize task) ∧ ∀ reply, C.note k (.finalize task) reply = k
  /-- The results of a failed task may be given up. -/
  abandon : HasFailed C task R →
    C.may k (.abandon task) ∧ ∀ reply, C.note k (.abandon task) reply = k
  /-- The task may be read. -/
  look : C.may k (.readTask task) ∧ ∀ reply, C.note k (.readTask task) reply = k
  /-- What is read is as described. -/
  seen : ∀ t, C.credible (.readTask task) (.ok (some t)) → R t
  /-- Defaults of its session leave a record as described. -/
  merged : ∀ t session, R t → C.credible (.readSession t.session) (.ok (some session)) →
    R (t.withDefaults session.defaults)
  /-- The task may be updated but for starting and retrying it. -/
  update : ∀ expected change, change.status ≠ .processing → change.status ≠ .retried →
    C.may k (.updateTask task expected change) ∧
      ∀ reply, C.note k (.updateTask task expected change) reply = k
  /-- What is updated is as described. -/
  updated : ∀ expected change t, C.credible (.updateTask task expected change) (.ok t) →
    R t ∧ t.status = change.status
  /-- A record may take over the options of another one. -/
  adopted : ∀ t t', R t → R t' → R { t' with options := t.options }
  /-- A successor that was shown may be promoted. -/
  promote : ∀ t now, IsShown C t →
    C.may k (.updateTask t.id (.status .creating) { status := .submitted, submitted := some now }) ∧
    ∀ reply, C.note k
      (.updateTask t.id (.status .creating) { status := .submitted, submitted := some now })
      reply = k
  /-- A retried task may be given a successor. -/
  succeed : ∀ parent id now, R parent → parent.status = .retried →
    C.may k (.createSuccessor parent (parent.successor id now)) ∧
      ∀ reply, C.note k (.createSuccessor parent (parent.successor id now)) reply = k

namespace Grants

variable {σ : Type} {C : Conduct collaborators σ} {k : σ} {task : TaskId} {R : TaskRecord → Prop}
  {E : AgentError → σ → Prop} {s : Settings} {t : TaskRecord}

/-! Calls. -/

/-- Most calls keep the books. -/
theorem asks (g : Grants C k task R) {request : Request} (hr : request.isPlain = true) :
    Keeps C (.call request .done) k :=
  keeps_call (g.plain request hr).1 (g.plain request hr).2

theorem pauses (g : Grants C k task R) (wait : Span) : Keeps C (Call.pause wait) k := g.asks rfl

/-- Most calls keep the books however often they are tried. -/
theorem tries {ε α : Type} [Transient ε] {D : ε → σ → Prop} (g : Grants C k task R)
    {p : Fallible ε α} (hp : Keeps C (I := collaborators) p k) :
    SteadyOr C k D (retrying s p) fun _ => True :=
  (steadyOr_of_keeps hp).tried g.pauses

theorem reads {D : StoreError → σ → Prop} (g : Grants C k task R) :
    SteadyOr C k D (Call.readTask task) fun found => ∀ t, found = some t → R t := by
  refine ⟨g.look.1, fun reply hc => ?_⟩
  rcases reply with cause | found
  · exact .inl (g.look.2 (.error cause))
  · refine ⟨g.look.2 (.ok found), fun t ht => ?_⟩
    subst ht
    exact g.seen t hc

/-- An update that is allowed and keeps the books leaves the task as described. -/
theorem updates {D : StoreError → σ → Prop} (g : Grants C k task R) {expected : Expectation}
    {change : TaskUpdate} (hu : C.may k (.updateTask task expected change) ∧
      ∀ reply, C.note k (.updateTask task expected change) reply = k) :
    SteadyOr C k D (Call.updateTask task expected change) fun t =>
      R t ∧ t.status = change.status := by
  refine ⟨hu.1, fun reply hc => ?_⟩
  rcases reply with cause | t
  · exact .inl (hu.2 (.error cause))
  · exact ⟨hu.2 (.ok t), g.updated expected change t hc⟩

/-- An update that neither starts nor retries the task keeps the books. -/
theorem updateTask {D : StoreError → σ → Prop} (g : Grants C k task R) {expected : Expectation}
    {change : TaskUpdate} (hp : change.status ≠ .processing) (hr : change.status ≠ .retried) :
    SteadyOr C k D (updateTask s task expected change) fun t => R t ∧ t.status = change.status :=
  (g.updates (g.update expected change hp hr)).tried g.pauses

/-- Giving results up cannot fail. -/
theorem abandonResults {ε : Type} {D : ε → σ → Prop} (g : Grants C k task R)
    (failed : HasFailed C task R) :
    SteadyOr C k D (abandonResults task : Fallible ε Unit) fun _ => True :=
  (steady_of_keeps (keeps_call (g.abandon failed).1 (g.abandon failed).2)).andThen
    fun _ _ => ⟨rfl, trivial⟩

/-! Succession. -/

theorem submitSuccessor (g : Grants C k task R) {successor : TaskRecord} (hs : IsShown C successor) :
    SteadyOr C k E (submitSuccessor s successor) fun _ => True := by
  unfold Agent.submitSuccessor
  split
  · exact ⟨rfl, trivial⟩
  · refine (steady_of_keeps (g.asks rfl)).andThen fun now _ => ?_
    obtain ⟨may, same⟩ := g.promote successor now hs
    refine ((steadyOr_of_keeps (keeps_call may same)).tried g.pauses).attempted ?_
    rintro ((other | found | reason) | submitted) -
    · exact .inl rfl
    · exact ⟨rfl, trivial⟩
    · exact .inl rfl
    · exact (g.tries (g.asks rfl)).orFail.andThen fun _ _ => ⟨rfl, trivial⟩

theorem ensureSuccessor (g : Grants C k task R) {parent : TaskRecord} (hp : R parent)
    (hs : parent.status = .retried) : SteadyOr C k E (ensureSuccessor s parent) fun _ => True := by
  unfold Agent.ensureSuccessor
  refine (steady_of_keeps (g.asks rfl)).andThen fun id _ => ?_
  refine (steady_of_keeps (g.asks rfl)).andThen fun now _ => ?_
  obtain ⟨may, same⟩ := g.succeed parent id now hp hs
  have stored : SteadyOr C k never (Call.createSuccessor parent (parent.successor id now))
      (IsShown C) := by
    refine ⟨may, fun reply hc => ?_⟩
    rcases reply with cause | successor
    · exact .inl (same (.error cause))
    · exact ⟨same (.ok successor), .stored _ _ hc⟩
  exact (stored.tried g.pauses).orFail.andThen fun successor shown => g.submitSuccessor shown

/-- Where a task may be retried while retries are left, what a failed attempt leaves behind is as
described. -/
theorem retryTask (g : Grants C k task R)
    (hr : ∀ expected change t, R t → RetryPlan.ofTask t = .retry →
      C.may k (.updateTask task expected change) ∧
        ∀ reply, C.note k (.updateTask task expected change) reply = k)
    (ht : R t) {expected : Expectation} {reason : String} :
    SteadyOr C k E (retryTask s t expected reason) fun updated => R updated := by
  unfold Agent.retryTask
  refine (steady_of_keeps (g.asks rfl)).andThen fun now _ => ?_
  rw [g.id t ht]
  cases hp : RetryPlan.ofTask t with
  | exhausted =>
    refine (g.updateTask (by nofun) (by nofun)).orFail.andThen fun stored hst => ?_
    have failed : HasFailed C task R := .described stored hst.1 (by rw [hst.2]; rfl)
    exact (g.abandonResults failed).andThen fun _ _ => ⟨rfl, g.adopted t stored ht hst.1⟩
  | retry =>
    refine ((g.updates (hr expected _ t ht hp)).tried g.pauses).orFail.andThen fun stored hst => ?_
    have described : R { stored with options := t.options } := g.adopted t stored ht hst.1
    exact (g.ensureSuccessor described hst.2).andThen fun _ _ => ⟨rfl, described⟩

/-! Acquisition. -/

theorem repairLineage (g : Grants C k task R) (ht : R t) (hs : t.status = .retried) :
    SteadyOr C k E (repairLineage s t) fun _ => True := by
  unfold Agent.repairLineage
  have found : SteadyOr C k never (Call.findSuccessor t.id) fun found =>
      ∀ successor, found = some successor → IsShown C successor := by
    obtain ⟨may, same⟩ := g.plain (.findSuccessor t.id) rfl
    refine ⟨may, fun reply hc => ?_⟩
    rcases reply with cause | found
    · exact .inl (same (.error cause))
    · refine ⟨same (.ok found), fun successor e => ?_⟩
      subst e
      exact .found t.id hc
  refine (found.tried g.pauses).orFail.andThen fun found shown => ?_
  cases found with
  | none => exact (g.ensureSuccessor ht hs).andThen fun _ _ => ⟨rfl, trivial⟩
  | some successor =>
    simp only
    split
    · exact (g.submitSuccessor (shown successor rfl)).andThen fun _ _ => ⟨rfl, trivial⟩
    all_goals exact ⟨rfl, trivial⟩

/-- The situation shows a record as described. -/
theorem readSituation (g : Grants C k task R) :
    SteadyOr C k E (readSituation s task) fun situation => ∀ t, situation.task = some t → R t := by
  unfold Agent.readSituation
  refine (g.reads.tried g.pauses).orFail.andThen fun record hr => ?_
  cases record with
  | none =>
    refine followsOr_bind.mpr (followsOr_pure.mpr ?_)
    refine (steady_of_keeps (g.asks rfl)).andThen fun now _ => ?_
    exact (steady_of_keeps (g.asks rfl)).andThen fun shutdown _ => ⟨rfl, fun _ e => nomatch e⟩
  | some t =>
    -- the session is read as it is counted on
    have session : SteadyOr C k never (Call.readSession t.session) fun found =>
        C.credible (.readSession t.session) (.ok found) := by
      obtain ⟨may, same⟩ := g.plain (.readSession t.session) rfl
      refine ⟨may, fun reply hc => ?_⟩
      rcases reply with cause | found
      · exact .inl (same (.error cause))
      · exact ⟨same (.ok found), hc⟩
    refine (session.tried g.pauses).orFail.andThen fun found hf => ?_
    refine (steady_of_keeps (g.asks rfl)).andThen fun now _ => ?_
    refine (steady_of_keeps (g.asks rfl)).andThen fun shutdown _ => ⟨rfl, fun t' e => ?_⟩
    obtain rfl := Option.some.inj e
    cases found with
    | none => exact hr t rfl
    | some session => exact g.merged t session (hr t rfl) hf

theorem reachDecision (g : Grants C k task R) {situation : Situation} :
    SteadyOr C k E (reachDecision s task situation) fun d =>
      ∀ t, situation.task = some t → Judged situation.pod t d := by
  unfold Agent.reachDecision
  split
  · next d hd => exact ⟨rfl, fun t ht => judged_of_decide ht hd⟩
  · split
    · exact .inl rfl
    · refine (g.tries (g.asks rfl)).orFail.andThen fun alive _ => ?_
      split
      · next d hd =>
        exact ⟨rfl, fun t ht => judged_of_decide (s := { situation with ownerAlive := some alive })
          ht hd⟩
      · exact .inl rfl

/-! Handling. -/

/-- A conditional update that is allowed keeps the books; what it answers is as described, and one that
is lost is so as can be counted on. -/
theorem transition (g : Grants C k task R) {expected : Expectation} {change : TaskUpdate}
    (hu : C.may k (.updateTask task expected change) ∧
      ∀ reply, C.note k (.updateTask task expected change) reply = k) :
    SteadyOr C k E (transition s task expected change) fun outcome =>
      (∀ t, outcome = .ok t → R t ∧ t.status = change.status) ∧
        ∀ lost, outcome = .error lost →
          C.credible (.updateTask task expected change) (.error (.conflict lost)) := by
  unfold Agent.transition
  have shown : FollowsOr C (Agent.updateTask s task expected change) k
      (fun t k' => k' = k ∧ R t ∧ t.status = change.status) fun cause k' => k' = k ∧
        C.credible (.updateTask task expected change) (.error cause) := by
    refine followsOr_retrying (J := fun k' => k' = k) (K := fun k' => k' = k) ?_ ?_ rfl
    · rintro _ rfl
      refine ⟨hu.1, fun reply hc => ?_⟩
      rcases reply with cause | t
      · exact ⟨⟨hu.2 (.error cause), hc⟩, fun _ => hu.2 (.error cause)⟩
      · exact ⟨hu.2 (.ok t), g.updated expected change t hc⟩
    · rintro _ wait rfl
      exact g.pauses wait
  refine followsOr_bind.mpr (followsOr_attempt.mpr (shown.mono ?_ ?_))
  · rintro t _ ⟨rfl, ht⟩
    refine ⟨rfl, fun t' e => ?_, fun lost e => nomatch e⟩
    exact Except.ok.inj e ▸ ht
  · rintro (other | found | reason) _ ⟨rfl, hc⟩
    · exact .inl rfl
    · refine ⟨rfl, (fun t e => nomatch e), fun lost e => ?_⟩
      exact Except.error.inj e ▸ hc
    · exact .inl rfl

theorem finishCancellation (g : Grants C k task R) :
    SteadyOr C k E (finishCancellation s task) fun _ => True := by
  unfold Agent.finishCancellation
  refine (steady_of_keeps (g.asks rfl)).andThen fun now _ => ?_
  refine (g.transition (g.update _ _ (by nofun) (by nofun))).andThen fun outcome ho => ?_
  have settled (resolution : Resolution) (failed : HasFailed C task R) : SteadyOr C k E (do
      Agent.abandonResults task
      return resolution : Fallible AgentError Resolution) fun _ => True :=
    (g.abandonResults failed).andThen fun _ _ => ⟨rfl, trivial⟩
  cases outcome with
  | ok t =>
    obtain ⟨described, status⟩ := ho.1 t rfl
    exact settled _ (.described t described (by rw [status]; rfl))
  | error lost =>
    simp only
    split
    · next cancelled => exact settled _ (.lost _ _ lost (ho.2 lost rfl) cancelled)
    · exact ⟨rfl, trivial⟩

theorem onLostUpdate (g : Grants C k task R) (lost : LostUpdate) :
    SteadyOr C k E (onLostUpdate s task lost) fun _ => True := by
  unfold Agent.onLostUpdate
  split
  · exact g.finishCancellation
  · exact ⟨rfl, trivial⟩

theorem release (g : Grants C k task R) (expected : Expectation) :
    SteadyOr C k E (release s task expected) fun _ => True := by
  unfold Agent.release
  refine (steady_of_keeps (g.asks rfl)).andThen fun now _ => ?_
  refine (g.transition (g.update _ _ (by nofun) (by nofun))).andThen fun outcome _ => ?_
  cases outcome with
  | ok t => exact ⟨rfl, trivial⟩
  | error lost => exact g.onLostUpdate lost

theorem finishWithout (g : Grants C k task R) (expected : Expectation) {status : TaskStatus}
    (failure : status.isFailure = true) (output : Output) :
    SteadyOr C k E (finishWithout s task expected status output) fun _ => True := by
  unfold Agent.finishWithout
  have hp : status ≠ .processing := by rintro rfl; cases failure
  have hr : status ≠ .retried := by rintro rfl; cases failure
  refine (steady_of_keeps (g.asks rfl)).andThen fun now _ => ?_
  refine (g.transition (g.update _ _ hp hr)).andThen fun outcome ho => ?_
  cases outcome with
  | ok t =>
    obtain ⟨described, written⟩ := ho.1 t rfl
    have failed : HasFailed C task R := .described t described (by rw [written]; exact failure)
    exact (g.abandonResults failed).andThen fun _ _ => ⟨rfl, trivial⟩
  | error lost => exact g.onLostUpdate lost

theorem complete (g : Grants C k task R) (output : Output) :
    SteadyOr C k E (complete s task output) fun _ => True := by
  unfold Agent.complete
  refine (steady_of_keeps (g.asks rfl)).andThen fun now _ => ?_
  refine (g.transition (g.update _ _ (by nofun) (by nofun))).andThen fun outcome ho => ?_
  cases outcome with
  | error lost => exact g.onLostUpdate lost
  | ok t =>
    obtain ⟨described, status⟩ := ho.1 t rfl
    obtain ⟨may, same⟩ := g.finalize t described status
    refine (steadyOr_of_keeps (keeps_call may same)).attempted ?_
    rintro (cause | _) -
    · exact ⟨rfl, trivial⟩
    · exact ⟨rfl, trivial⟩

theorem dispose (g : Grants C k task R) (message : DeliveryId) (disposition : Disposition) :
    SteadyOr C k E (dispose message disposition) fun _ => True :=
  (steadyOr_of_keeps (g.asks rfl)).orFail

/-! Executions that are stopped. -/

theorem stopExecution (g : Grants C k task R) (run : RunId) :
    SteadyOr C k E (stopExecution s task run) fun _ => True := by
  unfold Agent.stopExecution
  refine (steady_of_keeps (g.asks rfl)).andThen fun before _ => ?_
  split
  · exact ⟨rfl, trivial⟩
  · refine (g.updates (g.update _ _ (by nofun) (by nofun))).attempted fun marked _ => ?_
    refine (steady_of_keeps (g.asks rfl)).andThen fun _ _ => ?_
    split
    · exact ⟨rfl, trivial⟩
    · exact ⟨rfl, trivial⟩
    · exact .inl rfl

theorem lookForCancellation (g : Grants C k task R) (run : RunId) :
    Steady C k (lookForCancellation s task run) fun _ => True := by
  unfold Agent.lookForCancellation
  refine follows_bind.mpr (Follows.mono (g.reads (D := never)) ?_)
  rintro (cause | _ | t) k₁ hk₁
  · exact ⟨hk₁.elim (fun h => h) False.elim, trivial⟩
  · exact ⟨hk₁.1, trivial⟩
  · obtain rfl := hk₁.1
    simp only
    split
    · refine follows_bind.mpr (Follows.mono (g.stopExecution (E := never) run) ?_)
      rintro (cause | first) k₂ hk₂
      · exact ⟨hk₂.elim (fun h => h) False.elim, trivial⟩
      · exact ⟨hk₂.1, trivial⟩
    · exact ⟨rfl, trivial⟩

end Grants

/-- In these books a task may be retried as well. Where its succession fails the books may be others:
such a failure is not a lost update, and the way out is open and changes nothing. -/
structure Retries {σ : Type} (C : Conduct collaborators σ) (k : σ) (task : TaskId)
    (R : TaskRecord → Prop) (E : AgentError → σ → Prop) : Prop extends Grants C k task R where
  /-- The task may be retried. -/
  retry : ∀ {s : Settings} t expected reason, R t →
    SteadyOr C k E (retryTask s t expected reason) R
  /-- A failed succession is no lost update. -/
  noLoss : ∀ lost k', ¬ E (.store (.conflict lost)) k'
  /-- After a failed succession the way out is open. -/
  wayOut : ∀ cause k', E cause k' → ∀ request, request.isWayOut = true →
    C.may k' request ∧ ∀ reply, C.note k' request reply = k'

namespace Retries

variable {σ : Type} {C : Conduct collaborators σ} {k : σ} {task : TaskId} {R : TaskRecord → Prop}
  {E : AgentError → σ → Prop} {s : Settings} {t : TaskRecord}

/-- After a failed succession a request on the way out keeps the books. -/
theorem leaves (g : Retries C k task R E) {cause : AgentError} {k' : σ} (he : E cause k')
    {request : Request} (hr : request.isWayOut = true) : Keeps C (.call request .done) k' :=
  keeps_call (g.wayOut cause k' he request hr).1 (g.wayOut cause k' he request hr).2

/-! Acquisition. -/

/-- The record after the change that a decision asks for is as described; it stays where the decision
asks for none. -/
theorem makeTransition (g : Retries C k task R E) (ht : R t) (now : Date) (change : Transition) :
    SteadyOr C k E (makeTransition s t now change) fun updated =>
      (∀ t', updated = some t' → R t') ∧ (updated = none → change = .none) := by
  have changed {t' : TaskRecord} (h : R t') :
      (∀ t₁, some t' = some t₁ → R t₁) ∧ (some t' = none → change = .none) :=
    ⟨fun _ e => Option.some.inj e ▸ h, fun e => nomatch e⟩
  cases change with
  | none =>
    refine ⟨rfl, ?_, fun _ => rfl⟩
    rintro t' e
    cases e
  | claim =>
    refine SteadyOr.orFail (SteadyOr.mapped ?_)
    rw [g.id t ht]
    exact (g.updateTask (by nofun) (by nofun)).mono fun t' h => changed h.1
  | resetToSubmitted owner =>
    refine SteadyOr.orFail (SteadyOr.mapped ?_)
    rw [g.id t ht]
    exact (g.updateTask (by nofun) (by nofun)).mono fun t' h => changed h.1
  | retryAbandoned owner =>
    exact SteadyOr.mapped ((g.retry t _ _ ht).mono fun t' h => changed h)
  | finishCancellation =>
    unfold Agent.makeTransition
    rw [g.id t ht]
    refine (g.updateTask (by nofun) (by nofun)).orFail.andThen fun cancelled hc => ?_
    have failed : HasFailed C task R := .described cancelled hc.1 (by rw [hc.2]; rfl)
    exact (g.abandonResults failed).andThen fun _ _ => ⟨rfl, changed hc.1⟩

/-- The task that acquisition leaves is as described. -/
theorem carryOut (g : Retries C k task R E) (ht : R t) {pod : PodId} {d : Decision}
    (hd : Judged pod t d) :
    SteadyOr C k E (carryOut s t d) fun acquired => ∀ t', acquired.task = some t' → R t' := by
  unfold Agent.carryOut
  refine (steady_of_keeps (g.asks rfl)).andThen fun now _ => ?_
  refine (g.makeTransition ht now d.transition).andThen fun updated hu => ?_
  cases updated with
  | some updated =>
    refine ⟨rfl, fun t' e => ?_⟩
    exact Option.some.inj e ▸ g.adopted t updated ht (hu.1 updated rfl)
  | none =>
    have same : ∀ t', some t = some t' → R t' := fun _ e => Option.some.inj e ▸ ht
    simp only
    split
    · next successor ho =>
      have retried : t.status = .retried := by
        have unchanged := hu.2 rfl
        cases hd with
        | stays outcome disposition refused retried settles => exact retried successor ho
        | own status owner => cases ho
        | _ => cases unchanged
      exact (g.repairLineage ht retried).andThen fun _ _ => ⟨rfl, same⟩
    · exact ⟨rfl, same⟩

theorem acquireOnce (g : Retries C k task R E) :
    SteadyOr C k E (acquireOnce s task) fun round =>
      ∀ acquired, round = .ok acquired → ∀ t, acquired.task = some t → R t := by
  unfold Agent.acquireOnce
  refine g.readSituation.andThen fun situation hs => ?_
  refine g.reachDecision.andThen fun d hd => ?_
  split
  · refine ⟨rfl, ?_⟩
    rintro _ e t ht
    obtain rfl := Except.ok.inj e
    cases ht
  · next t ht =>
    refine (g.carryOut (hs t ht) (hd t ht)).attemptedElse ?_ ?_
    · rintro (cause | acquired) ho
      · split
        · next e => cases e
        · exact ⟨rfl, fun _ e => nomatch e⟩
        · exact .inl rfl
      · exact ⟨rfl, fun _ e => Except.ok.inj e ▸ ho acquired rfl⟩
    · intro cause k' he
      split
      · next e => cases e
      · next e =>
        obtain rfl := Except.error.inj e
        exact absurd he (g.noLoss _ _)
      · next e =>
        obtain rfl := Except.error.inj e
        exact .inr he

/-- The task that acquisition answers is as described. -/
theorem acquireWithin (g : Retries C k task R E) (left : Nat) :
    SteadyOr C k E (acquireWithin s task left) fun acquired =>
      ∀ t, acquired.task = some t → R t := by
  induction left with
  | zero =>
    refine g.acquireOnce.andThen fun round hr => ?_
    cases round with
    | ok acquired => exact ⟨rfl, hr acquired rfl⟩
    | error lost => exact ⟨rfl, fun _ e => nomatch e⟩
  | succ left ih =>
    refine g.acquireOnce.andThen fun round hr => ?_
    cases round with
    | ok acquired => exact ⟨rfl, hr acquired rfl⟩
    | error lost => exact ih

/-! Handling. -/

theorem retryAttempt (g : Retries C k task R E) (ht : R t) (expected : Expectation)
    (reason : String) (disposition : Disposition) :
    SteadyOr C k E (retryAttempt s t expected reason disposition) fun _ => True := by
  unfold Agent.retryAttempt
  refine (g.retry t expected reason ht).attemptedElse (fun outcome _ => ?_) fun cause k' he => ?_
  · split
    · exact ⟨rfl, trivial⟩
    · rw [g.id t ht]
      exact g.onLostUpdate _
    · exact .inl rfl
  · split
    · next e => cases e
    · next e =>
      obtain rfl := Except.error.inj e
      exact absurd he (g.noLoss _ _)
    · next e =>
      obtain rfl := Except.error.inj e
      exact .inr he

theorem onWorkerFailure (g : Retries C k task R E) (ht : R t) (run : RunId) (cause : WorkerError) :
    SteadyOr C k E (onWorkerFailure s t run cause) fun _ => True := by
  unfold Agent.onWorkerFailure
  have retried : SteadyOr C k E (do
      let resolution ← Agent.retryAttempt s t (heldBy s.podId) cause.message .cancelled
      return resolution.withFault cause.message : Fallible AgentError Resolution) fun _ => True :=
    (g.retryAttempt ht _ _ _).andThen fun _ _ => ⟨rfl, trivial⟩
  rw [g.id t ht]
  refine (steady_of_keeps (g.asks rfl)).andThen fun stopped _ => ?_
  split
  · exact g.finishCancellation
  · refine (steady_of_keeps (g.asks rfl)).andThen fun shutdown _ => ?_
    split
    · refine (steady_of_keeps (g.asks rfl)).andThen fun health _ => ?_
      split
      · exact g.release _
      · exact retried
    · exact retried

theorem recordOutput (g : Retries C k task R E) (ht : R t) (run : RunId) (output : Output) :
    SteadyOr C k E (recordOutput s t run output) fun _ => True := by
  unfold Agent.recordOutput
  rw [g.id t ht]
  split
  · exact g.complete output
  · exact g.finishWithout _ rfl output
  · refine (steady_of_keeps (g.asks rfl)).andThen fun stopped _ => ?_
    split
    · exact g.finishCancellation
    · exact g.retryAttempt ht _ _ _

end Retries

/-- In these books a task may be started as well. -/
structure Starts {σ : Type} (C : Conduct collaborators σ) (k : σ) (task : TaskId)
    (R : TaskRecord → Prop) (E : AgentError → σ → Prop) : Prop extends Retries C k task R E where
  /-- The task may be started. -/
  start : ∀ expected change, change.status = .processing →
    C.may k (.updateTask task expected change) ∧
      ∀ reply, C.note k (.updateTask task expected change) reply = k

namespace Starts

variable {σ : Type} {C : Conduct collaborators σ} {k : σ} {task : TaskId} {R : TaskRecord → Prop}
  {E : AgentError → σ → Prop} {s : Settings} {t : TaskRecord}

/-- The worker is called in the same books where these let the handler send its requests. -/
theorem callWorker (g : Starts C k task R E) (ht : R t) (run : RunId) (stream : StreamId)
    {requests : List WorkRequest}
    (sends : ∀ request ∈ requests, Keeps C (.call (.send run stream request) .done) k) :
    SteadyOr C k E (callWorker s t run stream requests) fun _ => True := by
  have hungUp : Steady C k (Call.hangUp stream) fun _ => True := steady_of_keeps (g.asks rfl)
  unfold Agent.callWorker
  rw [g.id t ht]
  refine (steady_of_keeps (g.asks rfl)).andThen fun now _ => ?_
  refine (g.transition (g.start _ _ rfl)).attempted ?_
  rintro (cause | lost | stored) ho
  · exact hungUp.andThen fun _ _ => .inl rfl
  · refine (g.onLostUpdate lost).attempted fun outcome _ => ?_
    exact hungUp.andThen fun _ _ => steadyOr_resume fun _ _ => trivial
  · have described : R { stored with options := t.options } :=
      g.adopted t stored ht ((ho _ rfl).1 stored rfl).1
    refine (exchange_steady sends (g.asks rfl) (g.asks rfl)).attempted fun reply _ => ?_
    refine hungUp.andThen fun _ _ => ?_
    cases reply with
    | ok output => exact g.recordOutput described run output
    | error cause => exact g.onWorkerFailure described run cause

theorem reachWorker (g : Starts C k task R E) (ht : R t) (run : RunId) {requests : List WorkRequest}
    (sends : ∀ stream, ∀ request ∈ requests, Keeps C (.call (.send run stream request) .done) k) :
    SteadyOr C k E (reachWorker s t run requests) fun _ => True := by
  unfold Agent.reachWorker
  refine (steady_of_keeps (g.asks rfl)).andThen fun now _ => ?_
  refine followsOr_bind.mpr ((callDeadline_steady (g.asks rfl)).mono ?_ fun _ _ h => h.elim)
  rintro deadline _ rfl
  refine (steadyOr_of_keeps (g.asks rfl)).attempted fun outcome _ => ?_
  split
  · exact g.callWorker ht run _ (sends _)
  · refine (steady_of_keeps (g.asks rfl)).andThen fun stopped _ => ?_
    split
    · exact g.onWorkerFailure ht run _
    · rw [g.id t ht]
      exact g.release _
  · exact g.onWorkerFailure ht run _

theorem runWorker (g : Starts C k task R E) (ht : R t) (run : RunId) {requests : List WorkRequest}
    (sends : ∀ stream, ∀ request ∈ requests, Keeps C (.call (.send run stream request) .done) k) :
    SteadyOr C k E (runWorker s t run requests) fun _ => True := by
  unfold Agent.runWorker
  refine (steady_of_keeps (g.asks rfl)).andThen fun shutdown _ => ?_
  refine (steady_of_keeps (g.asks rfl)).andThen fun stopped _ => ?_
  split
  · rw [g.id t ht]
    exact g.release _
  · refine (steady_of_keeps (g.asks rfl)).andThen fun _ _ => ?_
    refine (g.reachWorker ht run sends).attemptedElse (fun outcome _ => ?_) fun cause k' he => ?_
    · exact (steady_of_keeps (g.asks rfl)).andThen fun _ _ => steadyOr_resume fun _ _ => trivial
    · exact (g.leaves he rfl).lift fun _ => .inr he

end Starts

/-- In these books an execution may be gone through and ended as well: its files and its end change
nothing in them. -/
structure Executes {σ : Type} (C : Conduct collaborators σ) (k : σ) (task : TaskId)
    (R : TaskRecord → Prop) (E : AgentError → σ → Prop) : Prop extends Starts C k task R E where
  /-- The work for an execution is allowed. -/
  works : LetsWork C k
  /-- An execution may be ended. -/
  leave : ∀ run, C.may k (.unregister run) ∧ ∀ reply, C.note k (.unregister run) reply = k

/-- Rules without books let an execution be gone through if they allow all that it takes. -/
theorem Grants.executes {C : Conduct collaborators Unit} {task : TaskId} {R : TaskRecord → Prop}
    (g : Grants C () task R) (works : ∀ request : Request, request.isWork = true → C.may () request)
    (leaves : ∀ run, C.may () (.unregister run))
    (starts : ∀ expected change, change.status = .processing →
      C.may () (.updateTask task expected change))
    (retries : ∀ expected change t, R t → RetryPlan.ofTask t = .retry →
      C.may () (.updateTask task expected change)) : Executes C () task R never where
  toGrants := g
  retry _ _ _ ht := g.retryTask
    (fun expected change t ht hp => ⟨retries expected change t ht hp, fun _ => rfl⟩) ht
  noLoss _ _ h := h
  wayOut _ _ h := h.elim
  start expected change hp := ⟨starts expected change hp, fun _ => rfl⟩
  works request hr := ⟨works request hr, fun _ => rfl⟩
  leave run := ⟨leaves run, fun _ => rfl⟩

namespace Executes

variable {σ : Type} {C : Conduct collaborators σ} {k : σ} {task : TaskId} {R : TaskRecord → Prop}
  {E : AgentError → σ → Prop} {s : Settings} {t : TaskRecord}

theorem execute (g : Executes C k task R E) (ht : R t) (run : RunId) :
    SteadyOr C k E (execute s t run) fun _ => True := by
  unfold Agent.execute
  refine (steady_of_keeps (g.asks rfl)).andThen fun shutdown _ => ?_
  split
  · rw [g.id t ht]
    exact g.release _
  · refine (g.works.prefetch t).attempted fun outcome _ => ?_
    split
    · exact g.runWorker ht run fun _ _ _ => g.works.asks rfl
    · rw [g.id t ht]
      exact g.finishWithout _ rfl _
    · exact (g.retryAttempt ht _ _ _).andThen fun _ _ => ⟨rfl, trivial⟩

/-- An execution that is registered ends in the same books. -/
theorem executed (g : Executes C k task R E) (ht : R t) (run : RunId) (message : DeliveryId)
    (report : HandlerReport) : SteadyOr C k E (do
      let outcome ← attempt (Agent.execute s t run)
      Call.unregister run
      Call.clearScratch task
      let resolution ← resume outcome
      Agent.dispose message resolution.disposition
      return { report with
        status := some resolution.status
        disposition := resolution.disposition
        fault := resolution.fault } : Fallible AgentError HandlerReport) fun _ => True := by
  refine (g.execute ht run).attemptedElse (fun outcome _ => ?_) fun cause k' he => ?_
  · refine (steady_of_keeps (keeps_call (g.leave run).1 (g.leave run).2)).andThen fun _ _ => ?_
    refine (steady_of_keeps (g.works.asks rfl)).andThen fun _ _ => ?_
    refine (steadyOr_resume (Q := fun _ => True) fun _ _ => trivial).andThen fun resolution _ => ?_
    exact (g.dispose message resolution.disposition).andThen fun _ _ => ⟨rfl, trivial⟩
  · refine (g.leaves he rfl).lift fun _ => (g.leaves he rfl).lift fun _ => ?_
    exact followsOr_bind.mpr (followsOr_resume_error.mpr (.inr he))

/-- A whole message is handled in the same books where these let the task be registered. -/
theorem handleMessage (g : Executes C k task R E)
    (hr : C.may k (.register task) ∧ ∀ reply, C.note k (.register task) reply = k)
    (message : DeliveryId) : SteadyOr C k E (handleMessage s message task) fun _ => True := by
  have registered : Steady C k (Call.register task) fun _ => True :=
    steady_of_keeps (keeps_call hr.1 hr.2)
  have processed : SteadyOr C k E (process s message task) fun _ => True := by
    refine (g.acquireWithin _).andThen fun acquired ha => ?_
    split
    · next t _ ht =>
      refine registered.andThen fun run _ => ?_
      cases run with
      | none => exact (g.dispose message .postponed).andThen fun _ _ => ⟨rfl, trivial⟩
      | some run => exact g.executed (ha t ht) run message _
    · exact (g.dispose message acquired.disposition).andThen fun _ _ => ⟨rfl, trivial⟩
  unfold Agent.handleMessage
  refine processed.attemptedElse (fun outcome _ => ?_) fun cause k' he => ?_
  · refine (steadyOr_of_keeps (g.asks rfl)).attempted fun settled _ => ?_
    refine (steadyOr_resume (Q := fun _ => True) fun _ _ => trivial).andThen fun report _ => ?_
    cases settled with
    | ok _ => exact ⟨rfl, trivial⟩
    | error cause => exact .inl rfl
  · refine keeps_attempt (g.leaves he rfl) fun settled => ?_
    exact followsOr_bind.mpr (followsOr_resume_error.mpr (.inr he))

end Executes

end GridAgent.Cluster
