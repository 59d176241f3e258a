import GridAgent.Proofs.Handler.Attempt

/-!
# One attempt from delivery to settlement

A message about a free task of a running session is handled while nobody else does anything and
nothing breaks but the worker. What the handler comes to then follows from the data that is there,
from how the worker behaves and from the retries that are left: the statuses that are written, what
becomes of the message, what the worker is told, and what happens to the results and to the lineage.
-/

namespace GridAgent.Cluster

open Agent Surroundings

/-- A task has ended for good without its results: they are given up, and it has no successor. -/
def GivenUp (t : TaskRecord) (s s' : Store) (pushed : List TaskId) : Prop :=
  s.LeftWithout t.outputs s' pushed ∧ s'.successor? t.id = none

/-- A failed task has one successor, which is pushed. -/
def Continued (t : TaskRecord) (s s' : Store) (pushed : List TaskId) : Prop :=
  ∃ id, pushed = [id] ∧ s.PassedOn t id s'

/-- A failed attempt is retried while it has fewer ancestors than it may have retries. -/
def failedEnding (t : TaskRecord) (disposition : Disposition) (fault : Option String) : Ending :=
  if t.ancestors.length < t.options.retryLimit then
    ⟨[.dispatched, .processing], .retried, disposition, fault, Continued t⟩
  else ⟨[.dispatched, .processing], .error, disposition, fault, GivenUp t⟩

/-- Alone, the handler of a message about a task comes from a scene to its end in another one, and
has made an attempt that ended so. -/
structure Attempted (σ : Surroundings) (s : Settings) (message : DeliveryId) (t : TaskRecord)
    (w w' : Scene) (e : Ending) (told : List Word) : Prop where
  /-- The handler ends, and reports it. -/
  report : σ.solo ((Job.handle message t.id).program s) w = some (.ok (e.report t.id), w')
  /-- The statuses that were written for the task. -/
  transitions : w'.shared.store.transitionsOf t.id =
    w.shared.store.transitionsOf t.id ++ (e.through ++ [e.status])
  /-- The record that is left. -/
  record : ∃ r, w'.shared.store.get? t.id = some r ∧ r.status = e.status ∧
    r.essence = ({ t with remaining := r.remaining } : TaskRecord).essence
  /-- Until the record had its last status nothing else changed in the store, and what comes after
  that has come. Whoever is pushed is pushed once, and the message is decided on and handed back. -/
  aftermath : ∃ mid r pushed, Store.Trail w.shared.store t (e.through ++ [e.status]) mid r ∧
    e.aftermath mid w'.shared.store pushed ∧
    w'.shared.queue = ((w.shared.queue.push pushed).dispose message e.disposition).2.settle message
      w.shared.time
  /-- The worker was told so. -/
  told : wordsOf w'.past = told.reverse ++ wordsOf w.past

section
variable {σ : Surroundings} {session : SessionRecord} {objects : DataId → Option (List UInt8)}
  {worker : Behaviour} {s : Settings} {message : DeliveryId} {t : TaskRecord} {w : Scene} {e : Ending}
  {first c : Stand} {told : List Word} {words : Date → List Word} {status : TaskStatus}
  {through : List TaskStatus} {disposition : Disposition} {fault : Option String}

/-- What comes after the last update does not concern the task. -/
def Ending.IsApart (e : Ending) : Prop :=
  ∀ s s' pushed task r, s.get? task = some r → r.status = e.status → e.aftermath s s' pushed →
    Store.Spares s s' task r

theorem handedBack_isApart {task : TaskId} :
    (Ending.mk through .submitted disposition fault (HandedBack task)).IsApart := by
  rintro s _ _ x r stored - ⟨rfl, -, -⟩
  exact ⟨⟨r.remaining, stored⟩, rfl⟩

theorem madeAvailable_isApart {outputs : List DataId} :
    (Ending.mk through .completed disposition fault (MadeAvailable outputs)).IsApart := by
  intro s s' pushed x r stored completed produced
  refine produced.spares stored ?_
  rw [TaskRecord.IsWaiting, show r.status = .completed from completed]
  simp

theorem givenUp_isApart (ended : status = .error ∨ status = .timeout) :
    (Ending.mk through status disposition fault (GivenUp t)).IsApart := by
  rintro s s' pushed x r stored same ⟨left, -⟩
  refine left.spares stored ?_
  rw [TaskRecord.IsWaiting, show r.status = status from same]
  rcases ended with rfl | rfl <;> simp

theorem failedEnding_isApart : (failedEnding t disposition fault).IsApart := by
  unfold failedEnding
  split
  · rintro s s' pushed x r stored - ⟨id, -, passedOn⟩
    exact passedOn.spares stored
  · exact givenUp_isApart (.inl rfl)

/-- A task without a successor has none after its results were given up. -/
theorem Settled.givenUp (h : Settled first t message
      ⟨through, status, disposition, fault, Store.LeftWithout t.outputs⟩ told c)
    (ready : ReadyFor σ session first t) :
    Settled first t message ⟨through, status, disposition, fault, GivenUp t⟩ told c :=
  h.mono fun _ _ _ trail left => ⟨left, left.lone (trail.lone ready.lone)⟩

/-- What follows a failed attempt, by the retries that are left. -/
theorem Settled.failed (h : Settled first t message ⟨[.dispatched, .processing],
      (RetryPlan.ofTask (t.withDefaults session.defaults)).failedStatus, disposition, fault,
      Store.FollowsUp (t.withDefaults session.defaults)⟩ told c)
    (ready : ReadyFor σ session first t) :
    Settled first t message (failedEnding (t.withDefaults session.defaults) disposition fault) told
      c := by
  unfold failedEnding
  unfold Store.FollowsUp RetryPlan.ofTask at h
  split
  · next left =>
    simp only [if_neg (Nat.not_le_of_lt left)] at h
    exact h
  · next spent =>
    simp only [if_pos (Nat.le_of_not_lt spent)] at h
    exact h.givenUp ready

theorem attempted_of_settled (calm : w.refusals = fun _ => none)
    (ends : σ.Succeeds (handleMessage s message t.id) (w.stand σ.pod) fun report c =>
      report = e.report t.id ∧ ∃ now, σ.Says now ∧ Settled (w.stand σ.pod) t message e (words now) c)
    (apart : e.IsApart) :
    ∃ w' now, σ.Says now ∧ Attempted σ s message t w w' e (words now) := by
  obtain ⟨outcome, w', c, solo, there, report, rfl, rfl, now, spoken, settled⟩ := ends w ⟨rfl, calm⟩
  obtain ⟨mid, r, pushed, trail, status, after, queue⟩ := settled.recorded
  obtain ⟨⟨remaining, stored⟩, transitions⟩ := apart _ _ _ _ _ trail.stored status after
  obtain rfl := there.stand
  refine ⟨w', now, spoken, solo, transitions.trans trail.transitions, ⟨_, stored, status, ?_⟩,
    ⟨mid, r, pushed, trail, after, queue⟩, settled.words⟩
  exact congrArg (fun t : TaskRecord => { t with remaining }) trail.same

/-- The worker was called: it was told the end of its time, counted from a reading of the clock, the
header of the task with effective options and every file that was fetched, and nothing else. -/
def Calls (σ : Surroundings) (s : Settings) (message : DeliveryId) (session : SessionRecord)
    (t : TaskRecord) (w : Scene) (e : Ending) : Prop :=
  ∃ w' now, σ.Says now ∧ Attempted σ s message t w w' e
    (conversation t.id ((t.withDefaults session.defaults).options.callEnd now)
      (requestsFor s (t.withDefaults session.defaults)))

/-- With its data there, a task whose worker replies is attempted with a call. -/
theorem calls_of_reply (u : Undisturbed σ session objects worker)
    (ready : ReadyFor σ session (w.stand σ.pod) t) (calm : w.refusals = fun _ => none)
    (held : w.shared.queue.held? message = some { task := t.id })
    (timely : ∀ now, σ.Says now → (t.options.mergedWith session.defaults).EndsInTime now)
    (there : ∀ data ∈ neededData t, (objects data).isSome = true) (reached : worker ≠ .unreachable)
    {outcome : Except WorkerError Output} (answers : worker.reply none = .now outcome)
    (reports : (replyEnding (t.withDefaults session.defaults) outcome).report t.id = e.report t.id)
    (settles : ∀ told c, Settled (w.stand σ.pod) t message
      (replyEnding (t.withDefaults session.defaults) outcome) told c →
        Settled (w.stand σ.pod) t message e told c)
    (apart : e.IsApart) : Calls σ s message session t w e := by
  have handled := u.handleMessage_ends (s := s) ready held fun a r h claimed =>
    u.execute_reaching ready h there fun b h =>
      u.reachWorker_called ready h claimed timely reached answers _
  refine attempted_of_settled calm (handled.mono ?_) apart
  rintro _ c ⟨rfl, now, spoken, ended⟩
  exact ⟨reports, now, spoken, settles _ _ ended⟩

/-- What is reported of a failed attempt follows its retry plan. -/
theorem failedEnding_report (t : TaskRecord) (disposition : Disposition) (fault : Option String)
    (task : TaskId) :
    (Ending.mk through (RetryPlan.ofTask t).failedStatus disposition fault (Store.FollowsUp t)).report
      task = (failedEnding t disposition fault).report task := by
  unfold failedEnding RetryPlan.ofTask
  by_cases left : t.ancestors.length < t.options.retryLimit
  · rw [if_neg (Nat.not_le_of_lt left), if_pos left]
    rfl
  · rw [if_pos (Nat.le_of_not_lt left), if_neg left]
    rfl

/-- An undisturbed attempt. A free task of a running session without a successor is handled with
nobody else about, nothing refused, files that can be written and a call that ends within the
calendar. Where its payload or something else that it needs is missing, it fails for good, the
message is done with, and the worker is told nothing. A worker out of reach hands it back, and
nobody holds it. Otherwise the worker is called. Success completes the task and makes its outputs
available, and whomever they free is pushed; running out of time ends it. A failure retries it or
ends it, by the retries left, and so does a crash, which counts as a fault and cancels the message.
-/
theorem attempt_undisturbed (u : Undisturbed σ session objects worker)
    (ready : ReadyFor σ session (w.stand σ.pod) t) (calm : w.refusals = fun _ => none)
    (held : w.shared.queue.held? message = some { task := t.id })
    (timely : ∀ now, σ.Says now → (t.options.mergedWith session.defaults).EndsInTime now) :
    ((∃ data ∈ neededData t, objects data = none) → ∃ w', Attempted σ s message t w w'
      ⟨[.dispatched], .error, .processed, none, GivenUp t⟩ []) ∧
    ((∀ data ∈ neededData t, (objects data).isSome = true) →
      (worker = .unreachable → ∃ w' now, σ.Says now ∧ Attempted σ s message t w w'
        ⟨[.dispatched], .submitted, .postponed, none, HandedBack t.id⟩
        [.connect t.id ((t.options.mergedWith session.defaults).callEnd now)]) ∧
      (worker = .succeed → Calls σ s message session t w
        ⟨[.dispatched, .processing], .completed, .processed, none, MadeAvailable t.outputs⟩) ∧
      (worker = .timeOut → Calls σ s message session t w
        ⟨[.dispatched, .processing], .timeout, .processed, none, GivenUp t⟩) ∧
      (∀ reason, worker = .fail reason → Calls σ s message session t w
        (failedEnding (t.withDefaults session.defaults) .processed none)) ∧
      ∀ reason, worker = .crash reason → Calls σ s message session t w
        (failedEnding (t.withDefaults session.defaults) .cancelled
          (some (WorkerError.fault reason).message))) := by
  refine ⟨fun missing => ?_, fun there => ⟨?_, ?_, ?_, ?_, ?_⟩⟩
  · have handled := u.handleMessage_ends (s := s) ready held fun a r h claimed =>
      u.telling (u.execute_missing ready h claimed missing)
    obtain ⟨w', -, -, attempted⟩ := attempted_of_settled calm
      (e := ⟨[.dispatched], .error, .processed, none, GivenUp t⟩)
      (handled.mono fun _ _ ⟨report, now, spoken, ended⟩ =>
        ⟨report, now, spoken, ended.givenUp ready⟩)
      (givenUp_isApart (.inl rfl))
    exact ⟨w', attempted⟩
  · intro unreachable
    have handled := u.handleMessage_ends (s := s) ready held fun a r h claimed =>
      u.execute_reaching ready h there fun b h =>
        u.reachWorker_refused ready h claimed timely unreachable _
    exact attempted_of_settled calm handled handedBack_isApart
  · rintro rfl
    exact calls_of_reply u ready calm held timely there nofun rfl rfl (fun _ _ ended => ended)
      madeAvailable_isApart
  · rintro rfl
    exact calls_of_reply u ready calm held timely there nofun rfl rfl
      (fun _ _ ended => ended.givenUp ready) (givenUp_isApart (.inr rfl))
  · rintro reason rfl
    exact calls_of_reply u ready calm held timely there nofun rfl (failedEnding_report ..)
      (fun _ _ ended => ended.failed ready) failedEnding_isApart
  · rintro reason rfl
    exact calls_of_reply u ready calm held timely there nofun rfl (failedEnding_report ..)
      (fun _ _ ended => ended.failed ready) failedEnding_isApart

end

/-! A worker that breaks down, in a session that allows a retry. -/

/-- Nothing else breaks. -/
def brokenDown : Surroundings where
  pod := ⟨"first"⟩
  replies _ := breakingDown
  exposes _ := false
  reads_sessions := nofun

/-- Its session. -/
def retryingSession : SessionRecord := { SessionRecord.running (.ofNat 1) with defaults := oneRetry }

/-- A task is stored that is expected to produce something, and an agent has the message about it.
-/
def fruitfulScene : Scene where
  shared :=
    { store := ({} : Store).insert fruitfulTask
      queue := (({} : Queue).deliver fruitfulTask.id).2 }

theorem brokenDown_undisturbed :
    Undisturbed brokenDown retryingSession (fun _ => some []) (.crash "worker broke down") where
  equips := ⟨fun _ => ⟨morning, rfl⟩, nofun⟩
  clock _ := ⟨morning, rfl⟩
  found _ := rfl
  running := rfl
  shutdown _ := rfl
  pushes := nofun
  fetches _ _ := rfl
  makes := nofun
  saves := nofun
  beginsWatch _ _ := rfl
  endsWatch _ _ := rfl
  refuses := nofun
  connects _ _ _ _ _ := ⟨0, rfl⟩
  sends _ _ _ _ := rfl
  finishes _ _ _ := rfl
  answers _ same _ _ _ := by cases same; rfl
  hangsUp _ _ := rfl

theorem fruitfulScene_ready :
    ReadyFor brokenDown retryingSession (fruitfulScene.stand ⟨"first"⟩) fruitfulTask where
  healthy := rfl
  stored := rfl
  session := rfl
  free := ⟨rfl, rfl⟩
  lone := rfl
  idle := rfl
  writable := rfl
  counts _ := ⟨1, rfl, Nat.le_refl 1⟩
  makes _ := ⟨.ofNat 2, rfl, rfl, List.not_mem_nil⟩

/-- The crash counts as a fault, the message is taken for cancelled, and the task is retried with
the one retry that its session allows. -/
theorem attempt_undisturbed_crash : Calls brokenDown (plainFleet.settings ⟨"first"⟩) 1 retryingSession
    fruitfulTask fruitfulScene ⟨[.dispatched, .processing], .retried, .cancelled,
      some "worker fault: worker broke down", Continued (fruitfulTask.withDefaults oneRetry)⟩ := by
  have timely (now : Date) : (fruitfulTask.options.mergedWith oneRetry).EndsInTime now := by
    intro millis unset
    cases unset
  have attempts := (@attempt_undisturbed _ _ _ _ (plainFleet.settings ⟨"first"⟩) 1 fruitfulTask
    fruitfulScene brokenDown_undisturbed fruitfulScene_ready rfl rfl fun now _ => timely now).2
      fun _ _ => rfl
  have retried := attempts.2.2.2.2 "worker broke down" rfl
  rwa [failedEnding, if_pos (by decide)] at retried

end GridAgent.Cluster
