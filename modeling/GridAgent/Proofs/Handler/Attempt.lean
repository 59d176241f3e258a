import GridAgent.Proofs.Handler.Undisturbed

/-!
# An attempt at a task, undisturbed

A free task is acquired, executed under a registration and settled. From claim to end the record
goes through a few statuses and nothing else in the store changes; the last update decides what
comes after.
-/

namespace GridAgent.Cluster

open Agent Acquisition Surroundings

/-- A free task of a running session without a successor, with nobody at work on it. -/
structure ReadyFor (σ : Surroundings) (session : SessionRecord) (a : Stand) (t : TaskRecord) :
    Prop where
  /-- The store works. -/
  healthy : a.store.failures = 0
  /-- The task is stored. -/
  stored : a.store.get? t.id = some t
  /-- It belongs to the session. -/
  session : t.session = session.id
  /-- It can be claimed. -/
  free : IsFree t
  /-- It has no successor. -/
  lone : a.store.successor? t.id = none
  /-- It is not executing. -/
  idle : a.registry.running.get? t.id = none
  /-- Files can be written. -/
  writable : a.scratch.blocked = false
  /-- Counts of the tasks are not behind. -/
  counts : σ.Counts a.store
  /-- Identifiers that are made up are new. -/
  makes : MakesUpNew σ a

/-- An attempt so far: the record has gone through some statuses, and the worker was told some
words. -/
structure Ongoing (first : Stand) (t : TaskRecord) (statuses : List TaskStatus) (told : List Word)
    (a : Stand) (r : TaskRecord) : Prop where
  /-- Nothing but the record has changed in the store. -/
  trail : Store.Trail first.store t statuses a.store r
  /-- Nothing has changed in the queue. -/
  queue : a.queue = first.queue
  /-- No time has passed. -/
  time : a.time = first.time
  /-- No identifier was made up. -/
  issued : a.issued = first.issued
  /-- The execution is registered. -/
  registry : a.registry = (first.registry.register t.id).2
  /-- Files can be written. -/
  writable : a.scratch.blocked = false
  /-- The worker was told so. -/
  words : a.words = told.reverse ++ first.words

/-- How an attempt ends. -/
structure Ending where
  /-- Statuses on the way. -/
  through : List TaskStatus
  /-- The last status. -/
  status : TaskStatus
  /-- What becomes of the message. -/
  disposition : Disposition
  /-- What counts against the error budget. -/
  fault : Option String
  /-- What comes after the last update: from which store to which, and who is pushed. -/
  aftermath : Store → Store → List TaskId → Prop

/-- How the execution resolves. -/
def Ending.resolution (e : Ending) : Resolution := ⟨e.status, e.disposition, e.fault⟩

/-- An attempt is over: its record has gone through some statuses, the worker was told some words,
and then came what comes after. -/
structure Over (first : Stand) (t : TaskRecord) (e : Ending) (told : List Word) (b : Stand) :
    Prop where
  /-- The record, and what came after it. -/
  recorded : ∃ mid r pushed, Store.Trail first.store t (e.through ++ [e.status]) mid r ∧
    r.status = e.status ∧ e.aftermath mid b.store pushed ∧ b.queue = first.queue.push pushed
  /-- Whoever has appeared was made up. -/
  makes : first.MakesUp b
  /-- No time has passed. -/
  time : b.time = first.time
  /-- The execution is still registered. -/
  registry : b.registry = (first.registry.register t.id).2
  /-- Files can be written. -/
  writable : b.scratch.blocked = false
  /-- The worker was told so. -/
  words : b.words = told.reverse ++ first.words

/-- What a worker is told that is called with some requests. -/
def conversation (task : TaskId) (deadline : Option Date) (requests : List WorkRequest) : List Word :=
  [.connect task deadline] ++ (requests.map .send ++ [.finish, .await, .hangUp])

/-- How an attempt ends whose call came to a reply. -/
def replyEnding (t : TaskRecord) : Except WorkerError Output → Ending
  | .ok output =>
    match output.status with
    | .success => ⟨[.dispatched, .processing], .completed, .processed, none, MadeAvailable t.outputs⟩
    | .timeout =>
      ⟨[.dispatched, .processing], .timeout, .processed, none, Store.LeftWithout t.outputs⟩
    | .error =>
      ⟨[.dispatched, .processing], (RetryPlan.ofTask t).failedStatus, .processed, none,
        Store.FollowsUp t⟩
  | .error cause =>
    ⟨[.dispatched, .processing], (RetryPlan.ofTask t).failedStatus, .cancelled, some cause.message,
      Store.FollowsUp t⟩

/-- From a stand of the execution the attempt ends so. -/
abbrev EndsAs (σ : Surroundings) (first : Stand) (t : TaskRecord) (e : Ending) (told : List Word)
    (p : Fallible AgentError Resolution) (a : Stand) : Prop :=
  σ.Succeeds p a fun resolution b => resolution = e.resolution ∧ Over first t e told b

/-- The attempt ends so after words that depend on what a clock said. -/
abbrev EndsTelling (σ : Surroundings) (first : Stand) (t : TaskRecord) (e : Ending)
    (told : Date → List Word) (p : Fallible AgentError Resolution) (a : Stand) : Prop :=
  σ.Succeeds p a fun resolution b =>
    resolution = e.resolution ∧ ∃ now, σ.Says now ∧ Over first t e (told now) b

section
variable {σ : Surroundings} {session : SessionRecord} {objects : DataId → Option (List UInt8)}
  {worker : Behaviour} {s : Settings} {first a b : Stand} {t r : TaskRecord}
  {statuses : List TaskStatus} {told : List Word} {change : TaskUpdate} {e : Ending}
  {expected : Expectation} {o : Options}

/-- A record is as expected of an owned one. -/
theorem holds_ownedBy {pod : PodId} :
    (expected.ownedBy pod).holds r = true ↔ r.owner = some pod ∧ r.status ∈ expected.statuses := by
  simp [Expectation.holds, Expectation.ownedBy, OwnerMatch.holds, TaskRecord.isOwnedBy]

/-- A claimed task is held by whoever claims it. -/
theorem claims_of_dispatch (pod : PodId) (name : String) (now : Date) :
    (claimedBy pod).holds (t.apply (.dispatch pod name now)) = true :=
  holds_ownedBy.mpr ⟨rfl, List.mem_singleton.mpr rfl⟩

/-- A task that was claimed and is started executes. -/
theorem executes_of_claims {pod : PodId} (claimed : (claimedBy pod).holds r = true) (now : Date) :
    (executedBy pod).holds (r.apply { status := .processing, started := some now }) = true :=
  holds_ownedBy.mpr ⟨(holds_ownedBy.mp claimed).1, List.mem_singleton.mpr rfl⟩

/-- A task that executes is held. -/
theorem heldBy_of_executedBy {pod : PodId} (h : (executedBy pod).holds r = true) :
    (heldBy pod).holds r = true := by
  obtain ⟨owner, status⟩ := holds_ownedBy.mp h
  exact holds_ownedBy.mpr ⟨owner, List.mem_cons_of_mem _ status⟩

theorem Ongoing.ids (h : Ongoing first t statuses told a r) : r.id = t.id :=
  TaskRecord.eq_of_essence TaskRecord.id h.trail.same fun _ => rfl

/-- The record is stored. -/
theorem Ongoing.stored (h : Ongoing first t statuses told a r) : a.store.get? r.id = some r :=
  h.ids ▸ h.trail.stored

/-- Another version of the record goes on with the attempt. -/
theorem Ongoing.put (h : Ongoing first t statuses told a r) (change : TaskUpdate) :
    Ongoing first t (statuses ++ [change.status]) told (a.put r.id (r.apply change))
      (r.apply change) := by
  rw [h.ids]
  exact { h with trail := h.trail.write change }

/-- Some more words to the worker. -/
theorem Ongoing.said (h : Ongoing first t statuses told a r) (words : List Word) :
    Ongoing first t statuses (told ++ words) (a.said words) r :=
  { h with
    words := by
      show words.reverse ++ a.words = _
      rw [h.words, List.reverse_append, List.append_assoc] }

/-- The last update of the record. -/
theorem Ongoing.ended (h : Ongoing first t e.through told a r)
    (ends : a.Ends t.id r change e.aftermath b) (last : change.status = e.status) :
    Over first t e told b := by
  obtain ⟨store, pushed, issued, rfl, after, made⟩ := ends
  refine ⟨⟨_, _, pushed, last ▸ h.trail.write change, ?_, after, ?_⟩,
    fun x missing known => h.issued ▸ made x (h.trail.unknown missing) known, h.time, h.registry,
    h.writable, h.words⟩
  · rw [TaskRecord.apply_status, last]
  · rw [← h.queue]

theorem Ongoing.healthy (h : Ongoing first t statuses told a r) (ready : ReadyFor σ session first t) :
    a.store.failures = 0 :=
  h.trail.failures.trans ready.healthy

theorem Ongoing.counts (h : Ongoing first t statuses told a r) (ready : ReadyFor σ session first t) :
    σ.Counts a.store := by
  unfold Counts
  rw [h.trail.ids]
  exact ready.counts

theorem Ongoing.makes (h : Ongoing first t statuses told a r) (ready : ReadyFor σ session first t) :
    MakesUpNew σ a := by
  intro past
  obtain ⟨id, chosen, new, unissued⟩ := ready.makes past
  exact ⟨id, chosen, h.trail.unknown new, h.issued ▸ unissued⟩

/-- What the registry holds of the execution of a task that was idle. -/
theorem register_of_idle {registry : Registry} {task : TaskId}
    (idle : registry.running.get? task = none) :
    registry.register task = (some registry.count,
      { executions := registry.executions.set registry.count { task }
        running := registry.running.set task registry.count
        count := registry.count + 1 }) := by
  have absent : registry.running.contains task = false := by rw [Table.contains, idle]; rfl
  unfold Registry.register
  rw [absent]
  rfl

/-- The execution of an idle task is registered. -/
theorem register_idle {task : TaskId} {Q : Option RunId → Stand → Prop}
    (idle : a.registry.running.get? task = none)
    (h : Q (some a.registry.count) { a with registry := (a.registry.register task).2 }) :
    σ.LeadsTo (Call.register task) a Q := by
  have registered : (a.registry.register task).1 = some a.registry.count := by
    rw [register_of_idle idle]
  exact LeadsTo.register (registered.symm ▸ h)

/-- Nobody has asked the execution to stop. -/
theorem Ongoing.calm (h : Ongoing first t statuses told a r) (ready : ReadyFor σ session first t) :
    a.registry.stopRequested first.registry.count = false := by
  rw [h.registry, register_of_idle ready.idle]
  unfold Registry.stopRequested
  rw [Table.get?_set, if_pos rfl]
  rfl

namespace Undisturbed

/-! The task is acquired. -/

/-- The free task is claimed. -/
theorem acquireOnce (u : Undisturbed σ session objects worker) (ready : ReadyFor σ session first t) :
    σ.Succeeds (Agent.acquireOnce s t.id) first fun acquired b => ∃ now,
      b = first.put t.id (t.apply (.dispatch s.podId s.podName now)) ∧
        acquired = .ok ⟨.acquired, some .dispatched, .waiting,
          some { t.apply (.dispatch s.podId s.podName now) with
            options := t.options.mergedWith session.defaults }⟩ := by
  refine Comes.andThen ((u.obliging.readSituation ready.healthy ready.stored ready.session).mono ?_)
  rintro situation _ ⟨rfl, task, isOpen⟩
  have decided := decide_of_free isOpen task ⟨ready.free.status, ready.free.owner⟩
  have unclaimed : (Expectation.status .submitted).unowned.holds t = true := by
    simp [Expectation.holds, Expectation.status, Expectation.unowned, OwnerMatch.holds,
      ready.free.status, ready.free.owner]
  unfold reachDecision
  rw [decided, task]
  refine Comes.andThen (Leads.done ⟨_, rfl, ?_⟩)
  refine Comes.achieved (Comes.after (u.now fun now _ => Comes.andThen (Succeeds.orFail
    (Succeeds.mapped (Obliging.updateTask ready.healthy ready.stored unclaimed ?_)))))
  exact Leads.done ⟨_, rfl, Leads.done ⟨_, rfl, now, rfl, rfl⟩⟩

theorem acquire (u : Undisturbed σ session objects worker) (ready : ReadyFor σ session first t) :
    σ.Succeeds (Agent.acquire s t.id) first fun acquired b => ∃ now,
      b = first.put t.id (t.apply (.dispatch s.podId s.podName now)) ∧
        acquired = ⟨.acquired, some .dispatched, .waiting,
          some { t.apply (.dispatch s.podId s.podName now) with
            options := t.options.mergedWith session.defaults }⟩ := by
  unfold Agent.acquire
  -- the first round takes the task, whether or not there may be more
  cases s.maxRounds - 1
  all_goals
    refine Comes.andThen ((u.acquireOnce ready).mono ?_)
    rintro _ b ⟨now, rfl, rfl⟩
    exact Leads.done ⟨_, rfl, now, rfl, rfl⟩

/-! The attempt ends. -/

theorem release_ends (u : Undisturbed σ session objects worker) (ready : ReadyFor σ session first t)
    (h : Ongoing first t statuses told a r) (holds : expected.holds r = true) :
    EndsAs σ first t ⟨statuses, .submitted, .postponed, none, HandedBack t.id⟩ told
      (Agent.release s r.id expected) a := by
  rw [h.ids]
  refine (u.release (h.healthy ready) h.trail.stored holds).mono ?_
  rintro _ b ⟨rfl, now, ends⟩
  exact ⟨rfl, h.ended ends rfl⟩

theorem finishWithout_ends (u : Undisturbed σ session objects worker)
    (ready : ReadyFor σ session first t) (h : Ongoing first t statuses told a r)
    (holds : expected.holds r = true) (status : TaskStatus) (output : Output) :
    EndsAs σ first t ⟨statuses, status, .processed, none, Store.LeftWithout t.outputs⟩ told
      (Agent.finishWithout s r.id expected status output) a := by
  rw [h.ids]
  have outputs : r.outputs = t.outputs :=
    TaskRecord.eq_of_essence TaskRecord.outputs h.trail.same fun _ => rfl
  refine (u.finishWithout (h.healthy ready) (h.counts ready) h.trail.stored holds status
    output).mono ?_
  rintro _ b ⟨rfl, now, ends⟩
  exact ⟨rfl, h.ended (outputs ▸ ends) rfl⟩

theorem complete_ends (u : Undisturbed σ session objects worker) (ready : ReadyFor σ session first t)
    (h : Ongoing first t statuses told a r) (holds : (executedBy s.podId).holds r = true)
    (output : Output) :
    EndsAs σ first t ⟨statuses, .completed, .processed, none, MadeAvailable t.outputs⟩ told
      (Agent.complete s r.id output) a := by
  rw [h.ids]
  have outputs : r.outputs = t.outputs :=
    TaskRecord.eq_of_essence TaskRecord.outputs h.trail.same fun _ => rfl
  refine (u.complete (h.healthy ready) h.trail.stored holds output).mono ?_
  rintro _ b ⟨rfl, now, ends⟩
  exact ⟨rfl, h.ended (outputs ▸ ends) rfl⟩

/-- A failed attempt goes on with effective options. -/
theorem retryAttempt_ends (u : Undisturbed σ session objects worker)
    (ready : ReadyFor σ session first t) (h : Ongoing first t statuses told a r)
    (holds : expected.holds r = true) (reason : String) (disposition : Disposition) :
    EndsAs σ first t ⟨statuses, (RetryPlan.ofTask { t with options := o }).failedStatus, disposition,
      none, Store.FollowsUp { t with options := o }⟩ told
      (Agent.retryAttempt s { r with options := o } expected reason disposition) a := by
  have ids := h.ids
  have same : ({ r with options := o } : TaskRecord).essence =
      ({ t with options := o } : TaskRecord).essence :=
    congrArg (fun t : TaskRecord => { t with options := o }) h.trail.same
  have ends := u.retryAttempt (s := s) (a := a) (t := { r with options := o }) (r := r)
    (h.healthy ready) (h.counts ready) (h.makes ready) (ids ▸ h.trail.lone ready.lone)
    (ids ▸ h.trail.stored) rfl holds reason disposition
  rw [TaskRecord.eq_of_essence RetryPlan.ofTask same fun _ => rfl] at ends
  refine ends.mono ?_
  rintro _ b ⟨rfl, now, ends⟩
  have ends : a.Ends r.id r _ (Store.FollowsUp { t with options := o }) b :=
    ends.mono fun _ _ _ follows => follows.of_essence same
  exact ⟨rfl, h.ended (ids ▸ ends) rfl⟩

/-! The worker is called. -/

theorem onWorkerFailure_ends (u : Undisturbed σ session objects worker)
    (ready : ReadyFor σ session first t)
    (h : Ongoing first t [.dispatched, .processing] told a r)
    (holds : (heldBy s.podId).holds r = true) (cause : WorkerError) :
    EndsAs σ first t (replyEnding { t with options := o } (.error cause)) told
      (onWorkerFailure s { r with options := o } first.registry.count cause) a := by
  refine Comes.after (stopRequested (h.calm ready) ?_)
  refine Comes.after (u.shutdownRequested ?_)
  refine Comes.andThen ((u.retryAttempt_ends ready h holds cause.message .cancelled).mono ?_)
  rintro _ b ⟨rfl, isOver⟩
  exact Leads.done ⟨_, rfl, rfl, { isOver with }⟩

theorem recordOutput_ends (u : Undisturbed σ session objects worker)
    (ready : ReadyFor σ session first t)
    (h : Ongoing first t [.dispatched, .processing] told a r)
    (holds : (executedBy s.podId).holds r = true) (output : Output) :
    EndsAs σ first t (replyEnding { t with options := o } (.ok output)) told
      (recordOutput s { r with options := o } first.registry.count output) a := by
  obtain ⟨status, error⟩ := output
  cases status with
  | success => exact u.complete_ends ready h holds _
  | timeout => exact u.finishWithout_ends ready h holds .timeout _
  | error =>
    refine Comes.after (stopRequested (h.calm ready) ?_)
    exact u.retryAttempt_ends ready h holds _ .processed

/-- The task is started, the requests are sent and the reply is acted upon. -/
theorem callWorker_ends (u : Undisturbed σ session objects worker)
    (ready : ReadyFor σ session first t) (h : Ongoing first t [.dispatched] told a r)
    (claimed : (claimedBy s.podId).holds r = true) {outcome : Except WorkerError Output}
    (answers : worker.reply none = .now outcome) (stream : StreamId) (requests : List WorkRequest) :
    EndsAs σ first t (replyEnding { t with options := o } outcome)
      (told ++ (requests.map .send ++ [.finish, .await, .hangUp]))
      (callWorker s { r with options := o } first.registry.count stream requests) a := by
  refine Comes.after (u.now fun now _ => Comes.achieved (transition (h.healthy ready) h.stored
    claimed ?_))
  have h := h.put { status := .processing, started := some now }
  have executes := executes_of_claims claimed now
  refine Comes.attempted (Leads.mono (u.exchange answers requests) ?_)
  rintro reply _ ⟨rfl, rfl⟩
  refine Comes.after (u.hangUp ?_)
  have h := (h.said (requests.map .send ++ [.finish, .await])).said [.hangUp]
  rw [List.append_assoc, List.append_assoc] at h
  rcases reply with cause | output
  · exact u.onWorkerFailure_ends ready h (heldBy_of_executedBy executes) cause
  · exact u.recordOutput_ends ready h executes output

/-- What is told in any case does not depend on a clock. -/
theorem telling (u : Undisturbed σ session objects worker) {p : Fallible AgentError Resolution}
    (ends : EndsAs σ first t e told p a) : EndsTelling σ first t e (fun _ => told) p a := by
  obtain ⟨now, read⟩ := u.clock []
  exact ends.mono fun _ _ ⟨resolved, isOver⟩ => ⟨resolved, now, ⟨[], read⟩, isOver⟩

/-- A worker within reach is called, and replies. -/
theorem reachWorker_called (u : Undisturbed σ session objects worker)
    (ready : ReadyFor σ session first t) (h : Ongoing first t [.dispatched] [] a r)
    (claimed : (claimedBy s.podId).holds r = true) (timely : ∀ now, σ.Says now → o.EndsInTime now)
    (reached : worker ≠ .unreachable) {outcome : Except WorkerError Output}
    (answers : worker.reply none = .now outcome) (requests : List WorkRequest) :
    EndsTelling σ first t (replyEnding { t with options := o } outcome)
      (fun now => conversation t.id (o.callEnd now) requests)
      (reachWorker s { r with options := o } first.registry.count requests) a := by
  refine Comes.after (u.now fun now spoken => ?_)
  refine Comes.andThen ((callDeadline (t := { r with options := o }) (timely now spoken)).mono ?_)
  rintro _ _ ⟨rfl, rfl⟩
  refine Comes.attempted (LeadsTo.free rfl fun past => ?_)
  obtain ⟨stream, connected⟩ := u.connects reached past first.registry.count r.id (o.callEnd now)
  refine ⟨_, connected, ?_⟩
  have h := h.said [.connect r.id (o.callEnd now)]
  refine (u.callWorker_ends ready h claimed answers stream requests).mono ?_
  rintro _ _ ⟨resolved, isOver⟩
  rw [h.ids] at isOver
  exact ⟨resolved, now, spoken, isOver⟩

/-- The task is handed back by a worker out of reach. -/
theorem reachWorker_refused (u : Undisturbed σ session objects worker)
    (ready : ReadyFor σ session first t) (h : Ongoing first t [.dispatched] [] a r)
    (claimed : (claimedBy s.podId).holds r = true) (timely : ∀ now, σ.Says now → o.EndsInTime now)
    (unreachable : worker = .unreachable) (requests : List WorkRequest) :
    EndsTelling σ first t ⟨[.dispatched], .submitted, .postponed, none, HandedBack t.id⟩
      (fun now => [.connect t.id (o.callEnd now)])
      (reachWorker s { r with options := o } first.registry.count requests) a := by
  refine Comes.after (u.now fun now spoken => ?_)
  refine Comes.andThen ((callDeadline (t := { r with options := o }) (timely now spoken)).mono ?_)
  rintro _ _ ⟨rfl, rfl⟩
  refine Comes.attempted (LeadsTo.free rfl fun past => ?_)
  obtain ⟨reason, refused⟩ := u.refuses unreachable past first.registry.count r.id (o.callEnd now)
  refine ⟨_, refused, Comes.after (stopRequested (h.calm ready) ?_)⟩
  have h := h.said [.connect r.id (o.callEnd now)]
  refine (u.release_ends ready h claimed).mono ?_
  rintro _ _ ⟨resolved, isOver⟩
  rw [h.ids] at isOver
  exact ⟨resolved, now, spoken, isOver⟩

theorem runWorker_ends (u : Undisturbed σ session objects worker)
    (ready : ReadyFor σ session first t) (h : Ongoing first t statuses told a r)
    {words : Date → List Word} {requests : List WorkRequest}
    (reaches : EndsTelling σ first t e words
      (reachWorker s { r with options := o } first.registry.count requests) a) :
    EndsTelling σ first t e words
      (runWorker s { r with options := o } first.registry.count requests) a := by
  refine Comes.after (u.shutdownRequested (Comes.after (stopRequested (h.calm ready) ?_)))
  refine Comes.after (u.beginWatch (Comes.attempted (Leads.mono reaches ?_)))
  rintro _ b ⟨resolution, rfl, ends⟩
  exact Comes.after (u.endWatch (Leads.done ⟨resolution, rfl, ends⟩))

/-! The task is executed. -/

/-- A task fails for good without its data, and the worker is not called. -/
theorem execute_missing (u : Undisturbed σ session objects worker)
    (ready : ReadyFor σ session first t) (h : Ongoing first t [.dispatched] [] a r)
    (claimed : (claimedBy s.podId).holds r = true)
    (missing : ∃ data ∈ neededData t, objects data = none) :
    EndsAs σ first t ⟨[.dispatched], .error, .processed, none, Store.LeftWithout t.outputs⟩ []
      (execute s { r with options := o } first.registry.count) a := by
  refine Comes.after (u.shutdownRequested (Comes.attempted (Leads.mono (u.prefetch h.writable) ?_)))
  rintro _ _ ⟨⟨scratch, rfl, writable⟩, ⟨there, -⟩ | ⟨data, -, -, rfl⟩⟩
  · obtain ⟨data, member, absent⟩ := missing
    rw [← TaskRecord.eq_of_essence neededData h.trail.same fun _ => rfl] at member
    cases absent ▸ there data member
  · have h : Ongoing first t [.dispatched] [] { a with scratch } r := { h with writable }
    exact u.finishWithout_ends ready h claimed .error _

/-- With its data there, a task is executed as the worker is reached. -/
theorem execute_reaching (u : Undisturbed σ session objects worker)
    (ready : ReadyFor σ session first t) (h : Ongoing first t [.dispatched] [] a r)
    (there : ∀ data ∈ neededData t, (objects data).isSome = true) {words : Date → List Word}
    (reaches : ∀ b, Ongoing first t [.dispatched] [] b r → EndsTelling σ first t e words
      (reachWorker s { r with options := o } first.registry.count
        (requestsFor s { t with options := o })) b) :
    EndsTelling σ first t e words (execute s { r with options := o } first.registry.count) a := by
  refine Comes.after (u.shutdownRequested (Comes.attempted (Leads.mono (u.prefetch h.writable) ?_)))
  rintro _ _ ⟨⟨scratch, rfl, writable⟩, ⟨-, rfl⟩ | ⟨data, member, absent, -⟩⟩
  · have h : Ongoing first t [.dispatched] [] { a with scratch } r := { h with writable }
    have same : requestsFor s { r with options := o } = requestsFor s { t with options := o } :=
      TaskRecord.eq_of_essence (fun t => requestsFor s { t with options := o }) h.trail.same
        fun _ => rfl
    rw [same]
    exact u.runWorker_ends ready h (reaches _ h)
  · have member : data ∈ neededData t :=
      TaskRecord.eq_of_essence neededData h.trail.same (fun _ => rfl) ▸ member
    cases absent ▸ there data member

end Undisturbed

/-! The message is settled. -/

/-- A message was handled to its end: the attempt is over, its execution is not registered any more,
and the message was decided on and handed back. -/
structure Settled (first : Stand) (t : TaskRecord) (message : DeliveryId) (e : Ending)
    (told : List Word) (c : Stand) : Prop where
  /-- The record, and what came after it. -/
  recorded : ∃ mid r pushed, Store.Trail first.store t (e.through ++ [e.status]) mid r ∧
    r.status = e.status ∧ e.aftermath mid c.store pushed ∧
    c.queue = ((first.queue.push pushed).dispose message e.disposition).2.settle message first.time
  /-- Whoever has appeared was made up. -/
  makes : first.MakesUp c
  /-- No time has passed. -/
  time : c.time = first.time
  /-- Whatever executed goes on, and nothing else. -/
  running : ∀ x, c.registry.running.get? x = first.registry.running.get? x
  /-- Files can be written. -/
  writable : c.scratch.blocked = false
  /-- The worker was told so. -/
  words : c.words = told.reverse ++ first.words

/-- What comes after the last update may be seen in another way. -/
theorem Settled.mono {c : Stand} {message : DeliveryId} {P : Store → Store → List TaskId → Prop}
    (h : Settled first t message e told c)
    (hP : ∀ mid r pushed, Store.Trail first.store t (e.through ++ [e.status]) mid r →
      e.aftermath mid c.store pushed → P mid c.store pushed) :
    Settled first t message { e with aftermath := P } told c :=
  let ⟨mid, r, pushed, trail, status, after, queue⟩ := h.recorded
  { h with recorded := ⟨mid, r, pushed, trail, status, hP mid r pushed trail after, queue⟩ }

/-- What is reported of an attempt that ends so. -/
def Ending.report (e : Ending) (task : TaskId) : HandlerReport :=
  { task, outcome := .acquired, status := some e.status, disposition := e.disposition
    fault := e.fault }

/-- The end of an execution is the end of its registration. -/
theorem running_unregistered {registry : Registry} {task : TaskId}
    (idle : registry.running.get? task = none) (x : TaskId) :
    ((registry.register task).2.unregister registry.count).running.get? x =
      registry.running.get? x := by
  have known : (registry.register task).2.taskOf? registry.count = some task := by
    rw [register_of_idle idle]
    unfold Registry.taskOf?
    rw [Table.get?_set, if_pos rfl]
    rfl
  have runs : (registry.register task).2.running = registry.running.set task registry.count := by
    rw [register_of_idle idle]
  unfold Registry.unregister
  rw [known]
  dsimp only
  rw [runs, Table.get?_set, if_pos rfl, if_pos rfl, Table.get?_erase, Table.get?_set]
  by_cases same : x = task
  · rw [if_pos same, same, idle]
  · rw [if_neg same, if_neg same]

/-- A decision on a message that nobody has decided on is taken. -/
theorem dispose_of_held {q : Queue} {message : DeliveryId} {task : TaskId}
    (held : q.held? message = some { task }) (disposition : Disposition) :
    (q.dispose message disposition).1 = .ok () := by
  unfold Queue.dispose
  rw [held]
  dsimp only [Option.bind_some]
  split <;> rfl

namespace Undisturbed

variable {message : DeliveryId} {words : Date → List Word}

/-- The task is acquired and executed under a registration, and the message is decided on. -/
theorem process_ends (u : Undisturbed σ session objects worker) (ready : ReadyFor σ session first t)
    (held : first.queue.held? message = some { task := t.id })
    (executes : ∀ a r, Ongoing first t [.dispatched] [] a r → (claimedBy s.podId).holds r = true →
      EndsTelling σ first t e words (execute s
        { r with options := t.options.mergedWith session.defaults } first.registry.count) a) :
    σ.Succeeds (process s message t.id) first fun report c => report = e.report t.id ∧
      ∃ now b, σ.Says now ∧ Over first t e (words now) b ∧
        c = { b with
          registry := b.registry.unregister first.registry.count
          scratch := b.scratch.clear t.id
          queue := (b.queue.dispose message e.disposition).2 } := by
  refine Comes.andThen ((u.acquire ready).mono ?_)
  rintro _ _ ⟨now, rfl, rfl⟩
  refine Comes.after (register_idle ready.idle ?_)
  have h : Ongoing first t [.dispatched] [] { first.put t.id
      (t.apply (.dispatch s.podId s.podName now)) with
        registry := (first.registry.register t.id).2 } (t.apply (.dispatch s.podId s.podName now)) :=
    { trail := (Store.Trail.begin ready.stored).write (.dispatch s.podId s.podName now)
      queue := rfl
      time := rfl
      issued := rfl
      registry := rfl
      writable := ready.writable
      words := rfl }
  refine Comes.attempted (Leads.mono (executes _ _ h (claims_of_dispatch ..)) ?_)
  rintro _ b ⟨_, rfl, rfl, now', spoken, isOver⟩
  refine Comes.after (LeadsTo.unregister (Comes.after (LeadsTo.clearScratch ?_)))
  obtain ⟨mid, r, pushed, -, -, -, queue⟩ := isOver.recorded
  have undecided : b.queue.held? message = some { task := t.id } := by rw [queue]; exact held
  refine Comes.andThen (Leads.done ⟨_, rfl, ?_⟩)
  refine Comes.andThen (Succeeds.orFail (LeadsTo.dispose ⟨(), dispose_of_held undecided _, ?_⟩))
  exact Leads.done ⟨_, rfl, rfl, now', b, spoken, isOver, rfl⟩

/-- The message is handled to its end. -/
theorem handleMessage_ends (u : Undisturbed σ session objects worker)
    (ready : ReadyFor σ session first t)
    (held : first.queue.held? message = some { task := t.id })
    (executes : ∀ a r, Ongoing first t [.dispatched] [] a r → (claimedBy s.podId).holds r = true →
      EndsTelling σ first t e words (execute s
        { r with options := t.options.mergedWith session.defaults } first.registry.count) a) :
    σ.Succeeds (handleMessage s message t.id) first fun report c => report = e.report t.id ∧
      ∃ now, σ.Says now ∧ Settled first t message e (words now) c := by
  refine Comes.achieved ((u.process_ends ready held executes).mono ?_)
  rintro _ _ ⟨rfl, now, b, spoken, isOver, rfl⟩
  refine Comes.attempted (LeadsTo.settle ?_)
  refine Comes.andThen (Leads.done ⟨_, rfl, Leads.done ⟨_, rfl, rfl, now, spoken, ?_⟩⟩)
  obtain ⟨mid, r, pushed, trail, status, after, queue⟩ := isOver.recorded
  refine ⟨⟨mid, r, pushed, trail, status, after, ?_⟩, isOver.makes, isOver.time, fun x => ?_,
    isOver.writable, isOver.words⟩
  · rw [queue, isOver.time]
  · show (b.registry.unregister first.registry.count).running.get? x = _
    rw [isOver.registry]
    exact running_unregistered ready.idle x

end Undisturbed

end

end GridAgent.Cluster
