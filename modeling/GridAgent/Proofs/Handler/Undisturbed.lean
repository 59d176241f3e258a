import GridAgent.Proofs.Acquisition.Decision
import GridAgent.Proofs.Cluster.Aftermath

/-!
# Handling a task undisturbed

Nobody else is about, and nothing breaks but the worker, in a way of its own. Then each part of a
handler leads from its stand to one other stand, but for what clocks say and which identifiers are
made up. The parts are followed from the inside out: the updates of the record, prefetching, the
call to the worker, what is done with its reply, and the execution as a whole.
-/

namespace GridAgent

/-- The end of a call that begins now, if its duration is bounded. -/
def Options.callEnd (o : Options) (now : Date) : Option Date :=
  match o.maxDurationMillis with
  | none => none
  | some millis => if Nat.pow 2 63 ≤ millis then none else now.add? (.ofMillis millis)

/-- The call ends within the calendar, if it begins now. -/
def Options.EndsInTime (o : Options) (now : Date) : Prop :=
  ∀ millis, o.maxDurationMillis = some millis → millis < Nat.pow 2 63 →
    (now.add? (.ofMillis millis)).isSome = true

namespace Scratch

/-- There is a directory of the task, and files can be written. -/
structure IsReady (d : Scratch) (task : TaskId) : Prop where
  /-- No file stands in place of the root. -/
  writable : d.blocked = false
  /-- The directory is there. -/
  directory : ∃ files, d.dirs.get? task = some files

variable {d : Scratch} {task : TaskId}

theorem make_of_writable (writable : d.blocked = false) (task : TaskId) :
    (d.make task).1 = .ok () ∧ (d.make task).2.IsReady task := by
  unfold make
  rw [writable]
  cases found : d.dirs.get? task with
  | some files =>
    have there : d.dirs.contains task = true := by rw [Table.contains, found]; rfl
    rw [there]
    exact ⟨rfl, writable, files, found⟩
  | none =>
    have absent : d.dirs.contains task = false := by rw [Table.contains, found]; rfl
    rw [absent]
    exact ⟨rfl, rfl, .empty, (Table.get?_set ..).trans (if_pos rfl)⟩

theorem IsReady.save (h : d.IsReady task) (data : DataId) (bytes : List UInt8) :
    (d.save task data bytes).1 = .ok () ∧ (d.save task data bytes).2.IsReady task := by
  obtain ⟨files, found⟩ := h.directory
  unfold Scratch.save
  rw [h.writable, found]
  exact ⟨rfl, rfl, files.set data bytes, (Table.get?_set ..).trans (if_pos rfl)⟩

end Scratch

namespace Cluster

open Agent Surroundings

/-- The clock of the agents may say so. -/
def Surroundings.Says (σ : Surroundings) (now : Date) : Prop :=
  ∃ past, σ.replies past (.agent .now) = some now

/-- Nothing keeps an agent from looking at tasks of a session, which runs, and from pushing others. -/
structure Obliging (σ : Surroundings) (session : SessionRecord) : Prop where
  /-- The clock can be read. -/
  clock : ∀ past, ∃ now : Date, σ.replies past (.agent .now) = some now
  /-- The session can be read. -/
  found : ∀ past, σ.replies past (.agent (.readSession session.id)) = some (Except.ok (some session))
  /-- It runs. -/
  running : session.status = .running
  /-- The agent is not shutting down. -/
  shutdown : ∀ past, σ.replies past (.agent .shutdownRequested) = some false
  /-- Pushes work. -/
  pushes : ∀ past tasks cause, σ.replies past (.agent (.push tasks)) ≠ some (Except.error cause)

/-- Nothing disturbs the handling of tasks of a session: the session runs, nobody is shut down, what
is asked for is done, data is there or not, and the worker behaves in one way. -/
structure Undisturbed (σ : Surroundings) (session : SessionRecord)
    (objects : DataId → Option (List UInt8)) (worker : Behaviour) : Prop where
  /-- The finalizer has a clock and a queue. -/
  equips : σ.Equips
  /-- The clock can be read. -/
  clock : ∀ past, ∃ now : Date, σ.replies past (.agent .now) = some now
  /-- The session can be read. -/
  found : ∀ past, σ.replies past (.agent (.readSession session.id)) = some (Except.ok (some session))
  /-- It runs. -/
  running : session.status = .running
  /-- The agent is not shutting down. -/
  shutdown : ∀ past, σ.replies past (.agent .shutdownRequested) = some false
  /-- Pushes work. -/
  pushes : ∀ past tasks cause, σ.replies past (.agent (.push tasks)) ≠ some (Except.error cause)
  /-- Objects can be fetched that are there. -/
  fetches : ∀ past data, σ.replies past (.agent (.fetch data)) =
    some (match objects data with
      | some bytes => .ok bytes
      | none => .error (.notFound data))
  /-- Directories can be made. -/
  makes : ∀ past task cause,
    σ.replies past (.agent (.makeScratch task)) ≠ some (Except.error cause)
  /-- Files can be written. -/
  saves : ∀ past task data bytes cause,
    σ.replies past (.agent (.saveScratch task data bytes)) ≠ some (Except.error cause)
  /-- A watch can begin. -/
  beginsWatch : ∀ past run, σ.replies past (.agent (.beginWatch run)) = some ()
  /-- A watch can end. -/
  endsWatch : ∀ past run, σ.replies past (.agent (.endWatch run)) = some ()
  /-- A worker out of reach refuses the connection. -/
  refuses : worker = .unreachable → ∀ past run task deadline, ∃ reason,
    σ.replies past (.agent (.connect run task deadline)) = some (Except.error (.unavailable reason))
  /-- Another one takes it. -/
  connects : worker ≠ .unreachable → ∀ past run task deadline, ∃ stream : StreamId,
    σ.replies past (.agent (.connect run task deadline)) = some (Except.ok stream)
  /-- Requests are taken. -/
  sends : ∀ past run stream request,
    σ.replies past (.agent (.send run stream request)) = some (Except.ok ())
  /-- So is their end. -/
  finishes : ∀ past run stream,
    σ.replies past (.agent (.finishSending run stream)) = some (Except.ok ())
  /-- The worker replies as it behaves. -/
  answers : ∀ answer, worker.reply none = .now answer → ∀ past run stream,
    σ.replies past (.agent (.awaitReply run stream)) = some answer
  /-- Streams can be closed. -/
  hangsUp : ∀ past stream, σ.replies past (.agent (.hangUp stream)) = some ()

/-- Identifiers that are made up are new. -/
def MakesUpNew (σ : Surroundings) (a : Stand) : Prop :=
  ∀ past, ∃ id : TaskId, σ.replies past (.agent .newTaskId) = some id ∧
    a.store.get? id = none ∧ id ∉ a.issued

/-- The stand with another version of a record. -/
def Stand.put (a : Stand) (task : TaskId) (r : TaskRecord) : Stand :=
  { a with store := a.store.write task r }

theorem MakesUpNew.put {σ : Surroundings} {a : Stand} {task : TaskId} {t : TaskRecord}
    (makes : MakesUpNew σ a) (stored : a.store.get? task = some t) (r : TaskRecord) :
    MakesUpNew σ (a.put task r) := by
  intro past
  obtain ⟨id, chosen, new, unissued⟩ := makes past
  exact ⟨id, chosen, Store.unknown_write stored new, unissued⟩

/-- Whoever has appeared from one stand to the other was made up on the way. -/
def Stand.MakesUp (a b : Stand) : Prop :=
  ∀ x, a.store.get? x = none → b.store.get? x ≠ none → x ∈ b.issued ∧ x ∉ a.issued

/-- Nobody has to be made up where nobody appears. -/
theorem Stand.makesUp_of_unknown {a b : Stand}
    (unknown : ∀ x, a.store.get? x = none → b.store.get? x = none) : a.MakesUp b :=
  fun x missing known => absurd (unknown x missing) known

/-- An update of a record has been made, and what comes after it; some tasks were pushed. -/
def Stand.Ends (a : Stand) (task : TaskId) (r : TaskRecord) (change : TaskUpdate)
    (aftermath : Store → Store → List TaskId → Prop) (b : Stand) : Prop :=
  ∃ store pushed issued, b = { a with store, queue := a.queue.push pushed, issued } ∧
    aftermath (a.store.write task (r.apply change)) store pushed ∧ a.MakesUp b

theorem Stand.Ends.mono {a b : Stand} {task : TaskId} {r : TaskRecord} {change : TaskUpdate}
    {P Q : Store → Store → List TaskId → Prop} (h : a.Ends task r change P b)
    (hPQ : ∀ s s' pushed, P s s' pushed → Q s s' pushed) : a.Ends task r change Q b :=
  let ⟨store, pushed, issued, same, after, made⟩ := h
  ⟨store, pushed, issued, same, hPQ _ _ _ after, made⟩

/-- Nobody holds the task any more, and nothing comes after that. -/
def HandedBack (task : TaskId) (s s' : Store) (pushed : List TaskId) : Prop :=
  s' = s ∧ pushed = [] ∧ ∃ r, s.get? task = some r ∧ r.owner = none

/-- Outputs have become available, and those are pushed who are freed. -/
def MadeAvailable (outputs : List DataId) (s s' : Store) (pushed : List TaskId) : Prop :=
  s.Produced outputs pushed s'

/-- The stand after some words to the worker, in order. -/
def Stand.said (a : Stand) (words : List Word) : Stand :=
  { a with words := words.reverse ++ a.words }

theorem Stand.said_said (a : Stand) (words words' : List Word) :
    (a.said words).said words' = a.said (words ++ words') := by
  unfold Stand.said
  rw [List.reverse_append, List.append_assoc]

/-- What is asked of the worker after the header: to read the fetched files. -/
def dataRequests (s : Settings) (task : TaskId) (needed : List DataId) : List WorkRequest :=
  needed.map fun data => .data data (Scratch.filePath s.scratchRoot task data)

/-- What is sent to the worker for a task. -/
def requestsFor (s : Settings) (t : TaskRecord) : List WorkRequest :=
  header t :: dataRequests s t.id (neededData t)

/-- Everything that is needed was written into the directory, or something is missing. -/
def Fetched (objects : DataId → Option (List UInt8)) (needed : List DataId)
    (requests : List WorkRequest) (outcome : Except StorageError (List WorkRequest)) : Prop :=
  (∀ data ∈ needed, (objects data).isSome = true) ∧ outcome = .ok requests ∨
    ∃ data ∈ needed, objects data = none ∧ outcome = .error (.notFound data)

namespace Obliging

variable {σ : Surroundings} {session : SessionRecord} {s : Settings} {a : Stand} {task : TaskId}
  {t r : TaskRecord} {expected : Expectation} {change : TaskUpdate}

/-! Calls that change nothing, or one record. -/

theorem now (u : Obliging σ session) {Q : Date → Stand → Prop}
    (h : ∀ now, σ.Says now → Q now a) : σ.LeadsTo Call.now a Q :=
  .free rfl fun past =>
    let ⟨now, read⟩ := u.clock past
    ⟨now, read, h now ⟨past, read⟩⟩

theorem shutdownRequested (u : Obliging σ session) {Q : Bool → Stand → Prop}
    (h : Q false a) : σ.LeadsTo Call.shutdownRequested a Q :=
  .free rfl fun past => ⟨false, u.shutdown past, h⟩

theorem readTask {Q : Option TaskRecord → Stand → Prop} (healthy : a.store.failures = 0)
    (h : Q (a.store.get? task) a) : σ.Succeeds (readTask s task) a Q :=
  Succeeds.once (LeadsTo.read healthy ⟨_, rfl, h⟩)

theorem readSession (u : Obliging σ session)
    {Q : Option SessionRecord → Stand → Prop} (h : Q (some session) a) :
    σ.Succeeds (readSession s session.id) a Q :=
  Succeeds.once (LeadsTo.free rfl fun past => ⟨_, u.found past, _, rfl, h⟩)

theorem updateTask {Q : TaskRecord → Stand → Prop} (healthy : a.store.failures = 0)
    (stored : a.store.get? task = some r) (holds : expected.holds r = true)
    (h : Q (r.apply change) (a.put task (r.apply change))) :
    σ.Succeeds (updateTask s task expected change) a Q :=
  Succeeds.once (LeadsTo.update healthy stored holds ⟨_, rfl, h⟩)

theorem push (u : Obliging σ session) {Q : Unit → Stand → Prop}
    {tasks : List TaskId} (h : Q () { a with queue := a.queue.push tasks }) :
    σ.Succeeds (push s tasks) a Q :=
  Succeeds.once (LeadsTo.push (fun past => u.pushes past tasks) ⟨(), rfl, h⟩)

/-- A task in creation is submitted and pushed. -/
theorem submitSuccessor (u : Obliging σ session) (healthy : a.store.failures = 0)
    (stored : a.store.get? t.id = some t) (creating : t.status = .creating) :
    σ.Succeeds (submitSuccessor s t) a fun submitted b => ∃ now,
      submitted = t.apply { status := .submitted, submitted := some now } ∧
        b = { a.put t.id submitted with queue := a.queue.push [t.id] } := by
  have holds : (Expectation.status .creating).holds t = true := by
    simp [Expectation.holds, Expectation.status, OwnerMatch.holds, creating]
  unfold Agent.submitSuccessor
  rw [if_neg (not_not_intro creating)]
  refine Comes.after (u.now fun now _ => Comes.achieved (updateTask healthy stored holds ?_))
  refine Comes.andThen (Succeeds.orFail (u.push ?_))
  exact Leads.done ⟨_, rfl, now, rfl, rfl⟩

/-- The task gets a successor, which is pushed. -/
theorem ensureSuccessor (u : Obliging σ session) (healthy : a.store.failures = 0)
    (makes : MakesUpNew σ a) (first : a.store.successor? t.id = none) :
    σ.Succeeds (ensureSuccessor s t) a fun _ b => ∃ id store,
      b = { a with store, queue := a.queue.push [id], issued := id :: a.issued } ∧
        id ∉ a.issued ∧ Store.PassedOn t id a.store store := by
  refine Comes.after (LeadsTo.newTaskId fun past => ?_)
  obtain ⟨id, chosen, new, unissued⟩ := makes past
  refine ⟨id, chosen, new, unissued, Comes.after (u.now fun now _ => ?_)⟩
  have created : σ.Succeeds (createSuccessor s t (t.successor id now))
      { a with issued := id :: a.issued } fun successor b => successor = t.successor id now ∧
        b = { a with store := a.store.succeed t (t.successor id now), issued := id :: a.issued } :=
    Succeeds.once (LeadsTo.create healthy first ⟨_, rfl, rfl, rfl⟩)
  refine Comes.andThen (created.orFail.mono ?_)
  rintro _ _ ⟨rfl, rfl⟩
  refine Comes.after (u.now fun later _ => Comes.achieved (updateTask healthy
    ((Store.get?_succeed ..).trans (if_pos rfl)) rfl ?_))
  refine Comes.andThen (Succeeds.orFail (u.push ?_))
  exact Leads.done ⟨_, rfl, id, _, rfl, unissued, Store.passedOn new now later⟩

/-- The task is looked at, with its session. -/
theorem readSituation (u : Obliging σ session) (healthy : a.store.failures = 0)
    (stored : a.store.get? t.id = some t) (belongs : t.session = session.id) :
    σ.Succeeds (readSituation s t.id) a fun situation b => b = a ∧
      situation.task = some (t.withDefaults session.defaults) ∧ situation.IsOpen := by
  refine Comes.andThen (Succeeds.orFail (readTask healthy ?_))
  rw [stored]
  refine Comes.andThen ?_
  show σ.Succeeds (orFail .store (Agent.readSession s t.session)) a _
  rw [belongs]
  refine Succeeds.orFail (u.readSession ?_)
  refine Comes.after (u.now fun now _ => Comes.after (u.shutdownRequested ?_))
  exact Leads.done ⟨_, rfl, rfl, rfl, rfl, session, rfl, u.running⟩

end Obliging

namespace Undisturbed

variable {σ : Surroundings} {session : SessionRecord} {objects : DataId → Option (List UInt8)}
  {worker : Behaviour} {s : Settings} {a : Stand} {task : TaskId} {t r : TaskRecord}
  {expected : Expectation} {change : TaskUpdate} {run : RunId}

/-- What is undisturbed can look at tasks and push them. -/
theorem obliging (u : Undisturbed σ session objects worker) : Obliging σ session :=
  ⟨u.clock, u.found, u.running, u.shutdown, u.pushes⟩

theorem now (u : Undisturbed σ session objects worker) {Q : Date → Stand → Prop}
    (h : ∀ now, σ.Says now → Q now a) : σ.LeadsTo Call.now a Q :=
  u.obliging.now h

theorem shutdownRequested (u : Undisturbed σ session objects worker) {Q : Bool → Stand → Prop}
    (h : Q false a) : σ.LeadsTo Call.shutdownRequested a Q :=
  u.obliging.shutdownRequested h

theorem transition {Q : Except LostUpdate TaskRecord → Stand → Prop}
    (healthy : a.store.failures = 0) (stored : a.store.get? task = some r)
    (holds : expected.holds r = true)
    (h : Q (.ok (r.apply change)) (a.put task (r.apply change))) :
    σ.Succeeds (transition s task expected change) a Q := by
  refine Comes.achieved (Obliging.updateTask healthy stored holds ?_)
  exact Leads.done ⟨_, rfl, h⟩

/-! Ends of an attempt. -/

/-- The task is handed back. -/
theorem release (u : Undisturbed σ session objects worker) (healthy : a.store.failures = 0)
    (stored : a.store.get? task = some r) (holds : expected.holds r = true) :
    σ.Succeeds (release s task expected) a fun resolution b =>
      resolution = ⟨.submitted, .postponed, none⟩ ∧
        ∃ now, a.Ends task r (.release now) (HandedBack task) b := by
  refine Comes.after (u.now fun now _ => ?_)
  refine Comes.andThen (transition healthy stored holds ?_)
  refine Leads.done ⟨_, rfl, rfl, now, _, [], a.issued, ?_, ⟨rfl, rfl, _,
    Store.get?_write_self .., rfl⟩, Stand.makesUp_of_unknown fun _ => Store.unknown_write stored⟩
  rw [Queue.push_nil]
  rfl

/-- The results of a task are given up after a last update of its record. -/
theorem abandonResults (u : Undisturbed σ session objects worker) (healthy : a.store.failures = 0)
    (counts : σ.Counts a.store) (stored : a.store.get? task = some r) :
    σ.Succeeds (abandonResults task : Fallible AgentError Unit) (a.put task (r.apply change))
      fun _ b => a.Ends task r change (Store.LeftWithout (r.apply change).outputs) b := by
  refine Succeeds.mono (Succeeds.abandonResults u.equips (counts.write stored _) healthy
    (Store.get?_write_self ..)) ?_
  rintro _ _ ⟨store, rfl, left⟩
  refine ⟨store, [], a.issued, ?_, left,
    Stand.makesUp_of_unknown fun x missing => left.unknown x (Store.unknown_write stored missing)⟩
  rw [Queue.push_nil]
  rfl

/-- The attempt ends with an output, and the results are given up. -/
theorem finishWithout (u : Undisturbed σ session objects worker) (healthy : a.store.failures = 0)
    (counts : σ.Counts a.store) (stored : a.store.get? task = some r)
    (holds : expected.holds r = true) (status : TaskStatus) (output : Output) :
    σ.Succeeds (finishWithout s task expected status output) a fun resolution b =>
      resolution = ⟨status, .processed, none⟩ ∧
        ∃ now, a.Ends task r (.finish status output now) (Store.LeftWithout r.outputs) b := by
  refine Comes.after (u.now fun now _ => Comes.andThen (transition healthy stored holds ?_))
  refine Comes.andThen ((u.abandonResults healthy counts stored).mono ?_)
  exact fun _ _ ends => Leads.done ⟨_, rfl, rfl, now, ends⟩

/-- Success is recorded, and the results become available. -/
theorem complete (u : Undisturbed σ session objects worker) (healthy : a.store.failures = 0)
    (stored : a.store.get? task = some r) (holds : (executedBy s.podId).holds r = true)
    (output : Output) :
    σ.Succeeds (complete s task output) a fun resolution b =>
      resolution = ⟨.completed, .processed, none⟩ ∧
        ∃ now, a.Ends task r (.finish .completed output now) (MadeAvailable r.outputs) b := by
  refine Comes.after (u.now fun now _ => Comes.andThen (transition healthy stored holds ?_))
  have done := Succeeds.finalize (a := a.put task (r.apply (.finish .completed output now))) u.equips
    healthy (Store.get?_write_self ..)
  refine Comes.achieved (done.mono ?_)
  rintro _ _ ⟨woken, store, rfl, produced⟩
  exact Leads.done ⟨_, rfl, rfl, now, store, woken, _, rfl, produced,
    Stand.makesUp_of_unknown fun x missing =>
      produced.unknown x (Store.unknown_write stored missing)⟩

/-- A failed attempt is recorded, and the next one follows while retries are left. -/
theorem retryAttempt (u : Undisturbed σ session objects worker) (healthy : a.store.failures = 0)
    (counts : σ.Counts a.store) (makes : MakesUpNew σ a) (first : a.store.successor? t.id = none)
    (stored : a.store.get? t.id = some r)
    (same : ({ r with options := t.options } : TaskRecord).essence = t.essence)
    (holds : expected.holds r = true) (reason : String) (disposition : Disposition) :
    σ.Succeeds (retryAttempt s t expected reason disposition) a fun resolution b =>
      resolution = ⟨(RetryPlan.ofTask t).failedStatus, disposition, none⟩ ∧
        ∃ now, a.Ends t.id r (.finish (RetryPlan.ofTask t).failedStatus (.failure reason) now)
          (Store.FollowsUp t) b := by
  have retried : σ.Succeeds (retryTask s t expected reason) a fun updated b =>
      updated.status = (RetryPlan.ofTask t).failedStatus ∧
        ∃ now, a.Ends t.id r (.finish (RetryPlan.ofTask t).failedStatus (.failure reason) now)
          (Store.FollowsUp t) b := by
    refine Comes.after (u.now fun now _ => Comes.andThen (Succeeds.orFail
      (Obliging.updateTask healthy stored holds ?_)))
    unfold Store.FollowsUp
    cases RetryPlan.ofTask t with
    | exhausted =>
      refine Comes.andThen ((u.abandonResults healthy counts stored).mono fun _ b ends => ?_)
      have outputs : r.outputs = t.outputs :=
        TaskRecord.eq_of_essence (t := { r with options := t.options }) TaskRecord.outputs same
          fun _ => rfl
      exact Leads.done ⟨_, rfl, rfl, now, outputs ▸ ends⟩
    | retry =>
      have id : r.id = t.id :=
        TaskRecord.eq_of_essence (t := { r with options := t.options }) TaskRecord.id same
          fun _ => rfl
      let failed := r.apply (.finish RetryPlan.retry.failedStatus (.failure reason) now)
      have lone : (a.store.write t.id failed).successor? r.id = none :=
        id ▸ Store.successor?_write stored failed first
      have next := u.obliging.ensureSuccessor (s := s) (a := a.put t.id failed)
        (t := { failed with options := t.options }) healthy (makes.put stored failed) lone
      refine Comes.andThen (next.mono ?_)
      rintro _ _ ⟨id, store, rfl, unissued, passedOn⟩
      refine Leads.done ⟨_, rfl, rfl, now, store, [id], _, rfl,
        ⟨id, rfl, passedOn.of_essence same⟩, fun x missing known => ?_⟩
      by_cases new : x = id
      · rw [new]
        exact ⟨List.mem_cons_self, unissued⟩
      · exact absurd ((passedOn.others x new).trans (Store.unknown_write stored missing)) known
  refine Comes.achieved (retried.mono ?_)
  rintro updated b ⟨status, ends⟩
  exact Leads.done ⟨_, rfl, by rw [status], ends⟩

/-! Data is fetched. -/

theorem fetch (u : Undisturbed σ session objects worker) {data : DataId}
    {Q : Except StorageError (List UInt8) → Stand → Prop}
    (there : ∀ bytes, objects data = some bytes → Q (.ok bytes) a)
    (missing : objects data = none → Q (.error (.notFound data)) a) :
    σ.Comes (fetch s data) a Q := by
  refine Comes.once (LeadsTo.free rfl fun past => ⟨_, u.fetches past data, ?_⟩)
  cases found : objects data with
  | some bytes => exact ⟨there bytes found, nofun⟩
  | none => exact ⟨missing found, fun _ same => by cases same; rfl⟩

/-- One object is written into the directory, unless it is missing. -/
theorem prefetchObject (u : Undisturbed σ session objects worker) (ready : a.scratch.IsReady task)
    (data : DataId) :
    σ.Comes (prefetchObject s task data) a fun outcome b =>
      (∃ scratch, b = { a with scratch } ∧ scratch.IsReady task) ∧
        ((objects data).isSome = true ∧
            outcome = .ok (.data data (Scratch.filePath s.scratchRoot task data)) ∨
          objects data = none ∧ outcome = .error (.notFound data)) := by
  refine LeadsTo.bind (u.fetch (fun bytes found => ?_) fun missing => ?_)
  · obtain ⟨saved, ready'⟩ := ready.save data bytes
    refine LeadsTo.bind (LeadsTo.saveScratch (fun past => u.saves past task data bytes) ?_)
    rw [saved]
    exact Leads.done ⟨⟨_, rfl, ready'⟩, .inl ⟨found ▸ rfl, rfl⟩⟩
  · exact Leads.done ⟨⟨a.scratch, rfl, ready⟩, .inr ⟨missing, rfl⟩⟩

theorem prefetchAll (u : Undisturbed σ session objects worker) (ready : a.scratch.IsReady task)
    (needed : List DataId) :
    σ.Comes (prefetchAll s task needed) a fun outcome b =>
      (∃ scratch, b = { a with scratch } ∧ scratch.IsReady task) ∧
        Fetched objects needed (dataRequests s task needed) outcome := by
  induction needed generalizing a with
  | nil => exact Leads.done ⟨⟨a.scratch, rfl, ready⟩, .inl ⟨nofun, rfl⟩⟩
  | cons data rest ih =>
    refine LeadsTo.bind (Leads.mono (u.prefetchObject ready data) ?_)
    rintro _ _ ⟨⟨scratch, rfl, ready⟩, ⟨there, rfl⟩ | ⟨missing, rfl⟩⟩
    · refine LeadsTo.bind (Leads.mono (ih ready) ?_)
      rintro _ _ ⟨⟨scratch', rfl, ready'⟩, ⟨others, rfl⟩ | ⟨other, member, missing, rfl⟩⟩
      · exact Leads.done
          ⟨⟨scratch', rfl, ready'⟩, .inl ⟨List.forall_mem_cons.mpr ⟨there, others⟩, rfl⟩⟩
      · exact Leads.done
          ⟨⟨scratch', rfl, ready'⟩, .inr ⟨other, List.mem_cons_of_mem _ member, missing, rfl⟩⟩
    · exact Leads.done ⟨⟨scratch, rfl, ready⟩, .inr ⟨data, List.mem_cons_self, missing, rfl⟩⟩

theorem prefetch (u : Undisturbed σ session objects worker) (writable : a.scratch.blocked = false) :
    σ.Comes (prefetch s t) a fun outcome b =>
      (∃ scratch, b = { a with scratch } ∧ scratch.blocked = false) ∧
        Fetched objects (neededData t) (requestsFor s t) outcome := by
  obtain ⟨made, ready⟩ := Scratch.make_of_writable writable t.id
  refine LeadsTo.bind (LeadsTo.makeScratch (fun past => u.makes past t.id) ?_)
  rw [made]
  refine LeadsTo.bind (Leads.mono (u.prefetchAll (a := { a with scratch := (a.scratch.make t.id).2 })
    ready (neededData t)) ?_)
  rintro _ _ ⟨⟨scratch, rfl, ready⟩, ⟨there, rfl⟩ | ⟨data, member, missing, rfl⟩⟩
  · exact Leads.done ⟨⟨scratch, rfl, ready.writable⟩, .inl ⟨there, rfl⟩⟩
  · exact Leads.done ⟨⟨scratch, rfl, ready.writable⟩, .inr ⟨data, member, missing, rfl⟩⟩

/-! The worker is called. -/

theorem stopRequested {Q : Bool → Stand → Prop} (calm : a.registry.stopRequested run = false)
    (h : Q false a) : σ.LeadsTo (Call.stopRequested run) a Q :=
  LeadsTo.stopRequested (calm.symm ▸ h)

theorem beginWatch (u : Undisturbed σ session objects worker) {Q : Unit → Stand → Prop}
    (h : Q () a) : σ.LeadsTo (Call.beginWatch run) a Q :=
  .free rfl fun past => ⟨(), u.beginsWatch past run, h⟩

theorem endWatch (u : Undisturbed σ session objects worker) {Q : Unit → Stand → Prop}
    (h : Q () a) : σ.LeadsTo (Call.endWatch run) a Q :=
  .free rfl fun past => ⟨(), u.endsWatch past run, h⟩

theorem hangUp (u : Undisturbed σ session objects worker) {stream : StreamId}
    {Q : Unit → Stand → Prop} (h : Q () (a.said [.hangUp])) : σ.LeadsTo (Call.hangUp stream) a Q :=
  .free rfl fun past => ⟨(), u.hangsUp past stream, h⟩

theorem sendAll (u : Undisturbed σ session objects worker) {stream : StreamId}
    (requests : List WorkRequest) :
    σ.Succeeds (sendAll run stream requests) a fun _ b => b = a.said (requests.map .send) := by
  induction requests generalizing a with
  | nil => exact Leads.done ⟨(), rfl, rfl⟩
  | cons request rest ih =>
    refine LeadsTo.bind (LeadsTo.free rfl fun past => ⟨_, u.sends past run stream request, ?_⟩)
    refine Succeeds.mono (ih (a := a.said [.send request])) ?_
    rintro _ _ rfl
    exact Stand.said_said a [.send request] (rest.map .send)

/-- The requests are sent and the reply comes. -/
theorem exchange (u : Undisturbed σ session objects worker) {stream : StreamId}
    {answer : Except WorkerError Output} (answers : worker.reply none = .now answer)
    (requests : List WorkRequest) :
    σ.Comes (exchange run stream requests) a fun outcome b =>
      outcome = answer ∧ b = a.said (requests.map .send ++ [.finish, .await]) := by
  refine Comes.andThen ((u.sendAll requests).mono ?_)
  rintro _ _ rfl
  refine LeadsTo.bind (LeadsTo.free rfl fun past => ⟨_, u.finishes past run stream, ?_⟩)
  refine LeadsTo.free rfl fun past => ⟨answer, u.answers answer answers past run stream, rfl, ?_⟩
  exact Stand.said_said a (requests.map .send) [.finish, .await]

/-- The end of the call lies within the calendar, or there is none. -/
theorem callDeadline {now : Date} (timely : t.options.EndsInTime now) :
    σ.Succeeds (callDeadline t run now) a fun deadline b =>
      deadline = t.options.callEnd now ∧ b = a := by
  unfold Agent.callDeadline Options.callEnd
  cases longest : t.options.maxDurationMillis with
  | none => exact Leads.done ⟨none, rfl, rfl, rfl⟩
  | some millis =>
    by_cases unbounded : Nat.pow 2 63 ≤ millis
    · simp only [if_pos unbounded]
      exact Leads.done ⟨none, rfl, rfl, rfl⟩
    · simp only [if_neg unbounded]
      obtain ⟨deadline, ends⟩ :=
        Option.isSome_iff_exists.mp (timely millis longest (Nat.lt_of_not_le unbounded))
      rw [ends]
      exact Leads.done ⟨some deadline, rfl, rfl, rfl⟩

end Undisturbed

end Cluster

end GridAgent
