import GridAgent.Proofs.Attempt
import GridAgent.Proofs.Cluster.Neighbours
import GridAgent.Proofs.Cluster.Turns
import GridAgent.Proofs.Cluster.Writers
import GridAgent.Proofs.Options
import GridAgent.Proofs.Store.Chain

/-!
# A lineage that uses up its retries

Each agent that pulls an attempt fails it: its worker fails the call as the task, or breaks down. While
retries are left the attempt is retried, and the next one is pushed, which the next agent pulls. The
attempt without a retry left ends in error, nobody follows it, and only then its outputs are given up.
-/

namespace GridAgent

/-- The worker fails each call: it says that the task failed, or it breaks down. -/
def Behaviour.IsFailing (worker : Behaviour) : Prop :=
  ∃ reason, worker = .fail reason ∨ worker = .crash reason

namespace Cluster

open Agent Surroundings

section
variable {σ : Surroundings} {session : SessionRecord} {objects : DataId → Option (List UInt8)}
  {worker : Behaviour} {s : Settings} {message : DeliveryId} {t : TaskRecord} {first : Stand}

/-- The message of an attempt that fails is handled to its end. -/
theorem Undisturbed.handleMessage_fails (u : Undisturbed σ session objects worker)
    (failing : worker.IsFailing) (ready : ReadyFor σ session first t)
    (held : first.queue.held? message = some { task := t.id })
    (timely : ∀ now, σ.Says now → (t.options.mergedWith session.defaults).EndsInTime now)
    (there : ∀ data ∈ neededData t, (objects data).isSome = true) :
    σ.Succeeds (handleMessage s message t.id) first fun report c =>
      ∃ (disposition : Disposition) (fault : Option String) (told : List Word),
        disposition.settlement = .ack ∧
        report = (failedEnding (t.withDefaults session.defaults) disposition fault).report t.id ∧
        Settled first t message (failedEnding (t.withDefaults session.defaults) disposition fault)
          told c := by
  obtain ⟨reason, rfl | rfl⟩ := failing
  all_goals
    have handled := u.handleMessage_ends (s := s) ready held fun a r h claimed =>
      u.execute_reaching ready h there fun b h =>
        u.reachWorker_called ready h claimed timely nofun rfl _
    refine handled.mono ?_
    rintro _ c ⟨rfl, now, spoken, ended⟩
    exact ⟨_, _, _, rfl, failedEnding_report .., ended.failed ready⟩

end

/-- Nobody has heard of the identifier. -/
structure Shared.Unheard (s : Shared) (id : TaskId) : Prop where
  /-- Nothing is stored under it. -/
  unknown : s.store.get? id = none
  /-- No successor is linked to it. -/
  childless : s.store.successors.get? id = none
  /-- It has not been made up. -/
  unissued : id ∉ s.issued
  /-- Nothing is executed under it. -/
  idle : ∀ pod, (s.registries pod).running.get? id = none

/-- An agent is undisturbed but for its worker, which fails every call, and finds the data of the task
and time for the call. -/
structure Attendant.Fails (a : Attendant) (session : SessionRecord) (t : TaskRecord) : Prop where
  /-- The worker fails, the data is there, and nothing else is wrong. -/
  worker : ∃ objects worker, Undisturbed a.meets session objects worker ∧ worker.IsFailing ∧
    ∀ data ∈ neededData t, (objects data).isSome = true
  /-- The call ends within the calendar. -/
  timely : ∀ now, a.meets.Says now → (t.options.mergedWith session.defaults).EndsInTime now

/-- An agent can be given an attempt: it can write files, counts of the tasks are not behind though
some tasks are still to come, and identifiers that are made up are new. -/
structure Attendant.IsPrepared (a : Attendant) (s : Shared) (coming : Nat) : Prop where
  /-- Files can be written. -/
  writable : (s.scratches a.meets.pod).blocked = false
  /-- Counts are not behind. -/
  counts : ∀ past, ∃ count : Nat, a.meets.replies past (.finalizer .countTasks) = some count ∧
    s.store.tasks.keys.length + coming ≤ count
  /-- Identifiers are new. -/
  makes : ∀ past, ∃ id : TaskId, a.meets.replies past (.agent .newTaskId) = some id ∧ s.Unheard id

/-- Two agents make up different identifiers. -/
def Attendant.Apart (a b : Attendant) : Prop := ∀ id, a.meets.MakesUp id → ¬ b.meets.MakesUp id

/-- An attempt at a task is up next: it is free, nothing is executed for it, and it alone waits in the
queue. -/
structure UpNext (session : SessionRecord) (t : TaskRecord) (s : Shared) : Prop where
  /-- The store works. -/
  healthy : s.store.failures = 0
  /-- The attempt is stored. -/
  stored : s.store.get? t.id = some t
  /-- It belongs to the session. -/
  session : t.session = session.id
  /-- It can be claimed. -/
  free : Acquisition.IsFree t
  /-- It has no successor. -/
  lone : s.store.successor? t.id = none
  /-- Nothing is executed for it. -/
  idle : ∀ pod, (s.registries pod).running.get? t.id = none
  /-- The queue works. -/
  pulls : s.queue.failures = 0
  /-- Deliveries are numbered. -/
  numbered : s.queue.Numbered
  /-- The attempt waits in the queue. -/
  ready : s.queue.ready = [t.id]

/-- A message about the task was handled, which ended the attempt in a status. -/
def Handled.Ends (h : Handled) (task : TaskId) (status : TaskStatus) : Prop :=
  h.task = task ∧ ∃ report, h.outcome = .ok report ∧ report.status = some status

/-- The lineage consists of those attempts and has ended: the last of them is in error and has no
successor, and the outputs are given up. -/
structure RunsOut (s : Store) (root : TaskId) (ids : List TaskId) (outputs : List DataId) : Prop where
  /-- Those are the attempts. -/
  chain : s.Chain root ids
  /-- The last one is in error, and nobody follows it. -/
  last : ∀ front x, ids = front ++ [x] →
    (∃ r, s.get? x = some r ∧ r.status = .error) ∧ s.successor? x = none
  /-- The outputs are given up. -/
  outputs : ∀ data ∈ outputs, data ∈ s.aborted

/-- Attempts that were handled one after the other. Each but the last is retried, and pushes the next
one and nobody else, while nothing is given up; the last one ends in error and pushes nobody. -/
inductive UsesUp (aborted : IdSet .data) : List TaskId → List Handled → Prop where
  /-- The last attempt. -/
  | last {id : TaskId} {h : Handled} (ends : h.Ends id .error) (ready : h.after.queue.ready = []) :
    UsesUp aborted [id] [h]
  /-- An attempt with another one after it. -/
  | retried {id heir : TaskId} {ids : List TaskId} {h : Handled} {turns : List Handled}
    (ends : h.Ends id .retried) (ready : h.after.queue.ready = [heir])
    (kept : h.after.store.aborted = aborted) (rest : UsesUp aborted (heir :: ids) turns) :
    UsesUp aborted (id :: heir :: ids) (h :: turns)

section
variable {session : SessionRecord} {t heir : TaskRecord} {s : Shared} {a b : Attendant}
  {crew : List Attendant} {h : Handled} {id root : TaskId} {coming : Nat}

/-- An agent that fails the attempt fails the next one too. -/
theorem Attendant.Fails.next (fails : a.Fails session t)
    (next : Store.IsNextAttempt (t.withDefaults session.defaults) heir) : a.Fails session heir := by
  obtain ⟨objects, worker, undisturbed, failing, there⟩ := fails.worker
  obtain ⟨-, -, payload, dependencies, -⟩ := next.inherits
  refine ⟨⟨objects, worker, undisturbed, failing, fun data hd => there data ?_⟩, fun now spoken => ?_⟩
  · rw [neededData, payload, dependencies] at hd
    exact hd
  · have options : heir.options = t.options.mergedWith session.defaults := next.options
    rw [options, Options.mergedWith_idem]
    exact fails.timely now spoken

/-- The attempt that is up next is pulled. -/
theorem UpNext.pulled (next : UpNext session t s) :
    pulling s = some (({ s.queue with ready := [] }.deliver t.id).1, t.id,
      { s with queue := ({ s.queue with ready := [] }.deliver t.id).2 }) := by
  have taken : s.queue.take 1 = (.messages [({ s.queue with ready := [] }.deliver t.id).1],
      ({ s.queue with ready := [] }.deliver t.id).2) := by
    have works : ¬ 0 < s.queue.failures := by rw [next.pulls]; exact Nat.lt_irrefl 0
    unfold Queue.take
    rw [if_neg works, next.ready]
    rfl
  unfold pulling
  rw [taken]
  have held : ({ s.queue with ready := [] }.deliver t.id).2.held?
      ({ s.queue with ready := [] }.deliver t.id).1 = some { task := t.id } :=
    Queue.held?_delivered ..
  simp only [held]
  rfl

/-- A failed attempt is disposed of as it was decided. -/
theorem failedEnding_disposition (t : TaskRecord) (disposition : Disposition)
    (fault : Option String) : (failedEnding t disposition fault).disposition = disposition := by
  unfold failedEnding
  split <;> rfl

/-- An agent has failed the attempt that was up next, and left everything else as it was. -/
structure FailedTurn (session : SessionRecord) (t : TaskRecord) (a : Attendant) (s : Shared)
    (h : Handled) : Prop where
  /-- The attempt has ended as the retries tell that are left, and its message is done with. -/
  recorded : ∃ (disposition : Disposition) (fault : Option String) (statuses : List TaskStatus)
    (mid : Store) (r : TaskRecord) (pushed : List TaskId),
    disposition.settlement = .ack ∧
    h.Ends t.id (failedEnding (t.withDefaults session.defaults) disposition fault).status ∧
    s.store.Trail t statuses mid r ∧
    r.status = (failedEnding (t.withDefaults session.defaults) disposition fault).status ∧
    (failedEnding (t.withDefaults session.defaults) disposition fault).aftermath mid h.after.store
      pushed ∧
    h.after.queue = { s.queue with ready := [] }.served t.id pushed disposition
  /-- Other pods are as they were. -/
  home : a.meets.StaysHome s h.after
  /-- Whoever has appeared was made up. -/
  makes : ∀ x, s.store.get? x = none → h.after.store.get? x ≠ none →
    x ∈ h.after.issued ∧ x ∉ s.issued
  /-- Whatever was executed on the pod is executed still, and nothing else. -/
  running : ∀ x, (h.after.registries a.meets.pod).running.get? x =
    (s.registries a.meets.pod).running.get? x
  /-- Files can be written there. -/
  writable : (h.after.scratches a.meets.pod).blocked = false

/-- An agent that fails the attempt does so. -/
theorem failed_once (next : UpNext session t s) (fails : a.Fails session t)
    (prepared : a.IsPrepared s coming) : ∃ h,
    a.handle ({ s.queue with ready := [] }.deliver t.id).1 t.id
      { s with queue := ({ s.queue with ready := [] }.deliver t.id).2 } = some h ∧
    FailedTurn session t a s h := by
  obtain ⟨objects, worker, undisturbed, failing, there⟩ := fails.worker
  let given : Scene :=
    { shared := { s with queue := ({ s.queue with ready := [] }.deliver t.id).2 } }
  have ready : ReadyFor a.meets session (given.stand a.meets.pod) t :=
    { healthy := next.healthy
      stored := next.stored
      session := next.session
      free := next.free
      lone := next.lone
      idle := next.idle a.meets.pod
      writable := prepared.writable
      counts := fun past =>
        let ⟨count, counted, enough⟩ := prepared.counts past
        ⟨count, counted, Nat.le_trans (Nat.le_add_right ..) enough⟩
      makes := fun past =>
        let ⟨id, chosen, unheard⟩ := prepared.makes past
        ⟨id, chosen, unheard.unknown, unheard.unissued⟩ }
  have held : given.shared.queue.held? ({ s.queue with ready := [] }.deliver t.id).1 =
      some { task := t.id } := Queue.held?_delivered ..
  have handles := undisturbed.handleMessage_fails (s := a.settings) failing ready held fails.timely
    there
  obtain ⟨outcome, w, c, solo, at_, report, rfl, disposition, fault, told, acks, rfl, settled⟩ :=
    handles given ⟨rfl, rfl⟩
  obtain rfl := at_.stand
  obtain ⟨mid, r, pushed, trail, status, after, queue⟩ := settled.recorded
  obtain ⟨registries, scratches, issued⟩ := staysHome_of_solo solo
  refine ⟨⟨t.id, _, w.past, given.shared, w.shared⟩, Option.map_eq_some_iff.mpr ⟨_, solo, rfl⟩,
    ⟨disposition, fault, _, mid, r, pushed, acks, ⟨rfl, _, rfl, rfl⟩, trail, status, after, ?_⟩,
    ⟨registries, scratches, issued⟩, settled.makes, settled.running, settled.writable⟩
  have numbered : ({ s.queue with ready := [] } : Queue).Numbered := next.numbered
  have final : disposition.settlement ≠ .release := by rw [acks]; nofun
  rw [failedEnding_disposition] at queue
  exact queue.trans (Queue.settle_dispose_deliver numbered final t.id pushed _)

/-- On every pod the same is executed. -/
theorem FailedTurn.executions (failed : FailedTurn session t a s h) (pod : PodId) (x : TaskId) :
    (h.after.registries pod).running.get? x = (s.registries pod).running.get? x := by
  by_cases same : pod = a.meets.pod
  · rw [same]
    exact failed.running x
  · rw [failed.home.registries pod same]

/-- An agent that makes up other identifiers stays prepared, for one task less. -/
theorem FailedTurn.prepared (failed : FailedTurn session t a s h) (apart : a.Apart b)
    (prepared : b.IsPrepared s (coming + 1))
    (keys : h.after.store.tasks.keys.length ≤ s.store.tasks.keys.length + 1)
    (childless : ∀ x, s.store.get? x = none → s.store.successors.get? x = none →
      h.after.store.successors.get? x = none) : b.IsPrepared h.after coming where
  writable := by
    by_cases same : b.meets.pod = a.meets.pod
    · rw [same]
      exact failed.writable
    · rw [failed.home.scratches _ same]
      exact prepared.writable
  counts past := by
    obtain ⟨count, counted, enough⟩ := prepared.counts past
    exact ⟨count, counted, by omega⟩
  makes past := by
    obtain ⟨id, chosen, unheard⟩ := prepared.makes past
    have unissued : id ∉ h.after.issued := fun issued =>
      (failed.home.issued id issued).elim unheard.unissued fun made => apart id made ⟨past, chosen⟩
    refine ⟨id, chosen, ?_, childless id unheard.unknown unheard.childless, unissued, fun pod => ?_⟩
    · exact Classical.byContradiction fun known =>
        unissued (failed.makes id unheard.unknown known).1
    · rw [failed.executions]
      exact unheard.idle pod

/-- Whoever has appeared was new to everybody. -/
theorem FailedTurn.unheard (failed : FailedTurn session t a s h) (prepared : a.IsPrepared s coming)
    (new : s.store.get? id = none) (known : h.after.store.get? id ≠ none) : s.Unheard id := by
  obtain ⟨issued, unissued⟩ := failed.makes id new known
  obtain ⟨past, chosen⟩ := (failed.home.issued id issued).resolve_left unissued
  obtain ⟨id', chosen', unheard⟩ := prepared.makes past
  rwa [Option.some.inj (chosen.symm.trans chosen')]

/-- With retries left the next attempt is up next, and the agents that are left are prepared. -/
theorem FailedTurn.goesOn (failed : FailedTurn session t a s h) (next : UpNext session t s)
    (prepared : a.IsPrepared s coming)
    (left : t.ancestors.length < (t.options.mergedWith session.defaults).retryLimit)
    (chain : s.store.Chain t.initial (t.ancestors ++ [t.id])) : ∃ heir,
    Store.IsNextAttempt (t.withDefaults session.defaults) heir ∧ UpNext session heir h.after ∧
    h.Ends t.id .retried ∧ h.after.queue.ready = [heir.id] ∧
    h.after.store.aborted = s.store.aborted ∧
    h.after.store.Chain t.initial (t.ancestors ++ [t.id] ++ [heir.id]) ∧
    ∀ b coming, a.Apart b → b.IsPrepared s (coming + 1) → b.IsPrepared h.after coming := by
  obtain ⟨disposition, fault, statuses, mid, r, pushed, acks, ends, trail, status, after, queue⟩ :=
    failed.recorded
  rw [failedEnding, if_pos (show (t.withDefaults session.defaults).ancestors.length <
    (t.withDefaults session.defaults).options.retryLimit from left)] at ends status after
  obtain ⟨id, rfl, passedOn⟩ := after
  obtain ⟨heir, known, rfl, nextAttempt⟩ := passedOn.heir
  have other : heir.id ≠ t.id := Store.ne_of_unknown passedOn.new trail.stored
  have unknown : s.store.get? heir.id = none := (trail.others _ other).symm.trans passedOn.new
  have appeared : h.after.store.get? heir.id ≠ none := known.trans_ne (Option.some_ne_none heir)
  have unheard := failed.unheard prepared unknown appeared
  have ready : h.after.queue.ready = [heir.id] := by rw [queue]; rfl
  have successors : h.after.store.successors = s.store.successors.set t.id heir.id := by
    rw [passedOn.successors, trail.successors]
    rfl
  refine ⟨heir, nextAttempt, ?_, ends, ready, ?_, ?_, ?_⟩
  · have lone : h.after.store.successor? heir.id = none := by
      unfold Store.successor?
      rw [successors, Table.get?_set, if_neg other, unheard.childless]
      rfl
    exact
      { healthy := passedOn.failures.trans (trail.failures.trans next.healthy)
        stored := known
        session := nextAttempt.inherits.1.trans next.session
        free := ⟨nextAttempt.status, nextAttempt.owner⟩
        lone := lone
        idle := fun pod => (failed.executions pod heir.id).trans (unheard.idle pod)
        pulls := by
          rw [queue]
          exact next.pulls
        numbered := by
          rw [queue]
          exact Queue.Numbered.served next.numbered t.id [heir.id] disposition
        ready := ready }
  · rw [passedOn.aborted, trail.rest]
  · exact (chain.trail next.stored trail).passedOn (t := t.withDefaults session.defaults) trail.stored
      status passedOn
  · intro b coming apart ready
    have keys := trail.ids ▸ passedOn.length_keys
    refine failed.prepared apart ready keys fun x unknown childless => ?_
    rw [successors, Table.get?_set, if_neg (Store.ne_of_unknown unknown next.stored)]
    exact childless

/-- Without retries left the lineage has ended. -/
theorem FailedTurn.runsOut (failed : FailedTurn session t a s h) (next : UpNext session t s)
    (spent : ¬ t.ancestors.length < (t.options.mergedWith session.defaults).retryLimit)
    (chain : s.store.Chain t.initial (t.ancestors ++ [t.id])) :
    h.Ends t.id .error ∧ h.after.queue.ready = [] ∧
      RunsOut h.after.store t.initial (t.ancestors ++ [t.id]) t.outputs := by
  obtain ⟨disposition, fault, statuses, mid, r, pushed, acks, ends, trail, status, after, queue⟩ :=
    failed.recorded
  rw [failedEnding, if_neg (show ¬ (t.withDefaults session.defaults).ancestors.length <
    (t.withDefaults session.defaults).options.retryLimit from spent)] at ends status after
  obtain ⟨left, lone⟩ := after
  have settled : ¬ r.IsWaiting := by
    rw [TaskRecord.IsWaiting, status]
    simp
  refine ⟨ends, ?_, ?_, fun front x split => ?_, left.outputs⟩
  · rw [queue, left.nobody]
    rfl
  · exact (chain.trail next.stored trail).gaveUp trail.stored settled left.toGaveUp
  · obtain ⟨-, same⟩ := List.append_inj' split rfl
    obtain rfl := List.singleton_inj.mp same
    exact ⟨⟨r, left.kept trail.stored settled, status⟩, lone⟩

/-- From any attempt on, one agent for each retry that is left and one more use up the lineage. -/
theorem usesUp_from (next : UpNext session t s)
    (chain : s.store.Chain t.initial (t.ancestors ++ [t.id]))
    (fails : ∀ b ∈ a :: crew, b.Fails session t)
    (prepared : ∀ b ∈ a :: crew, b.IsPrepared s crew.length)
    (apart : (a :: crew).Pairwise Attendant.Apart)
    (left : t.ancestors.length + crew.length =
      (t.options.mergedWith session.defaults).retryLimit) :
    ∃ ids turns later, takeTurns pulling (a :: crew) s = some (turns, later) ∧
      ids.length = crew.length ∧ UsesUp s.store.aborted (t.id :: ids) turns ∧
      RunsOut later.store t.initial (t.ancestors ++ t.id :: ids) t.outputs := by
  induction crew generalizing a t s with
  | nil =>
    obtain ⟨h, handles, failed⟩ := failed_once next (fails a List.mem_cons_self)
      (prepared a List.mem_cons_self)
    have spent : ¬ t.ancestors.length < (t.options.mergedWith session.defaults).retryLimit := by
      rw [← left]
      exact Nat.lt_irrefl _
    obtain ⟨ends, ready, runsOut⟩ := failed.runsOut next spent chain
    exact ⟨[], [h], h.after, takeTurns_cons next.pulled handles rfl, rfl, .last ends ready, runsOut⟩
  | cons b crew ih =>
    obtain ⟨h, handles, failed⟩ := failed_once next (fails a List.mem_cons_self)
      (prepared a List.mem_cons_self)
    have more : t.ancestors.length < (t.options.mergedWith session.defaults).retryLimit := by
      rw [← left]
      exact Nat.lt_add_of_pos_right (Nat.succ_pos _)
    obtain ⟨heir, nextAttempt, upNext, ends, ready, kept, chain', stay⟩ :=
      failed.goesOn next (prepared a List.mem_cons_self) more chain
    obtain ⟨others, apart'⟩ := List.pairwise_cons.mp apart
    obtain ⟨-, root, -, -, outputs⟩ : heir.session = t.session ∧ heir.initial = t.initial ∧ _ ∧ _ ∧
      heir.outputs = t.outputs := nextAttempt.inherits
    have ancestors : heir.ancestors = t.ancestors ++ [t.id] := nextAttempt.ancestors
    have left' : heir.ancestors.length + crew.length =
        (heir.options.mergedWith session.defaults).retryLimit := by
      have again : (heir.options.mergedWith session.defaults).retryLimit =
          (t.options.mergedWith session.defaults).retryLimit := by
        rw [nextAttempt.options]
        exact congrArg Options.retryLimit (Options.mergedWith_idem ..)
      rw [again, ← left, ancestors, List.length_append, List.length_singleton, List.length_cons]
      omega
    obtain ⟨ids, turns, later, rest, length, usesUp, runsOut⟩ := ih upNext
      (by rw [root, ancestors]; exact chain')
      (fun c hc => (fails c (List.mem_cons_of_mem a hc)).next nextAttempt)
      (fun c hc => stay c crew.length (others c hc) (prepared c (List.mem_cons_of_mem a hc)))
      apart' left'
    rw [root, ancestors, outputs, List.append_assoc] at runsOut
    rw [kept] at usesUp
    exact ⟨heir.id :: ids, h :: turns, later, takeTurns_cons next.pulled handles rest,
      congrArg (· + 1) length, .retried ends ready kept usesUp, runsOut⟩

/-- A lineage uses up its retries. A first attempt is up next, whose effective options allow it some
retries. One agent after the other pulls an attempt and fails it, as the task or as the worker, with all
data there, and each call would end within the calendar. Then there is one attempt more than retries,
and each pushes the next one and nobody else. All but the last are retried, and each knows exactly those
before it. The last one ends in error and has no successor, and the outputs are given up only then. -/
theorem retries_run_out (next : UpNext session t s) (first : t.ancestors = [])
    (keyed : KeyedStore s.store)
    (alone : ∀ x r, s.store.get? x = some r → (r.initial = t.initial ↔ x = t.id))
    (enough : crew.length = (t.options.mergedWith session.defaults).retryLimit + 1)
    (fails : ∀ a ∈ crew, a.Fails session t)
    (prepared : ∀ a ∈ crew,
      a.IsPrepared s (t.options.mergedWith session.defaults).retryLimit)
    (apart : crew.Pairwise Attendant.Apart) :
    ∃ ids turns later, takeTurns pulling crew s = some (turns, later) ∧
      ids.length = (t.options.mergedWith session.defaults).retryLimit + 1 ∧
      ids.head? = some t.id ∧ UsesUp s.store.aborted ids turns ∧
      RunsOut later.store t.initial ids t.outputs ∧
      (later.store.lineage t.initial).map TaskRecord.id = ids := by
  cases crew with
  | nil => cases enough
  | cons a crew =>
    have retries : crew.length = (t.options.mergedWith session.defaults).retryLimit :=
      Nat.succ.inj enough
    have chain : s.store.Chain t.initial (t.ancestors ++ [t.id]) := by
      rw [first]
      exact Store.chain_first keyed next.stored first alone
    obtain ⟨ids, turns, later, handled, length, usesUp, runsOut⟩ :=
      usesUp_from next chain fails (retries ▸ prepared) apart (by rw [first, ← retries]; simp)
    rw [first] at runsOut
    exact ⟨t.id :: ids, turns, later, handled, congrArg (· + 1) (length.trans retries), rfl, usesUp,
      runsOut, runsOut.chain.lineage⟩

end

/-! Two agents, a task whose session allows one retry, and one whose calls would last for ever. -/

/-- What an agent meets whose worker answers each call so. -/
def fumbling (pod : PodId) (made : TaskId) (answer : Except WorkerError Output) : Surroundings where
  pod := pod
  replies
    | _, .agent .newTaskId => some made
    | _, .agent (.awaitReply ..) => some answer
    | _, .finalizer .countTasks => some (2 : Nat)
    | _, operation => breakingDown operation
  exposes _ := false
  reads_sessions := nofun

variable {pod : PodId} {made : TaskId} {answer : Except WorkerError Output} {worker : Behaviour}

theorem fumbling_undisturbed (answers : worker.reply none = .now answer)
    (reached : worker ≠ .unreachable) :
    Undisturbed (fumbling pod made answer) retryingSession (fun _ => some []) worker where
  equips := ⟨fun _ => ⟨morning, rfl⟩, nofun⟩
  clock _ := ⟨morning, rfl⟩
  found _ := rfl
  running := rfl
  shutdown _ := rfl
  pushes := nofun
  fetches _ _ := rfl
  makes := nofun
  saves := nofun
  beginsWatch _ _ := rfl
  endsWatch _ _ := rfl
  refuses same := absurd same reached
  connects _ _ _ _ _ := ⟨0, rfl⟩
  sends _ _ _ _ := rfl
  finishes _ _ _ := rfl
  answers answer' same _ _ _ := by
    cases answers.symm.trans same
    rfl
  hangsUp _ _ := rfl

/-- An agent whose worker breaks down. -/
def breaking : Attendant where
  settings := plainFleet.settings ⟨"first"⟩
  meets := fumbling ⟨"first"⟩ (.ofNat 2) (.error (.fault "worker broke down"))

/-- An agent whose worker says that the task failed. -/
def refusing : Attendant where
  settings := plainFleet.settings ⟨"second"⟩
  meets := fumbling ⟨"second"⟩ (.ofNat 3) (.ok (.failure "no"))

/-- A first attempt that waits in the queue, with its options. -/
def queuedTask (o : Options) : TaskRecord := { fruitfulTask with options := o }

/-- Nothing else is there. -/
def queuedShared (o : Options) : Shared where
  store := ({} : Store).insert (queuedTask o)
  queue := ({} : Queue).push [(queuedTask o).id]

theorem queuedTask_upNext (o : Options) :
    UpNext retryingSession (queuedTask o) (queuedShared o) where
  healthy := rfl
  stored := rfl
  session := rfl
  free := ⟨rfl, rfl⟩
  lone := rfl
  idle _ := rfl
  pulls := rfl
  numbered _ _ held := by cases held
  ready := rfl

/-- Both agents are prepared for one retry, and make up different identifiers. -/
theorem pair_prepared (o : Options) :
    (∀ a ∈ [breaking, refusing], a.IsPrepared (queuedShared o) 1) ∧
      [breaking, refusing].Pairwise Attendant.Apart := by
  have first : breaking.IsPrepared (queuedShared o) 1 :=
    ⟨rfl, fun _ => ⟨2, rfl, Nat.le_refl 2⟩,
      fun _ => ⟨.ofNat 2, rfl, rfl, rfl, List.not_mem_nil, fun _ => rfl⟩⟩
  have second : refusing.IsPrepared (queuedShared o) 1 :=
    ⟨rfl, fun _ => ⟨2, rfl, Nat.le_refl 2⟩,
      fun _ => ⟨.ofNat 3, rfl, rfl, rfl, List.not_mem_nil, fun _ => rfl⟩⟩
  have apart : breaking.Apart refusing := by
    rintro id ⟨_, made⟩ ⟨_, made'⟩
    cases Option.some.inj made
    cases made'
  exact ⟨List.forall_mem_cons.mpr ⟨first, List.forall_mem_singleton.mpr second⟩,
    List.pairwise_pair.mpr apart⟩

/-- Both agents find the data, and their workers fail. -/
theorem pair_fumbling (o : Options) : ∀ a ∈ [breaking, refusing], ∃ objects worker,
    Undisturbed a.meets retryingSession objects worker ∧ worker.IsFailing ∧
      ∀ data ∈ neededData (queuedTask o), (objects data).isSome = true := by
  refine List.forall_mem_cons.mpr ⟨?_, List.forall_mem_singleton.mpr ?_⟩
  · exact ⟨_, .crash "worker broke down", fumbling_undisturbed rfl nofun, ⟨_, .inr rfl⟩,
      fun _ _ => rfl⟩
  · exact ⟨_, .fail "no", fumbling_undisturbed rfl nofun, ⟨_, .inl rfl⟩, fun _ _ => rfl⟩

/-- The first agent's worker breaks down, and the second one's says that the task failed. So there are
two attempts, of which the second ends in error. -/
theorem retry_run_out : ∃ ids turns later,
    takeTurns pulling [breaking, refusing] (queuedShared {}) = some (turns, later) ∧
      ids.length = 2 ∧ ids.head? = some (.ofNat 1) ∧ UsesUp .empty ids turns ∧
      RunsOut later.store (.ofNat 1) ids [.ofNat 5] ∧
      (later.store.lineage (.ofNat 1)).map TaskRecord.id = ids := by
  have alone : ∀ x r, (queuedShared {}).store.get? x = some r →
      (r.initial = (queuedTask {}).initial ↔ x = (queuedTask {}).id) := by
    intro x r hr
    rw [queuedShared, Store.get?_insert] at hr
    split at hr
    · next same =>
      rw [← Option.some.inj hr]
      exact iff_of_true rfl same
    · cases hr
  have fails : ∀ a ∈ [breaking, refusing], a.Fails retryingSession (queuedTask {}) := fun a ha =>
    ⟨pair_fumbling {} a ha, fun _ _ millis bounded => by cases bounded⟩
  exact @retries_run_out retryingSession (queuedTask {}) (queuedShared {}) [breaking, refusing]
    (queuedTask_upNext {}) rfl (KeyedStore.insert (fun _ _ stored => by cases stored) _) alone rfl
    fails (pair_prepared {}).1 (pair_prepared {}).2

/-- The longest duration that counts as one. -/
def endlessly : Options := { maxDurationMillis := some (Nat.pow 2 63 - 1) }

/-- With that duration for its calls nothing else is wrong with the attempt and the agents, but the
first handler breaks off before it calls its worker. The lineage never comes to its end. -/
theorem endless_attempt_sticks :
    UpNext retryingSession (queuedTask endlessly) (queuedShared endlessly) ∧
    (queuedTask endlessly).ancestors = [] ∧
    (∀ a ∈ [breaking, refusing], ∃ objects worker,
      Undisturbed a.meets retryingSession objects worker ∧ worker.IsFailing ∧
        ∀ data ∈ neededData (queuedTask endlessly), (objects data).isSome = true) ∧
    (∀ a ∈ [breaking, refusing], a.IsPrepared (queuedShared endlessly) 1) ∧
    [breaking, refusing].Pairwise Attendant.Apart ∧
    ((queuedTask endlessly).options.mergedWith retryingSession.defaults).retryLimit = 1 ∧
    takeTurns pulling [breaking, refusing] (queuedShared endlessly) = none :=
  ⟨queuedTask_upNext endlessly, rfl, pair_fumbling endlessly, (pair_prepared endlessly).1,
    (pair_prepared endlessly).2, rfl, Option.isNone_iff_eq_none.mp (by decide +kernel)⟩

end Cluster

end GridAgent
