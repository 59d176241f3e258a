import GridAgent.Proofs.Cluster.Silence
import GridAgent.Proofs.Cluster.Turns
import GridAgent.Proofs.Cluster.Writers
import GridAgent.Proofs.Handler.Attempt
import GridAgent.Proofs.Store.Arrivals

/-!
# A message about a task that has ended

An agent that is given such a message declines it: it looks at the task and its session, and decides on
the message. Only where the task is retried it looks at the successor too, and finishes what an agent
left undone that recorded the failure. It asks neither its worker nor the agent that had the task.
-/

namespace GridAgent.Cluster

open Agent Acquisition Surroundings

/-- The lineage of a retried task is repaired: it gets a successor if there is none, and one that is in
creation is submitted. Whoever is submitted for it is pushed. -/
def Mends (t : TaskRecord) (s s' : Store) (pushed : List TaskId) : Prop :=
  match s.successor? t.id with
  | none => ∃ id, pushed = [id] ∧ s.PassedOn t id s'
  | some heir =>
    if heir.status = .creating then
      pushed = [heir.id] ∧ ∃ now, s' = s.write heir.id (heir.apply (Store.submission now))
    else pushed = [] ∧ s' = s

/-- Some tasks were pushed, and the store is another one; identifiers may have been made up. -/
def Stand.ComesTo (a : Stand) (P : Store → List TaskId → Prop) (b : Stand) : Prop :=
  ∃ store pushed issued, b = { a with store, queue := a.queue.push pushed, issued } ∧ P store pushed

/-- The stand may be the same. -/
theorem Stand.comesTo_self {a : Stand} {P : Store → List TaskId → Prop} (h : P a.store []) :
    a.ComesTo P a := by
  refine ⟨a.store, [], a.issued, ?_, h⟩
  rw [Queue.push_nil]

/-- What the message of a task that has ended leads to. The lineage of a retried one is repaired; else
nothing happens. -/
def Redelivers (session : SessionRecord) (t : TaskRecord) (s s' : Store) (pushed : List TaskId) :
    Prop :=
  if t.status = .retried then Mends (t.withDefaults session.defaults) s s' pushed
  else s' = s ∧ pushed = []

/-- How the message of a task that has ended is settled. -/
def finalSettlement (t : TaskRecord) : Settlement := if t.status = .retried then .reject else .ack

/-- A stored task of a session has ended, and nothing is wrong with the store and the queue. -/
structure HasEnded (session : SessionRecord) (t : TaskRecord) (s : Shared) : Prop where
  /-- The store works. -/
  healthy : s.store.failures = 0
  /-- Records are stored under their own identifiers. -/
  keyed : KeyedStore s.store
  /-- Deliveries are numbered. -/
  numbered : s.queue.Numbered
  /-- The task is stored. -/
  stored : s.store.get? t.id = some t
  /-- It belongs to the session. -/
  session : t.session = session.id
  /-- It has ended. -/
  ended : t.status.isTerminal = true

/-- The call asks the worker, or how another agent is. -/
def Operation.asksOthers : Operation → Bool
  | .agent (.isAlive ..) | .agent (.connect ..) | .agent (.send ..) | .agent (.finishSending ..)
  | .agent (.awaitReply ..) | .agent (.hangUp ..) => true
  | _ => false

/-- Others answer those calls as they choose. -/
theorem Operation.isFree_of_asksOthers {operation : Operation} (asks : operation.asksOthers = true) :
    operation.IsFree := by
  unfold asksOthers at asks
  split at asks
  all_goals first | exact ⟨nofun, fun _ _ => rfl⟩ | cases asks

namespace Obliging

variable {σ : Surroundings} {session : SessionRecord} {s : Settings} {a : Stand} {task : TaskId}
  {t : TaskRecord} {message : DeliveryId} {outcome : Outcome} {disposition : Disposition}
  {status : Option TaskStatus}

/-- A decision that asks for nothing is carried out. -/
theorem carryOut_ended (u : Obliging σ session)
    (other : ∀ successor, outcome ≠ .taskIsRetried successor) :
    σ.Succeeds (carryOut s t ⟨outcome, status, disposition, .none⟩) a fun acquired b =>
      acquired = ⟨outcome, status, disposition, some t⟩ ∧ b = a := by
  refine Comes.after (u.now fun now _ => Comes.andThen (Leads.done ⟨none, rfl, ?_⟩))
  dsimp only
  split
  · next successor => exact absurd rfl (other successor)
  · exact Leads.done ⟨_, rfl, rfl, rfl⟩

/-- The successor of a retried task is looked at, and what is missing is done. -/
theorem repairLineage (u : Obliging σ session) (healthy : a.store.failures = 0)
    (keyed : KeyedStore a.store)
    (makes : a.store.successor? t.id = none → MakesUpNew σ a) :
    σ.Succeeds (Agent.repairLineage s t) a fun _ b => a.ComesTo (Mends t a.store) b := by
  have look : σ.Succeeds (findSuccessor s t.id) a fun found b =>
      found = a.store.successor? t.id ∧ b = a :=
    Succeeds.once (LeadsTo.findSuccessor healthy ⟨_, rfl, rfl, rfl⟩)
  refine Comes.andThen (look.orFail.mono ?_)
  rintro _ b ⟨rfl, same⟩
  rw [same]
  unfold Mends
  cases found : a.store.successor? t.id with
  | none =>
    refine Comes.andThen ((u.ensureSuccessor healthy (makes found) found).mono ?_)
    rintro _ _ ⟨id, store, rfl, -, passedOn⟩
    exact Leads.done ⟨_, rfl, store, [id], _, rfl, id, rfl, passedOn⟩
  | some heir =>
    have stored : a.store.get? heir.id = some heir := (keyed.successor found).2
    have settled (other : heir.status ≠ .creating) : a.ComesTo (fun s' pushed =>
        if heir.status = .creating then
          pushed = [heir.id] ∧ ∃ now, s' = a.store.write heir.id (heir.apply (Store.submission now))
        else pushed = [] ∧ s' = a.store) a := by
      simp only [if_neg other]
      exact Stand.comesTo_self ⟨rfl, rfl⟩
    cases standing : heir.status with
    | creating =>
      simp only [standing, if_true]
      refine Comes.andThen ((u.submitSuccessor healthy stored standing).mono ?_)
      rintro _ _ ⟨now, rfl, rfl⟩
      exact Leads.done ⟨_, rfl, _, [heir.id], a.issued, rfl, rfl, now, rfl⟩
    | _ =>
      rw [standing] at settled
      simp only [standing]
      exact Leads.done ⟨_, rfl, settled nofun⟩

/-- The lineage of a retried task is repaired. -/
theorem carryOut_retried (u : Obliging σ session) (healthy : a.store.failures = 0)
    (keyed : KeyedStore a.store)
    (makes : a.store.successor? t.id = none → MakesUpNew σ a) :
    σ.Succeeds (carryOut s t ⟨.taskIsRetried none, status, disposition, .none⟩) a fun acquired b =>
      acquired.outcome ≠ .acquired ∧ acquired.disposition = disposition ∧
        a.ComesTo (Mends t a.store) b := by
  refine Comes.after (u.now fun now _ => Comes.andThen (Leads.done ⟨none, rfl, ?_⟩))
  refine Comes.andThen ((u.repairLineage healthy keyed makes).mono ?_)
  intro state b repaired
  exact Leads.done ⟨_, rfl, nofun, rfl, repaired⟩

/-- A task is declined as it was decided without a question. -/
theorem acquire_of_decided (u : Obliging σ session) (healthy : a.store.failures = 0)
    (stored : a.store.get? t.id = some t) (belongs : t.session = session.id)
    {D : Decision → Prop} {Q : Acquired → Stand → Prop}
    (decided : ∀ situation : Situation, situation.IsOpen →
      situation.task = some (t.withDefaults session.defaults) →
        ∃ d, decide situation = .decided d ∧ D d)
    (carries : ∀ d, D d → σ.Succeeds (carryOut s (t.withDefaults session.defaults) d) a Q) :
    σ.Succeeds (Agent.acquire s t.id) a Q := by
  have once : σ.Succeeds (Agent.acquireOnce s t.id) a fun acquired b =>
      ∃ value, acquired = .ok value ∧ Q value b := by
    refine Comes.andThen ((u.readSituation healthy stored belongs).mono ?_)
    rintro situation _ ⟨rfl, task, isOpen⟩
    obtain ⟨d, decision, suits⟩ := decided situation isOpen task
    unfold reachDecision
    rw [decision, task]
    refine Comes.andThen (Leads.done ⟨_, rfl, ?_⟩)
    refine Comes.achieved ((carries d suits).mono ?_)
    intro value b q
    exact Leads.done ⟨_, rfl, value, rfl, q⟩
  unfold Agent.acquire
  -- the first round comes to an end, whether or not there may be more
  cases s.maxRounds - 1
  all_goals
    refine Comes.andThen (once.mono ?_)
    rintro _ b ⟨value, rfl, q⟩
    exact Leads.done ⟨value, rfl, q⟩

/-- A task that has ended is declined. -/
theorem acquire_ended (u : Obliging σ session) (healthy : a.store.failures = 0)
    (keyed : KeyedStore a.store) (stored : a.store.get? t.id = some t)
    (belongs : t.session = session.id) (ended : t.status.isTerminal = true)
    (makes : t.status = .retried → a.store.successor? t.id = none → MakesUpNew σ a) :
    σ.Succeeds (Agent.acquire s t.id) a fun acquired b => acquired.outcome ≠ .acquired ∧
      acquired.disposition.settlement = finalSettlement t ∧
        a.ComesTo (Redelivers session t a.store) b := by
  unfold Redelivers finalSettlement
  by_cases retried : t.status = .retried
  · simp only [if_pos retried]
    refine u.acquire_of_decided healthy stored belongs
      (D := (· = ⟨.taskIsRetried none, some .retried, .poisonous, .none⟩))
      (fun _ isOpen task => ⟨_, decide_of_retried isOpen task retried, rfl⟩) ?_
    rintro _ rfl
    refine Succeeds.mono (u.carryOut_retried (t := t.withDefaults session.defaults) healthy keyed
      (makes retried)) ?_
    rintro acquired b ⟨refused, disposition, repaired⟩
    exact ⟨refused, by rw [disposition]; rfl, repaired⟩
  · simp only [if_neg retried]
    refine u.acquire_of_decided healthy stored belongs
      (D := fun d => ∃ outcome disposition, d = ⟨outcome, some t.status, disposition, .none⟩ ∧
        outcome ≠ .acquired ∧ (∀ successor, outcome ≠ .taskIsRetried successor) ∧
          disposition.settlement = .ack) (fun _ isOpen task => ?_) ?_
    · obtain ⟨outcome, disposition, decision, rest⟩ := decide_of_ended isOpen task ended retried
      exact ⟨_, decision, outcome, disposition, rfl, rest⟩
    · rintro _ ⟨outcome, disposition, rfl, refused, other, acks⟩
      refine (u.carryOut_ended other).mono ?_
      rintro _ _ ⟨rfl, rfl⟩
      exact ⟨refused, acks, Stand.comesTo_self ⟨rfl, rfl⟩⟩

/-- A message about a task that is declined is decided on and handed back. -/
theorem handleMessage_declined {P : Store → List TaskId → Prop} {settlement : Settlement}
    (held : a.queue.held? message = some { task })
    (declines : σ.Succeeds (Agent.acquire s task) a fun acquired b => acquired.outcome ≠ .acquired ∧
      acquired.disposition.settlement = settlement ∧ a.ComesTo P b) :
    σ.Succeeds (handleMessage s message task) a fun _ c => ∃ store pushed issued,
      ∃ disposition : Disposition, disposition.settlement = settlement ∧ P store pushed ∧ c = { a with
        store, issued
        queue := ((a.queue.push pushed).dispose message disposition).2.settle message a.time } := by
  have processed : σ.Succeeds (process s message task) a fun _ c => ∃ store pushed issued,
      ∃ disposition : Disposition, disposition.settlement = settlement ∧ P store pushed ∧ c = { a with
        store, issued, queue := ((a.queue.push pushed).dispose message disposition).2 } := by
    refine Comes.andThen (declines.mono ?_)
    rintro acquired _ ⟨other, settles, store, pushed, issued, rfl, p⟩
    have undecided : (a.queue.push pushed).held? message = some { task } := held
    dsimp only
    split
    · next acquires _ => exact absurd acquires other
    · refine Comes.andThen (Succeeds.orFail (LeadsTo.dispose ⟨(), dispose_of_held undecided _, ?_⟩))
      exact Leads.done ⟨_, rfl, store, pushed, issued, _, settles, p, rfl⟩
  refine Comes.achieved (processed.mono ?_)
  rintro report _ ⟨store, pushed, issued, disposition, settles, p, rfl⟩
  refine Comes.attempted (LeadsTo.settle ?_)
  refine Comes.andThen (Leads.done ⟨_, rfl, Leads.done ⟨report, rfl, ?_⟩⟩)
  exact ⟨store, pushed, issued, disposition, settles, p, rfl⟩

/-- What obliges obliges in silence too. -/
theorem silent (u : Obliging σ session) :
    Obliging (σ.silent Operation.asksOthers) session where
  clock := u.clock
  found := u.found
  running := u.running
  shutdown := u.shutdown
  pushes := u.pushes

end Obliging

end GridAgent.Cluster
