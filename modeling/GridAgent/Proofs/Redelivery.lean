import GridAgent.Proofs.Attempt
import GridAgent.Proofs.Handler.Redelivery

/-!
# Messages about ended tasks come again

A message about a task that has ended is handed out any number of times, to agents that handle it one
after the other. They ask neither a worker nor another agent, and leave the record of the task alone.
Unless the task is retried nothing changes and each message is done with. The lineage of a retried one
is repaired the first time, and is left alone from then on, while each message is rejected.
-/

namespace GridAgent.Cluster

open Agent Surroundings

/-- A message about a task that has ended was handled. -/
structure Declined (session : SessionRecord) (t : TaskRecord) (s : Shared) (h : Handled)
    (pushed : List TaskId) : Prop where
  /-- The handler did not fail. -/
  reported : ∃ report, h.outcome = .ok report
  /-- It asked neither the worker nor another agent. -/
  quiet : ∀ x ∈ h.calls, x.operation.asksOthers = false
  /-- The lineage of a retried task is repaired, and nothing else has changed in the store. -/
  store : Redelivers session t s.store h.after.store pushed
  /-- The message is settled for good, and nothing else is in flight that was not before. -/
  queue : ∃ disposition : Disposition, disposition.settlement = finalSettlement t ∧
    h.after.queue = s.queue.served t.id pushed disposition

/-- The successor of a retried task is there, and out of creation. -/
def IsSettled (t : TaskRecord) (s : Store) : Prop :=
  t.status = .retried → ∃ heir, s.successor? t.id = some heir ∧ heir.status ≠ .creating

section
variable {session : SessionRecord} {t : TaskRecord} {s s' : Store} {pushed : List TaskId}

/-! What a repair leaves. -/

/-- A successor in creation is not the retried task itself. -/
theorem ne_of_creating {heir : TaskRecord} (stored : s.get? t.id = some t)
    (retried : t.status = .retried) (known : s.get? heir.id = some heir)
    (creating : heir.status = .creating) : heir.id ≠ t.id := by
  intro same
  rw [same, stored] at known
  cases known
  cases retried.symm.trans creating

/-- The record of the task stays, the store works, and records are stored under their own identifiers.
-/
theorem Redelivers.keeps (h : Redelivers session t s s' pushed) (keyed : KeyedStore s)
    (stored : s.get? t.id = some t) :
    s'.failures = s.failures ∧ KeyedStore s' ∧ s'.get? t.id = some t := by
  unfold Redelivers at h
  split at h
  case isFalse =>
    rw [h.1]
    exact ⟨rfl, keyed, stored⟩
  case isTrue retried =>
    unfold Mends at h
    split at h
    · obtain ⟨id, -, passedOn⟩ := h
      obtain ⟨heir, known, own, -⟩ := passedOn.heir
      have other : t.id ≠ id := (Store.ne_of_unknown passedOn.new stored).symm
      refine ⟨passedOn.failures, fun x r hr => ?_, (passedOn.others _ other).trans stored⟩
      by_cases same : x = id
      · subst same
        rwa [← Option.some.inj (known.symm.trans hr)]
      · exact keyed x r ((passedOn.others x same).symm.trans hr)
    · next heir found =>
        split at h
        case isFalse =>
          rw [h.2]
          exact ⟨rfl, keyed, stored⟩
        case isTrue creating =>
          obtain ⟨-, now, rfl⟩ := h
          have other := ne_of_creating stored retried (keyed.successor found).2 creating
          refine ⟨rfl, fun x r hr => ?_, (Store.get?_write ..).trans ((if_neg other.symm).trans stored)⟩
          rw [Store.get?_write] at hr
          split at hr
          · next same => rw [same, ← Option.some.inj hr, TaskRecord.apply_id]
          · exact keyed x r hr

/-- The successor of a retried task is there afterwards, and out of creation. -/
theorem Redelivers.settles (h : Redelivers session t s s' pushed) (keyed : KeyedStore s) :
    IsSettled t s' := by
  intro retried
  rw [Redelivers, if_pos retried, Mends] at h
  split at h
  · obtain ⟨id, -, passedOn⟩ := h
    obtain ⟨heir, known, -, next⟩ := passedOn.heir
    refine ⟨heir, ?_, by rw [next.status]; nofun⟩
    unfold Store.successor?
    rw [passedOn.successors, Table.get?_set]
    exact (congrArg (Option.bind · s'.get?) (if_pos rfl)).trans known
  · next heir found =>
      split at h
      case isFalse settled =>
        rw [h.2]
        exact ⟨heir, found, settled⟩
      case isTrue =>
        obtain ⟨-, now, rfl⟩ := h
        have link : s.successors.get? t.id = some heir.id := (keyed.successor found).1
        refine ⟨heir.apply (Store.submission now), ?_, by rw [TaskRecord.apply_status]; nofun⟩
        unfold Store.successor?
        rw [show (s.write heir.id _).successors = s.successors from rfl, link]
        exact Store.get?_write_self ..

/-- From then on nothing changes. -/
theorem Redelivers.of_settled (h : Redelivers session t s s' pushed) (settled : IsSettled t s) :
    s' = s ∧ pushed = [] := by
  unfold Redelivers at h
  split at h
  case isFalse => exact h
  case isTrue retried =>
    obtain ⟨heir, found, other⟩ := settled retried
    have kept : pushed = [] ∧ s' = s := by
      rw [Mends, show s.successor? (t.withDefaults session.defaults).id = some heir from found] at h
      exact (if_neg other).mp h
    exact kept.symm

end

/-! One turn, and many. -/

section
variable {session : SessionRecord} {t : TaskRecord} {s : Shared} {a : Attendant}
  {crew : List Attendant} {h : Handled} {pushed : List TaskId}

/-- A message about a task that has ended is handed out once more, and handled. -/
theorem declined_once (u : Obliging a.meets session) (ended : HasEnded session t s)
    (makes : t.status = .retried → s.store.successor? t.id = none →
      MakesUpNew a.meets (({ shared := s } : Scene).stand a.meets.pod)) :
    ∃ h pushed, a.handle (s.queue.deliver t.id).1 t.id
      { s with queue := (s.queue.deliver t.id).2 } = some h ∧ Declined session t s h pushed := by
  let given : Scene := { shared := { s with queue := (s.queue.deliver t.id).2 } }
  have declines := u.silent.acquire_ended (s := a.settings) (a := given.stand a.meets.pod)
    ended.healthy ended.keyed ended.stored ended.session ended.ended makes
  have held : given.shared.queue.held? (s.queue.deliver t.id).1 = some { task := t.id } :=
    s.queue.held?_delivered t.id
  have handles := Obliging.handleMessage_declined held declines
  obtain ⟨outcome, w, c, solo, there, report, rfl, store, pushed, issued, disposition, settles,
    redelivers, rfl⟩ := handles given ⟨rfl, rfl⟩
  obtain ⟨solo, calls, past, quiet⟩ := solo_of_silent (fun _ => Operation.isFree_of_asksOthers) solo
  refine ⟨⟨t.id, .ok report, w.past, given.shared, w.shared⟩, pushed,
    Option.map_eq_some_iff.mpr ⟨_, solo, rfl⟩, ⟨report, rfl⟩, fun x called => ?_, ?_, disposition,
    settles, ?_⟩
  · rw [past, List.append_nil] at called
    exact quiet x called
  · rw [show w.shared.store = store from congrArg Stand.store there.stand]
    exact redelivers
  · have final : disposition.settlement ≠ .release := by
      rw [settles, finalSettlement]
      split <;> nofun
    exact (congrArg Stand.queue there.stand).trans
      (Queue.settle_dispose_deliver ended.numbered final t.id pushed _)

/-- The task has ended still. -/
theorem HasEnded.next (ended : HasEnded session t s) (declined : Declined session t s h pushed) :
    HasEnded session t h.after := by
  obtain ⟨failures, keyed, stored⟩ := declined.store.keeps ended.keyed ended.stored
  obtain ⟨disposition, -, queue⟩ := declined.queue
  refine ⟨failures.trans ended.healthy, keyed, ?_, stored, ended.session, ended.ended⟩
  rw [queue]
  exact ended.numbered.served t.id pushed disposition

/-- So many messages about the task were settled for good, each as becomes it. -/
structure SettledTimes (t : TaskRecord) (n : Nat) (q q' : Queue) : Prop where
  /-- The acknowledged ones. -/
  acked : q'.acked = q.acked ++ if finalSettlement t = .ack then List.replicate n t.id else []
  /-- The rejected ones. -/
  rejected : q'.deadLetters =
    q.deadLetters ++ if finalSettlement t = .reject then List.replicate n t.id else []

theorem SettledTimes.none (t : TaskRecord) (q : Queue) : SettledTimes t 0 q q := by
  constructor <;> simp

/-- One more before the others. -/
theorem SettledTimes.cons {n : Nat} {q' : Queue} (declined : Declined session t s h pushed)
    (others : SettledTimes t n h.after.queue q') : SettledTimes t (n + 1) s.queue q' := by
  obtain ⟨disposition, settles, queue⟩ := declined.queue
  constructor
  · rw [others.acked, queue, Queue.served, settles]
    cases finalSettlement t <;> simp [List.replicate_succ]
  · rw [others.rejected, queue, Queue.served, settles]
    cases finalSettlement t <;> simp [List.replicate_succ]

/-- What a handler of such a message does in any case. -/
def Handled.LeavesAlone (h : Handled) (t : TaskRecord) : Prop :=
  (∃ report, h.outcome = .ok report) ∧ (∀ x ∈ h.calls, x.operation.asksOthers = false) ∧
    h.after.store.get? t.id = some t

theorem Declined.leavesAlone (declined : Declined session t s h pushed)
    (ended : HasEnded session t s) : h.LeavesAlone t :=
  ⟨declined.reported, declined.quiet, (ended.next declined).stored⟩

/-- Once the lineage is settled, any number of messages changes nothing. -/
theorem declined_settled (obliging : ∀ a ∈ crew, Obliging a.meets session)
    (ended : HasEnded session t s) (settled : IsSettled t s.store) :
    ∃ turns later, takeTurns (redelivering t.id) crew s = some (turns, later) ∧
      turns.length = crew.length ∧ SettledTimes t crew.length s.queue later.queue ∧
      ∀ h ∈ turns, h.LeavesAlone t ∧ h.after.store = s.store ∧
        h.after.queue.ready = s.queue.ready := by
  induction crew generalizing s with
  | nil =>
    exact ⟨[], s, rfl, rfl, .none t s.queue, fun _ handled => absurd handled List.not_mem_nil⟩
  | cons a crew ih =>
    have unmade (retried : t.status = .retried) (missing : s.store.successor? t.id = none) :
        MakesUpNew a.meets (({ shared := s } : Scene).stand a.meets.pod) := by
      obtain ⟨heir, found, -⟩ := settled retried
      cases missing.symm.trans found
    obtain ⟨first, pushed, handles, declined⟩ :=
      declined_once (obliging a List.mem_cons_self) ended unmade
    obtain ⟨same, rfl⟩ := declined.store.of_settled settled
    obtain ⟨others, later, rest, length, times, kept⟩ := ih
      (fun b hb => obliging b (List.mem_cons_of_mem a hb)) (ended.next declined) (same ▸ settled)
    obtain ⟨disposition, -, queue⟩ := declined.queue
    have ready : first.after.queue.ready = s.queue.ready := by
      rw [queue]
      exact List.append_nil _
    refine ⟨first :: others, later, takeTurns_cons rfl handles rest, congrArg (· + 1) length,
      times.cons declined, List.forall_mem_cons.mpr ⟨⟨declined.leavesAlone ended, same, ready⟩, ?_⟩⟩
    intro h hh
    obtain ⟨alone, same', ready'⟩ := kept h hh
    exact ⟨alone, same'.trans same, ready'.trans ready⟩

/-- Redelivery of ended tasks. A task of a running session has ended, and messages about it are handed
out to any agents, which handle them one after the other while nothing is wrong and nobody else writes.
No handler fails, asks the worker or another agent, or changes the record of the task. Unless the task
is retried, nothing changes in the store, nobody is pushed, and each message is acknowledged. For a
retried one, the first handler creates the successor that is missing, or submits the one that is in
creation, and pushes it once; else it pushes nobody and changes nothing. Then there is a successor out
of creation, the others change nothing and push nobody, and each message is rejected. -/
theorem redelivery_repairs_once (obliging : ∀ a ∈ crew, Obliging a.meets session)
    (ended : HasEnded session t s)
    (makes : t.status = .retried → s.store.successor? t.id = none → ∀ a, crew.head? = some a →
      MakesUpNew a.meets (({ shared := s } : Scene).stand a.meets.pod)) :
    ∃ turns later, takeTurns (redelivering t.id) crew s = some (turns, later) ∧
      turns.length = crew.length ∧ (∀ h ∈ turns, h.LeavesAlone t) ∧
      (t.status ≠ .retried →
        (∀ h ∈ turns, h.after.store = s.store ∧ h.after.queue.ready = s.queue.ready) ∧
        later.queue.acked = s.queue.acked ++ List.replicate crew.length t.id) ∧
      (t.status = .retried →
        (∀ first others, turns = first :: others →
          (∃ pushed, Mends (t.withDefaults session.defaults) s.store first.after.store pushed ∧
            first.after.queue.ready = s.queue.ready ++ pushed) ∧
          (∃ heir, first.after.store.successor? t.id = some heir ∧ heir.status ≠ .creating) ∧
          ∀ h ∈ others, h.after.store = first.after.store ∧
            h.after.queue.ready = first.after.queue.ready) ∧
        later.queue.deadLetters = s.queue.deadLetters ++ List.replicate crew.length t.id) := by
  by_cases retried : t.status = .retried
  · cases crew with
    | nil =>
      refine ⟨[], s, rfl, rfl, fun _ handled => absurd handled List.not_mem_nil,
        fun final => absurd retried final, fun _ => ⟨fun _ _ none => ?_, (List.append_nil _).symm⟩⟩
      cases none
    | cons a crew =>
      obtain ⟨first, pushed, handles, declined⟩ := declined_once (obliging a List.mem_cons_self)
        ended fun retried missing => makes retried missing a rfl
      have settled := declined.store.settles ended.keyed
      obtain ⟨others, later, rest, length, times, kept⟩ := declined_settled
        (fun b hb => obliging b (List.mem_cons_of_mem a hb)) (ended.next declined) settled
      refine ⟨first :: others, later, takeTurns_cons rfl handles rest, congrArg (· + 1) length,
        List.forall_mem_cons.mpr ⟨declined.leavesAlone ended, fun h hh => (kept h hh).1⟩,
        fun final => absurd retried final, fun _ => ⟨?_, ?_⟩⟩
      · rintro _ _ ⟨⟩
        have repaired := declined.store
        rw [Redelivers, if_pos retried] at repaired
        obtain ⟨disposition, -, queue⟩ := declined.queue
        exact ⟨⟨pushed, repaired, by rw [queue]; rfl⟩, settled retried, fun h hh => (kept h hh).2⟩
      · have rejects : finalSettlement t = .reject := if_pos retried
        rw [(times.cons declined).rejected, if_pos rejects]
        rfl
  · have settled : IsSettled t s.store := fun same => absurd same retried
    obtain ⟨turns, later, all, length, times, kept⟩ := declined_settled obliging ended settled
    have acks : finalSettlement t = .ack := if_neg retried
    refine ⟨turns, later, all, length, fun h hh => (kept h hh).1,
      fun _ => ⟨fun h hh => (kept h hh).2, ?_⟩, fun same => absurd same retried⟩
    rw [times.acked, if_pos acks]

end

/-! A retried task whose successor was never created. -/

/-- The task, after an agent stopped that had recorded its failure. -/
def strandedTask : TaskRecord := { plainTask with status := .retried }

/-- It is stored. -/
def strandedShared : Shared := { store := ({} : Store).insert strandedTask }

theorem strandedTask_ended : HasEnded retryingSession strandedTask strandedShared where
  healthy := rfl
  keyed := KeyedStore.insert (fun _ _ stored => by cases stored) _
  numbered _ _ held := by cases held
  stored := rfl
  session := rfl
  ended := rfl

/-- Two agents are given the message one after the other. The first of them creates the successor and
pushes it, the second one leaves it alone, and both messages are rejected. -/
theorem stranded_repaired_once : ∃ first second later,
    takeTurns (redelivering strandedTask.id)
      [⟨plainFleet.settings ⟨"first"⟩, brokenDown⟩, ⟨plainFleet.settings ⟨"second"⟩, brokenDown⟩]
      strandedShared = some ([first, second], later) ∧
    (∃ heir, strandedShared.store.PassedOn (strandedTask.withDefaults oneRetry) heir
      first.after.store ∧ first.after.queue.ready = [heir]) ∧
    second.after.store = first.after.store ∧
    second.after.queue.ready = first.after.queue.ready ∧
    later.queue.deadLetters = [strandedTask.id, strandedTask.id] := by
  have obliging : ∀ a ∈ [Attendant.mk (plainFleet.settings ⟨"first"⟩) brokenDown,
      ⟨plainFleet.settings ⟨"second"⟩, brokenDown⟩], Obliging a.meets retryingSession :=
    List.forall_mem_cons.mpr ⟨brokenDown_undisturbed.obliging,
      List.forall_mem_cons.mpr ⟨brokenDown_undisturbed.obliging,
        fun _ absent => absurd absent List.not_mem_nil⟩⟩
  obtain ⟨turns, later, all, length, -, -, repaired⟩ := redelivery_repairs_once obliging
    strandedTask_ended fun _ _ a first => by
      cases first
      exact fun _ => ⟨.ofNat 2, rfl, rfl, List.not_mem_nil⟩
  obtain ⟨⟩ | ⟨first, ⟨⟩ | ⟨second, ⟨⟩ | ⟨third, more⟩⟩⟩ := turns
  all_goals cases length
  obtain ⟨once, rejected⟩ := repaired rfl
  obtain ⟨⟨pushed, repairs, ready⟩, -, kept⟩ := once first [second] rfl
  obtain ⟨heir, rfl, passedOn⟩ := repairs
  obtain ⟨store, ready'⟩ := kept second List.mem_cons_self
  exact ⟨first, second, later, all, ⟨heir, passedOn, ready⟩, store, ready', rejected⟩

end GridAgent.Cluster
