import GridAgent.Proofs.Cluster.Custody
import GridAgent.Proofs.Cluster.Deeds
import GridAgent.Proofs.Cluster.Holding
import GridAgent.Proofs.Cluster.Promises

/-!
# No task is lost

While somebody has to deal with a task there is a message about it that will be seen again: visible,
on its way back, or in the hands of a handler that has not settled it. Handlers ack messages on many
paths, also after they have lost the task, so it matters in whose hands the last message is. A task
that has begun keeps a message whose handler has not lost the cancellation of the task, and a
submitted task keeps one whose handler does not take itself for the owner. The only other case is a
task that has just been promoted and is pushed next.
-/

namespace GridAgent.Cluster

open Agent Track Queue

variable {fleet : Fleet} {start c c' : State} {s s' : Shared} {task : TaskId}
  {record : TaskRecord} {number : Nat} {a b : Actor} {operation : Operation}
  {reply : operation.Reply}

/-- Pushes do not fail, tasks are acquired by handlers only, and no task becomes submitted outside
the agents. -/
def lossless : Event → Prop
  | .start _ (.acquire _) => False
  | .answer _ choice =>
    (∀ tasks cause, choice (.agent (.push tasks)) ≠ some (.error cause)) ∧
      ∀ tasks cause, choice (.finalizer (.push tasks)) ≠ some (.error cause)
  | .move (.insert record) => record.status ≠ .submitted
  | .move (.resolve ..) => False
  | _ => True

/-! Who handles a message. -/

/-- Whoever does not stop an execution from outside handles a message. -/
theorem Reaches.handles (hr : Reaches fleet lossless start c) (hi : start.Initial) :
    ∀ a ∈ c.actors, a.track.stage.isStopping = false → a.job.message?.isSome = true := by
  refine hr.all_actors hi (fun pod job permitted hs => ?_) fun _ ha h hs => ?_
  · cases job with
    | handle message task => rfl
    | acquire task => cases permitted
    | stop run task => cases hs
    | watch run task => cases hs
  · rw [ha.job]
    refine h ?_
    have turn := ha.turn
    generalize Answered.deed _ _ = deed at turn
    cases turn with
    | starts run before after released => rw [before]; rfl
    | opens run before after => rw [before]; rfl
    | talks run before after released => rw [before]; rfl
    | hangsUp after => rw [after, Stage.isStopping_hungUp] at hs; exact hs
    | stays after released => rw [after] at hs; exact hs
    | registers run before after => rw [before]; rfl
    | leaves run before after => rcases before with e | e <;> rw [e] <;> rfl

/-- Whoever owes a task its message handles one itself. -/
theorem Reaches.owed_handles (hr : Reaches fleet lossless start c) (hi : start.Initial) :
    ∀ a ∈ c.actors, ∀ task ∈ a.track.owed, a.job.message?.isSome = true := by
  refine hr.all_actors hi (fun pod job _ task ht => ?_) fun hr ha h task ht => ?_
  · cases ht
  · rw [ha.job]
    rcases ha.owed with ⟨same, -⟩ | ⟨none, -⟩ | ⟨-, outside, -⟩
    · exact h task (same ▸ ht)
    · rw [none] at ht
      cases ht
    · exact hr.handles hi _ (List.mem_of_getElem? ha.actor) outside

/-! Messages that will be seen again. -/

/-- A message about the task is in the queue, or in the hands of a handler whose books do not spoil
it, or of nobody. -/
def Offers (c : State) (task : TaskId) (spoils : Track → Prop) : Prop :=
  c.shared.queue.Offers task fun message =>
    ∀ x ∈ c.actors, x.job.message? = some message → ¬ spoils x.track

/-- A handler whose message is not settled offers it. -/
theorem Custody.offers_own (hc : Custody c) {number : Nat} {a : Actor} {spoils : Track → Prop}
    (ha : c.actors[number]? = some a) (hm : a.job.message?.isSome = true)
    (hs : a.track.settled = false) (hn : ¬ spoils a.track) : Offers c a.job.task spoils := by
  obtain ⟨message, hm⟩ := Option.isSome_iff_exists.mp hm
  obtain ⟨delivery, hd, ht, -⟩ := (hc.keeps a (List.mem_of_getElem? ha) message hm).held hs
  refine .inr (.inr ⟨message, delivery, hd, ht, fun x hx hmx => ?_⟩)
  obtain ⟨j, hx⟩ := List.mem_iff_getElem?.mp hx
  obtain rfl := hc.distinct j number x a hx ha ⟨message, hmx, hm⟩
  obtain rfl := Option.some.inj (hx.symm.trans ha)
  exact hn

/-- An answer to an actor takes no offered message away but by its settlement, and spoils none but
its own. -/
theorem Offers.answered {spoils : Track → Prop} (ho : Offers c task spoils) (hc : Custody c)
    (ha : Answers c number a b operation reply c')
    (hb : task = a.job.task → spoils b.track → spoils a.track)
    (hs : ∀ message, operation = .agent (.settle message) → task = a.job.task →
      (a.track.disposed.getD .waiting).settlement = .release ∨ spoils a.track) :
    Offers c' task spoils := by
  have hm := List.mem_of_getElem? ha.actor
  have hc' := hc.answered ha
  -- no message that is still held is spoilt by the answer
  have after (h : c'.shared.queue.Offers task fun message =>
      ∀ x ∈ c.actors, x.job.message? = some message → ¬ spoils x.track) : Offers c' task spoils := by
    refine h.mono fun message delivery hd ht unspoilt x hx hmx spoilt => ?_
    rcases ha.mem_cases hx with rfl | hx'
    · have keeps := hc'.keeps x hx message hmx
      have own : delivery.task = x.job.task := by
        cases hs : x.track.settled with
        | false =>
          obtain ⟨found, hf, same, -⟩ := keeps.held hs
          obtain rfl := Option.some.inj (hd.symm.trans hf)
          exact same
        | true =>
          rw [keeps.gone hs] at hd
          cases hd
      have job := congrArg Job.task ha.job
      exact unspoilt a hm (ha.job ▸ hmx) (hb (ht.symm.trans (own.trans job)) spoilt)
    · exact unspoilt x hx' hmx spoilt
  refine after ?_
  rcases queue_of_effect a.track hc.numbered ha.effect with ⟨goes, -, -⟩ |
    ⟨message, disposition, -, queue, -⟩ | ⟨message, rfl, queue, -⟩
  · refine goes.offers task _ (fun message hl x hx hmx => ?_) ho
    exact absurd (hc.keeps x hx message hmx).known (Nat.not_le_of_lt hl)
  · rw [queue]
    exact dispose_offers message disposition ho
  · obtain ⟨hj, -, unsettled, -⟩ := ha.may.2
    obtain ⟨delivery, hd, ht, disposed⟩ := (hc.keeps a hm message hj).held unsettled
    rw [queue]
    by_cases e : task = a.job.task
    · rcases hs message rfl e with release | spoilt
      · rw [e, ← ht]
        exact settle_offers_self hd (disposed ▸ release) _ _
      · exact settle_offers _ ho fun _ _ _ unspoilt => unspoilt a hm hj spoilt
    · refine settle_offers _ ho fun found hf ht' => absurd ?_ e
      obtain rfl := Option.some.inj (hd.symm.trans hf)
      exact ht'.symm.trans ht

/-! What becomes of active tasks. -/

/-- The cancellation of an acquired task needs a task that is not acquired by the books, or accepts
every task that has begun. -/
theorem Write.cancels {pod : PodId} {k : Track} {expected : Expectation} {change : TaskUpdate}
    (hw : Write pod k expected change) (hc : change.status = .cancelled) :
    k.attached = false ∨ expected = .anyOf [.dispatched, .processing, .cancelling] := by
  cases hw with
  | bury now stage detached => exact .inl detached
  | cancel now idle cause => exact .inr rfl
  | recover owner plan reason now stage => cases plan <;> cases hc
  | fail expected plan reason now held idle => cases plan <;> cases hc
  | conclude run status output now outcome stage =>
    rcases outcome with ⟨rfl, -⟩ | ⟨rfl, -⟩ <;> cases hc
  | _ => cases hc

/-- Only held tasks are marked for cancellation. -/
theorem Write.held_of_cancelling {pod : PodId} {k : Track} {expected : Expectation}
    {change : TaskUpdate} (hw : Write pod k expected change) (hc : change.status = .cancelling)
    (hh : expected.holds record = true) :
    record.status ∈ [TaskStatus.dispatched, .processing, .cancelling] := by
  have status := Expectation.status_mem hh
  cases hw with
  | stop run stage => exact List.mem_append_left [TaskStatus.cancelling] status
  | recover owner plan reason now stage => cases plan <;> cases hc
  | fail expected plan reason now held idle => cases plan <;> cases hc
  | conclude run status output now outcome stage =>
    rcases outcome with ⟨rfl, -⟩ | ⟨rfl, -⟩ <;> cases hc
  | _ => cases hc

/-- An active task after an answer had its status before, or was promoted and is owed, or was written
by the actor whose task it is. -/
theorem Sound.active_cases (h : Sound c) (ha : Answers c number a b operation reply c')
    (hr : c'.shared.store.get? task = some record) (active : record.status.isActive = true) :
    (∃ before, c.shared.store.get? task = some before ∧ record.status = before.status) ∨
    (record.status = .submitted ∧ task ∈ b.track.owed) ∨
    (∃ before expected change, c.shared.store.get? task = some before ∧ task = a.job.task ∧
      a.track.Free ∧ Write a.pod a.track expected change ∧ expected.holds before = true ∧
      record.status = change.status ∧ b.track = a.track.wrote change.status) := by
  cases hb : c.shared.store.get? task with
  | none =>
    rcases missing_of_effect ha.effect hb with hn | ⟨parent, candidate, ho, -, hs⟩
    · rw [hn] at hr
      cases hr
    · have may := ha.may
      subst ho
      obtain ⟨now, hc⟩ := may.2.2.2.2
      obtain rfl := Option.some.inj (hr.symm.trans hs)
      have creating : (c.shared.store.withoutAvailable candidate).status = .creating := by
        rw [hc]
        rfl
      rw [creating] at active
      cases active
  | some before =>
    rcases record_of_effect ha.effect (h.candidate_new ha) hb with
      ⟨found, hf, hg, hs⟩ | ⟨expected, change, ho, hh, hf, hn⟩
    · obtain rfl := Option.some.inj (hr.symm.trans hf)
      rcases hs with hs | hs | hs
      · exact .inl ⟨before, rfl, hs⟩
      · rw [hs] at active
        cases active
      · rcases hg.status with same | ⟨waiting, hn⟩
        · exact .inl ⟨before, rfl, same⟩
        · refine .inr (.inl ⟨?_, ha.track ▸ hs a.track⟩)
          rcases waiting with e | e <;> rw [e] at hn
          · rcases List.mem_cons.mp hn with e | hn
            · exact e
            · rw [List.mem_singleton.mp hn] at active
              cases active
          · rw [List.mem_singleton.mp hn] at active
            cases active
    · obtain rfl := Option.some.inj (hr.symm.trans hf)
      have may := ha.may
      have noted := ha.track.trans (hn a.track)
      subst ho
      rcases may.2 with ⟨ht, free, hw⟩ | ⟨-, rfl, now, rfl⟩
      · rw [updated_ok hw.ne_promotion] at noted
        exact .inr (.inr ⟨before, expected, change, rfl, ht, free, hw, hh,
          TaskRecord.apply_status _ _, noted⟩)
      · rw [updated_promotion_ok] at noted
        refine .inr (.inl ⟨TaskRecord.apply_status _ _, ?_⟩)
        rw [noted]
        exact List.mem_cons_self

/-- The books take the pod for the owner of a task that it has not handed back. -/
def Track.Clings (k : Track) : Prop := k.attached = true ∧ k.released = false

/-- The cancellation of the acquired task was lost. -/
def Track.IsDoomed (k : Track) : Prop := k.doomed = true

/-- While a task is submitted nobody begins to take itself for its owner. -/
theorem Answers.clings (ha : Answers c number a b operation reply c')
    {before : TaskRecord} (hb : c.shared.store.get? a.job.task = some before)
    (hs : before.status = .submitted) (hr : c'.shared.store.get? a.job.task = some record)
    (hs' : record.status = .submitted) (h : b.track.Clings) : a.track.Clings := by
  have may := ha.may
  obtain ⟨attached, released⟩ := h
  rcases news_of_effect a.track ha.effect with hk | ⟨read, rfl, -, hk⟩ |
    ⟨updated, expected, change, found, rfl, -, -, -, hne, hk⟩ |
    ⟨updated, expected, change, found, rfl, hf, hh, hr', hne, hk⟩ <;> rw [← ha.track] at hk
  · exact ⟨hk.attached.symm.trans attached, hk.released.symm.trans released⟩
  · obtain rfl : read = a.job.task := may.2.1
    rw [hb] at hk
    have detached : b.track.attached = false := by
      rw [hk]
      simp [Track.read, hs]
    rw [detached] at attached
    cases attached
  · rw [hk] at attached released
    exact ⟨attached, released⟩
  · rcases may.2 with ⟨rfl, -, -⟩ | ⟨-, he, -⟩
    · obtain rfl := Option.some.inj (hb.symm.trans hf)
      obtain rfl := Option.some.inj (hr.symm.trans hr')
      have next := next_of_may may hh
      rw [TaskRecord.apply_status] at hs'
      rw [hs, hs'] at next
      cases List.mem_singleton.mp next
    · exact absurd he hne

/-- While a task has begun no cancellation of it is lost. -/
theorem Answers.doomed (ha : Answers c number a b operation reply c')
    {before : TaskRecord} (hb : c.shared.store.get? a.job.task = some before)
    (hs : before.status ∈ [TaskStatus.dispatched, .processing, .cancelling])
    (h : b.track.IsDoomed) : a.track.IsDoomed := by
  have may := ha.may
  unfold Track.IsDoomed at h ⊢
  rcases news_of_effect a.track ha.effect with hk | ⟨read, rfl, -, hk⟩ |
    ⟨updated, expected, change, found, rfl, hf, unexpected, -, hne, hk⟩ |
    ⟨updated, expected, change, found, rfl, -, -, -, hne, hk⟩ <;> rw [← ha.track] at hk
  · exact hk.doomed.symm.trans h
  · rw [hk, read_eq] at h
    exact h
  · rw [hk] at h
    rcases Bool.or_eq_true_iff.mp h with h | h
    · exact h
    · obtain ⟨attached, cancels⟩ := Bool.and_eq_true_iff.mp h
      rcases may.2 with ⟨rfl, -, hw⟩ | ⟨-, he, -⟩
      · obtain rfl := Option.some.inj (hb.symm.trans hf)
        rcases hw.cancels (of_decide_eq_true cancels) with detached | rfl
        · rw [detached] at attached
          cases attached
        · simp [Expectation.holds, Expectation.anyOf, OwnerMatch.holds] at unexpected
          simp [unexpected] at hs
      · exact absurd he hne
  · rw [hk, wrote_doomed] at h
    exact h

/-! The invariant. -/

/-- A message about the task will be seen again if it is active, or it is owed one. -/
structure Served (c : State) (task : TaskId) : Prop where
  /-- A submitted task is offered by somebody who does not take itself for the owner, or owed. -/
  submitted : ∀ record, c.shared.store.get? task = some record → record.status = .submitted →
    Offers c task Track.Clings ∨ ∃ x ∈ c.actors, task ∈ x.track.owed
  /-- A task that has begun is offered by somebody who has not lost the cancellation. -/
  begun : ∀ record, c.shared.store.get? task = some record →
    record.status ∈ [TaskStatus.dispatched, .processing, .cancelling] →
      Offers c task Track.IsDoomed

/-- An active status is submitted, or that of a task that has begun. -/
theorem TaskStatus.isActive_cases {status : TaskStatus} (h : status.isActive = true) :
    status = .submitted ∨ status ∈ [TaskStatus.dispatched, .processing, .cancelling] := by
  cases status <;> first | exact .inl rfl | exact .inr (by decide) | cases h

/-- Tasks that have begun are active. -/
theorem TaskStatus.isActive_of_begun {status : TaskStatus}
    (h : status ∈ [TaskStatus.dispatched, .processing, .cancelling]) : status.isActive = true := by
  simp only [List.mem_cons, List.not_mem_nil, or_false] at h
  rcases h with rfl | rfl | rfl <;> rfl

/-- What is owed stays owed until it is pushed. -/
theorem Answers.stays_owed (ha : Answers c number a b operation reply c')
    (pushed : ∀ tasks, operation.pushed? = some tasks →
      c'.shared.queue = c.shared.queue.push tasks)
    (h : ∃ x ∈ c.actors, task ∈ x.track.owed) (spoils : Track → Prop) :
    Offers c' task spoils ∨ ∃ x ∈ c'.actors, task ∈ x.track.owed := by
  obtain ⟨x, hx, ht⟩ := h
  rcases ha.mem_stays_cases hx with rfl | stays
  · have hb := List.mem_of_getElem? ha.self
    rcases ha.owed with ⟨same, -⟩ | ⟨-, tasks, hp, sub⟩ | ⟨-, -, sub, -⟩
    · exact .inr ⟨b, hb, same ▸ ht⟩
    · refine .inl ?_
      unfold Offers
      rw [pushed tasks hp]
      exact push_offers (sub ht) _
    · exact .inr ⟨b, hb, sub ht⟩
  · exact .inr ⟨x, stays, ht⟩

/-- The message of an active task is acked only by somebody who has lost its cancellation and takes
itself for the owner. -/
theorem Answers.settles (ha : Answers c number a b operation reply c') (ht : Truthful c.shared a)
    {before : TaskRecord} (hb : c.shared.store.get? task = some before)
    (active : before.status.isActive = true) (message : DeliveryId)
    (ho : operation = .agent (.settle message)) (e : task = a.job.task) :
    (a.track.disposed.getD .waiting).settlement = .release ∨
      (a.track.IsDoomed ∧ a.track.Clings) := by
  have may := ha.may
  subst ho
  rcases may.2.2.2.2 with release | closed | ⟨doomed, attached, released⟩
  · exact .inl release
  · obtain ⟨found, hf, hcl⟩ := ht.closed closed
    obtain rfl := Option.some.inj (hb.symm.trans (e ▸ hf))
    rw [TaskStatus.isActive_of_isClosed hcl] at active
    cases active
  · exact .inr ⟨doomed, attached, released⟩

/-- A handler that has written the record has a message of its own. -/
theorem Custody.offers_written (hc : Custody c) (ha : Answers c number a b operation reply c')
    (handles : a.track.stage.isStopping = false → a.job.message?.isSome = true)
    {expected : Expectation} {change : TaskUpdate} (e : task = a.job.task) (free : a.track.Free)
    (hw : Write a.pod a.track expected change) (hn : change.status ≠ .cancelling)
    (hk : b.track = a.track.wrote change.status) {spoils : Track → Prop}
    (unspoilt : ¬ spoils b.track) : Offers c' task spoils := by
  rw [e, ← congrArg Job.task ha.job]
  refine (hc.answered ha).offers_own ha.self ?_ ?_ unspoilt
  · rw [ha.job]
    exact handles (hw.not_stopping hn)
  · rw [hk, wrote_settled]
    exact free.settled

/-- Active tasks stay served when an actor is answered. -/
theorem Served.answered (h : Served c task) (hs : Sound c) (hc : Custody c)
    (ha : Answers c number a b operation reply c') (ht : Truthful c.shared a)
    (handles : a.track.stage.isStopping = false → a.job.message?.isSome = true)
    (pushed : ∀ tasks, operation.pushed? = some tasks →
      c'.shared.queue = c.shared.queue.push tasks) : Served c' task := by
  refine ⟨fun record hr hst => ?_, fun record hr hst => ?_⟩
  · have active : record.status.isActive = true := by rw [hst]; rfl
    rcases hs.active_cases ha hr active with ⟨before, hb, same⟩ | ⟨-, owed⟩ |
      ⟨before, expected, change, hb, e, free, hw, hh, same, hk⟩
    · have hbs : before.status = .submitted := same.symm.trans hst
      rcases h.submitted before hb hbs with offered | owed
      · refine .inl (offered.answered hc ha (fun e clings => ?_) fun message ho e => ?_)
        · subst e
          exact ha.clings hb hbs hr hst clings
        · exact (ha.settles ht hb (same ▸ active) message ho e).imp id And.right
      · exact ha.stays_owed pushed owed _
    · exact .inr ⟨b, List.mem_of_getElem? ha.self, owed⟩
    · have submitted : change.status = .submitted := same.symm.trans hst
      have held : change.status ≠ .cancelling := by rw [submitted]; nofun
      refine .inl (hc.offers_written ha handles e free hw held hk fun clings => ?_)
      have released : b.track.released = true := by
        rw [hk, submitted]
        rfl
      rw [clings.2] at released
      cases released
  · have active := TaskStatus.isActive_of_begun hst
    rcases hs.active_cases ha hr active with ⟨before, hb, same⟩ | ⟨submitted, -⟩ |
      ⟨before, expected, change, hb, e, free, hw, hh, same, hk⟩
    · rw [same] at hst active
      refine (h.begun before hb hst).answered hc ha (fun e doomed => ?_) fun message ho e => ?_
      · subst e
        exact ha.doomed hb hst doomed
      · exact (ha.settles ht hb active message ho e).imp id And.left
    · rw [submitted] at hst
      simp at hst
    · have sane : ¬ b.track.IsDoomed := by
        unfold Track.IsDoomed
        rw [hk, wrote_doomed, free.doomed]
        nofun
      by_cases hn : change.status = .cancelling
      · have begun := hw.held_of_cancelling hn hh
        refine (h.begun before hb begun).answered hc ha (fun _ doomed => absurd doomed sane)
          fun message ho e => ?_
        have active := TaskStatus.isActive_of_begun begun
        exact (ha.settles ht hb active message ho e).imp id And.left
      · exact hc.offers_written ha handles e free hw hn hk sane

/-- Messages are offered as before when a job begins. -/
theorem Offers.started {spoils : Track → Prop} (ho : Offers c task spoils) (settings : Settings)
    (job : Job) (hn : ¬ spoils (.start job)) :
    Offers { c with actors := c.actors ++ [Actor.start settings job] } task spoils := by
  refine Queue.Offers.mono ho fun message delivery _ _ unspoilt x hx hmx => ?_
  rcases List.mem_append.mp hx with hx | hx
  · exact unspoilt x hx hmx
  · obtain rfl := List.mem_singleton.mp hx
    exact hn

/-- Messages are offered as before when one is handed back that nobody handles. -/
theorem Offers.handedBack {spoils : Track → Prop} (ho : Offers c task spoils) (hc : Custody c)
    {message : DeliveryId} (hm : c.isHandled message = false) (now : Nat) :
    Offers { c with shared := { c.shared with queue := c.shared.queue.settle message now } }
      task spoils := by
  have unhandled : ∀ x ∈ c.actors, x.job.message? ≠ some message := by
    simpa only [State.isHandled, List.any_eq_false, decide_eq_true_eq] using hm
  cases hd : c.shared.queue.held? message with
  | none => exact settle_offers now ho fun delivery hf => by rw [hd] at hf; cases hf
  | some delivery =>
    by_cases e : delivery.task = task
    · subst e
      refine settle_offers_self hd ?_ now _
      unfold Delivery.disposition
      rw [hc.fresh message delivery hd unhandled]
      rfl
    · refine settle_offers now ho fun found hf ht => absurd ht ?_
      obtain rfl := Option.some.inj (hd.symm.trans hf)
      exact e

/-- Messages are offered as before when something happens outside the agents. -/
theorem Offers.moved {spoils : Track → Prop} (ho : Offers c task spoils) (hc : Custody c) {m : Move}
    (hm : c.shared.move m = some s') : Offers { c with shared := s' } task spoils := by
  refine (queue_of_move hc.numbered hm).offers task _ (fun message hl x hx hmx => ?_) ho
  exact absurd (hc.keeps x hx message hmx).known (Nat.not_le_of_lt hl)

/-- Moves make no task submitted, and none begins by them. -/
theorem Served.moved (h : Served c task) (hc : Custody c) {m : Move}
    (permitted : lossless (.move m)) (hm : c.shared.move m = some s') :
    Served { c with shared := s' } task := by
  have status {record : TaskRecord} (hr : s'.store.get? task = some record)
      (active : record.status.isActive = true) :
      ∃ before, c.shared.store.get? task = some before ∧ (record.status = before.status ∨
        (record.status = .cancelling ∧ before.status ∈ heldStatuses)) := by
    cases hb : c.shared.store.get? task with
    | none =>
      rcases missing_of_move hm hb with hn | ⟨new, rfl, -, -, hnew, hs⟩
      · rw [hn] at hr
        cases hr
      · obtain rfl := Option.some.inj (hr.symm.trans hs)
        have same : (c.shared.store.withoutAvailable new).status = new.status := rfl
        rw [same] at active
        simp only [newStatuses, List.mem_cons, List.not_mem_nil, or_false] at hnew
        rcases hnew with e | e | e
        · rw [e] at active
          cases active
        · rw [e] at active
          cases active
        · exact absurd e permitted
    | some before =>
      refine ⟨before, rfl, ?_⟩
      rcases record_of_move hm hb with
        ⟨found, hf, -, same | error | ⟨visit, data, now, rfl⟩⟩ | ⟨held, hf⟩
      · obtain rfl := Option.some.inj (hr.symm.trans hf)
        exact .inl same
      · obtain rfl := Option.some.inj (hr.symm.trans hf)
        rw [error] at active
        cases active
      · cases permitted
      · obtain rfl := Option.some.inj (hr.symm.trans hf)
        exact .inr ⟨TaskRecord.apply_status _ _, held⟩
  refine ⟨fun record hr hst => ?_, fun record hr hst => ?_⟩
  · obtain ⟨before, hb, same | ⟨cancelling, -⟩⟩ := status hr (by rw [hst]; rfl)
    · exact (h.submitted before hb (same.symm.trans hst)).imp (fun ho => ho.moved hc hm) id
    · rw [hst] at cancelling
      cases cancelling
  · obtain ⟨before, hb, same | ⟨-, held⟩⟩ := status hr (TaskStatus.isActive_of_begun hst)
    · exact (h.begun before hb (same ▸ hst)).moved hc hm
    · exact (h.begun before hb (List.mem_append_left [TaskStatus.cancelling] held)).moved hc hm

/-- A push that is not chosen to fail puts its tasks into the queue. -/
theorem queue_of_push {pod : PodId} {number : Nat}
    {choice : (operation : Operation) → Option operation.Reply}
    (permitted : lossless (.answer number choice)) {operation : Operation}
    {reply : operation.Reply} (ha : s.answer pod operation (choice operation) = some (reply, s'))
    {tasks : List TaskId} (hp : operation.pushed? = some tasks) :
    s'.queue = s.queue.push tasks := by
  rcases operation with request | request
  · cases request with
    | push pushed =>
      obtain rfl := Option.some.inj hp
      cases hc : choice (.agent (.push pushed)) with
      | none =>
        rw [hc] at ha
        cases ha
        rfl
      | some chosen =>
        rw [hc] at ha
        rcases chosen with cause | _
        · exact absurd hc (permitted.1 pushed cause)
        · cases ha
          rfl
    | _ => cases hp
  · cases request with
    | push pushed =>
      obtain rfl := Option.some.inj hp
      cases hc : choice (.finalizer (.push pushed)) with
      | none =>
        rw [hc] at ha
        cases ha
        rfl
      | some chosen =>
        rw [hc] at ha
        rcases chosen with cause | _
        · exact absurd hc (permitted.2 pushed cause)
        · cases ha
          rfl
    | _ => cases hp

/-- Active tasks stay served. -/
theorem Served.perform (h : Served c task) (hr : Reaches fleet lossless start c)
    (hi : start.Initial) {event : Event} (permitted : lossless event)
    (hp : c.perform fleet event = some c') : Served c' task := by
  have hc := hr.custody hi
  cases event with
  | start pod job =>
    obtain ⟨-, rfl⟩ := State.of_start hp
    refine ⟨fun record hr hst => ?_, fun record hr hst => ?_⟩
    · rcases h.submitted record hr hst with offered | ⟨x, hx, ht⟩
      · refine .inl (offered.started _ job fun clings => ?_)
        cases clings.1
      · exact .inr ⟨x, List.mem_append_left _ hx, ht⟩
    · refine (h.begun record hr hst).started _ job fun doomed => ?_
      cases doomed
  | answer number choice =>
    obtain ⟨a, b, operation, reply, ha, hs⟩ := (hr.sound hi).answers hp
    have hm := List.mem_of_getElem? ha.actor
    exact h.answered (hr.sound hi) hc ha (hr.truthful hi a hm) (hr.handles hi a hm)
      fun tasks => queue_of_push permitted hs
  | handBack message =>
    obtain ⟨unhandled, rfl⟩ := State.of_handBack hp
    refine ⟨fun record hr hst => ?_, fun record hr hst => ?_⟩
    · exact (h.submitted record hr hst).imp (fun ho => ho.handedBack hc unhandled _) id
    · exact (h.begun record hr hst).handedBack hc unhandled _
  | move m =>
    obtain ⟨shared, hm, rfl⟩ := State.of_move hp
    exact h.moved hc permitted hm

/-- If at first every active task has a message then in every reached state every task is served. -/
theorem Reaches.served (hr : Reaches fleet lossless start c) (hi : start.Initial)
    (live : ∀ task record, start.shared.store.get? task = some record →
      record.status.isActive = true → start.shared.queue.IsLive task) (task : TaskId) :
    Served c task := by
  apply hr.invariant
  · have offered {record : TaskRecord} (hf : start.shared.store.get? task = some record)
        (active : record.status.isActive = true) (spoils : Track → Prop) :
        Offers start task spoils :=
      (live task record hf active).mono fun _ _ _ _ _ x hx => absurd hx hi.not_mem
    exact ⟨fun record hf hst => .inl (offered hf (by rw [hst]; rfl) _),
      fun record hf hst => offered hf (TaskStatus.isActive_of_begun hst) _⟩
  · intro c c' event hr h permitted hp
    exact h.perform hr hi permitted hp

/-- If at first every active task has a message that is visible, on its way back or not settled, then
in every reached state every active task has one, or a handler has just promoted it and pushes it by
its next call to the queue, whatever it is replied before. -/
theorem active_tasks_delivered (hi : start.Initial)
    (live : ∀ task record, start.shared.store.get? task = some record →
      record.status.isActive = true → start.shared.queue.IsLive task)
    (hr : Reaches fleet lossless start c) {record : TaskRecord}
    (stored : c.shared.store.get? task = some record) (active : record.status.isActive = true) :
    c.shared.queue.IsLive task ∨
      ∃ x ∈ c.actors, x.job.message?.isSome = true ∧ task ∈ x.justPromoted ∧
        PushesNext task x.rest := by
  have served := hr.served hi live task
  have seen {spoils : Track → Prop} (h : Offers c task spoils) : c.shared.queue.IsLive task :=
    Queue.Offers.mono h fun _ _ _ _ _ => trivial
  rcases TaskStatus.isActive_cases active with submitted | begun
  · rcases served.submitted record stored submitted with offered | ⟨x, hx, owed⟩
    · exact .inl (seen offered)
    · exact .inr ⟨x, hx, hr.owed_handles hi x hx task owed, hr.owed_justPromoted hi x hx owed,
        (hr.sound hi).pushesNext hx owed⟩
  · exact .inl (seen (served.begun record stored begun))

/-- A task that is executing has a message, since nothing was promoted. -/
theorem active_tasks_delivered_plain :
    ∃ c, Reaches plainFleet lossless plainStart c ∧
      (c.shared.store.get? plainTask.id).map TaskRecord.status = some .processing ∧
      c.shared.queue.IsLive plainTask.id := by
  have permitted : ∀ event ∈ plainEvents 20, lossless event :=
    forall_plainEvents trivial trivial ⟨nofun, nofun⟩ 20
  have run : Reaches plainFleet lossless plainStart (plainCluster 20) := .of_played permitted
  have live : ∀ task record, plainStart.shared.store.get? task = some record →
      record.status.isActive = true → plainStart.shared.queue.IsLive task := by
    intro task record hr _
    obtain ⟨rfl, -⟩ := plainStart_stored hr
    exact .inl List.mem_cons_self
  have processing : ((plainCluster 20).shared.store.get? plainTask.id).map TaskRecord.status =
      some .processing := by decide +kernel
  have promoted : (plainCluster 20).actors.flatMap Actor.justPromoted = [] := by decide +kernel
  obtain ⟨record, hr, hs⟩ := Option.map_eq_some_iff.mp processing
  refine ⟨_, run, processing, ?_⟩
  rcases active_tasks_delivered plainStart_initial live run hr (by rw [hs]; rfl) with
    seen | ⟨x, hx, -, ht, -⟩
  · exact seen
  · cases promoted ▸ List.mem_flatMap.mpr ⟨x, hx, ht⟩

end GridAgent.Cluster
