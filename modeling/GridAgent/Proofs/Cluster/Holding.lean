import GridAgent.Proofs.Cluster.Executions
import GridAgent.Proofs.Lifecycle

/-!
# What books say of records

What an actor has noted about its task stays true whatever the others do: a status that stays, a
cancellation, and the hold on a task whose execution it has started. From its start to its own last
update such a task is processing under the pod of the actor, unless it is cancelled or ended by
somebody else.
-/

namespace GridAgent.Cluster

open Agent Track

variable {fleet : Fleet} {allowed : Event → Prop} {start c c' : State} {pod : PodId}
  {s s' : Shared} {task : TaskId} {record : TaskRecord}

/-- The books say the same of the task, and no execution has started. -/
structure Track.SameNews (k k' : Track) : Prop where
  attached : k'.attached = k.attached
  closed : k'.closed = k.closed
  cancelled : k'.cancelled = k.cancelled
  doomed : k'.doomed = k.doomed
  released : k'.released = k.released
  /-- An execution that has started did so before. -/
  started : k'.stage.hasStarted = true → k.stage.hasStarted = true

/-- What a call tells of a task: nothing, its record, that an update was lost, or that it was
written. -/
theorem news_of_effect (k : Track) {operation : Operation} {reply : operation.Reply}
    (h : Effect pod s operation reply s') :
    k.SameNews (k.note pod operation reply) ∨
    (∃ task, operation = .agent (.readTask task) ∧ s' = s ∧
      k.note pod operation reply = k.read pod (.ok (s.store.get? task))) ∨
    (∃ task expected change record, operation = .agent (.updateTask task expected change) ∧
      s.store.get? task = some record ∧ expected.holds record = false ∧ s' = s ∧
      expected ≠ .status .creating ∧
      k.note pod operation reply = k.lost change.status ⟨record.status, record.owner⟩) ∨
    (∃ task expected change record, operation = .agent (.updateTask task expected change) ∧
      s.store.get? task = some record ∧ expected.holds record = true ∧
      s'.store.get? task = some (record.apply change) ∧ expected ≠ .status .creating ∧
      k.note pod operation reply = k.wrote change.status) := by
  have same (k' : Track) (h : k' = { k with
      reserved := k'.reserved, owed := k'.owed, disposed := k'.disposed,
      settled := k'.settled }) : k.SameNews k' := by
    rw [h]
    exact ⟨rfl, rfl, rfl, rfl, rfl, id⟩
  cases h with
  | silent silent alike =>
    have hk : k.Alike (k.note pod operation reply) := alike_note_of_silent k silent
    refine .inl ⟨hk.attached, hk.closed, hk.cancelled, hk.doomed, hk.released, fun hs => ?_⟩
    rcases hk.stage with he | he
    · exact he ▸ hs
    · rw [he, Stage.hasStarted_hungUp] at hs
      exact hs
  | read task => exact .inr (.inl ⟨task, rfl, rfl, rfl⟩)
  | lost task expected change record found unexpected =>
    by_cases he : expected = .status .creating
    · subst he
      refine .inl (same _ ?_)
      simp only [note, noteAgent, updated_promotion_error]
    · exact .inr (.inr (.inl ⟨task, expected, change, record, rfl, found, unexpected, rfl,
        he, updated_conflict he k task change _⟩))
  | written task expected change record found holds =>
    by_cases he : expected = .status .creating
    · subst he
      refine .inl (same _ ?_)
      simp only [note, noteAgent, updated_promotion_ok]
    · refine .inr (.inr (.inr ⟨task, expected, change, record, rfl, found, holds, ?_, he,
        updated_ok he k task change (record.apply change)⟩))
      exact (Table.get?_set s.store.tasks task task _).trans (if_pos rfl)
  | registered task free =>
    refine .inl ⟨rfl, rfl, rfl, rfl, rfl, fun hs => ?_⟩
    cases hs
  | unregistered run =>
    refine .inl ⟨rfl, rfl, rfl, rfl, rfl, fun hs => ?_⟩
    cases hs
  | disposed message disposition =>
    refine .inl (same _ ?_)
    simp only [note]
    rw [noteAgent_dispose]
  | _ => exact .inl (same _ rfl)

/-- A pod holds a task whose execution it has started: the task is processing under it, marked for
cancellation, or ended. -/
def HeldBy (pod : PodId) (record : TaskRecord) : Prop :=
  (record.status = .processing ∧ record.owner = some pod) ∨ record.status = .cancelling ∨
    record.status.isClosed = true

/-- The record of a task, if there is one, is as described. -/
def Shared.Has (s : Shared) (task : TaskId) (P : TaskRecord → Prop) : Prop :=
  ∃ record, s.store.get? task = some record ∧ P record

/-- What the books of an actor say of the record of its task is true. -/
structure Truthful (s : Shared) (a : Actor) : Prop where
  /-- A status that stays. -/
  closed : a.track.closed = true → s.Has a.job.task fun r => r.status.isClosed = true
  /-- A cancellation. -/
  cancelled : a.track.cancelled = true → s.Has a.job.task fun r => r.status.isCancellation = true
  /-- The hold on a task whose execution has started. -/
  holds : a.track.stage.hasStarted = true → a.track.released = false → s.Has a.job.task (HeldBy a.pod)

/-- What no lawful change ends stays true of a record. -/
theorem Sound.has_step (h : Sound c) {event : Event} (hp : c.perform fleet event = some c')
    {stays : TaskStatus → Bool}
    (hs : ∀ status next, stays status = true → next ∈ status.next → stays next = true)
    (hr : c.shared.Has task fun r => stays r.status = true) :
    c'.shared.Has task fun r => stays r.status = true := by
  obtain ⟨record, hr, hst⟩ := hr
  obtain ⟨record', hr', he | hn⟩ := h.status_step hp hr
  · exact ⟨record', hr', (congrArg stays he).trans hst⟩
  · exact ⟨record', hr', hs _ _ hst hn⟩

/-- A closed task stays closed. -/
theorem TaskStatus.isClosed_next (status next : TaskStatus) (h : status.isClosed = true)
    (hn : next ∈ status.next) : next.isClosed = true := by
  rw [TaskStatus.isClosed_iff_next.mp h] at hn
  cases hn

/-- A cancellation stays one. -/
theorem TaskStatus.isCancellation_next (status next : TaskStatus)
    (h : status.isCancellation = true) (hn : next ∈ status.next) : next.isCancellation = true := by
  cases status <;> simp [TaskStatus.isCancellation] at h
  · obtain rfl := List.mem_singleton.mp hn
    rfl
  · cases hn

/-- A task that its pod holds is not taken by what an agent may write, but for the pod itself handing
it back. -/
theorem Write.heldBy {k : Track} {expected : Expectation} {change : TaskUpdate} {other : PodId}
    (hw : Write other k expected change) (hh : expected.holds record = true)
    (held : HeldBy pod record) :
    HeldBy pod (record.apply change) ∨
      (change.status = .submitted ∧ k.IsIdle ∧ record.owner = some pod ∧ other = pod) := by
  have hs := Expectation.status_mem hh
  have closes (hc : change.status.isClosed = true) : HeldBy pod (record.apply change) :=
    .inr (.inr (by rw [TaskRecord.apply_status]; exact hc))
  have not_dispatched (hd : record.status = .dispatched) : False := by
    rcases held with ⟨h, -⟩ | h | h <;> rw [hd] at h <;> cases h
  cases hw with
  | claim name now stage =>
    have hd := List.mem_singleton.mp hs
    rcases held with ⟨h, -⟩ | h | h <;> rw [hd] at h <;> cases h
  | reset owner now stage detached => exact (not_dispatched (List.mem_singleton.mp hs)).elim
  | recover owner plan reason now stage => exact .inl (closes (by cases plan <;> rfl))
  | bury now stage detached => exact .inl (closes rfl)
  | start run now stage => exact (not_dispatched (List.mem_singleton.mp hs)).elim
  | release expected now he idle =>
    rcases he with rfl | rfl
    · exact (not_dispatched (List.mem_singleton.mp hs)).elim
    · have ho := Expectation.owner_of_holds hh rfl
      rcases held with ⟨-, h⟩ | h | h
      · rw [h] at ho
        exact .inr ⟨rfl, idle, h, (Option.some.inj ho).symm⟩
      · rcases List.mem_cons.mp hs with e | e
        · exact (not_dispatched e).elim
        · rw [List.mem_singleton.mp e] at h
          cases h
      · rcases List.mem_cons.mp hs with e | e
        · exact (not_dispatched e).elim
        · rw [List.mem_singleton.mp e] at h
          cases h
  | fail expected plan reason now he idle => exact .inl (closes (by cases plan <;> rfl))
  | conclude run status output now outcome stage =>
    rcases outcome with ⟨rfl, -⟩ | ⟨rfl, -⟩ <;> exact .inl (closes rfl)
  | cancel now idle cause => exact .inl (closes rfl)
  | stop run stage => exact .inl (.inr (.inl (TaskRecord.apply_status _ _)))

/-- Only the start of an execution makes a task processing, and its pod holds the task then. -/
theorem Write.start_owner {k : Track} {expected : Expectation} {change : TaskUpdate}
    (hw : Write pod k expected change) (hp : change.status = .processing)
    (hh : expected.holds record = true) :
    (record.apply change).status = .processing ∧ (record.apply change).owner = some pod := by
  refine ⟨(TaskRecord.apply_status _ _).trans hp, ?_⟩
  cases hw with
  | start run now stage =>
    rw [TaskRecord.apply_owner]
    exact Expectation.owner_of_holds hh rfl
  | recover owner plan reason now stage => cases plan <;> cases hp
  | fail expected plan reason now he idle => cases plan <;> cases hp
  | conclude run status output now outcome stage =>
    rcases outcome with ⟨rfl, -⟩ | ⟨rfl, -⟩ <;> cases hp
  | _ => cases hp

/-- A record that goes on is held as before. -/
theorem HeldBy.goesOn {record' : TaskRecord} (h : HeldBy pod record)
    (hg : Store.GoesOn record record') : HeldBy pod record' := by
  rcases hg.status with hs | ⟨hw, -⟩
  · unfold HeldBy
    rw [hs, hg.owner]
    exact h
  · rcases hw with hw | hw <;> rcases h with ⟨h, -⟩ | h | h <;> rw [hw] at h <;> cases h

/-- The hold of an actor is kept by every event but its own handing back. -/
theorem Sound.holds_step (h : Sound c) (hg : Registered c) {number : Nat} {x : Actor}
    (hx : c.actors[number]? = some x) (hs : x.track.stage.run?.isSome)
    (hh : c.shared.Has x.job.task (HeldBy x.pod)) {event : Event}
    (hp : c.perform fleet event = some c') :
    c'.shared.Has x.job.task (HeldBy x.pod) ∨
      ∃ b operation reply, Answers c number x b operation reply c' ∧ b.track.released = true := by
  obtain ⟨record, hr, held⟩ := hh
  cases event with
  | start pod job =>
    obtain ⟨-, rfl⟩ := State.of_start hp
    exact .inl ⟨record, hr, held⟩
  | answer other choice =>
    obtain ⟨a, b, operation, reply, ha, -⟩ := h.answers hp
    rcases record_of_effect ha.effect (h.candidate_new ha) hr with
      ⟨record', hr', hgo, -⟩ | ⟨expected, change, ho, he, hr', hn⟩
    · exact .inl ⟨record', hr', held.goesOn hgo⟩
    · have may := ha.may
      subst ho
      rcases may.2 with ⟨ht, -, hw⟩ | ⟨-, rfl, now, rfl⟩
      · rcases hw.heldBy he held with held' | ⟨hst, hi, howner, hpod⟩
        · exact .inl ⟨_, hr', held'⟩
        · have same : other = number := by
            refine hg.unique ha.actor hx hpod ht.symm ?_ hs
            obtain ⟨run, hi | hi⟩ := hi <;> rw [hi] <;> rfl
          subst same
          obtain rfl := Option.some.inj (hx.symm.trans ha.actor)
          refine .inr ⟨b, _, reply, ha, ?_⟩
          rw [ha.track, hn, updated_ok hw.ne_promotion, hst]
          rfl
      · have hc : record.status = .creating := List.mem_singleton.mp (Expectation.status_mem he)
        rcases held with ⟨h, -⟩ | h | h <;> rw [hc] at h <;> cases h
  | handBack message =>
    obtain ⟨-, rfl⟩ := State.of_handBack hp
    exact .inl ⟨record, hr, held⟩
  | move m =>
    obtain ⟨shared, hm, rfl⟩ := State.of_move hp
    rcases record_of_move hm hr with ⟨record', hr', hgo, -⟩ | ⟨-, hr'⟩
    · exact .inl ⟨record', hr', held.goesOn hgo⟩
    · exact .inl ⟨_, hr', .inr (.inl (TaskRecord.apply_status _ _))⟩

/-- An actor that is not answered keeps saying the truth. -/
theorem Sound.truthful_other (h : Sound c) (hg : Registered c) {number : Nat} {x : Actor}
    (hx : c.actors[number]? = some x) (hx' : c'.actors[number]? = some x)
    (ht : Truthful c.shared x) {event : Event} (hp : c.perform fleet event = some c') :
    Truthful c'.shared x := by
  refine ⟨fun hc => ?_, fun hc => ?_, fun hs hr => ?_⟩
  · exact h.has_step hp TaskStatus.isClosed_next (ht.closed hc)
  · exact h.has_step hp TaskStatus.isCancellation_next (ht.cancelled hc)
  · rcases h.holds_step hg hx (Stage.run?_of_hasStarted hs) (ht.holds hs hr) hp with
      hh | ⟨b, operation, reply, ha, -⟩
    · exact hh
    · exact absurd (Option.some.inj (ha.self.symm.trans hx')) ha.ne

/-- The books of an answered actor say the truth if what the call adds to them is true. -/
theorem Sound.truthful_of (h : Sound c) (hg : Registered c) {number : Nat} {a b : Actor}
    {operation : Operation} {reply : operation.Reply}
    (ha : Answers c number a b operation reply c') (ht : Truthful c.shared a)
    {event : Event} (hp : c.perform fleet event = some c')
    (hc : b.track.closed = true →
      a.track.closed = true ∨ c'.shared.Has a.job.task fun r => r.status.isClosed = true)
    (hk : b.track.cancelled = true → a.track.cancelled = true ∨
      c'.shared.Has a.job.task fun r => r.status.isCancellation = true)
    (hh : b.track.stage.hasStarted = true → b.track.released = false →
      (a.track.stage.hasStarted = true ∧ a.track.released = false) ∨
        c'.shared.Has a.job.task (HeldBy a.pod)) : Truthful c'.shared b := by
  have same : b.job.task = a.job.task := congrArg Job.task ha.job
  refine ⟨fun h' => ?_, fun h' => ?_, fun h' hr => ?_⟩ <;> rw [same]
  · rcases hc h' with hc | hc
    · exact h.has_step hp TaskStatus.isClosed_next (ht.closed hc)
    · exact hc
  · rcases hk h' with hk | hk
    · exact h.has_step hp TaskStatus.isCancellation_next (ht.cancelled hk)
    · exact hk
  · rw [ha.pod]
    rcases hh h' hr with ⟨hs, hf⟩ | hh
    · rcases h.holds_step hg ha.actor (Stage.run?_of_hasStarted hs) (ht.holds hs hf) hp with
        hh | ⟨b', operation', reply', ha', hr'⟩
      · exact hh
      · obtain rfl := Option.some.inj (ha'.self.symm.trans ha.self)
        rw [hr] at hr'
        cases hr'
    · exact hh

/-- The books of an answered actor say the truth. -/
theorem Sound.truthful_self (h : Sound c) (hg : Registered c) {number : Nat} {a b : Actor}
    {operation : Operation} {reply : operation.Reply}
    (ha : Answers c number a b operation reply c') (ht : Truthful c.shared a)
    {event : Event} (hp : c.perform fleet event = some c') : Truthful c'.shared b := by
  have may := ha.may
  rcases news_of_effect a.track ha.effect with hk | ⟨task, rfl, hs, hk⟩ |
    ⟨task, expected, change, record, rfl, found, -, hs, hne, hk⟩ |
    ⟨task, expected, change, record, rfl, found, hh, hr', hne, hk⟩ <;> rw [← ha.track] at hk
  · refine h.truthful_of hg ha ht hp (fun hc => ?_) (fun hc => ?_) fun hst hr => ?_
    · exact .inl (hk.closed.symm.trans hc)
    · exact .inl (hk.cancelled.symm.trans hc)
    · exact .inl ⟨hk.started hst, hk.released.symm.trans hr⟩
  · obtain rfl : task = a.job.task := may.2.1
    have same := hk.trans (read_eq _ _ _)
    refine h.truthful_of hg ha ht hp (fun hc => ?_) (fun hc => ?_) fun hst hf => ?_
    · cases hr : c.shared.store.get? a.job.task with
      | none =>
        rw [hk, hr] at hc
        exact .inl hc
      | some record =>
        rw [hk, hr] at hc
        exact (Bool.or_eq_true_iff.mp hc).imp id fun hc => ⟨record, hs ▸ hr, hc⟩
    · rw [same] at hc
      exact .inl hc
    · rw [same] at hst hf
      exact .inl ⟨hst, hf⟩
  · obtain ⟨rfl, -, -⟩ | ⟨-, he, -⟩ := may.2
    · refine h.truthful_of hg ha ht hp (fun hc => ?_) (fun hc => ?_) fun hst hf => ?_
      · rw [hk] at hc
        exact (Bool.or_eq_true_iff.mp hc).imp id fun hc => ⟨record, hs ▸ found, hc⟩
      · rw [hk] at hc
        exact (Bool.or_eq_true_iff.mp hc).imp id fun hc => ⟨record, hs ▸ found, hc⟩
      · rw [hk] at hst hf
        exact .inl ⟨hst, hf⟩
    · exact absurd he hne
  · obtain ⟨rfl, free, hw⟩ | ⟨-, he, -⟩ := may.2
    · refine h.truthful_of hg ha ht hp (fun hc => ?_) (fun hc => ?_) fun hst hf => ?_
      · rw [hk] at hc
        refine (wrote_closed _ _ hc).imp id fun hc => ⟨_, hr', ?_⟩
        exact (congrArg TaskStatus.isClosed (TaskRecord.apply_status record change)).trans hc
      · rw [hk, wrote_cancelled] at hc
        exact .inl hc
      · by_cases hp : change.status = .processing
        · exact .inr ⟨_, hr', .inl (hw.start_owner hp hh)⟩
        · rw [hk, wrote_stage _ _ hp] at hst
          exact .inl ⟨hst, free.released⟩
    · exact absurd he hne

/-- A job begins with nothing in its books. -/
theorem Truthful.started (s : Shared) (settings : Settings) (job : Job) :
    Truthful s (Actor.start settings job) := by
  refine ⟨nofun, nofun, fun hs => ?_⟩
  have run := Stage.run?_of_hasStarted hs
  rw [Actor.track_start, Job.run?_start] at run
  cases run

/-- The books of every actor say the truth. -/
theorem Reaches.truthful (hr : Reaches fleet allowed start c) (hi : start.Initial) :
    ∀ a ∈ c.actors, Truthful c.shared a := by
  apply hr.invariant
  · exact fun a ha => absurd ha hi.not_mem
  · intro c c' event hr ht _ hp x hx
    have sound := hr.sound hi
    have hg := hr.registered hi
    obtain ⟨i, hx⟩ := List.mem_iff_getElem?.mp hx
    rcases sound.actor_cases hp hx with ho | ⟨pod, job, -, rfl⟩ | ⟨a, operation, reply, ha⟩
    · exact sound.truthful_other hg ho hx (ht x (List.mem_of_getElem? ho)) hp
    · exact .started c'.shared _ job
    · exact sound.truthful_self hg ha (ht a (List.mem_of_getElem? ha.actor)) hp

end GridAgent.Cluster
