import GridAgent.Proofs.Ownership

/-!
# How records change

In one event a stored record stays, is ready because its data is there, fails because its data is
given up, is marked for cancellation by an administrator, or is updated by an agent that works on the
task. What is new in the store was put in by a client or succeeds another record. So what is true of
every record that comes in, and is kept by each of these changes, is true of every record there is.
-/

namespace GridAgent.Cluster

open Agent Track

variable {fleet : Fleet} {allowed : Event → Prop} {start c c' : State} {task : TaskId}
  {record record' : TaskRecord}

/-- What an event makes of a stored record. -/
inductive Revises (fleet : Fleet) (c c' : State) (record : TaskRecord) : TaskRecord → Prop where
  /-- Nothing differs but what the task waits for. -/
  | kept (remaining : IdSet .data) : Revises fleet c c' record { record with remaining }
  /-- The task is ready. -/
  | readied (remaining : IdSet .data) (now : Date) (status : record.status = .creating) :
    Revises fleet c c' record
      ({ record with remaining }.apply { status := .submitted, submitted := some now })
  /-- Data that the task waits for is given up. -/
  | failed (data : DataId) (now : Date)
    (status : record.status = .creating ∨ record.status = .pending) :
    Revises fleet c c' record (record.apply (.finish .error (Store.abortedInput data) now))
  /-- An administrator marks the task for cancellation. -/
  | marked (status : record.status ∈ heldStatuses) :
    Revises fleet c c' record (record.apply { status := .cancelling })
  /-- An agent updates the task of its job. -/
  | written (number : Nat) (a : Actor) (expected : Expectation) (change : TaskUpdate)
    (own : record.id = a.job.task) (applies : Applies fleet c number a expected change c')
    (write : Write a.pod a.track expected change) (holds : expected.holds record = true) :
    Revises fleet c c' record (record.apply change)

/-- Settled data changes a record in one of these ways. -/
theorem revises_of_resolve (data : DataId) (now : Date)
    (hr : c.shared.store.get? task = some record) :
    ∃ record', (c.shared.store.resolveData data now).2.get? task = some record' ∧
      Revises fleet c c' record record' := by
  rw [Store.get?_resolveData]
  rcases c.shared.store.get?_satisfy_cases data task with ⟨hn, -⟩ | ⟨found, remaining, hf, satisfied⟩
  · cases hr.symm.trans hn
  · obtain rfl := Option.some.inj (hr.symm.trans hf)
    rw [satisfied]
    split
    · next unblocked =>
      obtain ⟨_, hc, creating⟩ := Store.creating_of_unblockedBy unblocked
      obtain rfl := Option.some.inj (hr.symm.trans hc)
      exact ⟨_, rfl, .readied remaining now creating⟩
    · exact ⟨_, rfl, .kept remaining⟩

/-- Data that is given up changes a record in one of these ways. -/
theorem revises_of_giveUp (data : DataId) (now : Date)
    (hr : c.shared.store.get? task = some record) :
    ∃ record', (c.shared.store.abortData data now).2.get? task = some record' ∧
      Revises fleet c c' record record' := by
  rw [Store.get?_abortData, hr]
  split
  · next failed =>
    obtain ⟨_, hw, waiting⟩ := Store.waiting_of_failedBy failed
    obtain rfl := Option.some.inj (hr.symm.trans hw)
    exact ⟨_, rfl, .failed data now waiting⟩
  · exact ⟨_, rfl, .kept record.remaining⟩

/-- A call changes a record in one of these ways if its update does. Successors are expected to be
new. -/
theorem revises_of_effect {pod : PodId} {s' : Shared} {operation : Operation}
    {reply : operation.Reply} (h : Effect pod c.shared operation reply s')
    (new : ∀ parent candidate, operation = .agent (.createSuccessor parent candidate) →
      c.shared.store.get? candidate.id = none)
    (written : ∀ expected change, expected.holds record = true →
      (⟨operation, reply⟩ : Answered) =
        ⟨.agent (.updateTask task expected change), .ok (record.apply change)⟩ →
      Revises fleet c c' record (record.apply change))
    (hr : c.shared.store.get? task = some record) :
    ∃ record', s'.store.get? task = some record' ∧ Revises fleet c c' record record' := by
  have effect := h.onRecord new hr
  generalize s'.store = store at effect ⊢
  cases effect with
  | stays same => exact ⟨record, same, .kept record.remaining⟩
  | written expected change holds updated => exact ⟨_, updated, written expected change holds rfl⟩
  | resolved data now => exact revises_of_resolve data now hr
  | gaveUp data now => exact revises_of_giveUp data now hr

/-- What happens outside the agents changes a record in one of these ways. -/
theorem revises_of_move {m : Move} {s' : Shared} (h : c.shared.move m = some s')
    (hr : c.shared.store.get? task = some record) :
    ∃ record', s'.store.get? task = some record' ∧ Revises fleet c c' record record' := by
  have effect := (effect_of_move h).1.onRecord hr
  generalize s'.store = store at effect ⊢
  cases effect with
  | stays same => exact ⟨record, same, .kept record.remaining⟩
  | marked expected held updated => exact ⟨_, updated, .marked held⟩
  | resolved visit data now => exact revises_of_resolve data now hr
  | gaveUp visit data now => exact revises_of_giveUp data now hr

/-- An event changes a record in one of these ways. -/
theorem Sound.revises (h : Sound c) {event : Event} (hp : c.perform fleet event = some c')
    (hr : c.shared.store.get? task = some record) :
    ∃ record', c'.shared.store.get? task = some record' ∧ Revises fleet c c' record record' := by
  cases event with
  | start pod job =>
    obtain ⟨-, rfl⟩ := State.of_start hp
    exact ⟨record, hr, .kept record.remaining⟩
  | answer number choice =>
    obtain ⟨a, b, operation, reply, ha, -⟩ := h.answers hp
    refine revises_of_effect ha.effect (h.candidate_new ha) (fun expected change holds call => ?_) hr
    have may := ha.may
    have past := ha.past
    cases call
    rcases may.2 with ⟨own, -, write⟩ | ⟨-, rfl, now, rfl⟩
    · subst own
      exact .written number a expected change (h.keyed _ _ hr)
        ⟨ha.actor, ⟨choice, hp⟩, b, _, ha.self, past⟩ write holds
    · exact .readied record.remaining now (List.mem_singleton.mp (Expectation.status_mem holds))
  | handBack message =>
    obtain ⟨-, rfl⟩ := State.of_handBack hp
    exact ⟨record, hr, .kept record.remaining⟩
  | move m =>
    obtain ⟨shared, hm, rfl⟩ := State.of_move hp
    exact revises_of_move hm hr

/-- A record that was not stored before: a client put it in, or it succeeds another one. -/
inductive Enters (event : Event) (s : Store) : TaskRecord → Prop where
  /-- A client puts it in. -/
  | inserted (new : TaskRecord) (here : event = .move (.insert new))
    (status : new.status ∈ newStatuses) : Enters event s (s.withoutAvailable new)
  /-- It succeeds another record. -/
  | succeeds (parent : TaskRecord) (id : TaskId) (now : Date) :
    Enters event s (s.withoutAvailable (parent.successor id now))

/-- What is new in the store has entered it. -/
theorem Sound.enters (h : Sound c) {event : Event} (hp : c.perform fleet event = some c')
    (free : c.shared.store.get? task = none) (hr : c'.shared.store.get? task = some record) :
    Enters event c.shared.store record := by
  rcases h.store_cases hp with same | ⟨number, a, b, operation, reply, ha⟩ | ⟨m, rfl, hm⟩
  · rw [same, free] at hr
    cases hr
  · rcases missing_of_effect ha.effect free with still | ⟨parent, candidate, rfl, -, stored⟩
    · cases hr.symm.trans still
    · obtain ⟨-, -, -, -, now, successor⟩ := ha.may
      obtain rfl := Option.some.inj (hr.symm.trans stored)
      rw [successor]
      exact .succeeds parent candidate.id now
  · rcases missing_of_move hm free with still | ⟨new, rfl, -, -, status, stored⟩
    · cases hr.symm.trans still
    · obtain rfl := Option.some.inj (hr.symm.trans stored)
      exact .inserted new rfl status

/-- What is true of every record at first and of every one that enters the store, and is kept by every
change, is true of every record in every reached state. -/
theorem Reaches.every_record {P : TaskRecord → Prop} (hr : Reaches fleet allowed start c)
    (hi : start.Initial) (first : ∀ task record, start.shared.store.get? task = some record → P record)
    (enters : ∀ event s record, allowed event → Enters event s record → P record)
    (revised : ∀ c c' record record', P record → Revises fleet c c' record record' → P record') :
    ∀ task record, c.shared.store.get? task = some record → P record := by
  apply hr.invariant
  · exact first
  intro d d' event earlier all permitted performed task record hr'
  have sound := earlier.sound hi
  cases before : d.shared.store.get? task with
  | none => exact enters event _ record permitted (sound.enters performed before hr')
  | some found =>
    obtain ⟨record', stored, change⟩ := sound.revises performed before
    obtain rfl := Option.some.inj (hr'.symm.trans stored)
    exact revised _ _ _ _ (all task found before) change

/-- What is true of a record, and is kept by every change, is true of it after every further run. -/
theorem Sound.kept_run {P : TaskRecord → Prop} (h : Sound c)
    (revised : ∀ c c' record record', P record → Revises fleet c c' record record' → P record')
    (hr : c.shared.store.get? task = some record) (hp : P record) (run : Reaches fleet allowed c c') :
    ∃ record', c'.shared.store.get? task = some record' ∧ P record' := by
  refine h.along run ⟨record, hr, hp⟩ fun d d' event _ sound before performed => ?_
  obtain ⟨found, hf, hp⟩ := before
  obtain ⟨record', stored, change⟩ := sound.revises performed hf
  exact ⟨record', stored, revised d d' found record' hp change⟩

end GridAgent.Cluster
