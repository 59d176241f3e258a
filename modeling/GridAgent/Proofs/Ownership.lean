import GridAgent.Proofs.Cluster.Deeds
import GridAgent.Proofs.Cluster.Holding

/-!
# Updates under a claim

A handler that executes a task updates the record only while its pod owns the task or while the task
is marked for cancellation. There is one exception: a handler that was asked to stop, that could not
reach the worker and that has not started the execution cancels the task whoever owns it by then.
-/

namespace GridAgent.Cluster

open Agent Track

variable {fleet : Fleet} {start c c' : State}

namespace Actor

/-- The actor has registered an execution of its task. -/
def HasRegistered (a : Actor) : Prop :=
  ∃ run : RunId, (⟨.agent (.register a.job.task), some run⟩ : Answered) ∈ a.past

/-- The actor has found its execution asked to stop. -/
def WasStopped (a : Actor) : Prop :=
  ∃ run : RunId, (⟨.agent (.stopRequested run), true⟩ : Answered) ∈ a.past

/-- The actor has found the worker out of reach. -/
def WasUnreached (a : Actor) : Prop :=
  ∃ (run : RunId) (task : TaskId) (deadline : Option Date) (cause : WorkerError),
    (⟨.agent (.connect run task deadline), .error cause⟩ : Answered) ∈ a.past

end Actor

/-- The update of an actor of its own task is applied. -/
structure Applies (fleet : Fleet) (c : State) (number : Nat) (a : Actor)
    (expected : Expectation) (change : TaskUpdate) (c' : State) : Prop where
  /-- The actor before. -/
  actor : c.actors[number]? = some a
  /-- It is answered a call. -/
  performed : ∃ choice, c.perform fleet (.answer number choice) = some c'
  /-- The call is the update, and it succeeds. -/
  applied : ∃ b record, c'.actors[number]? = some b ∧
    b.past = ⟨.agent (.updateTask a.job.task expected change), .ok record⟩ :: a.past

/-! What the books keep of the past. -/

/-- What an answer tells of the fate of an execution. -/
inductive Told (k k' : Track) : Answered → Prop where
  /-- Nothing. -/
  | nothing {x : Answered} (stopped : k'.stopped = k.stopped) (unreached : k'.unreached = k.unreached)
    (outside : k'.stage.isOutside = k.stage.isOutside) : Told k k' x
  /-- It was asked to stop. -/
  | stopped (run : RunId) (unreached : k'.unreached = k.unreached)
    (outside : k'.stage.isOutside = k.stage.isOutside) :
    Told k k' ⟨.agent (.stopRequested run), true⟩
  /-- The worker is out of reach. -/
  | unreached (run : RunId) (task : TaskId) (deadline : Option Date) (cause : WorkerError)
    (stopped : k'.stopped = k.stopped) (outside : k'.stage.isOutside = k.stage.isOutside) :
    Told k k' ⟨.agent (.connect run task deadline), .error cause⟩
  /-- It is registered, or was before it ended. -/
  | inside {x : Answered} (stopped : k'.stopped = k.stopped) (unreached : k'.unreached = k.unreached)
    (outside : k'.stage.isOutside = false) : Told k k' x

/-- What an answer tells is noted. -/
theorem told_of_note (pod : PodId) (k : Track) (operation : Operation) (reply : operation.Reply) :
    Told k (k.note pod operation reply) ⟨operation, reply⟩ := by
  rcases operation with request | request
  · cases request with
    | readTask task => rcases reply with _ | _ | _ <;> exact .nothing rfl rfl rfl
    | updateTask task expected change =>
      have wrote : Told k (k.wrote change.status) ⟨.agent (.updateTask task expected change), reply⟩ :=
        .nothing (wrote_stopped _ _) (wrote_unreached _ _) (wrote_isOutside _ _)
      rcases reply with (_ | found | _) | record
      · exact .nothing rfl rfl rfl
      · simp only [note, noteAgent, updated]
        split <;> exact .nothing rfl rfl rfl
      · exact .nothing rfl rfl rfl
      · simp only [note, noteAgent, updated]
        split
        · exact .nothing rfl rfl rfl
        · exact wrote
    | createSuccessor parent candidate => rcases reply with _ | _ <;> exact .nothing rfl rfl rfl
    | register task =>
      rcases reply with _ | run
      · exact .nothing rfl rfl rfl
      · exact .inside rfl rfl rfl
    | unregister run => exact .inside rfl rfl rfl
    | stopRequested run =>
      rcases reply with _ | _
      · exact .nothing (Bool.or_false _) rfl rfl
      · exact .stopped run rfl rfl
    | connect run task deadline =>
      rcases reply with cause | stream
      · exact .unreached run task deadline cause rfl rfl
      · exact .nothing rfl rfl rfl
    | hangUp stream => exact .nothing rfl rfl (Stage.isOutside_hungUp _)
    | dispose message disposition => rcases reply with _ | _ <;> exact .nothing rfl rfl rfl
    | _ => exact .nothing rfl rfl rfl
  · cases request <;> exact .nothing rfl rfl rfl

/-- What the books of an actor say they say because of an answer. -/
theorem Actor.mem_past (said : Track → Bool) (cause : Answered → Prop) {a : Actor}
    (h₀ : said (.start a.job) = false)
    (hs : ∀ k k' x, Told k k' x → said k' = true → said k = true ∨ cause x)
    (h : said a.track = true) : ∃ x ∈ a.past, cause x := by
  unfold Actor.track at h
  generalize a.past = past at h
  induction past with
  | nil =>
    rw [List.foldr_nil, h₀] at h
    cases h
  | cons x past ih =>
    rcases hs _ _ x (told_of_note _ _ x.operation x.reply) h with h | h
    · obtain ⟨y, hy, hc⟩ := ih h
      exact ⟨y, List.mem_cons_of_mem _ hy, hc⟩
    · exact ⟨x, List.mem_cons_self, h⟩

theorem Actor.wasStopped {a : Actor} (h : a.track.stopped = true) : a.WasStopped := by
  obtain ⟨x, hx, run, rfl⟩ : ∃ x ∈ a.past, ∃ run : RunId,
      x = ⟨.agent (.stopRequested run), true⟩ := by
    refine Actor.mem_past Track.stopped _ rfl (fun k k' x told h => ?_) h
    cases told with
    | stopped run => exact .inr ⟨run, rfl⟩
    | nothing stopped => exact .inl (stopped.symm.trans h)
    | unreached run task deadline cause stopped => exact .inl (stopped.symm.trans h)
    | inside stopped => exact .inl (stopped.symm.trans h)
  exact ⟨run, hx⟩

theorem Actor.wasUnreached {a : Actor} (h : a.track.unreached = true) : a.WasUnreached := by
  obtain ⟨x, hx, run, task, deadline, cause, rfl⟩ : ∃ x ∈ a.past,
      ∃ (run : RunId) (task : TaskId) (deadline : Option Date) (cause : WorkerError),
        x = ⟨.agent (.connect run task deadline), .error cause⟩ := by
    refine Actor.mem_past Track.unreached _ rfl (fun k k' x told h => ?_) h
    cases told with
    | unreached run task deadline cause => exact .inr ⟨run, task, deadline, cause, rfl⟩
    | nothing stopped unreached => exact .inl (unreached.symm.trans h)
    | stopped run unreached => exact .inl (unreached.symm.trans h)
    | inside stopped unreached => exact .inl (unreached.symm.trans h)
  exact ⟨run, task, deadline, cause, hx⟩

/-- Whoever has registered an execution is past the acquisition. -/
theorem Actor.HasRegistered.not_isOutside {a : Actor} (h : a.HasRegistered) :
    a.track.stage.isOutside = false := by
  obtain ⟨run, h⟩ := h
  unfold Actor.track
  generalize a.past = past at h
  induction past with
  | nil => cases h
  | cons x past ih =>
    rcases List.mem_cons.mp h with rfl | h
    · rfl
    · have before := ih h
      obtain ⟨operation, reply⟩ := x
      rw [List.foldr_cons]
      cases told_of_note a.pod _ operation reply with
      | nothing stopped unreached outside => exact outside.trans before
      | stopped run unreached outside => exact outside.trans before
      | unreached run task deadline cause stopped outside => exact outside.trans before
      | inside stopped unreached outside => exact outside

/-- A task that may be cancelled has not ended, and is marked for cancellation if it is cancelled. -/
theorem TaskStatus.of_cancellable {status : TaskStatus}
    (h : status ∈ [TaskStatus.dispatched, .processing, .cancelling]) :
    status.isClosed = false ∧ (status.isCancellation = true → status = .cancelling) := by
  simp only [List.mem_cons, List.not_mem_nil, or_false] at h
  rcases h with rfl | rfl | rfl
  · exact ⟨rfl, nofun⟩
  · exact ⟨rfl, nofun⟩
  · exact ⟨rfl, fun _ => rfl⟩

/-- After the acquisition a handler asks for the owner in every update but a cancellation. -/
theorem Write.owned_or_cancels {pod : PodId} {k : Track} {expected : Expectation}
    {change : TaskUpdate} (hw : Write pod k expected change) (inside : k.stage.isOutside = false) :
    expected.owner = .is pod ∨
      (expected = .anyOf [.dispatched, .processing, .cancelling] ∧ change.status = .cancelled ∧
        k.IsIdle ∧ k.MayCancel) := by
  cases hw with
  | claim name now stage => rw [stage] at inside; cases inside
  | reset owner now stage detached => rw [stage] at inside; cases inside
  | recover owner plan reason now stage => rw [stage] at inside; cases inside
  | bury now stage detached => rw [stage] at inside; cases inside
  | stop run stage => rw [stage] at inside; cases inside
  | start run now stage => exact .inl rfl
  | release expected now held idle => rcases held with rfl | rfl <;> exact .inl rfl
  | fail expected plan reason now held idle => rcases held with rfl | rfl | rfl <;> exact .inl rfl
  | conclude run status output now outcome stage => exact .inl rfl
  | cancel now idle cause => exact .inr ⟨rfl, rfl, idle, cause⟩

section
variable {s : Shared} {a : Actor} {record : TaskRecord}

/-- Whoever has started the execution, and finds the task not ended, owns it or finds it marked. -/
theorem Truthful.owned_of_started (ht : Truthful s a) (hs : a.track.stage.hasStarted = true)
    (hr : a.track.released = false) (found : s.store.get? a.job.task = some record)
    (going : record.status.isClosed = false) :
    record.owner = some a.pod ∨ record.status = .cancelling := by
  obtain ⟨stored, hf, held⟩ := ht.holds hs hr
  obtain rfl := Option.some.inj (found.symm.trans hf)
  rcases held with ⟨-, owner⟩ | cancelling | closed
  · exact .inl owner
  · exact .inr cancelling
  · rw [closed] at going
    cases going

/-- A handler that cancels the task owns it or finds it marked, unless it was asked to stop, could
not reach the worker and has not started. -/
theorem Truthful.of_cancels (ht : Truthful s a) (hk : Chronicle a) (free : a.track.Free)
    (idle : a.track.IsIdle) (cause : a.track.MayCancel)
    (found : s.store.get? a.job.task = some record)
    (status : record.status ∈ [TaskStatus.dispatched, .processing, .cancelling]) :
    record.owner = some a.pod ∨ record.status = .cancelling ∨
      (a.WasStopped ∧ a.WasUnreached ∧ a.starts = 0) := by
  obtain ⟨going, marked⟩ := TaskStatus.of_cancellable status
  have held (hs : a.track.stage.hasStarted = true) :
      record.owner = some a.pod ∨ record.status = .cancelling :=
    ht.owned_of_started hs free.released found going
  rcases cause with cancelled | ⟨stopped, ⟨run, answered⟩ | unreached⟩
  · obtain ⟨stored, hf, hc⟩ := ht.cancelled cancelled
    obtain rfl := Option.some.inj (found.symm.trans hf)
    exact .inr (.inl (marked hc))
  · exact (held (by rw [answered]; rfl)).imp id .inl
  · obtain ⟨run, executing | answered⟩ := idle
    · have early : a.track.stage.isEarly = true := by rw [executing]; rfl
      exact .inr (.inr ⟨a.wasStopped stopped, a.wasUnreached unreached, (hk.early early).1⟩)
    · exact (held (by rw [answered]; rfl)).imp id .inl

end

/-- The actor is answered the update that is applied. -/
theorem Applies.answers {number : Nat} {a : Actor} {expected : Expectation} {change : TaskUpdate}
    (hu : Applies fleet c number a expected change c') (hs : Sound c) :
    ∃ b record,
      Answers c number a b (.agent (.updateTask a.job.task expected change)) (.ok record) c' := by
  obtain ⟨choice, hp⟩ := hu.performed
  obtain ⟨b, stored, hb, hpast⟩ := hu.applied
  obtain ⟨a', b', operation, reply, ha, -⟩ := hs.answers hp
  obtain rfl := Option.some.inj (hu.actor.symm.trans ha.actor)
  obtain rfl := Option.some.inj (hb.symm.trans ha.self)
  obtain ⟨he, -⟩ := List.cons.inj (ha.past.symm.trans hpast)
  cases he
  exact ⟨_, _, ha⟩

/-- The call that is applied is an update that finds the record as it expects it. -/
theorem Applies.found {number : Nat} {a : Actor} {expected : Expectation} {change : TaskUpdate}
    (hu : Applies fleet c number a expected change c') (hs : Sound c) :
    a.track.May a.pod a.job (.agent (.updateTask a.job.task expected change)) ∧
      c.shared.Has a.job.task fun record => expected.holds record = true := by
  obtain ⟨b, stored, ha⟩ := hu.answers hs
  obtain ⟨⟨record, found, holds, -⟩, -⟩ := written_of_effect ha.effect
  exact ⟨ha.may, record, found, holds⟩

/-- In every reached state, an update of its task that a handler has applied after it registered the
execution finds the record owned by its pod or marked for cancellation, but for one: a handler that
was asked to stop, could not reach the worker and has not started the execution may cancel the task
of any owner. -/
theorem handler_updates_own (hi : start.Initial) (hr : Reaches fleet anyEvent start c)
    {number : Nat} {a : Actor} {expected : Expectation} {change : TaskUpdate}
    (hu : Applies fleet c number a expected change c') (hx : a.HasRegistered) :
    c.shared.Has a.job.task fun record =>
      record.owner = some a.pod ∨ record.status = .cancelling ∨
        (change.status = .cancelled ∧ a.WasStopped ∧ a.WasUnreached ∧ a.starts = 0) := by
  have hm : a ∈ c.actors := List.mem_of_getElem? hu.actor
  have truthful := hr.truthful hi a hm
  obtain ⟨may, record, hf, hh⟩ := hu.found (hr.sound hi)
  have status := Expectation.status_mem hh
  refine ⟨record, hf, ?_⟩
  rcases may.2 with ⟨-, free, hw⟩ | ⟨⟨closed, -⟩, rfl, -⟩
  · rcases hw.owned_or_cancels hx.not_isOutside with owned | ⟨rfl, cancels, idle, cause⟩
    · exact .inl (Expectation.owner_of_holds hh owned)
    · have cases := truthful.of_cancels (hr.chronicle hi a hm) free idle cause hf status
      exact cases.imp id fun h => h.imp id fun h => ⟨cancels, h⟩
  · obtain ⟨found, hf', hc⟩ := truthful.closed closed
    obtain rfl := Option.some.inj (hf.symm.trans hf')
    rw [List.mem_singleton.mp status] at hc
    cases hc

/-- The start of an execution is an update under a claim. -/
theorem handler_updates_own_plain :
    ∃ c c' a expected change, Reaches plainFleet anyEvent plainStart c ∧
      Applies plainFleet c 0 a expected change c' ∧ a.HasRegistered ∧ change.status = .processing ∧
      c.shared.Has plainTask.id fun record =>
        record.owner = some a.pod ∨ record.status = .cancelling := by
  have run := plainCluster_reached 17
  have applies : Applies plainFleet (plainCluster 17) 0 (plainActor (plainCluster 17) 0)
      (claimedBy ⟨"first"⟩) { status := .processing, started := some morning }
      (plainCluster 18) :=
    ⟨rfl, ⟨plainly morning, rfl⟩, plainActor (plainCluster 18) 0, _, rfl, rfl⟩
  have registered : (plainActor (plainCluster 17) 0).HasRegistered :=
    ⟨0, List.mem_of_getElem? (rfl : (plainActor (plainCluster 17) 0).past[10]? = some _)⟩
  refine ⟨_, _, _, _, _, run, applies, registered, rfl, ?_⟩
  obtain ⟨record, hr, owner | cancelling | ⟨cancelled, -⟩⟩ :=
    handler_updates_own plainStart_initial run applies registered
  · exact ⟨record, hr, .inl owner⟩
  · exact ⟨record, hr, .inr cancelling⟩
  · cases cancelled

/-! The exception. -/

/-- Surroundings in which the worker is out of reach. -/
def outOfReach : (operation : Operation) → Option operation.Reply
  | .agent (.connect ..) => some (.error (.unavailable "worker is down"))
  | operation => plainly noon operation

/-- A handler is about to reach the worker when a second pod takes the task away and a third one
claims it. Then the execution is asked to stop, the worker proves out of reach, and the handler is
about to update the task. -/
def takenEvents : List Event :=
  plainEvents 15 ++ anotherMessage ⟨"second"⟩ 2 1 7 ++ anotherMessage ⟨"third"⟩ 3 2 6 ++
    [.start ⟨"first"⟩ (.stop 0 plainTask.id)] ++ List.replicate 2 (.answer 3 (plainly noon)) ++
    List.replicate 4 (.answer 0 outOfReach)

/-- The small cluster with a task that was taken away. -/
def takenCluster : State := (plainStart.play plainFleet takenEvents).getD plainStart

/-- The small cluster after the update of the handler that has lost the task. -/
def spoiltCluster : State :=
  (takenCluster.play plainFleet [.answer 0 outOfReach]).getD takenCluster

/-- Not every applied update of a registered handler finds the task owned by its pod or marked for
cancellation. -/
theorem not_always_updates_own :
    ¬ ∀ (fleet : Fleet) (start c c' : State) (number : Nat) (a : Actor)
        (expected : Expectation) (change : TaskUpdate), start.Initial →
      Reaches fleet anyEvent start c → Applies fleet c number a expected change c' →
      a.HasRegistered → c.shared.Has a.job.task fun record =>
        record.owner = some a.pod ∨ record.status = .cancelling := by
  intro always
  have run : Reaches plainFleet anyEvent plainStart takenCluster := .of_played fun _ _ => trivial
  have applies : Applies plainFleet takenCluster 0 (plainActor takenCluster 0)
      (.anyOf [.dispatched, .processing, .cancelling])
      { status := .cancelled, ended := some noon } spoiltCluster :=
    ⟨rfl, ⟨outOfReach, rfl⟩, plainActor spoiltCluster 0, _, rfl, rfl⟩
  have registered : (plainActor takenCluster 0).HasRegistered :=
    ⟨0, List.mem_of_getElem? (rfl : (plainActor takenCluster 0).past[12]? = some _)⟩
  have claimed : (takenCluster.shared.store.get? plainTask.id).map
      (fun record => (record.status, record.owner)) =
        some (.dispatched, some ⟨"third"⟩) := by decide +kernel
  obtain ⟨record, hr, owned⟩ :=
    always _ _ _ _ _ _ _ _ plainStart_initial run applies registered
  obtain ⟨found, hf, hs⟩ := Option.map_eq_some_iff.mp claimed
  obtain rfl := Option.some.inj (hr.symm.trans hf)
  obtain ⟨status, owner⟩ := Prod.mk.inj hs
  rcases owned with h | h
  · exact absurd (owner.symm.trans h) (by decide +kernel)
  · exact nomatch status.symm.trans h

end GridAgent.Cluster
