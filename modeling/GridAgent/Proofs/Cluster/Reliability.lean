import GridAgent.Proofs.Cluster.Courses
import GridAgent.Proofs.Cluster.Heritage
import GridAgent.Proofs.Cluster.Holding

/-!
# Clusters with a reliable store

While no call to the store fails, an update of a stored record is written or lost as the record
stands. So an execution that is pursued stays with its actor: whatever the actor is answered, it goes
on, it has started the execution by its own update, or it has given the task out of its hands itself.
A task that processes under a pod is executed by an actor there, unless no actor there ever had it.
-/

namespace GridAgent.Cluster

open Agent Program Track

variable {fleet : Fleet} {allowed : Event → Prop} {start c c' : State} {pod : PodId}
  {s s' : Shared} {task : TaskId} {record : TaskRecord} {number : Nat} {a b : Actor}
  {operation : Operation} {reply : operation.Reply}

/-- The store is not made to fail. -/
def storeUp : Event → Prop
  | .move (.failStore _) => False
  | _ => True

/-! Failures of the store. -/

/-- No call adds failures to those that are to come. -/
theorem failures_of_answer {choice : Option operation.Reply}
    (h : s.answer pod operation choice = some (reply, s')) :
    s'.store.failures ≤ s.store.failures := by
  have chosen {α : Type} {choice : Option α} {x : α}
      (h : choice.map (fun reply => (reply, s)) = some (x, s')) :
      s'.store.failures ≤ s.store.failures := by
    obtain ⟨_, -, hc⟩ := Option.map_eq_some_iff.mp h
    cases hc
    exact Nat.le_refl _
  rcases operation with request | request
  · cases request with
    | newTaskId =>
      obtain ⟨task, -, h⟩ := Option.bind_eq_some_iff.mp h
      split at h <;> cases h
      exact Nat.le_refl _
    | readTask task =>
      cases h
      exact Store.failures_fallible_le rfl
    | updateTask task expected change =>
      cases h
      exact Store.failures_update_le task expected change s.store
    | createSuccessor parent candidate =>
      cases h
      exact Store.failures_createSuccessor_le parent candidate s.store
    | findSuccessor task =>
      cases h
      exact Store.failures_fallible_le rfl
    | push tasks => rcases choice with _ | _ | _ <;> cases h <;> exact Nat.le_refl _
    | makeScratch task => rcases choice with _ | _ | _ <;> cases h <;> exact Nat.le_refl _
    | saveScratch task data bytes => rcases choice with _ | _ | _ <;> cases h <;> exact Nat.le_refl _
    | finalize task => cases h
    | abandon task => cases h
    | _ => first | (cases h; exact Nat.le_refl _) | exact chosen h
  · cases request with
    | now => exact chosen h
    | countTasks =>
      obtain ⟨count, -, h⟩ := Option.bind_eq_some_iff.mp h
      split at h <;> cases h
      exact Nat.le_refl _
    | readTask task =>
      cases h
      exact Store.failures_fallible_le rfl
    | push tasks => rcases choice with _ | _ | _ <;> cases h <;> exact Nat.le_refl _
    | _ =>
      cases h
      exact Nat.le_refl _

theorem failures_of_move {m : Move} (up : storeUp (.move m)) (h : s.move m = some s') :
    s'.store.failures ≤ s.store.failures := by
  cases m with
  | cancel other expected =>
    simp only [Shared.move] at h
    split at h <;> cases h
    exact Store.failures_update_le other expected _ s.store
  | insert new =>
    simp only [Shared.move] at h
    split at h <;> cases h
    exact Nat.le_refl _
  | failStore calls => exact up.elim
  | _ =>
    cases h
    exact Nat.le_refl _

/-- A store that is not made to fail goes on not failing. -/
theorem Reaches.healthy (hr : Reaches fleet storeUp start c)
    (healthy : start.shared.store.failures = 0) : c.shared.store.failures = 0 := by
  apply hr.invariant
  · exact healthy
  · intro c c' event _ before up hp
    cases event with
    | start pod job =>
      obtain ⟨-, rfl⟩ := State.of_start hp
      exact before
    | answer number choice =>
      obtain ⟨a, operation, next, reply, shared, -, -, hs, rfl⟩ := State.answer_eq_some hp
      exact Nat.le_zero.mp (before ▸ failures_of_answer hs)
    | handBack message =>
      obtain ⟨-, rfl⟩ := State.of_handBack hp
      exact before
    | move m =>
      obtain ⟨shared, hm, rfl⟩ := State.of_move hp
      exact Nat.le_zero.mp (before ▸ failures_of_move up hm)

/-! No call of an execution fails. -/

/-- A call of an execution that failed on the way to the store. -/
def Answered.IsUnreached : Answered → Prop
  | ⟨.agent (.updateTask ..), .error (.unavailable _)⟩ => True
  | ⟨.agent (.abandon _), .error _⟩ => True
  | ⟨.finalizer (.readTask _), .error _⟩ => True
  | _ => False

theorem reached_of_answer (healthy : s.store.failures = 0) {choice : Option operation.Reply}
    (h : s.answer pod operation choice = some (reply, s')) :
    ¬ Answered.IsUnreached ⟨operation, reply⟩ := by
  intro unreached
  rcases operation with request | request
  · cases request with
    | updateTask task expected change =>
      rcases reply with (_ | _ | reason) | _ <;> try exact unreached
      exact Store.update_ne_unavailable healthy expected change reason
        (congrArg Prod.fst (Option.some.inj h))
    | abandon task => cases h
    | _ => exact unreached
  · cases request with
    | readTask task =>
      have read : Store.read task s.store = (.ok (s.store.get? task), s.store) :=
        Store.fallible_of_healthy _ healthy
      have answered := congrArg Prod.fst (Option.some.inj h)
      simp only [Shared.onStore, read] at answered
      rw [← answered] at unreached
      exact unreached
    | _ => exact unreached

/-- An update of a record that is as expected is written. -/
theorem written_of_answer (healthy : s.store.failures = 0) {expected : Expectation}
    {change : TaskUpdate} (hr : s.store.get? task = some record)
    (holds : expected.holds record = true)
    {reply : (Operation.agent (.updateTask task expected change)).Reply}
    {choice : Option (Operation.agent (.updateTask task expected change)).Reply}
    (h : s.answer pod (.agent (.updateTask task expected change)) choice = some (reply, s')) :
    reply = .ok (record.apply change) ∧ s'.store.get? task = some (record.apply change) := by
  have answered : s.onStore (Store.update task expected change) = (reply, s') := Option.some.inj h
  simp only [Shared.onStore, Store.update_of_healthy healthy hr, holds, if_true] at answered
  obtain ⟨hreply, rfl⟩ := Prod.mk.inj answered
  exact ⟨hreply.symm, (Table.get?_set _ _ _ _).trans (if_pos rfl)⟩

/-- An update of a record that is not as expected is lost, and the record is shown. -/
theorem lost_of_answer (healthy : s.store.failures = 0) {expected : Expectation}
    {change : TaskUpdate} (hr : s.store.get? task = some record)
    (unexpected : expected.holds record = false)
    {reply : (Operation.agent (.updateTask task expected change)).Reply}
    {choice : Option (Operation.agent (.updateTask task expected change)).Reply}
    (h : s.answer pod (.agent (.updateTask task expected change)) choice = some (reply, s')) :
    reply = .error (.conflict ⟨record.status, record.owner⟩) := by
  have answered : s.onStore (Store.update task expected change) = (reply, s') := Option.some.inj h
  simp only [Shared.onStore, Store.update_of_healthy healthy hr, unexpected] at answered
  exact (Prod.mk.inj answered).1.symm

namespace Course

/-- A call for an execution had failed. -/
def hasFailed : Course → Bool
  | idle failed => failed
  | torn failed => failed
  | _ => false

/-- Only a call that does not reach the store fails. -/
theorem hasFailed_note {k : Course} (reached : ¬ Answered.IsUnreached ⟨operation, reply⟩)
    (h : k.hasFailed = false) :
    ((courseConduct pod task).note k operation reply).hasFailed = false := by
  rcases operation with request | request
  · cases request with
    | register other => rcases reply with _ | _ <;> first | exact h | rfl
    | updateTask other expected change =>
      rcases reply with (_ | found | _) | stored
      · cases k <;> exact h
      · cases k with
        | going started =>
          simp only [courseConduct, note, missed]
          repeat' split
          all_goals rfl
        | lost =>
          simp only [courseConduct, note, missed]
          split <;> rfl
        | _ => exact h
      · exact absurd trivial reached
      · cases k with
        | idle failed =>
          simp only [courseConduct, note, wrote]
          split <;> exact h
        | going started =>
          simp only [courseConduct, note]
          cases change.status <;> rfl
        | _ => exact h
    | createSuccessor parent candidate =>
      rcases reply with _ | successor
      · exact h
      · cases k with
        | torn failed =>
          simp only [courseConduct, note, succeeded]
          split <;> exact h
        | _ => exact h
    | push tasks => rcases reply with _ | _ <;> cases k <;> exact h
    | abandon other =>
      rcases reply with _ | _
      · exact absurd trivial reached
      · cases k <;> exact h
    | _ => exact h
  · cases request with
    | readTask other =>
      rcases reply with _ | found
      · exact absurd trivial reached
      · rcases k with _ | _ | _ | ⟨_ | _⟩ | _ <;> exact h
    | giveUp data now => rcases k with _ | _ | _ | ⟨_ | _⟩ | _ <;> exact h
    | _ => exact h

end Course

/-- No call of an execution has failed while the store does not. -/
theorem Reaches.unfailing (hr : Reaches fleet storeUp start c) (hi : start.Initial)
    (healthy : start.shared.store.failures = 0) : ∀ a ∈ c.actors, a.course.hasFailed = false := by
  apply hr.invariant
  · exact fun a ha => absurd ha hi.not_mem
  · intro c c' event hr before _ hp x hx
    cases event with
    | start pod job =>
      obtain ⟨-, rfl⟩ := State.of_start hp
      rcases List.mem_append.mp hx with hx | hx
      · exact before x hx
      · obtain rfl := List.mem_singleton.mp hx
        rfl
    | answer number choice =>
      obtain ⟨a, b, operation, reply, ha, hs⟩ := (hr.sound hi).answers hp
      rcases ha.mem_cases hx with rfl | hx
      · rw [ha.course]
        exact Course.hasFailed_note (reached_of_answer (hr.healthy healthy) hs)
          (before a (List.mem_of_getElem? ha.actor))
      · exact before x hx
    | handBack message =>
      obtain ⟨-, rfl⟩ := State.of_handBack hp
      exact before x hx
    | move m =>
      obtain ⟨shared, -, rfl⟩ := State.of_move hp
      exact before x hx

/-! Executions that are pursued. -/

/-- The pod holds the task, whose execution has started or not. -/
structure IsHeld (pod : PodId) (started : Bool) (record : TaskRecord) : Prop where
  /-- It owns the task. -/
  owner : record.owner = some pod
  /-- The task is dispatched or processing. -/
  status : record.status = if started then .processing else .dispatched

variable {started : Bool} {expected : Expectation} {change : TaskUpdate}

theorem IsHeld.mem (h : IsHeld pod started record) :
    record.status ∈ [TaskStatus.dispatched, .processing, .cancelling] := by
  rw [h.status]
  cases started <;> decide

/-- What updates a pursued execution expects the task as it is held. -/
theorem Pursues.holds (hp : Pursues pod started expected change)
    (h : IsHeld pod started record) : expected.holds record = true := by
  obtain ⟨owner, status⟩ := h
  cases hp with
  | starts => simp [Expectation.holds, claimedBy, Expectation.ownedBy, Expectation.status,
      OwnerMatch.holds, TaskRecord.isOwnedBy, owner, status]
  | ends held =>
    rcases held with rfl | rfl <;> cases started <;>
      simp [Expectation.holds, heldBy, claimedBy, executedBy, Expectation.ownedBy,
        Expectation.status, Expectation.anyOf, OwnerMatch.holds, TaskRecord.isOwnedBy, owner, status]
  | cancels => cases started <;>
      simp [Expectation.holds, Expectation.anyOf, OwnerMatch.holds, status]

/-- What updates a pursued execution starts it, or ends the hold of the pod and not by a mark. -/
theorem Pursues.leaves (hp : Pursues pod started expected change) :
    (started = false ∧ change.status = .processing) ∨
      change.status ∉ [TaskStatus.dispatched, .processing, .cancelling] := by
  cases hp with
  | starts status => exact .inl ⟨rfl, status⟩
  | ends held status =>
    refine .inr fun h => ?_
    simp only [List.mem_cons, List.not_mem_nil, or_false] at h
    rcases h with h | h | h <;>
      · rw [h] at status
        simp at status
  | cancels status =>
    rw [status]
    exact .inr (by decide)

/-- An execution that is pursued goes on unless the task is updated. -/
theorem Course.note_going
    (hu : ∀ other expected change, operation ≠ .agent (.updateTask other expected change))
    (may : (courseConduct pod task).may (.going started) operation) :
    (courseConduct pod task).note (.going started) operation reply = .going started := by
  rcases operation with request | request
  · cases request with
    | register other => cases (may : Course.going started = .idle false)
    | updateTask other expected change => exact absurd rfl (hu other expected change)
    | createSuccessor parent candidate => rcases reply with _ | _ <;> rfl
    | push tasks => rcases reply with _ | _ <;> rfl
    | abandon other => rcases reply with _ | _ <;> rfl
    | _ => rfl
  · cases request with
    | readTask other => rcases reply with _ | _ <;> rfl
    | _ => rfl

/-- What becomes of an execution that is pursued by the answered actor: it goes on as it is, it has
started, or the task is out of the hands of the pod and not marked. -/
theorem Answers.of_going (ha : Answers c number a b operation reply c') (sound : Sound c)
    (healthy : c.shared.store.failures = 0) {choice : Option operation.Reply}
    (hs : c.shared.answer a.pod operation choice = some (reply, c'.shared))
    (may : (courseConduct a.pod a.job.task).may a.course operation)
    (going : a.course = .going started) (hr : c.shared.store.get? a.job.task = some record)
    (held : IsHeld a.pod started record) :
    (b.course = .going started ∧
      ∃ record', c'.shared.store.get? a.job.task = some record' ∧ Store.GoesOn record record') ∨
    (b.course = .going true ∧
      ∃ record', c'.shared.store.get? a.job.task = some record' ∧ IsHeld a.pod true record') ∨
    ∃ record', c'.shared.store.get? a.job.task = some record' ∧
      record'.status ∉ [TaskStatus.dispatched, .processing, .cancelling] ∧
      (record'.status = .cancelled → b.course = .cancelled none) := by
  rw [ha.course]
  rw [going] at may ⊢
  by_cases hu : ∃ other expected change, operation = .agent (.updateTask other expected change)
  · obtain ⟨other, expected, change, rfl⟩ := hu
    obtain ⟨rfl, pursues⟩ : other = a.job.task ∧ Pursues a.pod started expected change := may
    have holds := pursues.holds held
    obtain ⟨rfl, hr'⟩ := written_of_answer healthy hr holds hs
    rcases pursues.leaves with ⟨rfl, status⟩ | status
    · have write := (ha.may.2.resolve_right fun h => ?_).2.2
      · obtain ⟨processing, owner⟩ := write.start_owner status holds
        refine .inr (.inl ⟨?_, _, hr', owner, processing⟩)
        exact congrArg (Course.going false).wrote status
      · obtain ⟨-, -, now, rfl⟩ := h
        cases status
    · have applied := TaskRecord.apply_status record change
      refine .inr (.inr ⟨_, hr', applied.symm ▸ status, fun cancelled => ?_⟩)
      exact congrArg (Course.going started).wrote (applied.symm.trans cancelled)
  · have hn other expected change (ho : operation = .agent (.updateTask other expected change)) :
        False := hu ⟨other, expected, change, ho⟩
    refine .inl ⟨Course.note_going hn may, ?_⟩
    rcases record_of_effect ha.effect (sound.candidate_new ha) hr with
      ⟨record', hr', goes, -⟩ | ⟨expected, change, ho, -⟩
    · exact ⟨record', hr', goes⟩
    · exact (hn _ _ _ ho).elim

/-- Only a registration begins an execution. -/
theorem Course.going_of_note {k : Course} (hr : ∀ other, operation ≠ .agent (.register other))
    (h : (courseConduct pod task).note k operation reply = .going started) :
    ∃ before, k = .going before := by
  rcases operation with request | request
  · cases request with
    | register other => exact absurd rfl (hr other)
    | updateTask other expected change =>
      cases k with
      | going before => exact ⟨before, rfl⟩
      | idle failed =>
        rcases reply with (_ | found | _) | stored <;> try cases h
        simp only [courseConduct, note, wrote] at h
        split at h <;> cases h
      | lost =>
        rcases reply with (_ | found | _) | stored <;> try cases h
        simp only [courseConduct, note, missed] at h
        split at h <;> cases h
      | _ => rcases reply with (_ | _ | _) | _ <;> cases h
    | createSuccessor parent candidate =>
      rcases reply with _ | successor
      · exact ⟨started, h⟩
      · cases k with
        | torn failed =>
          simp only [courseConduct, note, succeeded] at h
          split at h <;> cases h
        | _ => exact ⟨started, h⟩
    | push tasks => rcases reply with _ | _ <;> cases k <;> first | exact ⟨started, h⟩ | cases h
    | abandon other => rcases reply with _ | _ <;> cases k <;> first | exact ⟨started, h⟩ | cases h
    | _ => exact ⟨started, h⟩
  · cases request with
    | readTask other =>
      rcases reply with _ | found <;> rcases k with _ | _ | _ | ⟨_ | _⟩ | _ <;>
        first | exact ⟨started, h⟩ | cases h
    | giveUp data now =>
      rcases k with _ | _ | _ | ⟨_ | _⟩ | _ <;> first | exact ⟨started, h⟩ | cases h
    | _ => exact ⟨started, h⟩

/-- Whoever pursues an execution has it registered. -/
theorem Reaches.run_of_going (hr : Reaches fleet allowed start c) (hi : start.Initial) :
    ∀ a ∈ c.actors, ∀ started, a.course = .going started → a.track.stage.run?.isSome = true := by
  refine hr.all_actors hi (fun _ _ _ started h => nomatch h) ?_
  intro c c' number a b operation reply hr ha before started going
  have obeys := hr.courses hi a (List.mem_of_getElem? ha.actor)
  by_cases registers : ∃ other, operation = .agent (.register other)
  · obtain ⟨other, rfl⟩ := registers
    rw [ha.course] at going
    rw [ha.track]
    rcases reply with _ | run
    · exact before started going
    · rfl
  · have hn other (ho : operation = .agent (.register other)) : False := registers ⟨other, ho⟩
    obtain ⟨before', hk⟩ := Course.going_of_note hn (ha.course.symm.trans going)
    rw [ha.track]
    rcases run_of_effect a.track ha.effect with ⟨same, -⟩ | ⟨other, ho, -⟩ | ⟨run, rfl, -⟩
    · rw [same]
      exact before before' hk
    · exact (hn other ho).elim
    · obtain ⟨next, asks⟩ := ha.asks
      have may : a.course.May a.pod a.job.task (.unregister run) := obeys.may asks
      rw [hk] at may
      rcases may with h | h | h
      · exact h.elim fun _ h => nomatch h
      · exact h.elim fun _ h => nomatch h
      · cases h

/-- The latest answer of the actor registers its task. -/
def Actor.JustRegistered (a : Actor) : Prop :=
  ∃ run past, a.past = ⟨.agent (.register a.job.task), some run⟩ :: past

/-- Whoever has just registered its task has a message of it and has found it dispatched here. -/
theorem Reaches.of_justRegistered (hr : Reaches fleet allowed start c) (hi : start.Initial) :
    ∀ a ∈ c.actors, a.JustRegistered →
      a.course = .going false ∧ a.track.attached = true ∧ a.job.message?.isSome = true := by
  refine hr.all_actors hi (fun _ _ _ ⟨_, _, h⟩ => nomatch h) ?_
  rintro c c' number a b operation reply hr ha - ⟨run, past, hp⟩
  obtain ⟨hx, -⟩ := List.cons.inj (ha.past.symm.trans hp)
  cases hx
  obtain ⟨-, -, -, attached, -, message⟩ := ha.may
  refine ⟨ha.course, ?_, ha.job ▸ message⟩
  rw [ha.track]
  exact attached

/-- A task that processes under a pod is executed by an actor there, unless no actor there has found
it dispatched. -/
def State.IsStarted (c : State) : Prop :=
  ∀ pod task, c.shared.Has task (IsHeld pod true) →
    (∃ a ∈ c.actors, a.pod = pod ∧ a.job.task = task ∧ a.course = .going true) ∨
      ∀ a ∈ c.actors, a.pod = pod → a.job.task = task → a.track.attached = false

/-- A record that goes on to be processing was so before. -/
theorem IsHeld.of_goesOn {record' : TaskRecord} (h : IsHeld pod true record')
    (goes : Store.GoesOn record record') : IsHeld pod true record := by
  refine ⟨goes.owner.symm.trans h.owner, ?_⟩
  rcases goes.status with same | ⟨waits, next⟩
  · exact same.symm.trans h.status
  · rw [h.status] at next
    rcases waits with h | h <;> rw [h] at next <;> simp [TaskStatus.next] at next

/-- A task that processes under a pod did so before the answer, or the answered actor has started its
execution. -/
theorem Answers.held_cases (ha : Answers c number a b operation reply c') (sound : Sound c)
    (h : c'.shared.Has task (IsHeld pod true)) : c.shared.Has task (IsHeld pod true) ∨
      ∃ record expected change, operation = .agent (.updateTask task expected change) ∧
        c.shared.store.get? task = some record ∧ expected.holds record = true ∧
        change.status = .processing ∧ task = a.job.task ∧ pod = a.pod := by
  obtain ⟨record', hr', held⟩ := h
  have status : record'.status = .processing := held.status
  cases hr : c.shared.store.get? task with
  | none =>
    rcases missing_of_effect ha.effect hr with hn | ⟨parent, candidate, rfl, -, hs⟩
    · cases hn.symm.trans hr'
    · obtain ⟨-, -, -, -, now, hc⟩ := ha.may
      obtain rfl := Option.some.inj (hr'.symm.trans hs)
      have creating : (c.shared.store.withoutAvailable candidate).status = .creating := by
        rw [hc]
        rfl
      cases creating.symm.trans status
  | some record =>
    rcases record_of_effect ha.effect (sound.candidate_new ha) hr with
      ⟨found, hf, goes, -⟩ | ⟨expected, change, rfl, holds, hf, -⟩
    · obtain rfl := Option.some.inj (hr'.symm.trans hf)
      exact .inl ⟨record, hr, held.of_goesOn goes⟩
    · obtain rfl := Option.some.inj (hr'.symm.trans hf)
      replace status := (TaskRecord.apply_status record change).symm.trans status
      rcases ha.may.2 with ⟨rfl, -, write⟩ | ⟨-, -, now, rfl⟩
      · refine .inr ⟨record, expected, change, rfl, rfl, holds, status, rfl, ?_⟩
        exact Option.some.inj (held.owner.symm.trans (write.start_owner status holds).2)
      · cases status

/-- Moves start no execution. -/
theorem held_before_move {m : Move} (hm : s.move m = some s')
    (h : s'.Has task (IsHeld pod true)) : s.Has task (IsHeld pod true) := by
  obtain ⟨record', hr', held⟩ := h
  have status : record'.status = .processing := held.status
  cases hr : s.store.get? task with
  | none =>
    rcases missing_of_move hm hr with hn | ⟨new, -, -, -, hnew, hs⟩
    · cases hn.symm.trans hr'
    · obtain rfl := Option.some.inj (hr'.symm.trans hs)
      have same : new.status = .processing := status
      rw [same] at hnew
      simp [newStatuses] at hnew
  | some record =>
    rcases record_of_move hm hr with ⟨found, hf, goes, -⟩ | ⟨-, hf⟩
    · obtain rfl := Option.some.inj (hr'.symm.trans hf)
      exact ⟨record, hr, held.of_goesOn goes⟩
    · obtain rfl := Option.some.inj (hr'.symm.trans hf)
      cases (TaskRecord.apply_status record _).symm.trans status

/-- Whoever starts an execution pursues it. -/
theorem Course.going_of_start {k : Course} (hk : k.hasFailed = false)
    (may : k.May pod task (.updateTask task expected change)) (hs : change.status = .processing) :
    k.wrote change.status = .going true := by
  rw [hs]
  cases k with
  | idle failed => cases hk.symm.trans (may hs)
  | going started => rfl
  | lost => cases hs.symm.trans may.2.2
  | cancelled pending => exact may.elim
  | torn failed => cases hs.symm.trans may.2

/-- An actor finds its task dispatched only while it is. -/
theorem Answers.unattached (ha : Answers c number a b operation reply c')
    (before : a.track.attached = false) (held : c.shared.Has a.job.task (IsHeld pod true))
    (held' : c'.shared.Has a.job.task (IsHeld pod true)) : b.track.attached = false := by
  obtain ⟨record, hr, hstatus⟩ := held
  rw [ha.track]
  rcases news_of_effect a.track ha.effect with same | ⟨task, rfl, -, hk⟩ |
    ⟨task, expected, change, found, -, -, -, -, -, hk⟩ |
    ⟨task, expected, change, found, rfl, -, -, hf, promotes, hk⟩
  · exact same.attached.trans before
  · obtain rfl : task = a.job.task := ha.may.2.1
    rw [hk, hr]
    have status : record.status = .processing := hstatus.status
    simp [Track.read, status]
  · rw [hk]
    exact before
  · rw [hk]
    rcases ha.may.2 with ⟨rfl, -⟩ | ⟨-, he, -⟩
    · obtain ⟨record', hr', held'⟩ := held'
      obtain rfl := Option.some.inj (hr'.symm.trans hf)
      have status : change.status = .processing :=
        (TaskRecord.apply_status found change).symm.trans held'.status
      rw [status]
      exact before
    · exact absurd he promotes

/-- The executions of tasks that process are pursued, while an actor is answered. -/
theorem Reaches.isStarted_answered (hr : Reaches fleet storeUp start c) (hi : start.Initial)
    (healthy : start.shared.store.failures = 0) (before : c.IsStarted)
    (ha : Answers c number a b operation reply c') {choice : Option operation.Reply}
    (hs : c.shared.answer a.pod operation choice = some (reply, c'.shared)) : c'.IsStarted := by
  intro pod task held'
  have sound := hr.sound hi
  have up := hr.healthy healthy
  have hm : a ∈ c.actors := List.mem_of_getElem? ha.actor
  have hb : b ∈ c'.actors := List.mem_of_getElem? ha.self
  have obeys := hr.courses hi a hm
  obtain ⟨next, asks⟩ := ha.asks
  rcases ha.held_cases sound held' with held |
    ⟨record, expected, change, rfl, found, holds, status, rfl, rfl⟩
  · rcases before pod task held with ⟨x, hx, rfl, rfl, going⟩ | unattached
    · rcases ha.mem_stays_cases hx with rfl | stays
      · obtain ⟨record, found, held⟩ := held
        rcases ha.of_going sound up hs (obeys.may asks) going found held with
          ⟨going, -⟩ | ⟨going, -⟩ | ⟨record', hr', gone, -⟩
        · exact .inl ⟨b, hb, ha.pod, congrArg Job.task ha.job, going⟩
        · exact .inl ⟨b, hb, ha.pod, congrArg Job.task ha.job, going⟩
        · obtain ⟨found', hf', held'⟩ := held'
          obtain rfl := Option.some.inj (hr'.symm.trans hf')
          exact absurd held'.mem gone
      · exact .inl ⟨x, stays, rfl, rfl, going⟩
    · refine .inr fun x hx hp ht => ?_
      rcases ha.mem_cases hx with rfl | hx
      · replace hp : a.pod = pod := ha.pod.symm.trans hp
        obtain rfl : a.job.task = task := (congrArg Job.task ha.job).symm.trans ht
        exact ha.unattached (unattached a hm hp rfl) held held'
      · exact unattached x hx hp ht
  · refine .inl ⟨b, hb, ha.pod, congrArg Job.task ha.job, ?_⟩
    obtain ⟨rfl, -⟩ := written_of_answer up found holds hs
    rw [ha.course]
    exact Course.going_of_start (hr.unfailing hi healthy a hm) (obeys.may asks) status

/-- While the store does not fail, the executions of tasks that process are pursued. -/
theorem Reaches.isStarted (hr : Reaches fleet storeUp start c) (hi : start.Initial)
    (healthy : start.shared.store.failures = 0) : c.IsStarted := by
  apply hr.invariant
  · exact fun pod task _ => .inr fun a ha => absurd ha hi.not_mem
  · intro c c' event hr before _ hp
    cases event with
    | start pod job =>
      obtain ⟨-, rfl⟩ := State.of_start hp
      intro other task held
      refine (before other task held).imp ?_ fun unattached x hx => ?_
      · rintro ⟨x, hx, h⟩
        exact ⟨x, List.mem_append_left _ hx, h⟩
      · rcases List.mem_append.mp hx with hx | hx
        · exact unattached x hx
        · obtain rfl := List.mem_singleton.mp hx
          exact fun _ _ => rfl
    | answer number choice =>
      obtain ⟨a, b, operation, reply, ha, hs⟩ := (hr.sound hi).answers hp
      exact hr.isStarted_answered hi healthy before ha hs
    | handBack message =>
      obtain ⟨-, rfl⟩ := State.of_handBack hp
      exact before
    | move m =>
      obtain ⟨shared, hm, rfl⟩ := State.of_move hp
      exact fun pod task held => before pod task (held_before_move hm held)

end GridAgent.Cluster
