import GridAgent.Proofs.Cluster.Courses
import GridAgent.Proofs.Ownership

/-!
# Messages that come back

A handler that retries its task decides on its message only when the task is succeeded. Until then
the task is torn, nothing is decided, and the handler can end in a failure only: its message goes back
to the queue, and is neither done with nor rejected.
-/

namespace GridAgent.Cluster

open Agent Track Queue

variable {fleet : Fleet} {allowed : Event → Prop} {start c c' d : State} {number : Nat} {a b x : Actor}
  {operation : Operation} {reply : operation.Reply} {pod : PodId} {task : TaskId}
  {message : DeliveryId} {k : Course}

/-! Torn tasks. -/

/-- The answer ends a succession: the successor was out of creation already, someone else took it out
of creation, or it is pushed. -/
def Answered.concludes : Answered → Bool
  | ⟨.agent (.createSuccessor ..), .ok (t : TaskRecord)⟩ => t.status ≠ .creating
  | ⟨.agent (.updateTask ..), .error (.conflict _)⟩ => true
  | ⟨.agent (.push _), .ok _⟩ => true
  | _ => false

/-- A task that is retried is torn. -/
theorem Course.torn_of_retries {expected : Expectation} {change : TaskUpdate}
    (may : k.MayUpdate pod task task expected change) (retries : change.status = .retried) :
    (k.wrote change.status).IsTorn := by
  rw [retries]
  cases k with
  | idle failed => exact ⟨failed, rfl⟩
  | going started => exact ⟨false, rfl⟩
  | lost => cases retries.symm.trans may.2.2
  | cancelled pending => exact may.elim
  | torn failed => cases retries.symm.trans may.2

/-- A torn task stays torn until the succession ends. -/
theorem Course.torn_of_note {f : Bool} (may : (courseConduct pod task).may (.torn f) operation)
    (going : Answered.concludes ⟨operation, reply⟩ = false) :
    (courseConduct pod task).note (.torn f) operation reply = .torn f := by
  rcases operation with request | request
  · cases request with
    | register other => cases may
    | updateTask other expected change =>
      rcases reply with (missing | found | reason) | t
      · rfl
      · cases going
      · rfl
      · rfl
    | createSuccessor parent candidate =>
      rcases reply with cause | t
      · rfl
      · exact if_pos (Decidable.not_not.mp (of_decide_eq_false going))
    | push tasks =>
      rcases reply with cause | _
      · rfl
      · cases going
    | abandon other => rcases reply with _ | _ <;> rfl
    | _ => rfl
  · cases request with
    | readTask other => rcases reply with _ | _ <;> rfl
    | _ => rfl

/-- Every actor makes only calls that the course of its execution allows. -/
theorem Reaches.may_course (hr : Reaches fleet allowed start c) (hi : start.Initial)
    (ha : Answers c number a b operation reply c') :
    (courseConduct a.pod a.job.task).may a.course operation := by
  obtain ⟨next, asks⟩ := ha.asks
  exact (hr.courses hi a (List.mem_of_getElem? ha.actor)).may asks

/-! Settling. -/

/-- A message about a task goes back to the queue, and is neither done with nor rejected. -/
structure Releases (fleet : Fleet) (c : State) (message : DeliveryId) (task : TaskId) (c' : State) :
    Prop where
  /-- Something happens. -/
  performed : ∃ event, c.perform fleet event = some c'
  /-- The message was held. -/
  held : ∃ delivery, c.shared.queue.held? message = some delivery ∧ delivery.task = task
  /-- It is held no more. -/
  gone : c'.shared.queue.held? message = none
  /-- It is settled with nothing decided. -/
  settlements : c'.shared.queue.settlements = c.shared.queue.settlements ++ [(task, .waiting)]
  /-- It is not done with. -/
  acked : c'.shared.queue.acked = c.shared.queue.acked
  /-- It is not rejected. -/
  deadLetters : c'.shared.queue.deadLetters = c.shared.queue.deadLetters
  /-- It is visible again, or will be. -/
  back : task ∈ c'.shared.queue.ready ∨ ∃ r ∈ c'.shared.queue.delayed, r.task = task

/-- An undecided message is released when it is settled. -/
theorem releases_of_settle {event : Event} {delivery : Delivery}
    (performed : c.perform fleet event = some c')
    (held : c.shared.queue.held? message = some delivery)
    (undecided : delivery.disposition = .waiting)
    (settled : c'.shared.queue = c.shared.queue.settle message c.shared.time) :
    Releases fleet c message delivery.task c' := by
  have gone := held?_settle c.shared.queue message c.shared.time message
  rw [if_pos rfl, ← settled] at gone
  unfold settle at settled
  rw [held] at settled
  simp only [undecided, Disposition.settlement, Queue.release, Queue.push] at settled
  split at settled
  · refine ⟨⟨event, performed⟩, ⟨delivery, held, rfl⟩, gone, ?_, ?_, ?_, .inl ?_⟩ <;> rw [settled]
    exact List.mem_append_right _ List.mem_cons_self
  · refine ⟨⟨event, performed⟩, ⟨delivery, held, rfl⟩, gone, ?_, ?_, ?_, .inr ?_⟩ <;> rw [settled]
    exact ⟨_, List.mem_append_right _ List.mem_cons_self, rfl⟩

/-- Between two states a message about a task was released. -/
def HasReleased (fleet : Fleet) (allowed : Event → Prop) (c : State) (message : DeliveryId)
    (task : TaskId) (c' : State) : Prop :=
  ∃ d d', Reaches fleet allowed c d ∧ Releases fleet d message task d' ∧ Reaches fleet allowed d' c'

theorem HasReleased.step (h : HasReleased fleet allowed c message task c') {event : Event}
    (permitted : allowed event) (performed : c'.perform fleet event = some d) :
    HasReleased fleet allowed c message task d := by
  obtain ⟨e, e', before, releases, after⟩ := h
  exact ⟨e, e', before, releases, .step event after permitted performed⟩

/-! Handlers of torn tasks. -/

/-- The task of an actor is torn, nothing is decided on its message, and if it has settled the message
it has released it since a state. -/
structure Actor.LeavesTorn (fleet : Fleet) (allowed : Event → Prop) (c c' : State) (x : Actor) :
    Prop where
  /-- The task is torn. -/
  torn : x.course.IsTorn
  /-- Nothing is decided. -/
  undecided : x.track.disposed = none
  /-- The message is released if it is settled. -/
  released : x.track.settled = true → ∀ message, x.job.message? = some message →
    HasReleased fleet allowed c message x.job.task c'

/-- A handler that retries its task leaves it torn. -/
theorem Applies.leavesTorn {expected : Expectation} {change : TaskUpdate}
    (hu : Applies fleet c number a expected change c') (hr : Reaches fleet allowed start c)
    (hi : start.Initial) (retries : change.status = .retried) :
    ∃ b updated, c'.actors[number]? = some b ∧ b.job = a.job ∧
      b.past = ⟨.agent (.updateTask a.job.task expected change), .ok updated⟩ :: a.past ∧
      b.LeavesTorn fleet allowed c' c' := by
  obtain ⟨b, stored, ha⟩ := hu.answers (hr.sound hi)
  have course := ha.course
  have torn := Course.torn_of_retries (hr.may_course hi ha) retries
  rcases ha.may.2 with ⟨-, free, hw⟩ | ⟨-, -, now, rfl⟩
  · have track := ha.track.trans (updated_ok hw.ne_promotion a.track a.job.task change stored)
    refine ⟨b, stored, ha.self, ha.job, ha.past, ?_, ?_, fun settled => ?_⟩
    · rw [course]
      exact torn
    · rw [track, wrote_disposed]
      exact free.disposed
    · rw [track, wrote_settled, free.settled] at settled
      cases settled
  · cases retries

/-- Until the succession ends a handler leaves its task torn. -/
theorem Actor.LeavesTorn.answered {first : State} (h : x.LeavesTorn fleet allowed first c)
    (hr : Reaches fleet allowed start c) (hi : start.Initial) (hf : Reaches fleet allowed first c)
    {event : Event} (permitted : allowed event) (performed : c.perform fleet event = some c')
    (ha : Answers c number x b operation reply c')
    (going : Answered.concludes ⟨operation, reply⟩ = false) : b.LeavesTorn fleet allowed first c' := by
  obtain ⟨f, torn⟩ := h.torn
  have may := hr.may_course hi ha
  have custody := hr.custody hi
  rw [torn] at may
  have course : b.course = .torn f := by
    rw [ha.course, torn]
    exact Course.torn_of_note may going
  have track := ha.track
  rcases queue_of_effect x.track custody.numbered ha.effect with ⟨-, disposed, settled⟩ |
    ⟨message, disposition, rfl, -⟩ | ⟨message, rfl, queue, noted⟩
  · refine ⟨⟨f, course⟩, ?_, fun hs m hm => ?_⟩
    · rw [track, disposed]
      exact h.undecided
    · rw [track, settled] at hs
      rw [ha.job] at hm ⊢
      exact (h.released hs m hm).step permitted performed
  · exact absurd ⟨f, rfl⟩ may
  · refine ⟨⟨f, course⟩, ?_, fun _ m hm => ?_⟩
    · rw [track, noted]
      exact h.undecided
    · obtain ⟨own, -, unsettled, -⟩ := ha.may.2
      rw [ha.job] at hm ⊢
      obtain rfl := Option.some.inj (own.symm.trans hm)
      have keeps := custody.keeps x (List.mem_of_getElem? ha.actor) message own
      obtain ⟨delivery, held, same, disposition⟩ := keeps.held unsettled
      rw [h.undecided] at disposition
      rw [← same]
      exact ⟨c, c', hf, releases_of_settle performed held disposition queue, .refl⟩

/-- A handler that retried its task leaves it torn as long as the succession has not ended. -/
theorem Reaches.leavesTorn {first : State} (hf : Reaches fleet allowed start first)
    (hi : start.Initial) (hb : first.actors[number]? = some b)
    (h : b.LeavesTorn fleet allowed first first) (hr : Reaches fleet allowed first c) :
    ∃ x later, c.actors[number]? = some x ∧ x.job = b.job ∧ x.past = later ++ b.past ∧
      ((∀ y ∈ later, y.concludes = false) → x.LeavesTorn fleet allowed first c) := by
  induction hr with
  | refl => exact ⟨b, [], hb, rfl, rfl, fun _ => h⟩
  | step event before permitted performed ih =>
    rename_i c c'
    obtain ⟨x, later, hx, job, past, torn⟩ := ih
    have run := hf.trans before
    rcases (run.sound hi).stays_or_answered performed hx with hx' |
      ⟨y, operation, reply, choice, ha, -⟩
    · refine ⟨x, later, hx', job, past, fun going => ?_⟩
      have here := torn going
      exact ⟨here.torn, here.undecided, fun hs m hm => (here.released hs m hm).step permitted performed⟩
    · refine ⟨y, ⟨operation, reply⟩ :: later, ha.self, ha.job.trans job, ?_, fun going => ?_⟩
      · rw [ha.past, past]
        rfl
      · have here := torn fun z hz => going z (List.mem_cons_of_mem _ hz)
        exact here.answered run hi before permitted performed ha (going _ List.mem_cons_self)

/-- A handler that returns and leaves its task torn has failed, and released its message. -/
theorem Actor.LeavesTorn.returned {first : State} (h : x.LeavesTorn fleet allowed first c)
    (hr : Reaches fleet allowed start c) (hi : start.Initial) (hx : x ∈ c.actors)
    (job : x.job = .handle message task) {outcome : Except AgentError HandlerReport}
    (returned : x.outcome? = some outcome) :
    (∃ cause, outcome = .error cause) ∧ HasReleased fleet allowed first message task c := by
  obtain ⟨f, torn⟩ := h.torn
  constructor
  · rcases outcome with cause | report
    · exact ⟨cause, rfl⟩
    · have reports : Reports report x.course := hr.closes hi hx returned
      rw [torn] at reports
      rcases reports with ⟨_, idle⟩ | ⟨cancelled, -⟩
      · cases idle
      · cases cancelled
  · have follows := (hr.sound hi).follows x hx
    have released := h.released
    obtain ⟨pod, job', past, rest⟩ := x
    obtain rfl : job' = .handle message task := job
    cases rest with
    | done value => exact released (follows.2 rfl) message rfl
    | call operation next => cases returned

end GridAgent.Cluster
