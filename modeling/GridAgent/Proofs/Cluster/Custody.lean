import GridAgent.Proofs.Cluster.Soundness
import GridAgent.Proofs.Queue.Messages

/-!
# Who holds which message

Each handler has a message of its own, which is in its hands until it settles it and says what the
handler has decided. A message that no handler has begun with is undecided.
-/

namespace GridAgent.Cluster

open Agent Track Queue

variable {fleet : Fleet} {allowed : Event → Prop} {start c c' : State} {pod : PodId}
  {s s' : Shared} {message : DeliveryId} {number : Nat} {a b : Actor} {operation : Operation}
  {reply : operation.Reply}

/-- What a call does to the queue: it goes on, or a message is decided on or settled. -/
theorem queue_of_effect (k : Track) {operation : Operation} {reply : operation.Reply}
    (hn : s.queue.Numbered) (h : Effect pod s operation reply s') :
    (GoesOn s.queue s'.queue ∧ (k.note pod operation reply).disposed = k.disposed ∧
      (k.note pod operation reply).settled = k.settled) ∨
    (∃ message disposition, operation = .agent (.dispose message disposition) ∧
      s'.queue = (s.queue.dispose message disposition).2 ∧
      k.note pod operation reply = k.noteAgent pod (.dispose message disposition)
        (s.queue.dispose message disposition).1) ∨
    (∃ message, operation = .agent (.settle message) ∧
      s'.queue = s.queue.settle message s.time ∧
      k.note pod operation reply = { k with settled := true }) := by
  cases h with
  | silent silent alike =>
    have hk : k.Alike (k.note pod operation reply) := alike_note_of_silent k silent
    obtain ⟨failures, scratches, rfl⟩ := alike
    exact .inl ⟨.refl hn, hk.disposed, hk.settled⟩
  | read task =>
    simp only [note, noteAgent]
    rw [read_eq]
    exact .inl ⟨.refl hn, rfl, rfl⟩
  | lost task expected change record found unexpected =>
    simp only [note, noteAgent, updated]
    split <;> exact .inl ⟨.refl hn, rfl, rfl⟩
  | written task expected change record found holds =>
    simp only [note, noteAgent, updated]
    split
    · exact .inl ⟨.refl hn, rfl, rfl⟩
    · exact .inl ⟨.refl hn, wrote_disposed _ _, wrote_settled _ _⟩
  | pushed tasks => exact .inl ⟨push_goesOn hn tasks, rfl, rfl⟩
  | paid tasks => exact .inl ⟨push_goesOn hn tasks, rfl, rfl⟩
  | disposed message disposition => exact .inr (.inl ⟨message, disposition, rfl, rfl, rfl⟩)
  | settled message => exact .inr (.inr ⟨message, rfl, rfl, rfl⟩)
  | _ => exact .inl ⟨.refl hn, rfl, rfl⟩

/-- Moves let the queue go on. -/
theorem queue_of_move (hn : s.queue.Numbered) {m : Move} (h : s.move m = some s') :
    GoesOn s.queue s'.queue := by
  cases m with
  | pull most =>
    cases h
    exact take_goesOn hn most
  | deliver task =>
    cases h
    exact deliver_goesOn hn task
  | elapse millis =>
    cases h
    exact arrive_goesOn hn _
  | push tasks =>
    cases h
    exact push_goesOn hn tasks
  | failPulls pulls =>
    cases h
    exact goesOn_of_same hn rfl rfl fun _ h => h
  | cancel other expected =>
    simp only [Shared.move] at h
    split at h <;> cases h
    exact .refl hn
  | insert new =>
    simp only [Shared.move] at h
    split at h <;> cases h
    exact .refl hn
  | _ =>
    cases h
    exact .refl hn

/-- The message of a handler: it was delivered, and it is in the hands of the handler, saying what the
handler has decided, until the handler settles it. -/
structure Actor.Keeps (q : Queue) (x : Actor) (message : DeliveryId) : Prop where
  /-- It was delivered. -/
  known : message ≤ q.delivered
  /-- It is held. -/
  held : x.track.settled = false → ∃ delivery, q.held? message = some delivery ∧
    delivery.task = x.job.task ∧ delivery.disposition = x.track.disposed.getD .waiting
  /-- It is settled. -/
  gone : x.track.settled = true → q.held? message = none

/-- Nothing changes about a message that stays as it is. -/
theorem Actor.Keeps.stays {q q' : Queue} {x y : Actor} (h : x.Keeps q message)
    (hd : q.delivered ≤ q'.delivered) (hh : q'.held? message = q.held? message)
    (job : y.job = x.job) (disposed : y.track.disposed = x.track.disposed)
    (settled : y.track.settled = x.track.settled) : y.Keeps q' message := by
  refine ⟨Nat.le_trans h.known hd, fun hs => ?_, fun hs => ?_⟩
  · rw [hh, job, disposed]
    exact h.held (settled.symm.trans hs)
  · rw [hh]
    exact h.gone (settled.symm.trans hs)

/-- The actors handle the same message. -/
def Actor.SharesMessage (x y : Actor) : Prop :=
  ∃ message, x.job.message? = some message ∧ y.job.message? = some message

theorem Actor.SharesMessage.symm {x y : Actor} (h : x.SharesMessage y) : y.SharesMessage x := by
  obtain ⟨message, hx, hy⟩ := h
  exact ⟨message, hy, hx⟩

/-- Every handler keeps its own message, and messages that no handler has begun with are undecided. -/
structure Custody (c : State) : Prop where
  /-- Deliveries are numbered. -/
  numbered : c.shared.queue.Numbered
  /-- Every handler keeps its message. -/
  keeps : ∀ x ∈ c.actors, ∀ message, x.job.message? = some message →
    x.Keeps c.shared.queue message
  /-- No two handlers have the same message. -/
  distinct : c.Apart Actor.SharesMessage
  /-- Messages without a handler are undecided. -/
  fresh : ∀ message delivery, c.shared.queue.held? message = some delivery →
    (∀ x ∈ c.actors, x.job.message? ≠ some message) → delivery.decided = none

/-- Every actor keeps its job. -/
theorem Answers.job_after {number : Nat} {a b y : Actor} {operation : Operation}
    {reply : operation.Reply} (ha : Answers c number a b operation reply c')
    (hy : y ∈ c.actors) : ∃ x ∈ c'.actors, x.job = y.job := by
  rcases ha.mem_stays_cases hy with rfl | stays
  · exact ⟨b, List.mem_of_getElem? ha.self, ha.job⟩
  · exact ⟨y, stays, rfl⟩

/-- Custody is kept when an actor is answered, if every message is where it should be. -/
theorem Custody.of_answers (h : Custody c) (ha : Answers c number a b operation reply c')
    (numbered : c'.shared.queue.Numbered)
    (own : ∀ message, a.job.message? = some message → b.Keeps c'.shared.queue message)
    (others : ∀ x ∈ c.actors, ∀ message, x.job.message? = some message →
      a.job.message? ≠ some message → x.Keeps c'.shared.queue message)
    (fresh : ∀ message delivery, c'.shared.queue.held? message = some delivery →
      (∀ x ∈ c.actors, x.job.message? ≠ some message) → delivery.decided = none) :
    Custody c' := by
  refine ⟨numbered, ?_, ?_, ?_⟩
  · intro x hx message hm
    obtain ⟨i, hx⟩ := List.mem_iff_getElem?.mp hx
    rcases ha.cases hx with ⟨-, rfl⟩ | ⟨hi, hx⟩
    · exact own message (ha.job ▸ hm)
    · refine others x (List.mem_of_getElem? hx) message hm fun hm' => hi ?_
      exact h.distinct i number x a hx ha.actor ⟨message, hm, hm'⟩
  · refine h.distinct.answered (fun _ _ => Actor.SharesMessage.symm) ha ?_
    rintro i x hx ⟨message, hb, hmx⟩
    exact h.distinct i number x a hx ha.actor ⟨message, hmx, ha.job ▸ hb⟩
  · intro message delivery hd hm
    refine fresh message delivery hd fun x hx hmx => ?_
    obtain ⟨y, hy, e⟩ := ha.job_after hx
    exact hm y hy (e ▸ hmx)

/-- Custody is kept by an answer that lets the queue go on and decides nothing. -/
theorem Custody.of_goesOn (h : Custody c) (ha : Answers c number a b operation reply c')
    (goes : GoesOn c.shared.queue c'.shared.queue) (disposed : b.track.disposed = a.track.disposed)
    (settled : b.track.settled = a.track.settled) : Custody c' := by
  have hm := List.mem_of_getElem? ha.actor
  refine h.of_answers ha (goes.numbered h.numbered) ?_ ?_ ?_
  · intro message hj
    have keeps := h.keeps a hm message hj
    exact keeps.stays goes.delivered (goes.old message keeps.known) ha.job disposed settled
  · intro x hx message hj _
    have keeps := h.keeps x hx message hj
    exact keeps.stays goes.delivered (goes.old message keeps.known) rfl rfl rfl
  · intro message delivery hd hj
    exact goes.undecided hd fun known => h.fresh message delivery known hj

/-- Custody is kept by an answer that changes what is held of the message of the actor only. -/
theorem Custody.of_own (h : Custody c) (ha : Answers c number a b operation reply c')
    (hj : a.job.message? = some message)
    (delivered : c'.shared.queue.delivered = c.shared.queue.delivered)
    (other : ∀ m, m ≠ message → c'.shared.queue.held? m = c.shared.queue.held? m)
    (own : b.Keeps c'.shared.queue message) : Custody c' := by
  have hm := List.mem_of_getElem? ha.actor
  refine h.of_answers ha ?_ ?_ ?_ ?_
  · intro m d hd
    by_cases e : m = message
    · rw [e]
      exact own.known
    · rw [delivered]
      exact h.numbered m d ((other m e).symm.trans hd)
  · intro m hj'
    obtain rfl := Option.some.inj (hj.symm.trans hj')
    exact own
  · intro x hx m hjx hne
    have e : m ≠ message := by
      rintro rfl
      exact hne hj
    exact (h.keeps x hx m hjx).stays (Nat.le_of_eq delivered.symm) (other m e) rfl rfl rfl
  · intro m d hd hj'
    have e : m ≠ message := by
      rintro rfl
      exact hj' a hm hj
    exact h.fresh m d ((other m e).symm.trans hd) hj'

/-- A handler keeps the message that it decides on. -/
theorem Actor.Keeps.disposed {q : Queue} (h : a.Keeps q message)
    (unsettled : a.track.settled = false) {disposition : Disposition} (job : b.job = a.job)
    (noted : b.track =
      a.track.noteAgent pod (.dispose message disposition) (q.dispose message disposition).1) :
    b.Keeps (q.dispose message disposition).2 message := by
  have delivered := (dispose_same q message disposition).2.2
  obtain ⟨delivery, hd, task, decided⟩ := h.held unsettled
  obtain ⟨after, hd', task', cases⟩ := held?_dispose_self hd disposition
  refine ⟨Nat.le_trans h.known (Nat.le_of_eq delivered.symm), fun _ => ?_, fun hs => ?_⟩
  · refine ⟨after, hd', task'.trans (task.trans (congrArg Job.task job).symm), ?_⟩
    rcases cases with ⟨accepted, hs⟩ | ⟨⟨cause, refused⟩, rfl⟩
    · rw [noted, accepted]
      exact hs
    · rw [noted, refused]
      exact decided
  · rw [noted, noteAgent_dispose] at hs
    rw [unsettled] at hs
    cases hs

/-- A handler keeps the message that it settles. -/
theorem Actor.Keeps.settled {q : Queue} (h : a.Keeps q message) (now : Nat)
    (settled : b.track.settled = true) : b.Keeps (q.settle message now) message := by
  have delivered := delivered_settle q message now
  refine ⟨Nat.le_trans h.known (Nat.le_of_eq delivered.symm), fun hs => ?_, fun _ => ?_⟩
  · rw [settled] at hs
    cases hs
  · exact (held?_settle q message now message).trans (if_pos rfl)

/-- Custody is kept when an actor is answered. -/
theorem Custody.answered (h : Custody c) (ha : Answers c number a b operation reply c') :
    Custody c' := by
  have hm := List.mem_of_getElem? ha.actor
  have may := ha.may
  rcases queue_of_effect a.track h.numbered ha.effect with ⟨goes, disposed, settled⟩ |
    ⟨message, disposition, rfl, queue, hk⟩ | ⟨message, rfl, queue, hk⟩
  · rw [← ha.track] at disposed settled
    exact h.of_goesOn ha goes disposed settled
  · rw [← ha.track] at hk
    obtain ⟨hj, -, -, unsettled⟩ := may.2
    refine h.of_own ha hj ?_ (fun m e => ?_) ?_ <;> rw [queue]
    · exact (dispose_same _ _ _).2.2
    · exact held?_dispose _ _ _ e
    · exact (h.keeps a hm message hj).disposed unsettled ha.job hk
  · rw [← ha.track] at hk
    obtain ⟨hj, -⟩ := may.2
    refine h.of_own ha hj ?_ (fun m e => ?_) ?_ <;> rw [queue]
    · exact delivered_settle _ _ _
    · exact (held?_settle _ _ _ m).trans (if_neg e)
    · exact (h.keeps a hm message hj).settled _ (by rw [hk])

/-- A job begins with nothing decided and nothing settled. -/
theorem Custody.started (h : Custody c) {settings : Settings} {job : Job} {pod : PodId}
    (hj : c.canStart pod job = true) :
    Custody { c with actors := c.actors ++ [Actor.start settings job] } := by
  have hand (message : DeliveryId) (hm : (Actor.start settings job).job.message? = some message) :
      (∃ delivery, c.shared.queue.held? message = some delivery ∧ delivery.task = job.task) ∧
        ∀ x ∈ c.actors, x.job.message? ≠ some message := by
    cases job with
    | handle first task =>
      obtain rfl := Option.some.inj hm
      simp only [State.canStart, State.isHandled, Bool.and_eq_true, decide_eq_true_eq,
        Bool.not_eq_true', List.any_eq_false] at hj
      obtain ⟨delivery, hd, ht⟩ := Option.map_eq_some_iff.mp hj.1
      exact ⟨⟨delivery, hd, ht⟩, hj.2⟩
    | acquire task => cases hm
    | stop run task => cases hm
    | watch run task => cases hm
  refine ⟨h.numbered, ?_, ?_, ?_⟩
  · intro x hx message hm
    rcases List.mem_append.mp hx with hx | hx
    · exact h.keeps x hx message hm
    · obtain rfl := List.mem_singleton.mp hx
      obtain ⟨⟨delivery, hd, ht⟩, unhandled⟩ := hand message hm
      refine ⟨h.numbered message delivery hd, fun _ => ⟨delivery, hd, ht, ?_⟩, nofun⟩
      unfold Delivery.disposition
      rw [h.fresh message delivery hd unhandled]
      rfl
  · refine h.distinct.started (fun _ _ => Actor.SharesMessage.symm) ?_
    rintro x hx ⟨message, hm, hmx⟩
    exact (hand message hm).2 x hx hmx
  · intro message delivery hd hm
    exact h.fresh message delivery hd fun x hx => hm x (List.mem_append_left _ hx)

/-- Custody is kept when a message that nobody handles is handed back. -/
theorem Custody.handedBack (h : Custody c) (hm : c.isHandled message = false) (now : Nat) :
    Custody { c with shared := { c.shared with queue := c.shared.queue.settle message now } } := by
  have unhandled : ∀ x ∈ c.actors, x.job.message? ≠ some message := by
    simpa only [State.isHandled, List.any_eq_false, decide_eq_true_eq] using hm
  have held (m : DeliveryId) := held?_settle c.shared.queue message now m
  have delivered := delivered_settle c.shared.queue message now
  refine ⟨?_, ?_, h.distinct, ?_⟩
  · intro m d hd
    rw [held] at hd
    rw [delivered]
    split at hd
    · cases hd
    · exact h.numbered m d hd
  · intro x hx m hj
    have e : m ≠ message := by
      rintro rfl
      exact unhandled x hx hj
    exact (h.keeps x hx m hj).stays (Nat.le_of_eq delivered.symm) ((held m).trans (if_neg e))
      rfl rfl rfl
  · intro m d hd
    rw [held] at hd
    split at hd
    · cases hd
    · exact h.fresh m d hd

/-- Custody is kept by moves. -/
theorem Custody.moved (h : Custody c) {m : Move} (hm : c.shared.move m = some s') :
    Custody { c with shared := s' } := by
  have goes := queue_of_move h.numbered hm
  refine ⟨goes.numbered h.numbered, ?_, h.distinct, ?_⟩
  · intro x hx message hj
    have keeps := h.keeps x hx message hj
    exact keeps.stays goes.delivered (goes.old message keeps.known) rfl rfl rfl
  · intro message delivery hd hj
    exact goes.undecided hd fun known => h.fresh message delivery known hj

/-- Custody is kept. -/
theorem Custody.perform (h : Custody c) (hs : Sound c) {event : Event}
    (hp : c.perform fleet event = some c') : Custody c' := by
  cases event with
  | start pod job =>
    obtain ⟨hj, rfl⟩ := State.of_start hp
    exact h.started hj
  | answer number choice =>
    obtain ⟨a, b, operation, reply, ha, -⟩ := hs.answers hp
    exact h.answered ha
  | handBack message =>
    obtain ⟨hm, rfl⟩ := State.of_handBack hp
    exact h.handedBack hm _
  | move m =>
    obtain ⟨shared, hm, rfl⟩ := State.of_move hp
    exact h.moved hm

theorem State.Initial.custody (h : c.Initial) : Custody c := by
  refine ⟨h.numbered, fun x hx => absurd hx h.not_mem, h.apart, ?_⟩
  intro message delivery hd _
  exact h.undecided message delivery hd

/-- In every reached cluster every handler keeps its own message. -/
theorem Reaches.custody (hr : Reaches fleet allowed start c) (h : start.Initial) : Custody c :=
  hr.invariant h.custody fun _ _ _ hr hc _ hp => hc.perform (hr.sound h) hp

/-- Nobody decides to wait. -/
theorem Reaches.noneWaits (hr : Reaches fleet allowed start c) (h : start.Initial) :
    c.shared.queue.NoneWaits := by
  apply hr.invariant
  · intro message delivery hd hw
    cases (h.undecided message delivery hd).symm.trans hw
  · intro c c' event hr before _ hp
    have numbered := (hr.custody h).numbered
    cases event with
    | start pod job =>
      obtain ⟨-, rfl⟩ := State.of_start hp
      exact before
    | answer number choice =>
      obtain ⟨a, b, operation, reply, ha, -⟩ := (hr.sound h).answers hp
      rcases queue_of_effect a.track numbered ha.effect with ⟨goes, -⟩ |
        ⟨message, disposition, -, hq, -⟩ | ⟨message, -, hq, -⟩
      · exact before.goesOn goes
      · rw [hq]
        exact before.disposed message disposition
      · rw [hq]
        exact before.settled message _
    | handBack message =>
      obtain ⟨-, rfl⟩ := State.of_handBack hp
      exact before.settled message _
    | move m =>
      obtain ⟨shared, hm, rfl⟩ := State.of_move hp
      exact before.goesOn (queue_of_move numbered hm)

/-- Decisions of handlers are accepted: whoever decides has not decided before. -/
theorem Reaches.dispose_accepted (hr : Reaches fleet allowed start c) (h : start.Initial)
    {disposition : Disposition} {reply : (Operation.agent (.dispose message disposition)).Reply}
    (ha : Answers c number a b (.agent (.dispose message disposition)) reply c') :
    reply = .ok () := by
  obtain ⟨-, job, -, undecided, unsettled⟩ := ha.may
  have keeps := (hr.custody h).keeps a (List.mem_of_getElem? ha.actor) message job
  obtain ⟨delivery, hd, -, waits⟩ := keeps.held unsettled
  rw [undecided] at waits
  have accepted := (hr.noneWaits h).dispose_accepted hd waits disposition
  have effect := ha.effect
  generalize c'.shared = s' at effect
  cases effect with
  | silent silent alike => cases silent
  | disposed => exact accepted

end GridAgent.Cluster
