import GridAgent.Proofs.Cluster.Custody

/-!
# Settlements

A handler settles its own message and no other, and it has done so once when it returns. A message that
no handler has begun with stays as it is until a handler begins with it or it is handed back.
-/

namespace GridAgent.Cluster

open Agent Queue

variable {fleet : Fleet} {allowed : Event → Prop} {start c c' : State} {message : DeliveryId}
  {number : Nat} {a b : Actor} {operation : Operation} {reply : operation.Reply}

/-- The message that an event gives to a handler or takes from the agent that pulled it. -/
def Event.message? : Event → Option DeliveryId
  | .start _ job => job.message?
  | .handBack message => some message
  | _ => none

/-- The message that a call settles. -/
def Operation.settled? : Operation → Option DeliveryId
  | .agent (.settle message) => some message
  | _ => none

/-- The messages that an actor has settled, the latest first. -/
def Actor.settlements (a : Actor) : List DeliveryId := a.past.filterMap fun x => x.operation.settled?

/-- The handler has broken off: nothing follows. -/
def Actor.isBroken (a : Actor) : Bool :=
  match a.rest with
  | .call (.agent (.breakOff _)) _ => true
  | _ => false

theorem isHandled_eq_false :
    c.isHandled message = false ↔ ∀ x ∈ c.actors, x.job.message? ≠ some message := by
  simp only [State.isHandled, List.any_eq_false, decide_eq_true_eq, ne_eq]

/-! Messages without a handler. -/

/-- Numbers of deliveries grow. -/
theorem Custody.delivered_le (h : Custody c) (hs : Sound c) {event : Event}
    (hp : c.perform fleet event = some c') :
    c.shared.queue.delivered ≤ c'.shared.queue.delivered := by
  cases event with
  | start pod job =>
    obtain ⟨-, rfl⟩ := State.of_start hp
    exact Nat.le_refl _
  | answer other choice =>
    obtain ⟨a, b, operation, reply, ha, -⟩ := hs.answers hp
    rcases queue_of_effect a.track h.numbered ha.effect with ⟨goes, -⟩ | ⟨own, _, -, queue, -⟩ |
      ⟨own, -, queue, -⟩
    · exact goes.delivered
    · rw [queue]
      exact Nat.le_of_eq (dispose_same _ _ _).2.2.symm
    · rw [queue]
      exact Nat.le_of_eq (delivered_settle _ _ _).symm
  | handBack other =>
    obtain ⟨-, rfl⟩ := State.of_handBack hp
    exact Nat.le_of_eq (delivered_settle _ _ _).symm
  | move m =>
    obtain ⟨shared, hm, rfl⟩ := State.of_move hp
    exact (queue_of_move h.numbered hm).delivered

/-- A call leaves messages that no handler has begun with. -/
theorem Custody.held?_answered (h : Custody c) (ha : Answers c number a b operation reply c')
    (known : message ≤ c.shared.queue.delivered) (free : c.isHandled message = false) :
    c'.shared.queue.held? message = c.shared.queue.held? message := by
  have other (own : DeliveryId) (ho : a.job.message? = some own) : message ≠ own := by
    rintro rfl
    exact isHandled_eq_false.mp free a (List.mem_of_getElem? ha.actor) ho
  have may := ha.may
  rcases queue_of_effect a.track h.numbered ha.effect with ⟨goes, -⟩ |
    ⟨own, disposition, rfl, queue, -⟩ | ⟨own, rfl, queue, -⟩
  · exact goes.old message known
  · rw [queue]
    exact held?_dispose _ _ _ (other own may.2.1)
  · rw [queue]
    exact (held?_settle _ _ _ message).trans (if_neg (other own may.2.1))

/-- A message that no handler has begun with stays as it is, unless the event is about it. -/
theorem Custody.untouched (h : Custody c) (hs : Sound c) {event : Event}
    (hp : c.perform fleet event = some c') (known : message ≤ c.shared.queue.delivered)
    (free : c.isHandled message = false) (spared : event.message? ≠ some message) :
    c'.shared.queue.held? message = c.shared.queue.held? message ∧
      c'.isHandled message = false := by
  cases event with
  | start pod job =>
    obtain ⟨-, rfl⟩ := State.of_start hp
    refine ⟨rfl, isHandled_eq_false.mpr fun x hx => ?_⟩
    rcases List.mem_append.mp hx with hx | hx
    · exact isHandled_eq_false.mp free x hx
    · rw [List.mem_singleton.mp hx]
      exact spared
  | answer other choice =>
    obtain ⟨a, b, operation, reply, ha, -⟩ := hs.answers hp
    refine ⟨h.held?_answered ha known free, isHandled_eq_false.mpr fun x hx => ?_⟩
    rcases ha.mem_cases hx with rfl | hx
    · rw [ha.job]
      exact isHandled_eq_false.mp free a (List.mem_of_getElem? ha.actor)
    · exact isHandled_eq_false.mp free x hx
  | handBack other =>
    obtain ⟨-, rfl⟩ := State.of_handBack hp
    refine ⟨(held?_settle _ _ _ message).trans (if_neg ?_), free⟩
    rintro rfl
    exact spared rfl
  | move m =>
    obtain ⟨shared, hm, rfl⟩ := State.of_move hp
    exact ⟨(queue_of_move h.numbered hm).old message known, free⟩

/-! What handlers settle. -/

/-- Only a settlement is noted as one. -/
theorem Answers.settled (ha : Answers c number a b operation reply c')
    (numbered : c.shared.queue.Numbered) (none : operation.settled? = none) :
    b.track.settled = a.track.settled := by
  rw [ha.track]
  rcases queue_of_effect a.track numbered ha.effect with ⟨-, -, settled⟩ |
    ⟨own, disposition, -, -, hk⟩ | ⟨own, rfl, -, -⟩
  · exact settled
  · rw [hk, Track.noteAgent_dispose]
  · cases none

/-- A handler settles its own message, once. -/
theorem Reaches.settlements (hr : Reaches fleet allowed start c) (hi : start.Initial) :
    ∀ a ∈ c.actors, a.settlements = if a.track.settled then a.job.message?.toList else [] := by
  refine hr.all_actors hi (fun pod job _ => rfl) fun {_ _ _ a b operation _} hr ha h => ?_
  have settlements : b.settlements = operation.settled?.toList ++ a.settlements := by
    unfold Actor.settlements
    rw [ha.past, List.filterMap_cons]
    cases operation.settled? <;> rfl
  cases hs : operation.settled? with
  | none =>
    rw [settlements, hs, h, ha.job, ha.settled (hr.custody hi).numbered hs]
    rfl
  | some message =>
    have may := ha.may
    have noted := ha.track
    rcases operation with request | request
    · cases request with
      | settle own =>
        obtain ⟨own, -, unsettled, -⟩ := may.2
        rw [settlements, h, unsettled, ha.job, own, noted]
        rfl
      | _ => cases hs
    · cases hs

/-- A handler that has returned has settled its message. -/
theorem Sound.settled_of_outcome (hs : Sound c) (ha : a ∈ c.actors)
    (returned : a.outcome?.isSome = true) : a.track.settled = true := by
  have follows := hs.follows a ha
  obtain ⟨pod, job, past, rest⟩ := a
  cases job with
  | handle message task =>
    cases rest with
    | done outcome => exact follows.2 rfl
    | call operation next => cases returned
  | acquire task => cases returned
  | stop run task => cases returned
  | watch run task => cases returned

/-- A handler that has returned or broken off stays as it is. -/
theorem Sound.over_stays (hs : Sound c) {event : Event} (hp : c.perform fleet event = some c')
    (ha : c.actors[number]? = some a) (finished : a.outcome?.isSome = true ∨ a.isBroken = true) :
    c'.actors[number]? = some a := by
  rcases hs.stays_or_answered hp ha with stays | ⟨b, operation, reply, choice, answers, -⟩
  · exact stays
  · obtain ⟨next, asks⟩ := answers.asks
    rcases finished with returned | broken
    · obtain ⟨pod, job, past, rest⟩ := a
      cases job with
      | handle message task =>
        cases rest with
        | done outcome => cases asks
        | call operation next => cases returned
      | acquire task => cases returned
      | stop run task => cases returned
      | watch run task => cases returned
    · unfold Actor.isBroken at broken
      rw [asks] at broken
      split at broken
      · next run _ e =>
        cases e
        exact reply.elim
      · cases broken

/-! How often a message is settled. -/

/-- The number of handlers of a message that have settled it. -/
theorem count_settlements (hr : Reaches fleet allowed start c) (hi : start.Initial)
    (message : DeliveryId) :
    (c.actors.flatMap Actor.settlements).count message =
      c.actors.countP fun a => a.job.message? = some message && a.track.settled := by
  have each := hr.settlements hi
  generalize c.actors = actors at each
  induction actors with
  | nil => rfl
  | cons a rest ih =>
    rw [List.flatMap_cons, List.count_append, List.countP_cons,
      ih fun x hx => each x (List.mem_cons_of_mem a hx), each a List.mem_cons_self, Nat.add_comm]
    congr 1
    cases a.track.settled with
    | false => simp
    | true => cases a.job.message? with
      | none => simp
      | some own => simp [List.count_cons]

/-- A message that no handler has begun with was settled by none. -/
theorem count_settlements_of_free (hr : Reaches fleet allowed start c) (hi : start.Initial)
    (free : c.isHandled message = false) :
    (c.actors.flatMap Actor.settlements).count message = 0 := by
  rw [count_settlements hr hi, List.countP_eq_zero]
  intro a ha
  simp [isHandled_eq_false.mp free a ha]

/-- A property that at most the entry at one place has is counted there or nowhere. -/
theorem countP_of_alone {α : Type} {p : α → Bool} {l : List α} {i : Nat} {x : α}
    (here : l[i]? = some x) (alone : ∀ j y, l[j]? = some y → p y = true → j = i) :
    l.countP p = if p x then 1 else 0 := by
  induction l generalizing i with
  | nil => cases here
  | cons y rest ih =>
    rw [List.countP_cons]
    cases i with
    | zero =>
      obtain rfl : y = x := Option.some.inj here
      have none : rest.countP p = 0 := by
        refine List.countP_eq_zero.mpr fun z hz has => ?_
        obtain ⟨j, hj⟩ := List.mem_iff_getElem?.mp hz
        exact absurd (alone (j + 1) z hj has) (Nat.succ_ne_zero j)
      rw [none, Nat.zero_add]
    | succ i =>
      have first : p y = false := by
        refine Bool.eq_false_iff.mpr fun has => ?_
        exact absurd (alone 0 y rfl has).symm (Nat.succ_ne_zero i)
      rw [ih here fun j z hj has => Nat.succ.inj (alone (j + 1) z hj has), first]
      rfl

/-- A message that a handler has begun with has no other handler. -/
theorem Custody.countP_handlers (h : Custody c) (ha : c.actors[number]? = some a)
    (own : a.job.message? = some message) (P : Actor → Bool) :
    (c.actors.countP fun x => x.job.message? = some message && P x) = if P a then 1 else 0 := by
  rw [countP_of_alone ha fun j x hx handles => ?_, own]
  · simp
  · have also : x.job.message? = some message :=
      of_decide_eq_true (Bool.and_eq_true_iff.mp handles).1
    exact h.distinct j number x a hx ha ⟨message, also, own⟩

end GridAgent.Cluster
