import GridAgent.Queue

/-!
# Where messages are

A message about a task is visible, on its way back, or in the hands of a holder. Pushing, pulling and
the passing of time move messages to new holders at most. A decision changes what one holder decided.
A settlement takes one delivery away, and the message comes back unless it is acked or rejected.
-/

namespace GridAgent.Queue

variable {q q' : Queue} {task : TaskId} {message : DeliveryId} {delivery : Delivery}

/-- A message about the task is in the queue, or in the hands of one of the holders meant. -/
def Offers (q : Queue) (task : TaskId) (holders : DeliveryId → Prop) : Prop :=
  task ∈ q.ready ∨ (∃ r ∈ q.delayed, r.task = task) ∨
    ∃ message delivery, q.held? message = some delivery ∧ delivery.task = task ∧ holders message

/-- A message about the task is visible, on its way back, or not settled. -/
def IsLive (q : Queue) (task : TaskId) : Prop := q.Offers task fun _ => True

/-- The holders meant may be described in another way. -/
theorem Offers.mono {P P' : DeliveryId → Prop} (h : q.Offers task P)
    (hp : ∀ message delivery, q.held? message = some delivery → delivery.task = task → P message →
      P' message) : q.Offers task P' := by
  rcases h with h | h | ⟨message, delivery, hd, ht, hm⟩
  · exact .inl h
  · exact .inr (.inl h)
  · exact .inr (.inr ⟨message, delivery, hd, ht, hp message delivery hd ht hm⟩)

/-- Every delivery has a number that was given. -/
def Numbered (q : Queue) : Prop :=
  ∀ message delivery, q.held? message = some delivery → message ≤ q.delivered

/-! Going on. -/

/-- The queue goes on: deliveries stay, messages go to new holders only, and none is lost. -/
structure GoesOn (q q' : Queue) : Prop where
  /-- Numbers of deliveries grow. -/
  delivered : q.delivered ≤ q'.delivered
  /-- Old deliveries stay as they are. -/
  old : ∀ message ≤ q.delivered, q'.held? message = q.held? message
  /-- New deliveries are numbered and undecided. -/
  new : ∀ message delivery, q.delivered < message → q'.held? message = some delivery →
    message ≤ q'.delivered ∧ delivery.decided = none
  /-- No message is lost. -/
  offers : ∀ task, ∀ P : DeliveryId → Prop, (∀ message, q.delivered < message → P message) →
    q.Offers task P → q'.Offers task P

/-- The numbers stay in order. -/
theorem GoesOn.numbered (h : GoesOn q q') : q.Numbered → q'.Numbered := by
  intro hn message delivery hd
  rcases Nat.lt_or_ge q.delivered message with hl | hl
  · exact (h.new message delivery hl hd).1
  · exact Nat.le_trans hl h.delivered

/-- A delivery is undecided if it is new, or if it was undecided. -/
theorem GoesOn.undecided (h : GoesOn q q') (hd : q'.held? message = some delivery)
    (old : q.held? message = some delivery → delivery.decided = none) : delivery.decided = none := by
  rcases Nat.lt_or_ge q.delivered message with hl | hl
  · exact (h.new message delivery hl hd).2
  · exact old ((h.old message hl).symm.trans hd)

theorem GoesOn.trans {q'' : Queue} (h : GoesOn q q') (h' : GoesOn q' q'') : GoesOn q q'' := by
  refine ⟨Nat.le_trans h.delivered h'.delivered, ?_, ?_, ?_⟩
  · intro message hm
    exact (h'.old message (Nat.le_trans hm h.delivered)).trans (h.old message hm)
  · intro message delivery hm hd
    rcases Nat.lt_or_ge q'.delivered message with hl | hl
    · exact h'.new message delivery hl hd
    · rw [h'.old message hl] at hd
      obtain ⟨le, decided⟩ := h.new message delivery hm hd
      exact ⟨Nat.le_trans le h'.delivered, decided⟩
  · intro task P hP ho
    exact h'.offers task P (fun message hm => hP message (Nat.lt_of_le_of_lt h.delivered hm))
      (h.offers task P hP ho)

/-- A queue with the same deliveries goes on if it has the messages. -/
theorem goesOn_of_same (hn : q.Numbered) (hd : q'.delivered = q.delivered) (hh : q'.held = q.held)
    (ho : ∀ task, (task ∈ q.ready ∨ ∃ r ∈ q.delayed, r.task = task) →
      task ∈ q'.ready ∨ ∃ r ∈ q'.delayed, r.task = task) : GoesOn q q' := by
  have same (message : DeliveryId) : q'.held? message = q.held? message := by
    unfold held?
    rw [hh]
  refine ⟨Nat.le_of_eq hd.symm, fun message _ => same message, ?_, ?_⟩
  · intro message delivery hm h
    exact absurd (hn message delivery ((same message).symm.trans h)) (Nat.not_le_of_lt hm)
  · intro task P _ h
    rcases h with h | h | ⟨message, delivery, h, ht⟩
    · exact (ho task (.inl h)).imp id .inl
    · exact (ho task (.inr h)).imp id .inl
    · exact .inr (.inr ⟨message, delivery, (same message).trans h, ht⟩)

theorem GoesOn.refl (hn : q.Numbered) : GoesOn q q := goesOn_of_same hn rfl rfl fun _ h => h

theorem push_goesOn (hn : q.Numbered) (tasks : List TaskId) : GoesOn q (q.push tasks) :=
  goesOn_of_same hn rfl rfl fun _ h => h.imp (List.mem_append_left tasks) id

/-- Pushed tasks are offered. -/
theorem push_offers {tasks : List TaskId} (h : task ∈ tasks) (P : DeliveryId → Prop) :
    (q.push tasks).Offers task P :=
  .inl (List.mem_append_right _ h)

theorem arrive_goesOn (hn : q.Numbered) (now : Nat) : GoesOn q (q.arrive now) := by
  refine goesOn_of_same hn rfl rfl fun task h => ?_
  have ready : (q.arrive now).ready =
      q.ready ++ (q.delayed.filter fun r => r.due ≤ now).map Redelivery.task := by
    simp [arrive, push, List.partition_eq_filter_filter]
  have delayed : (q.arrive now).delayed = q.delayed.filter fun r => !decide (r.due ≤ now) := by
    simp [arrive, push, List.partition_eq_filter_filter, Function.comp_def]
  rcases h with h | ⟨r, hr, rfl⟩
  · rw [ready]
    exact .inl (List.mem_append_left _ h)
  · by_cases hd : r.due ≤ now
    · rw [ready]
      refine .inl (List.mem_append_right _ (List.mem_map_of_mem ?_))
      exact List.mem_filter.mpr ⟨hr, decide_eq_true hd⟩
    · rw [delayed]
      exact .inr ⟨r, List.mem_filter.mpr ⟨hr, by simp [hd]⟩, rfl⟩

@[simp] theorem held?_deliver (q : Queue) (task : TaskId) (message : DeliveryId) :
    (q.deliver task).2.held? message =
      if message = q.delivered + 1 then some { task } else q.held? message :=
  Table.get?_set q.held (q.delivered + 1) message { task }

/-- A message that is handed out is held under its number. -/
theorem held?_delivered (q : Queue) (task : TaskId) :
    (q.deliver task).2.held? (q.deliver task).1 = some { task } := by
  rw [held?_deliver]
  exact if_pos rfl

/-- A message that is handed out is offered to its new holder. -/
theorem deliver_offers (q : Queue) (task : TaskId) {P : DeliveryId → Prop}
    (hP : ∀ message, q.delivered < message → P message) : (q.deliver task).2.Offers task P :=
  .inr (.inr ⟨q.delivered + 1, { task }, by rw [held?_deliver, if_pos rfl], rfl,
    hP _ (Nat.lt_succ_self _)⟩)

theorem deliver_goesOn (hn : q.Numbered) (task : TaskId) : GoesOn q (q.deliver task).2 := by
  refine ⟨Nat.le_succ _, fun message hm => ?_, fun message delivery hm hd => ?_, ?_⟩
  · rw [held?_deliver, if_neg (Nat.ne_of_lt (Nat.lt_succ_of_le hm))]
  · rw [held?_deliver] at hd
    split at hd
    · next e =>
      cases hd
      exact ⟨Nat.le_of_eq e, rfl⟩
    · exact absurd (hn message delivery hd) (Nat.not_le_of_lt hm)
  · intro other P _ h
    rcases h with h | h | ⟨message, delivery, hd, ht, hm⟩
    · exact .inl h
    · exact .inr (.inl h)
    · refine .inr (.inr ⟨message, delivery, ?_, ht, hm⟩)
      have hl := Nat.lt_succ_of_le (hn message delivery hd)
      rw [held?_deliver, if_neg (Nat.ne_of_lt hl)]
      exact hd

/-- Messages that are handed out in order are all offered to new holders. -/
theorem deliverAll_goesOn (hn : q.Numbered) (tasks : List TaskId) :
    GoesOn q (q.deliverAll tasks).2 ∧
      ∀ task ∈ tasks, ∀ P : DeliveryId → Prop, (∀ message, q.delivered < message → P message) →
        (q.deliverAll tasks).2.Offers task P := by
  induction tasks generalizing q with
  | nil => exact ⟨.refl hn, fun task h => by cases h⟩
  | cons first rest ih =>
    have step := deliver_goesOn hn first
    obtain ⟨goes, offers⟩ := ih (step.numbered hn)
    refine ⟨step.trans goes, fun task ht P hP => ?_⟩
    have later : ∀ message, (q.deliver first).2.delivered < message → P message :=
      fun message hm => hP message (Nat.lt_of_le_of_lt step.delivered hm)
    rcases List.mem_cons.mp ht with rfl | ht
    · exact goes.offers task P later (deliver_offers q task hP)
    · exact offers task ht P later

theorem take_goesOn (hn : q.Numbered) (most : Nat) : GoesOn q (q.take most).2 := by
  unfold take
  split
  · exact goesOn_of_same hn rfl rfl fun _ h => h
  · split
    · exact .refl hn
    · obtain ⟨goes, offers⟩ :=
        deliverAll_goesOn (q := { q with ready := q.ready.drop most }) hn (q.ready.take most)
      refine ⟨goes.delivered, goes.old, goes.new, fun task P hP h => ?_⟩
      rcases h with h | h
      · rw [← List.take_append_drop most q.ready] at h
        rcases List.mem_append.mp h with h | h
        · exact offers task h P hP
        · exact goes.offers task P hP (.inl h)
      · exact goes.offers task P hP (.inr h)

/-! Decisions. -/

/-- What a decision does: it is refused or changes nothing, or the delivery says so afterwards. -/
theorem dispose_cases (q : Queue) (message : DeliveryId) (disposition : Disposition) :
    ((∃ delivery decided, q.held? message = some delivery ∧ delivery.decided = some decided) ∧
      (∃ cause, (q.dispose message disposition).1 = .error cause) ∧
      (q.dispose message disposition).2 = q) ∨
    ((∀ delivery, q.held? message = some delivery → delivery.decided = none) ∧
      (q.dispose message disposition).1 = .ok () ∧
      (q.dispose message disposition).2 =
        if disposition = .waiting then q
        else { q with held := q.held.modify message fun d => { d with decided := disposition } }) := by
  unfold dispose
  cases hd : q.held? message with
  | none =>
    refine .inr ⟨nofun, ?_, ?_⟩
    · simp only [Option.bind_none]
      split <;> rfl
    · simp only [Option.bind_none]
      split <;> rfl
  | some delivery =>
    cases hc : delivery.decided with
    | some decided =>
      refine .inl ⟨⟨delivery, decided, rfl, hc⟩, ?_, ?_⟩
      · simp only [Option.bind_some, hc]
        exact ⟨_, rfl⟩
      · simp only [Option.bind_some, hc]
    | none =>
      refine .inr ⟨fun d h => (Option.some.inj h) ▸ hc, ?_, ?_⟩
      · simp only [Option.bind_some, hc]
        split <;> rfl
      · simp only [Option.bind_some, hc]
        split <;> rfl

/-- A decision leaves other deliveries. -/
theorem held?_dispose (q : Queue) (message : DeliveryId) (disposition : Disposition)
    {other : DeliveryId} (h : other ≠ message) :
    (q.dispose message disposition).2.held? other = q.held? other := by
  rcases dispose_cases q message disposition with ⟨-, -, hq⟩ | ⟨-, -, hq⟩ <;> rw [hq]
  split
  · rfl
  · exact (Table.get?_modify q.held message other _).trans (if_neg h)

/-- A decision leaves the task of a delivery, and is what the delivery says if it is accepted. -/
theorem held?_dispose_self (hd : q.held? message = some delivery) (disposition : Disposition) :
    ∃ decided, (q.dispose message disposition).2.held? message = some decided ∧
      decided.task = delivery.task ∧
      (((q.dispose message disposition).1 = .ok () ∧ decided.disposition = disposition) ∨
        ((∃ cause, (q.dispose message disposition).1 = .error cause) ∧ decided = delivery)) := by
  rcases dispose_cases q message disposition with ⟨-, he, hq⟩ | ⟨hn, ho, hq⟩ <;> rw [hq]
  · exact ⟨delivery, hd, rfl, .inr ⟨he, rfl⟩⟩
  · split
    · next hw =>
      refine ⟨delivery, hd, rfl, .inl ⟨ho, ?_⟩⟩
      unfold Delivery.disposition
      rw [hn delivery hd, hw]
      rfl
    · refine ⟨{ delivery with decided := disposition }, ?_, rfl, .inl ⟨ho, rfl⟩⟩
      refine (Table.get?_modify q.held message message _).trans ?_
      rw [if_pos rfl]
      exact congrArg (Option.map _) hd

/-- A decision moves no message and gives no number. -/
theorem dispose_same (q : Queue) (message : DeliveryId) (disposition : Disposition) :
    (q.dispose message disposition).2.ready = q.ready ∧
      (q.dispose message disposition).2.delayed = q.delayed ∧
      (q.dispose message disposition).2.delivered = q.delivered := by
  rcases dispose_cases q message disposition with ⟨-, -, hq⟩ | ⟨-, -, hq⟩ <;> rw [hq]
  · exact ⟨rfl, rfl, rfl⟩
  · split <;> exact ⟨rfl, rfl, rfl⟩

/-- What is offered stays offered when a message is decided on. -/
theorem dispose_offers (message : DeliveryId) (disposition : Disposition) {P : DeliveryId → Prop}
    (h : q.Offers task P) : (q.dispose message disposition).2.Offers task P := by
  obtain ⟨ready, delayed, -⟩ := dispose_same q message disposition
  rcases h with h | h | ⟨other, delivery, hd, ht, hP⟩
  · exact .inl (ready ▸ h)
  · exact .inr (.inl (delayed ▸ h))
  · by_cases e : other = message
    · subst e
      obtain ⟨decided, hd', hs, -⟩ := held?_dispose_self hd disposition
      exact .inr (.inr ⟨other, decided, hd', hs.trans ht, hP⟩)
    · exact .inr (.inr ⟨other, delivery, (held?_dispose q message disposition e).trans hd, ht, hP⟩)

/-! Settlement. -/

/-- What a settlement does: nothing to an unknown message, and otherwise it takes the delivery away
and puts a message back if the disposition says so. -/
theorem settle_cases (q : Queue) (message : DeliveryId) (now : Nat) :
    (q.held? message = none ∧ q.settle message now = q) ∨
    ∃ delivery, q.held? message = some delivery ∧
      (q.settle message now).held = q.held.erase message ∧
      (q.settle message now).delivered = q.delivered ∧
      q.ready ⊆ (q.settle message now).ready ∧ q.delayed ⊆ (q.settle message now).delayed ∧
      (delivery.disposition.settlement = .release →
        delivery.task ∈ (q.settle message now).ready ∨
          ∃ r ∈ (q.settle message now).delayed, r.task = delivery.task) := by
  unfold settle
  cases hd : q.held? message with
  | none => exact .inl ⟨rfl, rfl⟩
  | some delivery =>
    refine .inr ⟨delivery, rfl, ?_⟩
    cases hs : delivery.disposition.settlement with
    | ack => simp [hs]
    | reject => simp [hs]
    | release =>
      simp only [hs, release]
      split
      · exact ⟨rfl, rfl, List.subset_append_left _ _, fun _ h => h,
          fun _ => .inl (List.mem_append_right _ List.mem_cons_self)⟩
      · exact ⟨rfl, rfl, fun _ h => h, List.subset_append_left _ _,
          fun _ => .inr ⟨_, List.mem_append_right _ List.mem_cons_self, rfl⟩⟩

/-- A settlement takes one delivery away. -/
theorem held?_settle (q : Queue) (message : DeliveryId) (now : Nat) (other : DeliveryId) :
    (q.settle message now).held? other = if other = message then none else q.held? other := by
  rcases settle_cases q message now with ⟨hd, hq⟩ | ⟨delivery, -, hh, -⟩
  · rw [hq]
    split
    · next e => rw [e, hd]
    · rfl
  · unfold held?
    rw [hh, Table.get?_erase]

theorem delivered_settle (q : Queue) (message : DeliveryId) (now : Nat) :
    (q.settle message now).delivered = q.delivered := by
  rcases settle_cases q message now with ⟨-, hq⟩ | ⟨delivery, -, -, hn, -⟩
  · rw [hq]
  · exact hn

/-- A message that comes back is offered. -/
theorem settle_offers_self (hd : q.held? message = some delivery)
    (hr : delivery.disposition.settlement = .release) (now : Nat) (P : DeliveryId → Prop) :
    (q.settle message now).Offers delivery.task P := by
  rcases settle_cases q message now with ⟨hn, -⟩ | ⟨found, hf, -, -, -, -, back⟩
  · rw [hd] at hn
    cases hn
  · obtain rfl := Option.some.inj (hd.symm.trans hf)
    exact (back hr).imp id .inl

/-- Other messages are offered as before. -/
theorem settle_offers (now : Nat) {P : DeliveryId → Prop} (h : q.Offers task P)
    (hm : ∀ delivery, q.held? message = some delivery → delivery.task = task → ¬ P message) :
    (q.settle message now).Offers task P := by
  rcases settle_cases q message now with ⟨-, hq⟩ | ⟨found, hf, -, -, ready, delayed, -⟩
  · rw [hq]
    exact h
  · rcases h with h | ⟨r, h, ht⟩ | ⟨other, delivery, hd, ht, hP⟩
    · exact .inl (ready h)
    · exact .inr (.inl ⟨r, delayed h, ht⟩)
    · refine .inr (.inr ⟨other, delivery, ?_, ht, hP⟩)
      rw [held?_settle, if_neg ?_]
      · exact hd
      · rintro rfl
        exact hm delivery hd ht hP

/-! Waiting is no decision. -/

/-- No holder has decided to wait. -/
def NoneWaits (q : Queue) : Prop :=
  ∀ message delivery, q.held? message = some delivery → delivery.decided ≠ some .waiting

theorem NoneWaits.goesOn (h : q.NoneWaits) (goes : GoesOn q q') : q'.NoneWaits := by
  intro message delivery hd hw
  rcases Nat.lt_or_ge q.delivered message with hl | hl
  · cases (goes.new message delivery hl hd).2.symm.trans hw
  · exact h message delivery ((goes.old message hl).symm.trans hd) hw

theorem NoneWaits.disposed (h : q.NoneWaits) (message : DeliveryId) (disposition : Disposition) :
    (q.dispose message disposition).2.NoneWaits := by
  rcases dispose_cases q message disposition with ⟨-, -, hq⟩ | ⟨-, -, hq⟩ <;> rw [hq]
  · exact h
  · split
    · exact h
    · next hne =>
      intro other delivery hd hw
      have hd : (q.held.modify message fun d => { d with decided := disposition }).get? other =
        some delivery := hd
      rw [Table.get?_modify] at hd
      split at hd
      · obtain ⟨before, -, rfl⟩ := Option.map_eq_some_iff.mp hd
        exact hne (Option.some.inj hw)
      · exact h other delivery hd hw

theorem NoneWaits.settled (h : q.NoneWaits) (message : DeliveryId) (now : Nat) :
    (q.settle message now).NoneWaits := by
  intro other delivery hd
  rw [held?_settle] at hd
  split at hd
  · cases hd
  · exact h other delivery hd

/-- A decision is accepted from a holder that has decided nothing yet. -/
theorem NoneWaits.dispose_accepted (h : q.NoneWaits) (hd : q.held? message = some delivery)
    (waits : delivery.disposition = .waiting) (disposition : Disposition) :
    (q.dispose message disposition).1 = .ok () := by
  rcases dispose_cases q message disposition with ⟨⟨found, decided, hf, hc⟩, -⟩ | ⟨-, accepted, -⟩
  · obtain rfl := Option.some.inj (hd.symm.trans hf)
    unfold Delivery.disposition at waits
    rw [hc] at waits
    exact absurd (hc.trans (congrArg some waits)) (h message delivery hd)
  · exact accepted

end GridAgent.Queue
