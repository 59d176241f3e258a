import GridAgent.Proofs.Queue.Messages

/-!
# The balance of the queue

A task comes into the queue when it is pushed or delivered, and from then on it is visible, in the
hands of a holder, on its way back, done with or rejected. Every call moves tasks between these five
places or leaves them where they are, and the count of deliveries in flight goes with the deliveries
that are not settled.
-/

namespace GridAgent.Queue

variable {q q' : Queue} {message : DeliveryId} {delivery : Delivery} {tasks : List TaskId}
  {ids : List DeliveryId}

/-- The tasks of all messages, place by place. -/
def messages (q : Queue) : List TaskId :=
  q.ready ++ q.held.values.map Delivery.task ++ q.delayed.map Redelivery.task ++ q.acked ++
    q.deadLetters

/-- The count of deliveries in flight is that of the deliveries not settled. -/
def IsCounted (q : Queue) : Prop := q.inFlight = q.held.keys.length

/-- The count of deliveries in flight is lowered for a delivery that was counted. -/
theorem IsCounted.pos (h : q.IsCounted) (hd : q.held? message = some delivery) :
    0 < q.inFlight := by
  have mem : message ∈ q.held.keys := by
    rw [Table.mem_keys]
    exact Option.isSome_iff_exists.mpr ⟨delivery, hd⟩
  rw [h]
  exact List.length_pos_of_mem mem

theorem Numbered.fresh (hn : q.Numbered) : q.held.get? (q.delivered + 1) = none := by
  cases h : q.held.get? (q.delivered + 1) with
  | none => rfl
  | some delivery => exact absurd (hn _ delivery h) (Nat.not_succ_le_self _)

/-! Handing out. -/

/-- The tasks were handed out in order, under the next numbers, and nothing else changed. -/
structure HandsOut (q : Queue) (tasks : List TaskId) (ids : List DeliveryId) (q' : Queue) : Prop where
  /-- Deliveries get the next numbers. -/
  numbers : ids = List.range' (q.delivered + 1) tasks.length
  /-- New deliveries are undecided. -/
  held : q'.held.entries = q.held.entries ++ ids.zip (tasks.map fun task => ({ task } : Delivery))
  inFlight : q'.inFlight = q.inFlight + tasks.length
  delivered : q'.delivered = q.delivered + tasks.length
  /-- The rest of the queue stays. -/
  rest : q' = { q with held := q'.held, inFlight := q'.inFlight, delivered := q'.delivered }

theorem HandsOut.length (h : HandsOut q tasks ids q') : ids.length = tasks.length := by
  rw [h.numbers, List.length_range']

theorem HandsOut.keys (h : HandsOut q tasks ids q') : q'.held.keys = q.held.keys ++ ids := by
  unfold Table.keys
  rw [h.held, List.map_append, List.map_fst_zip]
  exact Nat.le_of_eq (by rw [h.length, List.length_map])

theorem HandsOut.values (h : HandsOut q tasks ids q') :
    q'.held.values.map Delivery.task = q.held.values.map Delivery.task ++ tasks := by
  have new : ((ids.zip (tasks.map fun task => ({ task } : Delivery))).map Prod.snd).map
      Delivery.task = tasks := by
    rw [List.map_snd_zip, List.map_map]
    · exact List.map_id tasks
    · exact Nat.le_of_eq (by rw [h.length, List.length_map])
  unfold Table.values
  rw [h.held, List.map_append, List.map_append, new]

/-- Each number is that of its task. -/
theorem HandsOut.found (h : HandsOut q tasks ids q') :
    ids.map q'.held? = tasks.map fun task => some ({ task } : Delivery) := by
  refine List.ext_getElem (by simp [h.length]) fun i hi hi' => ?_
  rw [List.length_map] at hi hi'
  rw [List.getElem_map, List.getElem_map]
  refine Table.get?_of_mem ?_
  rw [h.held]
  refine List.mem_append_right _ (List.mem_iff_getElem.mpr ⟨i, by simp [h.length, hi'], ?_⟩)
  rw [List.getElem_zip, List.getElem_map]

theorem deliver_handsOut (hn : q.Numbered) (task : TaskId) :
    HandsOut q [task] [(q.deliver task).1] (q.deliver task).2 where
  numbers := rfl
  held := Table.entries_set_of_new hn.fresh _
  inFlight := rfl
  delivered := rfl
  rest := rfl

theorem HandsOut.append {tasks' : List TaskId} {ids' : List DeliveryId} {q'' : Queue}
    (h : HandsOut q tasks ids q') (h' : HandsOut q' tasks' ids' q'') :
    HandsOut q (tasks ++ tasks') (ids ++ ids') q'' where
  numbers := by
    rw [h.numbers, h'.numbers, h.delivered, List.length_append, ← List.range'_append_1]
    congr 2
    omega
  held := by
    rw [h'.held, h.held, List.map_append, List.append_assoc, List.zip_append]
    rw [h.length, List.length_map]
  inFlight := by rw [h'.inFlight, h.inFlight, List.length_append, Nat.add_assoc]
  delivered := by rw [h'.delivered, h.delivered, List.length_append, Nat.add_assoc]
  rest := by
    have rest := h'.rest
    rw [h.rest] at rest
    exact rest

theorem deliverAll_handsOut (hn : q.Numbered) (tasks : List TaskId) :
    HandsOut q tasks (q.deliverAll tasks).1 (q.deliverAll tasks).2 := by
  induction tasks generalizing q with
  | nil => exact ⟨rfl, (List.append_nil _).symm, rfl, rfl, rfl⟩
  | cons task rest ih =>
    exact (deliver_handsOut hn task).append (ih ((deliver_goesOn hn task).numbered hn))

/-- What a look finds: it fails and one failure less is to come, or nothing is visible, or the first
visible messages are handed out. -/
theorem take_cases (hn : q.Numbered) (most : Nat) :
    (0 < q.failures ∧ (∃ cause, (q.take most).1 = .failed cause) ∧
      (q.take most).2 = { q with failures := q.failures - 1 }) ∨
    (q.failures = 0 ∧ q.ready = [] ∧ q.take most = (.nothing, q)) ∨
    (q.failures = 0 ∧ q.ready ≠ [] ∧ ∃ ids, (q.take most).1 = .messages ids ∧
      HandsOut { q with ready := q.ready.drop most } (q.ready.take most) ids (q.take most).2) := by
  unfold take
  split
  · next h => exact .inl ⟨h, ⟨_, rfl⟩, rfl⟩
  · next h =>
    have h := Nat.eq_zero_of_not_pos h
    split
    · next he => exact .inr (.inl ⟨h, List.isEmpty_iff.mp he, rfl⟩)
    · next he =>
      refine .inr (.inr ⟨h, fun e => he (List.isEmpty_iff.mpr e), _, rfl, ?_⟩)
      exact deliverAll_handsOut (q := { q with ready := q.ready.drop most }) hn _

/-! Growing. -/

/-- The queue goes on, some tasks came in, and some deliveries were made. -/
structure Grows (q : Queue) (brought : List TaskId) (ids : List DeliveryId) (q' : Queue) : Prop where
  goesOn : GoesOn q q'
  messages : q'.messages.Perm (q.messages ++ brought)
  keys : q'.held.keys = q.held.keys ++ ids
  numbers : ids = List.range' (q.delivered + 1) ids.length
  delivered : q'.delivered = q.delivered + ids.length
  inFlight : q'.inFlight = q.inFlight + ids.length
  settlements : q'.settlements = q.settlements

theorem Grows.counted {brought : List TaskId} (h : Grows q brought ids q') (hc : q.IsCounted) :
    q'.IsCounted := by
  unfold IsCounted
  rw [h.inFlight, h.keys, List.length_append, hc]

/-- A queue grows by messages that are visible or on their way back only. -/
theorem grows_of_same {brought : List TaskId} (goesOn : GoesOn q q')
    (messages : q'.messages.Perm (q.messages ++ brought)) (hh : q'.held = q.held)
    (hd : q'.delivered = q.delivered) (hf : q'.inFlight = q.inFlight)
    (hs : q'.settlements = q.settlements) : Grows q brought [] q' where
  goesOn := goesOn
  messages := messages
  keys := by rw [hh, List.append_nil]
  numbers := rfl
  delivered := hd
  inFlight := hf
  settlements := hs

/-- A queue whose messages stay where they are has not grown. -/
theorem idle_grows (hn : q.Numbered) (hd : q'.delivered = q.delivered) (hh : q'.held = q.held)
    (hr : q'.ready = q.ready) (hl : q'.delayed = q.delayed) (hf : q'.inFlight = q.inFlight)
    (he : q'.acked ++ q'.deadLetters = q.acked ++ q.deadLetters)
    (hs : q'.settlements = q.settlements) : Grows q [] [] q' := by
  refine grows_of_same (goesOn_of_same hn hd hh fun task h => by rwa [hr, hl]) (.of_eq ?_) hh hd hf hs
  simp only [messages, List.append_assoc, List.append_nil, hr, hh, hl, he]

theorem push_grows (hn : q.Numbered) (tasks : List TaskId) : Grows q tasks [] (q.push tasks) := by
  refine grows_of_same (push_goesOn hn tasks) (List.perm_iff_count.mpr fun task => ?_) rfl rfl rfl rfl
  simp only [messages, push, List.count_append]
  omega

theorem arrive_grows (hn : q.Numbered) (now : Nat) : Grows q [] [] (q.arrive now) := by
  have parted := List.filter_append_perm (fun r : Redelivery => decide (r.due ≤ now)) q.delayed
  refine grows_of_same (arrive_goesOn hn now) (List.perm_iff_count.mpr fun task => ?_) rfl rfl rfl rfl
  have counted := (parted.map Redelivery.task).count_eq task
  rw [List.map_append, List.count_append] at counted
  simp only [messages, arrive, push, List.partition_eq_filter_filter, List.count_append,
    Function.comp_def, List.append_nil]
  omega

theorem HandsOut.messages (h : HandsOut q tasks ids q') :
    q'.messages.Perm (q.messages ++ tasks) := by
  have values := h.values
  rw [h.rest] at values ⊢
  refine List.perm_iff_count.mpr fun task => ?_
  simp only [Queue.messages, values, List.count_append]
  omega

theorem HandsOut.grows (h : HandsOut q tasks ids q') (goesOn : GoesOn q q') :
    Grows q tasks ids q' where
  goesOn := goesOn
  messages := h.messages
  keys := h.keys
  numbers := by rw [h.length, ← h.numbers]
  delivered := by rw [h.delivered, h.length]
  inFlight := by rw [h.inFlight, h.length]
  settlements := by rw [h.rest]

theorem deliver_grows (hn : q.Numbered) (task : TaskId) :
    Grows q [task] [(q.deliver task).1] (q.deliver task).2 :=
  (deliver_handsOut hn task).grows (deliver_goesOn hn task)

/-- The messages that a look hands out. -/
def Pull.handedOut : Pull → List DeliveryId
  | .messages ids => ids
  | _ => []

/-- A look brings nothing in: the messages that it hands out were visible. -/
theorem take_grows (hn : q.Numbered) (most : Nat) :
    Grows q [] (q.take most).1.handedOut (q.take most).2 := by
  have goesOn := take_goesOn hn most
  rcases take_cases hn most with ⟨-, ⟨cause, hp⟩, hq⟩ | ⟨-, -, hq⟩ | ⟨-, -, ids, hp, handed⟩
  · rw [hp]
    rw [hq] at goesOn ⊢
    exact grows_of_same goesOn (by rw [List.append_nil]; exact .refl _) rfl rfl rfl rfl
  · rw [hq] at goesOn ⊢
    exact grows_of_same goesOn (by rw [List.append_nil]) rfl rfl rfl rfl
  · rw [hp]
    refine ⟨goesOn, handed.messages.trans (List.perm_iff_count.mpr fun task => ?_), handed.keys, ?_,
      ?_, ?_, ?_⟩
    · have split := congrArg (List.count task) (List.take_append_drop most q.ready)
      rw [List.count_append] at split
      simp only [Queue.messages, List.count_append, List.append_nil]
      omega
    · exact handed.numbers.trans (by rw [Pull.handedOut, handed.length])
    · exact handed.delivered.trans (by rw [Pull.handedOut, handed.length])
    · exact handed.inFlight.trans (by rw [Pull.handedOut, handed.length])
    · rw [handed.rest]

/-- A look takes messages off the front, in order. -/
theorem take_front (hn : q.Numbered) (most : Nat) :
    (q.take most).2.ready = q.ready.drop (q.take most).1.handedOut.length ∧
      (q.take most).1.handedOut.map (q.take most).2.held? =
        (q.ready.take (q.take most).1.handedOut.length).map fun task => some ({ task } : Delivery) := by
  rcases take_cases hn most with ⟨-, ⟨cause, hp⟩, hq⟩ | ⟨-, -, hq⟩ | ⟨-, -, ids, hp, handed⟩
  · rw [hp, hq]
    exact ⟨rfl, rfl⟩
  · rw [hq]
    exact ⟨rfl, rfl⟩
  · have length : ids.length = min most q.ready.length := by rw [handed.length, List.length_take]
    rw [hp]
    refine ⟨?_, ?_⟩
    · rw [handed.rest]
      exact List.drop_eq_drop_iff.mpr (by rw [Pull.handedOut, length]; omega)
    · refine handed.found.trans (congrArg _ (List.take_eq_take_iff.mpr ?_))
      rw [Pull.handedOut, length]
      omega

/-! Decisions. -/

/-- A decision changes what one holder decided only. -/
theorem entries_dispose {β : Type} (q : Queue) (message : DeliveryId) (disposition : Disposition)
    (see : DeliveryId × Delivery → β)
    (h : ∀ delivery, see (message, { delivery with decided := disposition }) =
      see (message, delivery)) :
    (q.dispose message disposition).2.held.entries.map see = q.held.entries.map see := by
  rcases dispose_cases q message disposition with ⟨-, -, hq⟩ | ⟨-, -, hq⟩ <;> rw [hq]
  split
  · rfl
  · exact Table.map_entries_modify q.held message _ see h

/-- A decision leaves everything but the deliveries. -/
theorem dispose_rest (q : Queue) (message : DeliveryId) (disposition : Disposition) :
    (q.dispose message disposition).2 =
      { q with held := (q.dispose message disposition).2.held } := by
  rcases dispose_cases q message disposition with ⟨-, -, hq⟩ | ⟨-, -, hq⟩ <;> rw [hq]
  split <;> rfl

/-- The first decision counts that is not to wait. -/
theorem held?_disposed (hd : q.held? message = some delivery) (disposition : Disposition)
    (other : DeliveryId) :
    (q.dispose message disposition).2.held? other =
      if other = message then
        some { delivery with
          decided := delivery.decided.or
            (if disposition ≠ .waiting then some disposition else none) }
      else q.held? other := by
  rcases dispose_cases q message disposition with ⟨⟨found, decided, hf, hc⟩, -, hq⟩ | ⟨hn, -, hq⟩ <;>
    rw [hq]
  · obtain rfl := Option.some.inj (hd.symm.trans hf)
    split
    · next e => rw [e, hd, hc, Option.some_or, ← hc]
    · rfl
  · have none := hn delivery hd
    by_cases waits : disposition = .waiting
    · rw [if_pos waits]
      split
      · next e => rw [e, hd, none, if_neg (fun h => h waits), Option.or_none, ← none]
      · rfl
    · rw [if_neg waits]
      refine (Table.get?_modify q.held message other _).trans ?_
      split
      · rw [none, Option.none_or]
        exact congrArg (Option.map _) hd
      · rfl

theorem messages_dispose (q : Queue) (message : DeliveryId) (disposition : Disposition) :
    (q.dispose message disposition).2.messages = q.messages := by
  have values := entries_dispose q message disposition (fun e => e.2.task) fun _ => rfl
  rw [dispose_rest]
  simp only [messages, Table.values, List.map_map, Function.comp_def, values]

theorem keys_dispose (q : Queue) (message : DeliveryId) (disposition : Disposition) :
    (q.dispose message disposition).2.held.keys = q.held.keys :=
  entries_dispose q message disposition Prod.fst fun _ => rfl

/-! Settlement. -/

/-- A settled message is no longer held, it is written down what its holder decided, and its task
goes where that says. -/
structure Settles (q : Queue) (message : DeliveryId) (delivery : Delivery) (q' : Queue) : Prop where
  held : q'.held = q.held.erase message
  inFlight : q'.inFlight = q.inFlight - 1
  settlements : q'.settlements = q.settlements ++ [(delivery.task, delivery.disposition)]
  delivered : q'.delivered = q.delivered
  messages : q'.messages.Perm q.messages

/-- The messages are those that are left without a delivery, and its own. -/
theorem messages_erase (hd : q.held? message = some delivery) :
    q.messages.Perm (delivery.task :: { q with held := q.held.erase message }.messages) := by
  have values := ((Table.entries_erase hd).map Prod.snd).map Delivery.task
  rw [List.map_cons, List.map_cons] at values
  refine List.perm_iff_count.mpr fun task => ?_
  have counted := values.count_eq task
  simp only [messages, Table.values, List.count_append, List.count_cons] at counted ⊢
  omega

/-- A release leaves everything but the messages that are visible or on their way back. -/
theorem release_rest (q : Queue) (task : TaskId) (now : Nat) :
    q.release task now = { q with
      ready := (q.release task now).ready
      delayed := (q.release task now).delayed } := by
  unfold release
  split <;> rfl

theorem messages_release (q : Queue) (task : TaskId) (now : Nat) :
    (q.release task now).messages.Perm (task :: q.messages) := by
  unfold release
  split
  · refine List.perm_iff_count.mpr fun other => ?_
    simp only [messages, push, List.count_append, List.count_cons, List.count_nil]
    omega
  · refine List.perm_iff_count.mpr fun other => ?_
    simp only [messages, List.map_append, List.map_cons, List.count_append, List.count_cons,
      List.map_nil, List.count_nil]
    omega

theorem settle_settles (hd : q.held? message = some delivery) (now : Nat) :
    Settles q message delivery (q.settle message now) := by
  have taken := messages_erase hd
  unfold settle
  rw [hd]
  cases hs : delivery.disposition.settlement with
  | ack =>
    simp only [hs]
    refine ⟨rfl, rfl, rfl, rfl, .trans (List.perm_iff_count.mpr fun task => ?_) taken.symm⟩
    simp only [messages, List.count_append, List.count_cons, List.count_nil]
    omega
  | reject =>
    simp only [hs]
    refine ⟨rfl, rfl, rfl, rfl, .trans (List.perm_iff_count.mpr fun task => ?_) taken.symm⟩
    simp only [messages, List.count_append, List.count_cons, List.count_nil]
    omega
  | release =>
    simp only [hs]
    refine ⟨?_, ?_, ?_, ?_, (messages_release _ _ now).trans taken.symm⟩
    all_goals rw [release_rest]

theorem Settles.keys (h : Settles q message delivery q') (hd : q.held? message = some delivery) :
    q.held.keys.Perm (message :: q'.held.keys) := by
  have keys := (Table.entries_erase hd).map Prod.fst
  rw [← h.held] at keys
  exact keys

theorem Settles.counted (h : Settles q message delivery q') (hd : q.held? message = some delivery)
    (hc : q.IsCounted) : q'.IsCounted := by
  have length := (h.keys hd).length_eq
  unfold IsCounted at hc ⊢
  rw [h.inFlight, hc, length]
  exact Nat.add_sub_cancel ..

end GridAgent.Queue
