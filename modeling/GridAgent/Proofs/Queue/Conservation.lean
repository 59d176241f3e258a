import GridAgent.Proofs.Queue.Balance
import GridAgent.Queue.Pull

/-!
# No message is lost

Everybody who uses a queue is put around it: those who push and deliver, pulls that go on beside each
other and may be cut at each of their requests, and the holders of messages, who decide and settle.
Books are kept of what they do. Whatever they do in whatever order, every task that came into the queue
is at exactly one of its places, every delivery went to one pull and is held until it is settled once,
and the log of settlements says of each message the first decision of its holder.
-/

namespace GridAgent.Queue

/-- A pull that somebody makes. -/
structure Puller where
  /-- How many messages it may take. -/
  most : Nat
  /-- What it has still to do; nothing when its caller has gone away. -/
  rest : Option (Program pullSurroundings (Option Pulled))
  /-- The messages that were handed out to it. -/
  got : List DeliveryId := []

/-- The messages of an answer. -/
def pulledIds : Option Pulled → List DeliveryId
  | some (.ok ids) => ids
  | _ => []

namespace Puller

/-- A pull that begins. -/
def start (most : Nat) : Puller := { most, rest := some (lookOnce most) }

/-- Serves a request of a pull. A wait is told whether it was for a message; it is not when the time is
up or the pull was called off. -/
def serve (visible : Bool) (q : Queue) : (request : PullRequest) → request.Reply × Queue
  | .look most => q.take most
  | .wait => (visible, q)

/-- The messages that a reply hands out. -/
def handed : (request : PullRequest) → request.Reply → List DeliveryId
  | .look _, found => found.handedOut
  | .wait, _ => []

/-- A pull that is left without an answer begins again. -/
def renew (most : Nat) :
    Program pullSurroundings (Option Pulled) → Program pullSurroundings (Option Pulled)
  | .done none => lookOnce most
  | rest => rest

/-- Serves the next request of a pull. -/
def go (p : Puller) (visible : Bool) (q : Queue) : Puller × Queue :=
  match p.rest with
  | some (.call request next) =>
    let (reply, q) := serve visible q request
    ({ p with rest := some (renew p.most (next reply)), got := p.got ++ handed request reply }, q)
  | _ => (p, q)

/-- The caller of a pull that is not over goes away. -/
def leave (p : Puller) : Puller :=
  match p.rest with
  | some (.call _ _) => { p with rest := none }
  | _ => p

/-- What the pull answered, if it is over. -/
def answer? (p : Puller) : Option Pulled :=
  match p.rest with
  | some (.done answer) => answer
  | _ => none

/-- The next thing the pull does is to look for messages. -/
def IsLooking (p : Puller) : Prop := ∃ next, p.rest = some (.call (.look p.most) next)

end Puller

/-- What can happen around a queue. -/
inductive Event where
  /-- Tasks are pushed. -/
  | push (tasks : List TaskId)
  /-- A task is delivered at once. -/
  | deliver (task : TaskId)
  /-- A pull begins. -/
  | pull (most : Nat)
  /-- The next request of a pull is served. -/
  | go (puller : Nat) (visible : Bool)
  /-- The caller of a pull goes away. -/
  | leave (puller : Nat)
  /-- The holder of a message decides. -/
  | decide (message : DeliveryId) (disposition : Disposition)
  /-- The holder of a message settles it. -/
  | settle (message : DeliveryId) (now : Nat)
  /-- The timer of redeliveries goes off. -/
  | arrive (now : Nat)
  /-- Pulls are made to fail. -/
  | failPulls (failures : Nat)
  /-- The answer to probes is set. -/
  | report (health : Option HealthReport)

/-- The tasks that an event brings in. -/
def Event.brings : Event → List TaskId
  | .push tasks => tasks
  | .deliver task => [task]
  | _ => []

/-- A queue, the pulls made on it, and books of what was done with its messages. -/
structure Desk where
  queue : Queue
  /-- Every pull so far. -/
  pulls : List Puller := []
  /-- Messages that were delivered without a pull. -/
  direct : List DeliveryId := []
  /-- What holders decided, in order. -/
  decisions : List (DeliveryId × Disposition) := []
  /-- Settled messages and their tasks, in order. -/
  settled : List (DeliveryId × TaskId) := []

namespace Desk

/-- What happens. Only the holder of a message decides on it and settles it. -/
def play (d : Desk) : Event → Desk
  | .push tasks => { d with queue := d.queue.push tasks }
  | .deliver task =>
    let (message, queue) := d.queue.deliver task
    { d with queue, direct := d.direct ++ [message] }
  | .pull most => { d with pulls := d.pulls ++ [.start most] }
  | .go puller visible =>
    match d.pulls[puller]? with
    | none => d
    | some p =>
      let (p, queue) := p.go visible d.queue
      { d with queue, pulls := d.pulls.set puller p }
  | .leave puller =>
    match d.pulls[puller]? with
    | none => d
    | some p => { d with pulls := d.pulls.set puller p.leave }
  | .decide message disposition =>
    if (d.queue.held? message).isSome then
      { d with
        queue := (d.queue.dispose message disposition).2
        decisions := d.decisions ++ [(message, disposition)] }
    else d
  | .settle message now =>
    match d.queue.held? message with
    | none => d
    | some delivery =>
      { d with
        queue := d.queue.settle message now
        settled := d.settled ++ [(message, delivery.task)] }
  | .arrive now => { d with queue := d.queue.arrive now }
  | .failPulls failures => { d with queue := { d.queue with failures } }
  | .report health => { d with queue := { d.queue with health } }

/-- A fresh queue after some events. -/
def run (redeliveryDelay : Nat) (events : List Event) : Desk :=
  events.foldl play { queue := { redeliveryDelay } }

/-- The first decision on a message that is not to wait. -/
def decision? (d : Desk) (message : DeliveryId) : Option Disposition :=
  (d.decisions.find? fun e => e.1 = message && e.2 ≠ .waiting).map Prod.snd

/-- What was decided on a message: to wait, up to the first other decision. -/
def decision (d : Desk) (message : DeliveryId) : Disposition := (d.decision? message).getD .waiting

/-- Every task that was brought in is visible, held, on its way back, done with or rejected, as often as
it was brought in. A delivery is held or was settled, and was made to one pull or without any. The
count of deliveries in flight is that of the deliveries held, so it is never lowered from zero. -/
def Balances (d : Desk) (brought : List TaskId) : Prop :=
  (d.queue.ready ++ d.queue.held.values.map Delivery.task ++
      d.queue.delayed.map Redelivery.task ++ d.queue.acked ++ d.queue.deadLetters).Perm brought ∧
    (d.queue.held.keys ++ d.settled.map Prod.fst).Perm (List.range' 1 d.queue.delivered) ∧
    (d.pulls.flatMap Puller.got ++ d.direct).Perm (List.range' 1 d.queue.delivered) ∧
    d.queue.inFlight = d.queue.held.keys.length ∧
    ∀ message delivery, d.queue.held? message = some delivery → 0 < d.queue.inFlight

/-- A pull has what it answered, so a pull that has failed, timed out, was called off or left has
nothing. Each request of a pull takes messages off the front of the queue, in order; a look that does
not fail takes as many as it may, and these are the answer. -/
def PullsInOrder (d : Desk) : Prop :=
  (∀ p ∈ d.pulls, p.got = pulledIds p.answer?) ∧
    ∀ (puller : Nat) (p : Puller) (visible : Bool), d.pulls[puller]? = some p →
      ∃ ids p', (d.play (.go puller visible)).pulls[puller]? = some p' ∧
        p'.got = p.got ++ ids ∧
        (d.play (.go puller visible)).queue.ready = d.queue.ready.drop ids.length ∧
        ids.map (d.play (.go puller visible)).queue.held? =
          (d.queue.ready.take ids.length).map (fun task => some ({ task } : Delivery)) ∧
        (p.IsLooking → d.queue.failures = 0 → d.queue.ready ≠ [] →
          p'.answer? = some (.ok ids) ∧ ids.length = min p.most d.queue.ready.length)

/-- A message is decided on once: until its holder has decided something else it waits, and from then on
it says that and refuses every other decision. -/
def DecidesOnce (d : Desk) : Prop :=
  ∀ message delivery disposition, d.queue.held? message = some delivery →
    d.queue.dispositionOf message = d.decision message ∧
      (d.decision? message = none → (d.queue.dispose message disposition).1 = .ok ()) ∧
      ((d.decision? message).isSome →
        d.queue.dispose message disposition =
          (.error (.alreadySettled message.messageId.toString), d.queue))

/-- The log of settlements has what was decided on each settled message, in order, and a settlement adds
one line. -/
def LogsOnce (d : Desk) : Prop :=
  d.queue.settlements = d.settled.map (fun e => (e.2, d.decision e.1)) ∧
    ∀ message delivery now, d.queue.held? message = some delivery →
      (d.play (.settle message now)).queue.settlements =
          d.queue.settlements ++ [(delivery.task, d.decision message)] ∧
        (d.play (.settle message now)).queue.inFlight + 1 = d.queue.inFlight ∧
        (d.play (.settle message now)).queue.held? message = none

end Desk

/-! Pulls. -/

/-- A pull that found nothing waits, and looks again or gives up. -/
def awaitAnother : Program pullSurroundings (Option Pulled) := do
  if ← awaitMessage then return none else return some (.ok [])

/-- Where a pull can be. It has messages once it has answered, and no others than these. -/
inductive Puller.Stands : Puller → Prop
  | looking (most : Nat) : Stands (start most)
  | waiting (most : Nat) : Stands ⟨most, some awaitAnother, []⟩
  | answered (most : Nat) (answer : Pulled) :
    Stands ⟨most, some (.done (some answer)), pulledIds (some answer)⟩
  | left (most : Nat) : Stands ⟨most, none, []⟩

namespace Puller

variable {p : Puller} {q : Queue}

theorem Stands.got (h : p.Stands) : p.got = pulledIds p.answer? := by
  cases h <;> rfl

theorem Stands.leave (h : p.Stands) : p.leave.Stands ∧ p.leave.got = p.got := by
  cases h with
  | looking most => exact ⟨.left most, rfl⟩
  | waiting most => exact ⟨.left most, rfl⟩
  | answered most answer => exact ⟨.answered most answer, rfl⟩
  | left most => exact ⟨.left most, rfl⟩

theorem go_call {request : PullRequest} {next : request.Reply → Program pullSurroundings _}
    (h : p.rest = some (.call request next)) (visible : Bool) (q : Queue) :
    p.go visible q =
      ({ p with
          rest := some (renew p.most (next (serve visible q request).1))
          got := p.got ++ handed request (serve visible q request).1 },
        (serve visible q request).2) := by
  unfold go
  rw [h]

/-- A look is answered at once unless nothing is visible; then the pull waits. -/
theorem go_start (most : Nat) (visible : Bool) (q : Queue) :
    (start most).go visible q =
      (match (q.take most).1 with
        | .failed cause => ⟨most, some (.done (some (.error cause))), []⟩
        | .messages ids => ⟨most, some (.done (some (.ok ids))), ids⟩
        | .nothing => ⟨most, some awaitAnother, []⟩, (q.take most).2) := by
  rw [go_call (p := start most) rfl]
  simp only [serve]
  cases (q.take most).1 <;> rfl

theorem go_waiting (most : Nat) (visible : Bool) (q : Queue) :
    go ⟨most, some awaitAnother, []⟩ visible q =
      (if visible then start most else ⟨most, some (.done (some (.ok []))), []⟩, q) := by
  cases visible <;> rfl

/-- What the next request of a pull does to the pull and to the queue. -/
theorem Stands.go (h : p.Stands) (hn : q.Numbered) (visible : Bool) :
    (p.go visible q).1.Stands ∧ ∃ ids, (p.go visible q).1.got = p.got ++ ids ∧
      Grows q [] ids (p.go visible q).2 ∧
      (p.go visible q).2.ready = q.ready.drop ids.length ∧
      ids.map (p.go visible q).2.held? =
        (q.ready.take ids.length).map (fun task => some ({ task } : Delivery)) ∧
      (p.IsLooking → q.failures = 0 → q.ready ≠ [] →
        (p.go visible q).1.answer? = some (.ok ids) ∧
          ids.length = min p.most q.ready.length) := by
  have idle : Grows q [] [] q := idle_grows hn rfl rfl rfl rfl rfl rfl rfl
  cases h with
  | looking most =>
    have grows := take_grows hn most
    obtain ⟨ready, found⟩ := take_front hn most
    rw [go_start]
    rcases take_cases hn most with ⟨failing, ⟨cause, hp⟩, -⟩ | ⟨-, empty, hp⟩ |
        ⟨-, -, ids, hp, handed⟩
    · rw [hp] at grows ready found ⊢
      exact ⟨.answered most (.error cause), [], rfl, grows, ready, found,
        fun _ none => absurd none (Nat.ne_of_gt failing)⟩
    · rw [hp] at grows ready found ⊢
      exact ⟨.waiting most, [], rfl, grows, ready, found, fun _ _ some => absurd empty some⟩
    · rw [hp] at grows ready found ⊢
      exact ⟨.answered most (.ok ids), ids, rfl, grows, ready, found,
        fun _ _ _ => ⟨rfl, handed.length.trans List.length_take⟩⟩
  | waiting most =>
    rw [go_waiting]
    have waits : ¬ IsLooking ⟨most, some awaitAnother, []⟩ := fun ⟨_, h⟩ => nomatch h
    cases visible with
    | true => exact ⟨.looking most, [], rfl, idle, rfl, rfl, fun h => absurd h waits⟩
    | false => exact ⟨.answered most (.ok []), [], rfl, idle, rfl, rfl, fun h => absurd h waits⟩
  | answered most answer =>
    exact ⟨.answered most answer, [], (List.append_nil _).symm, idle, rfl, rfl,
      fun ⟨_, h⟩ => nomatch h⟩
  | left most => exact ⟨.left most, [], rfl, idle, rfl, rfl, fun ⟨_, h⟩ => nomatch h⟩

end Puller

/-! The books. -/

namespace Desk

variable {d : Desk} {brought new : List TaskId} {ids : List DeliveryId} {q : Queue}

/-- What the books say about the queue. -/
structure Kept (d : Desk) (brought : List TaskId) : Prop where
  messages : d.queue.messages.Perm brought
  counted : d.queue.IsCounted
  /-- A delivery is held or was settled. -/
  holders : (d.queue.held.keys ++ d.settled.map Prod.fst).Perm (List.range' 1 d.queue.delivered)
  /-- A delivery was made to one pull or without any. -/
  takers : (d.pulls.flatMap Puller.got ++ d.direct).Perm (List.range' 1 d.queue.delivered)
  stands : ∀ p ∈ d.pulls, p.Stands
  /-- Decisions are about deliveries that were made. -/
  spoken : ∀ e ∈ d.decisions, e.1 ≤ d.queue.delivered
  decided : ∀ message delivery, d.queue.held? message = some delivery →
    delivery.decided = d.decision? message
  log : d.queue.settlements = d.settled.map fun e => (e.2, d.decision e.1)

theorem Kept.numbered (h : d.Kept brought) : d.queue.Numbered := by
  intro message delivery hd
  have mem : message ∈ d.queue.held.keys :=
    Table.mem_keys.mpr (Option.isSome_iff_exists.mpr ⟨delivery, hd⟩)
  have within := (List.mem_range'_1.mp (h.holders.subset (List.mem_append_left _ mem))).2
  rw [Nat.add_comm] at within
  exact Nat.le_of_lt_succ within

/-- A settled message is not held again. -/
theorem Kept.settled_not_held (h : d.Kept brought) {e : DeliveryId × TaskId} (he : e ∈ d.settled)
    {delivery : Delivery} : d.queue.held? e.1 ≠ some delivery := by
  intro hd
  have mem : e.1 ∈ d.queue.held.keys :=
    Table.mem_keys.mpr (Option.isSome_iff_exists.mpr ⟨delivery, hd⟩)
  have distinct := h.holders.symm.nodup List.nodup_range'
  exact (List.nodup_append.mp distinct).2.2 _ mem _ (List.mem_map_of_mem he) rfl

/-- Nothing was decided yet on deliveries to come. -/
theorem Kept.undecided (h : d.Kept brought) {message : DeliveryId}
    (later : d.queue.delivered < message) : d.decision? message = none := by
  unfold decision?
  rw [List.find?_eq_none.mpr, Option.map_none]
  intro e he named
  obtain ⟨named, -⟩ := Bool.and_eq_true_iff.mp named
  obtain rfl := of_decide_eq_true named
  exact absurd (h.spoken e he) (Nat.not_le_of_lt later)

/-- The books stay right when the queue goes on. -/
theorem Kept.grows (h : d.Kept brought) (g : Grows d.queue new ids q) {pulls : List Puller}
    {direct : List DeliveryId}
    (takers : (pulls.flatMap Puller.got ++ direct).Perm
      (d.pulls.flatMap Puller.got ++ d.direct ++ ids))
    (stands : ∀ p ∈ pulls, p.Stands) :
    { d with queue := q, pulls, direct }.Kept (brought ++ new) := by
  have numbers : List.range' 1 q.delivered = List.range' 1 d.queue.delivered ++ ids := by
    rw [g.delivered, ← List.range'_append_1, Nat.add_comm 1, ← g.numbers]
  refine ⟨g.messages.trans (h.messages.append_right new), g.counted h.counted, ?_, ?_, stands,
    fun e he => Nat.le_trans (h.spoken e he) g.goesOn.delivered, fun message delivery hd => ?_,
    g.settlements.trans h.log⟩
  · rw [numbers, g.keys, List.append_assoc]
    refine (List.perm_append_comm.append_left _).trans ?_
    rw [← List.append_assoc]
    exact h.holders.append_right ids
  · rw [numbers]
    exact takers.trans (h.takers.append_right ids)
  · rcases Nat.lt_or_ge d.queue.delivered message with later | old
    · rw [(g.goesOn.new message delivery later hd).2]
      exact (h.undecided later).symm
    · exact h.decided message delivery ((g.goesOn.old message old).symm.trans hd)

/-- A decision counts if it is the first one that is not to wait. -/
theorem decision?_decided (d : Desk) (queue : Queue) (message other : DeliveryId)
    (disposition : Disposition) :
    { d with queue, decisions := d.decisions ++ [(message, disposition)] }.decision? other =
      (d.decision? other).or
        (if message = other ∧ disposition ≠ .waiting then some disposition else none) := by
  unfold decision?
  rw [List.find?_append]
  cases d.decisions.find? fun e => e.1 = other && e.2 ≠ .waiting with
  | some e => rfl
  | none => by_cases named : message = other ∧ disposition ≠ .waiting <;> simp [named]

/-- Decisions on other messages do not count. -/
theorem decision?_other (d : Desk) (queue : Queue) {message other : DeliveryId}
    (ne : other ≠ message) (disposition : Disposition) :
    { d with queue, decisions := d.decisions ++ [(message, disposition)] }.decision? other =
      d.decision? other := by
  rw [decision?_decided, if_neg (fun h => ne h.1.symm), Option.or_none]

/-- A decision on a held message is written down. -/
theorem Kept.disposed (h : d.Kept brought) {message : DeliveryId} {delivery : Delivery}
    (hd : d.queue.held? message = some delivery) (disposition : Disposition) :
    { d with
      queue := (d.queue.dispose message disposition).2
      decisions := d.decisions ++ [(message, disposition)] }.Kept brought := by
  have keys := keys_dispose d.queue message disposition
  have messages := messages_dispose d.queue message disposition
  have held := held?_disposed hd disposition
  have rest := dispose_rest d.queue message disposition
  revert keys messages held
  rw [rest]
  intro keys messages held
  refine ⟨?_, ?_, ?_, h.takers, h.stands, ?_, ?_, ?_⟩
  · exact (List.Perm.of_eq messages).trans h.messages
  · exact h.counted.trans (congrArg List.length keys.symm)
  · refine (List.Perm.of_eq ?_).trans h.holders
    exact congrArg (· ++ d.settled.map Prod.fst) keys
  · intro e he
    rcases List.mem_append.mp he with he | he
    · exact h.spoken e he
    · rw [List.mem_singleton.mp he]
      exact h.numbered message delivery hd
  · intro other found hf
    rw [held] at hf
    split at hf
    · next e =>
      obtain rfl := Option.some.inj hf
      rw [e, decision?_decided, h.decided message delivery hd]
      simp
    · next ne =>
      rw [decision?_other d _ ne]
      exact h.decided other found hf
  · refine h.log.trans (List.map_congr_left fun e he => ?_)
    have ne : e.1 ≠ message := fun same => h.settled_not_held he (same ▸ hd)
    unfold decision
    rw [decision?_other d _ ne]

/-- A settlement takes the delivery out of the hands of its holder and adds a line to the log. -/
theorem Kept.settled (h : d.Kept brought) {message : DeliveryId} {delivery : Delivery}
    (hd : d.queue.held? message = some delivery) (now : Nat) :
    { d with
      queue := d.queue.settle message now
      settled := d.settled ++ [(message, delivery.task)] }.Kept brought := by
  have settles := settle_settles hd now
  have keys := settles.keys hd
  refine ⟨settles.messages.trans h.messages, settles.counted hd h.counted, ?_, ?_, h.stands, ?_, ?_,
    ?_⟩
  · refine .trans ?_ (settles.delivered ▸ h.holders)
    rw [List.map_append, ← List.append_assoc]
    exact (List.perm_append_singleton message _).trans (keys.symm.append_right _)
  · rw [settles.delivered]
    exact h.takers
  · intro e he
    rw [settles.delivered]
    exact h.spoken e he
  · intro other found hf
    rw [held?_settle] at hf
    split at hf
    · cases hf
    · exact h.decided other found hf
  · refine settles.settlements.trans ?_
    rw [h.log, List.map_append]
    congr 1
    simp only [List.map_cons, List.map_nil]
    unfold Delivery.disposition
    rw [h.decided message delivery hd]
    rfl

theorem play_go {puller : Nat} {p : Puller} (hp : d.pulls[puller]? = some p) (visible : Bool) :
    d.play (.go puller visible) = { d with
      queue := (p.go visible d.queue).2
      pulls := d.pulls.set puller (p.go visible d.queue).1 } := by
  simp only [play, hp]

theorem play_settle {message : DeliveryId} {delivery : Delivery}
    (hd : d.queue.held? message = some delivery) (now : Nat) :
    d.play (.settle message now) = { d with
      queue := d.queue.settle message now
      settled := d.settled ++ [(message, delivery.task)] } := by
  simp only [play, hd]

/-- The books stay right when a pull takes messages. -/
theorem Kept.took (h : d.Kept brought) {puller : Nat} {p p' : Puller}
    (hp : d.pulls[puller]? = some p) (stands : p'.Stands) (got : p'.got = p.got ++ ids)
    (grows : Grows d.queue [] ids q) :
    { d with queue := q, pulls := d.pulls.set puller p' }.Kept brought := by
  obtain ⟨hi, here⟩ := List.getElem?_eq_some_iff.mp hp
  obtain ⟨before, after, split, -, changed⟩ : ∃ before after,
      d.pulls = before ++ d.pulls[puller] :: after ∧ before.length = puller ∧
        d.pulls.set puller p' = before ++ p' :: after := List.exists_of_set hi
  have kept : { d with queue := q, pulls := d.pulls.set puller p' }.Kept (brought ++ []) := by
    refine h.grows grows ?_ fun other hm => ?_
    · rw [changed, split, here]
      refine List.perm_iff_count.mpr fun message => ?_
      simp only [List.flatMap_append, List.flatMap_cons, got, List.count_append]
      omega
    · rcases List.mem_or_eq_of_mem_set hm with hm | rfl
      · exact h.stands other hm
      · exact stands
  rwa [List.append_nil] at kept

/-- The next request of a pull is served. -/
theorem Kept.gone (h : d.Kept brought) (puller : Nat) (visible : Bool) :
    (d.play (.go puller visible)).Kept brought := by
  cases hp : d.pulls[puller]? with
  | none =>
    simp only [play, hp]
    exact h
  | some p =>
    obtain ⟨stands, ids, got, grows, -⟩ :=
      (h.stands p (List.mem_of_getElem? hp)).go h.numbered visible
    rw [play_go hp]
    exact h.took hp stands got grows

/-- The caller of a pull goes away. -/
theorem Kept.left (h : d.Kept brought) (puller : Nat) : (d.play (.leave puller)).Kept brought := by
  cases hp : d.pulls[puller]? with
  | none =>
    simp only [play, hp]
    exact h
  | some p =>
    obtain ⟨stands, got⟩ := (h.stands p (List.mem_of_getElem? hp)).leave
    simp only [play, hp]
    exact h.took hp stands (got.trans (List.append_nil _).symm)
      (idle_grows h.numbered rfl rfl rfl rfl rfl rfl rfl)

/-- What every event does to the books. -/
theorem Kept.play (h : d.Kept brought) (event : Event) :
    (d.play event).Kept (brought ++ event.brings) := by
  have hn := h.numbered
  have same : (d.pulls.flatMap Puller.got ++ d.direct).Perm
      (d.pulls.flatMap Puller.got ++ d.direct ++ []) := by
    rw [List.append_nil]
  cases event with
  | push tasks => exact h.grows (push_grows hn tasks) same h.stands
  | deliver task =>
    refine h.grows (deliver_grows hn task) ?_ h.stands
    rw [List.append_assoc]
    exact .refl _
  | pull most =>
    refine h.grows (idle_grows hn rfl rfl rfl rfl rfl rfl rfl) ?_ fun p hp => ?_
    · simp [Puller.start]
    · rcases List.mem_append.mp hp with hp | hp
      · exact h.stands p hp
      · rw [List.mem_singleton.mp hp]
        exact .looking most
  | go puller visible =>
    simp only [Event.brings, List.append_nil]
    exact h.gone puller visible
  | leave puller =>
    simp only [Event.brings, List.append_nil]
    exact h.left puller
  | decide message disposition =>
    simp only [Desk.play, Event.brings, List.append_nil]
    split
    · next held =>
      obtain ⟨delivery, hd⟩ := Option.isSome_iff_exists.mp held
      exact h.disposed hd disposition
    · exact h
  | settle message now =>
    simp only [Event.brings, List.append_nil]
    cases hd : d.queue.held? message with
    | none =>
      simp only [Desk.play, hd]
      exact h
    | some delivery =>
      rw [play_settle hd]
      exact h.settled hd now
  | arrive now => exact h.grows (arrive_grows hn now) same h.stands
  | failPulls failures =>
    have idle : Grows d.queue [] [] { d.queue with failures } :=
      idle_grows hn rfl rfl rfl rfl rfl rfl rfl
    exact h.grows idle same h.stands
  | report health =>
    have idle : Grows d.queue [] [] { d.queue with health } :=
      idle_grows hn rfl rfl rfl rfl rfl rfl rfl
    exact h.grows idle same h.stands

/-- The books are right after any events. -/
theorem Kept.foldl (h : d.Kept brought) (events : List Event) :
    (events.foldl Desk.play d).Kept (brought ++ events.flatMap Event.brings) := by
  induction events generalizing d brought with
  | nil =>
    rw [List.flatMap_nil, List.append_nil]
    exact h
  | cons event rest ih =>
    rw [List.flatMap_cons, ← List.append_assoc]
    exact ih (h.play event)

theorem run_kept (redeliveryDelay : Nat) (events : List Event) :
    (run redeliveryDelay events).Kept (events.flatMap Event.brings) := by
  have fresh : Kept { queue := { redeliveryDelay } } [] :=
    ⟨.nil, rfl, .nil, .nil, nofun, nofun, nofun, rfl⟩
  exact fresh.foldl events

/-! What the books say of a queue. -/

theorem Kept.balances (h : d.Kept brought) : d.Balances brought :=
  ⟨h.messages, h.holders, h.takers, h.counted, fun _ _ hd => h.counted.pos hd⟩

theorem Kept.pullsInOrder (h : d.Kept brought) : d.PullsInOrder := by
  refine ⟨fun p hp => (h.stands p hp).got, fun puller p visible hp => ?_⟩
  obtain ⟨-, ids, got, -, ready, found, looked⟩ :=
    (h.stands p (List.mem_of_getElem? hp)).go h.numbered visible
  rw [play_go hp]
  refine ⟨ids, _, ?_, got, ready, found, looked⟩
  exact List.getElem?_set_self (List.getElem?_eq_some_iff.mp hp).1

theorem Kept.decidesOnce (h : d.Kept brought) : d.DecidesOnce := by
  intro message delivery disposition hd
  have decided := h.decided message delivery hd
  refine ⟨?_, fun none => ?_, fun some => ?_⟩
  · unfold dispositionOf decision
    rw [hd, ← decided]
    rfl
  · unfold dispose
    rw [hd, Option.bind_some, decided, none]
    dsimp only
    split <;> rfl
  · obtain ⟨first, some⟩ := Option.isSome_iff_exists.mp some
    unfold dispose
    rw [hd, Option.bind_some, decided, some]

theorem Kept.logsOnce (h : d.Kept brought) : d.LogsOnce := by
  refine ⟨h.log, fun message delivery now hd => ?_⟩
  have settles := settle_settles hd now
  have pos := h.counted.pos hd
  rw [play_settle hd]
  refine ⟨?_, ?_, ?_⟩
  · rw [settles.settlements]
    unfold Delivery.disposition decision
    rw [h.decided message delivery hd]
  · rw [settles.inFlight]
    exact Nat.sub_add_cancel pos
  · rw [held?_settle, if_pos rfl]

end Desk

/-- Whatever is done with a fresh queue, with any redelivery delay and in any order: no task is lost or
doubled on its way through the queue, and the count of deliveries in flight is right; pulls take
messages off the front in order, and those that end without messages take none; and each message is
decided on once and written down once when it is settled. -/
theorem messages_conserved (redeliveryDelay : Nat) (events : List Event) :
    (Desk.run redeliveryDelay events).Balances (events.flatMap Event.brings) ∧
      (Desk.run redeliveryDelay events).PullsInOrder ∧
      (Desk.run redeliveryDelay events).DecidesOnce ∧ (Desk.run redeliveryDelay events).LogsOnce := by
  have kept := Desk.run_kept redeliveryDelay events
  exact ⟨kept.balances, kept.pullsInOrder, kept.decidesOnce, kept.logsOnce⟩

/-- A pull that waits is overtaken by another one, and the caller of a third goes away. -/
example :
    (Desk.run 5 [.pull 2, .go 0 true, .push [⟨1⟩, ⟨2⟩, ⟨3⟩], .pull 1, .pull 1, .leave 2, .go 1 true,
      .go 0 true, .go 0 true]).pulls.map Puller.got = [[2, 3], [1], []] := by
  decide

end GridAgent.Queue
