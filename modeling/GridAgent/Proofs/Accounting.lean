import GridAgent.Proofs.Loop.Custody

/-!
# What a loop does with its messages

A loop gives each message that it pulls to one handler or hands it back, and a message that has no
slot when the loop is stopped is handed back: nobody handles it, nothing is decided on it, and the
store is not asked. There are never more handlers at work than slots. When the loop returns with a
summary and no handler has broken off, every message is settled, by its handler or by the loop, and
the summary counts the handlers.
-/

namespace GridAgent

namespace Agent.Loop.Books

/-- Pulled messages that no slot was taken for. -/
def unplaced (b : Books) : List DeliveryId := if b.slot then b.hands.tail else b.hands

/-- A message that no slot was taken for gets none as long as slots are refused: it stays in the
hands of the loop until it is handed back. -/
theorem stays_unplaced {b : Books} {message : DeliveryId} {request : LoopRequest}
    {reply : request.Reply}
    (may : b.May request)
    (refused : ∀ taken : Bool,
      (⟨request, reply⟩ : Cluster.LoopAnswered) = ⟨.takeSlot, taken⟩ → taken = false)
    (hm : message ∈ b.unplaced ∨ message ∈ b.returned) :
    message ∈ (b.note request reply).unplaced ∨ message ∈ (b.note request reply).returned := by
  unfold unplaced at hm ⊢
  cases request with
  | pull most =>
    obtain ⟨none, free, -⟩ := may.ask nofun
    rw [free, none] at hm
    have back : message ∈ b.returned := hm.resolve_left nofun
    rcases reply with _ | cause | ids <;> exact .inr back
  | takeSlot =>
    obtain rfl := refused reply rfl
    exact hm
  | start first =>
    rw [(may.ask nofun).2] at hm
    exact hm
  | handBack first =>
    obtain ⟨head, free, -⟩ := may.ask nofun
    obtain ⟨rest, hands⟩ := List.head?_eq_some_iff.mp head
    simp only [free, hands, note, List.tail_cons, Bool.false_eq_true, if_false, List.mem_append,
      List.mem_cons, List.not_mem_nil, or_false] at hm ⊢
    rcases hm with (own | waits) | back
    · exact .inr (.inr own)
    · exact .inl waits
    · exact .inr (.inl back)
  | tryJoin => cases reply <;> exact hm
  | _ => exact hm

end Agent.Loop.Books

namespace Cluster

open Agent Queue

variable {fleet : Fleet} {pod : PodId} {start t t' : Station} {origin c c' : State}
  {message : DeliveryId} {number slots : Nat} {b : Loop.Books} {s : Settings} {most : Nat}

/-- The actor of a number is at work: it has neither returned nor broken off. -/
def State.isBusy (c : State) (number : Nat) : Bool :=
  (c.actors[number]?).any fun a => a.outcome?.isNone && !a.isBroken

namespace Station

/-- Handlers of the loop that are at work. -/
def busy (t : Station) : List Nat := t.crew.filter t.cluster.isBusy

/-- No handler of the loop has broken off. -/
def Unbroken (t : Station) : Prop :=
  ∀ number ∈ t.crew, ∀ a, t.cluster.actors[number]? = some a → a.isBroken = false

/-- A message is accounted for: it was given to one handler or handed back once, it was settled
once, by its handler or by the loop, and it is not in flight any more. -/
structure AccountsFor (t : Station) (message : DeliveryId) : Prop where
  given : (t.cluster.actors.countP fun a => a.job.message? = some message) +
    t.books.returned.count message = 1
  settled : (t.cluster.actors.flatMap Actor.settlements).count message +
    t.books.returned.count message = 1
  landed : t.cluster.shared.queue.held? message = none

/-- What a summary stands for: every pulled message is accounted for, those that were given to
handlers are counted, and so are the reports of acquired tasks. -/
structure SumsUp (t : Station) (exit : Exit) : Prop where
  all : ∀ message ∈ t.books.pulled, t.AccountsFor message
  handled : exit.handled = t.books.pulled.countP t.cluster.isHandled
  acquired : exit.acquired = t.crew.countP fun number => (t.result number).isAcquired

end Station

/-- A held message is released undecided: nothing but the queue changes, and it is written down that
the message is to wait. -/
structure HandsBack (c : State) (message : DeliveryId) (c' : State) : Prop where
  only : c' = { c with shared :=
    { c.shared with queue := c.shared.queue.settle message c.shared.time } }
  log : ∃ delivery, c.shared.queue.held? message = some delivery ∧
    c'.shared.queue.settlements = c.shared.queue.settlements ++ [(delivery.task, .waiting)]
  /-- No task is lost. -/
  messages : c'.shared.queue.messages.Perm c.shared.queue.messages
  released : c'.shared.queue.held? message = none

/-! Slots. -/

/-- Only handlers that have not left their slots are at work. -/
theorem Staffed.busy_le (h : Staffed slots t b) : t.busy.length ≤ slots := by
  have idle (number : Nat) (hm : number ∈ t.ended ++ t.seen) : t.cluster.isBusy number = false := by
    obtain ⟨a, ha, finished⟩ := h.finished number hm
    unfold State.isBusy
    rw [ha]
    rcases finished with returned | broken
    · simp [Option.isSome_iff_ne_none.mp returned]
    · simp [broken]
  have counted : t.busy.length = t.running.countP t.cluster.isBusy := by
    have none : (t.ended ++ t.seen).countP t.cluster.isBusy = 0 :=
      List.countP_eq_zero.mpr fun number hm => by rw [idle number hm]; exact Bool.false_ne_true
    unfold Station.busy
    rw [← List.countP_eq_length_filter, h.shifts.countP_eq, List.append_assoc, List.countP_append,
      none]
    rfl
  have within := h.slots
  have running : t.running.countP t.cluster.isBusy ≤ t.running.length := List.countP_le_length
  omega

/-! Messages without a slot. -/

/-- A message that has no slot when the loop is stopped never gets one. -/
theorem Works.stays_unplaced (before : Works fleet pod start t) (fresh : start.Fresh s most)
    (stopped : t.stopped = true) (hm : message ∈ t.books.unplaced) (after : Works fleet pod t t') :
    message ∈ t'.books.unplaced ∨ message ∈ t'.books.returned := by
  apply after.invariant (.inl hm)
  intro t₁ t₂ happening works ih happens
  have follows := (before.trans works).follows fresh
  have still := works.stays_stopped stopped
  cases happens with
  | answered request next reply t₃ asks served =>
    rw [asks] at follows
    refine Loop.Books.stays_unplaced follows.1 (fun taken e => ?_) ih
    cases e
    cases served with
    | told request reply tells => exact tells.1
    | taken goes free => exact absurd (still.symm.trans goes) nofun
  | _ => exact ih

/-! The end. -/

/-- Nobody handles a message that has no slot or was handed back. -/
theorem Keeping.free (h : Keeping c b) (hm : message ∈ b.unplaced ∨ message ∈ b.returned) :
    c.isHandled message = false := by
  rcases hm with hm | hm
  · refine (h.hands message ?_).2
    unfold Loop.Books.unplaced at hm
    split at hm
    · exact List.mem_of_mem_tail hm
    · exact hm
  · exact (h.returned message hm).2

/-- A message that is handed back is released undecided. -/
theorem Keeping.handsBack (h : Keeping c b) (hc : Custody c) (hands : message ∈ b.hands)
    (hp : c.perform fleet (.handBack message) = some c') : HandsBack c message c' := by
  obtain ⟨⟨delivery, hd⟩, free⟩ := h.hands message hands
  obtain ⟨-, rfl⟩ := State.of_handBack hp
  have undecided := hc.fresh message delivery hd (isHandled_eq_false.mp free)
  have settles := settle_settles hd c.shared.time
  refine ⟨rfl, ⟨delivery, hd, ?_⟩, settles.messages, ?_⟩
  · rw [settles.settlements, Delivery.disposition, undecided]
    rfl
  · exact (held?_settle _ _ _ _).trans (if_pos rfl)

/-- What is handed back last is released by the last answer. -/
theorem Happens.handsBack {happening : Station.Happening} (h : Happens fleet pod t happening t')
    (keeping : Keeping t.cluster t.books) (hc : Custody t.cluster)
    (follows : t.rest.Follows Loop.rules t.books fun value b => b.Ends value)
    (back : message ∈ t'.books.returned) (new : message ∉ t.books.returned) :
    HandsBack t.cluster message t'.cluster := by
  cases h with
  | answered request next reply t₁ asks served =>
    rw [asks] at follows
    have may : t.books.May request := follows.1
    replace back : message ∈ (t.books.note request reply).returned := back
    cases served with
    | returned other cluster performed =>
      rcases List.mem_append.mp back with old | own
      · exact absurd old new
      · obtain rfl := List.mem_singleton.mp own
        exact keeping.handsBack hc (List.mem_of_head? (may.ask nofun).1) performed
    | told request reply tells =>
      refine absurd ?_ new
      cases request with
      | pull most => rcases reply with _ | _ | _ <;> exact back
      | takeSlot => cases reply <;> exact back
      | tryJoin => cases reply <;> exact back
      | start other => exact tells.elim
      | handBack other => exact tells.elim
      | _ => exact back
    | looked most cluster performed =>
      rw [note_pull_of_looked] at back
      exact absurd back new
    | _ => exact absurd back new
  | _ => exact absurd back new

/-- When every handler is joined, all of them have been seen. -/
theorem Staffed.all_seen (h : Staffed slots t b) (all : b.joined.length = b.started.length) :
    t.crew.Perm t.seen := by
  have crew := congrArg List.length h.messages
  have joined := congrArg List.length h.joined
  have length := h.shifts.length_eq
  simp only [List.length_map, List.length_append] at crew joined length
  have running : t.running = [] := List.eq_nil_of_length_eq_zero (by omega)
  have ended : t.ended = [] := List.eq_nil_of_length_eq_zero (by omega)
  have shifts := h.shifts
  rw [running, ended] at shifts
  exact shifts

/-- The handler of a started message, once every handler is joined and none has broken off: it has
returned. -/
theorem Staffed.handler (h : Staffed slots t b) (all : b.joined.length = b.started.length)
    (unbroken : t.Unbroken) (hm : message ∈ b.started) :
    ∃ (number : Nat) (a : Actor), t.cluster.actors[number]? = some a ∧
      a.job.message? = some message ∧ a.outcome?.isSome = true := by
  have mem : some message ∈ t.crew.map t.cluster.messageOf := by
    rw [h.messages]
    exact List.mem_map_of_mem hm
  obtain ⟨number, crew, own⟩ := List.mem_map.mp mem
  obtain ⟨a, ha, finished⟩ :=
    h.finished number (List.mem_append_right _ ((h.all_seen all).mem_iff.mp crew))
  have same : t.cluster.messageOf number = a.job.message? := by
    unfold State.messageOf
    rw [ha]
    rfl
  refine ⟨number, a, ha, same.symm.trans own, finished.resolve_right fun broken => ?_⟩
  rw [unbroken number crew a ha] at broken
  cases broken

/-- A message whose handler has returned was settled by the handler. -/
theorem Keeping.accountsFor_handled (h : Keeping t.cluster t.books) (hs : Sound t.cluster)
    (hc : Custody t.cluster) (hr : Reaches fleet anyEvent origin t.cluster) (hi : origin.Initial)
    {a : Actor} (ha : t.cluster.actors[number]? = some a) (own : a.job.message? = some message)
    (returned : a.outcome?.isSome = true) : t.AccountsFor message := by
  have mem := List.mem_of_getElem? ha
  have settled := hs.settled_of_outcome mem returned
  have alone := hc.countP_handlers ha own
  have none : t.books.returned.count message = 0 :=
    List.count_eq_zero.mpr fun back => isHandled_eq_false.mp (h.returned message back).2 a mem own
  refine ⟨?_, ?_, (hc.keeps a mem message own).gone settled⟩
  · have one := alone fun _ => true
    simp only [Bool.and_true, if_true] at one
    rw [one, none]
  · rw [count_settlements hr hi, alone, settled, none]
    rfl

/-- A message that was handed back was settled by the loop. -/
theorem Keeping.accountsFor_returned (h : Keeping t.cluster t.books)
    (hr : Reaches fleet anyEvent origin t.cluster) (hi : origin.Initial)
    (back : message ∈ t.books.returned) : t.AccountsFor message := by
  obtain ⟨gone, free⟩ := h.returned message back
  obtain ⟨distinct, -, -⟩ := List.nodup_append.mp (h.parted.nodup h.distinct)
  obtain ⟨-, distinct, -⟩ := List.nodup_append.mp distinct
  have one : t.books.returned.count message = 1 := by rw [distinct.count, if_pos back]
  refine ⟨?_, ?_, gone⟩
  · have none : (t.cluster.actors.countP fun a => a.job.message? = some message) = 0 :=
      List.countP_eq_zero.mpr fun a ha => by simp [isHandled_eq_false.mp free a ha]
    rw [none, one]
  · rw [count_settlements_of_free hr hi free, one]

/-- A summary stands for what has become of all messages. -/
theorem sumsUp_of_ends {exit : Exit} (hs : Sound t.cluster) (hc : Custody t.cluster)
    (hr : Reaches fleet anyEvent origin t.cluster) (hi : origin.Initial)
    (keeping : Keeping t.cluster t.books) (staffed : Staffed slots t t.books)
    (ends : t.books.Ends (.ok (some exit))) (unbroken : t.Unbroken) : t.SumsUp exit := by
  obtain ⟨handled, acquired, all⟩ := ends.counted exit rfl
  have parted := keeping.parted
  rw [ends.free.hands, List.append_nil] at parted
  refine ⟨fun message hm => ?_, ?_, ?_⟩
  · rcases List.mem_append.mp (parted.mem_iff.mp hm) with given | back
    · obtain ⟨number, a, ha, own, returned⟩ := staffed.handler all unbroken given
      exact keeping.accountsFor_handled hs hc hr hi ha own returned
    · exact keeping.accountsFor_returned hr hi back
  · have some : t.books.started.countP t.cluster.isHandled = t.books.started.length := by
      refine List.countP_eq_length.mpr fun message given => ?_
      obtain ⟨number, a, ha, own, -⟩ := staffed.handler all unbroken given
      exact List.any_eq_true.mpr ⟨a, List.mem_of_getElem? ha, decide_eq_true own⟩
    have none : t.books.returned.countP t.cluster.isHandled = 0 :=
      List.countP_eq_zero.mpr fun message back => by
        rw [(keeping.returned message back).2]
        exact Bool.false_ne_true
    rw [parted.countP_eq, List.countP_append, some, none, handled]
    rfl
  · rw [acquired, staffed.joined, List.countP_map, (staffed.all_seen all).countP_eq]
    rfl

/-- Whatever happens to an agent whose loop began with all its slots free, at any moment: at most as
many of its handlers are at work as it has slots. If its loop has returned with a summary and none
of its handlers has broken off, every message that it pulled was given to one handler or handed
back, was settled once and is not in flight, and the summary counts the handled messages and the
acquired tasks. What the loop hands back it releases to wait, and nothing but the queue changes. And
messages without a slot at a moment when the loop is stopped are handled by nobody, and are handed
back before it returns. -/
theorem pulled_messages_accounted (hi : origin.Initial)
    (hr : Reaches fleet anyEvent origin start.cluster)
    (fresh : start.Fresh (fleet.settings pod) most) (works : Works fleet pod start t) :
    t.busy.length ≤ (fleet.settings pod).slots ∧
      (∀ exit, t.rest = .done (.ok (some exit)) → t.Unbroken → t.SumsUp exit) ∧
      (∀ happening t', t.perform fleet pod happening = some t' →
        ∀ message ∈ t'.books.returned, message ∉ t.books.returned →
          HandsBack t.cluster message t'.cluster) ∧
      (t.stopped = true → ∀ message ∈ t.books.unplaced, ∀ t', Works fleet pod t t' →
        t'.cluster.isHandled message = false ∧
          ∀ value, t'.rest = .done value → message ∈ t'.books.returned) := by
  have reached := works.reaches hr
  have hs := reached.sound hi
  have hc := reached.custody hi
  obtain ⟨keeping, staffed⟩ := works.kept fresh hi hr
  have follows := works.follows fresh
  refine ⟨staffed.busy_le, fun exit ended unbroken => ?_, fun happening t' hp message back new => ?_,
    fun stopped message hm t' after => ?_⟩
  · rw [ended] at follows
    exact sumsUp_of_ends hs hc reached hi keeping staffed follows unbroken
  · exact (happens_of_perform hp).handsBack keeping hc follows back new
  · have still := works.stays_unplaced fresh stopped hm after
    have all := works.trans after
    refine ⟨(all.kept fresh hi hr).1.free still, fun value ended => ?_⟩
    have ends := all.follows fresh
    rw [ended] at ends
    have ends : t'.books.Ends value := ends
    refine still.resolve_left fun waits => ?_
    unfold Loop.Books.unplaced at waits
    rw [ends.free.slot, ends.free.hands] at waits
    change message ∈ [] at waits
    cases waits

/-! A loop that pulls two messages and is stopped when the first one has its slot. -/

/-- The loop has pulled both messages and started a handler of the first when it is stopped. -/
def stoppedStation : Station :=
  (plainStation.play batchFleet ⟨"first"⟩ (List.replicate 11 plainAnswer ++ [.shutDown])).getD
    plainStation

/-- The handler has returned, the loop has handed the other message back, and sums up. -/
def finishedStation : Station :=
  (stoppedStation.play batchFleet ⟨"first"⟩
    (List.replicate 31 (.other (.answer 0 (plainly morning))) ++ [.conclude 0] ++
      List.replicate 6 plainAnswer)).getD stoppedStation

/-- The loop sums up what has become of the two messages. -/
theorem pulled_messages_accounted_batch :
    stoppedStation.busy.length ≤ 1 ∧ finishedStation.SumsUp { handled := 1, acquired := 1 } ∧
      stoppedStation.books.unplaced = [2] ∧ finishedStation.cluster.isHandled 2 = false ∧
        2 ∈ finishedStation.books.returned := by
  have stops : Works batchFleet ⟨"first"⟩ plainStation stoppedStation := .of_played _
  have finishes : Works batchFleet ⟨"first"⟩ stoppedStation finishedStation := .of_played _
  have waits : stoppedStation.books.unplaced = [2] := rfl
  have sum : finishedStation.rest = .done (.ok (some { handled := 1, acquired := 1 })) := rfl
  have unbroken : finishedStation.Unbroken := by
    have none : finishedStation.crew.all (fun number =>
        (finishedStation.cluster.actors[number]?).all fun a => !a.isBroken) = true := rfl
    intro number crew a ha
    have whole := List.all_eq_true.mp none number crew
    rw [ha] at whole
    exact Bool.not_eq_true' _ |>.mp whole
  obtain ⟨within, -, -, denied⟩ :=
    pulled_messages_accounted plainStart_initial plainStation_reached plainStation_fresh stops
  obtain ⟨-, sums, -, -⟩ :=
    pulled_messages_accounted plainStart_initial plainStation_reached plainStation_fresh
      (stops.trans finishes)
  obtain ⟨free, back⟩ := denied rfl 2 (waits ▸ List.mem_singleton_self 2) finishedStation finishes
  exact ⟨within, sums _ sum unbroken, waits, free, back _ sum⟩

end Cluster

end GridAgent
