import GridAgent.Proofs.Loop.Station
import GridAgent.Proofs.Queue.Balance

/-!
# What becomes of pulled messages

The messages in the hands of a loop are held and nobody handles them. A message that was started has a
handler of the crew, and one that was handed back is settled and never handled. Every member of the crew
occupies a slot until it ends, and is joined once.
-/

namespace GridAgent.Cluster

open Agent Queue

variable {fleet : Fleet} {pod : PodId} {start t t' : Station} {origin c c' : State}
  {message : DeliveryId} {number slots : Nat} {a : Actor} {b : Loop.Books} {event : Event}

/-- The message of the handler of a number. -/
def State.messageOf (c : State) (number : Nat) : Option DeliveryId :=
  (c.actors[number]?).bind fun a => a.job.message?

/-- Handlers keep their messages. -/
theorem Sound.messageOf_stays (hs : Sound c) (hp : c.perform fleet event = some c')
    (h : c.messageOf number = some message) : c'.messageOf number = some message := by
  obtain ⟨a, ha, own⟩ := Option.bind_eq_some_iff.mp h
  rcases hs.stays_or_answered hp ha with stays | ⟨b, operation, reply, choice, answers, -⟩
  · exact Option.bind_eq_some_iff.mpr ⟨a, stays, own⟩
  · exact Option.bind_eq_some_iff.mpr ⟨b, answers.self, answers.job ▸ own⟩

/-- The pulled messages of the loop: each is in its hands, was started or was handed back. -/
structure Keeping (c : State) (b : Loop.Books) : Prop where
  parted : b.pulled.Perm (b.started ++ b.returned ++ b.hands)
  /-- No message is pulled twice. -/
  distinct : b.pulled.Nodup
  /-- Every message was delivered. -/
  known : ∀ message ∈ b.pulled, message ≤ c.shared.queue.delivered
  /-- A message in the hands of the loop is held, and nobody handles it. -/
  hands : ∀ message ∈ b.hands,
    (∃ delivery, c.shared.queue.held? message = some delivery) ∧ c.isHandled message = false
  /-- A message that was handed back is settled, and nobody handles it. -/
  returned : ∀ message ∈ b.returned,
    c.shared.queue.held? message = none ∧ c.isHandled message = false

namespace Keeping

/-- Only what the books say of pulled messages matters. -/
theorem congr (h : Keeping c b) {b' : Loop.Books}
    (books : (b'.pulled, b'.started, b'.returned, b'.hands) =
      (b.pulled, b.started, b.returned, b.hands)) : Keeping c b' := by
  simp only [Prod.mk.injEq] at books
  obtain ⟨pulled, started, returned, hands⟩ := books
  refine ⟨?_, ?_, ?_, ?_, ?_⟩
  · rw [pulled, started, returned, hands]
    exact h.parted
  · exact pulled ▸ h.distinct
  · exact pulled ▸ h.known
  · exact hands ▸ h.hands
  · exact returned ▸ h.returned

theorem mem_pulled (h : Keeping c b) (hm : message ∈ b.hands ∨ message ∈ b.returned) :
    message ∈ b.pulled := by
  rw [h.parted.mem_iff, List.mem_append, List.mem_append]
  exact hm.elim .inr fun hm => .inl (.inr hm)

/-- Messages stay where they are when something else happens in the cluster. -/
theorem elsewhere (h : Keeping c b) (hs : Sound c) (hc : Custody c)
    (hp : c.perform fleet event = some c')
    (spared : ∀ message ∈ b.pulled, event.message? ≠ some message) : Keeping c' b := by
  have stays (message : DeliveryId) (hm : message ∈ b.hands ∨ message ∈ b.returned)
      (free : c.isHandled message = false) :=
    hc.untouched hs hp (h.known message (h.mem_pulled hm)) free (spared message (h.mem_pulled hm))
  refine ⟨h.parted, h.distinct, fun message hm => ?_, fun message hm => ?_, fun message hm => ?_⟩
  · exact Nat.le_trans (h.known message hm) (hc.delivered_le hs hp)
  · obtain ⟨held, free⟩ := h.hands message hm
    obtain ⟨same, free'⟩ := stays message (.inl hm) free
    exact ⟨same ▸ held, free'⟩
  · obtain ⟨gone, free⟩ := h.returned message hm
    obtain ⟨same, free'⟩ := stays message (.inr hm) free
    exact ⟨same.trans gone, free'⟩

/-- What is pulled is new to everybody. -/
theorem pulled (h : Keeping c b) (hs : Sound c) (hc : Custody c) {most : Nat}
    (hp : c.perform fleet (.move (.pull most)) = some c') (none : b.hands = []) :
    Keeping c' (b.pull (c.shared.queue.take most).1.handedOut) := by
  have still := h.elsewhere hs hc hp fun _ _ => nofun
  have grows := take_grows hc.numbered most
  obtain ⟨shared, hm, rfl⟩ := State.of_move hp
  cases hm
  generalize (c.shared.queue.take most).1.handedOut = ids at grows ⊢
  have new (message : DeliveryId) (hm : message ∈ ids) : c.shared.queue.delivered < message := by
    rw [grows.numbers] at hm
    exact (List.mem_range'_1.mp hm).1
  refine ⟨?_, ?_, fun message hm => ?_, fun message hm => ⟨?_, ?_⟩, still.returned⟩
  · refine (h.parted.append_right ids).trans ?_
    rw [none, List.append_nil]
    exact .refl _
  · refine List.nodup_append.mpr ⟨h.distinct, ?_, ?_⟩
    · rw [grows.numbers]
      exact List.nodup_range'
    · rintro x hx _ hy rfl
      exact absurd (h.known x hx) (Nat.not_le_of_lt (new x hy))
  · rcases List.mem_append.mp hm with hm | hm
    · exact still.known message hm
    · have held : message ∈ (c.shared.queue.take most).2.held.keys := by
        rw [grows.keys]
        exact List.mem_append_right _ hm
      obtain ⟨delivery, hd⟩ := Option.isSome_iff_exists.mp (Table.mem_keys.mp held)
      exact grows.goesOn.numbered hc.numbered message delivery hd
  · have held : message ∈ (c.shared.queue.take most).2.held.keys := by
      rw [grows.keys]
      exact List.mem_append_right _ hm
    exact Option.isSome_iff_exists.mp (Table.mem_keys.mp held)
  · refine isHandled_eq_false.mpr fun x hx own => ?_
    exact absurd (hc.keeps x hx message own).known (Nat.not_le_of_lt (new message hm))

/-- An event about the first message in the hands of the loop leaves the others. -/
theorem others (h : Keeping c b) (hs : Sound c) (hc : Custody c)
    (hp : c.perform fleet event = some c') {rest : List DeliveryId}
    (hands : b.hands = message :: rest) (about : event.message? = some message) :
    (∀ other ∈ rest, (∃ delivery, c'.shared.queue.held? other = some delivery) ∧
      c'.isHandled other = false) ∧
    ∀ other ∈ b.returned, c'.shared.queue.held? other = none ∧ c'.isHandled other = false := by
  have distinct := h.parted.nodup h.distinct
  rw [hands, List.nodup_append] at distinct
  obtain ⟨-, inHands, apart⟩ := distinct
  have stays (other : DeliveryId) (hm : other ∈ b.hands ∨ other ∈ b.returned)
      (free : c.isHandled other = false) (ne : other ≠ message) :=
    hc.untouched hs hp (h.known other (h.mem_pulled hm)) free fun e =>
      ne (Option.some.inj (e.symm.trans about))
  refine ⟨fun other hm => ?_, fun other hm => ?_⟩
  · have mem : other ∈ b.hands := hands ▸ List.mem_cons_of_mem message hm
    obtain ⟨held, free⟩ := h.hands other mem
    obtain ⟨same, free'⟩ := stays other (.inl mem) free fun e =>
      (List.nodup_cons.mp inHands).1 (e ▸ hm)
    exact ⟨same ▸ held, free'⟩
  · obtain ⟨gone, free⟩ := h.returned other hm
    obtain ⟨same, free'⟩ := stays other (.inr hm) free fun e =>
      apart other (List.mem_append_right _ hm) message List.mem_cons_self e
    exact ⟨same.trans gone, free'⟩

/-- The first message in the hands of the loop is given to a handler. -/
theorem began (h : Keeping c b) (hs : Sound c) (hc : Custody c) {task : TaskId}
    (hp : c.perform fleet (.start pod (.handle message task)) = some c')
    (first : b.hands.head? = some message) : Keeping c' (b.note (.start message) ()) := by
  obtain ⟨rest, hands⟩ := List.head?_eq_some_iff.mp first
  obtain ⟨inHands, returned⟩ := h.others hs hc hp hands rfl
  refine ⟨h.parted.trans ?_, h.distinct, fun other hm => ?_, ?_, returned⟩
  · simp only [Loop.Books.note, hands, List.tail_cons, List.append_assoc]
    exact List.perm_middle.append_left _
  · exact Nat.le_trans (h.known other hm) (hc.delivered_le hs hp)
  · simp only [Loop.Books.note, hands, List.tail_cons]
    exact inHands

/-- The first message in the hands of the loop is handed back. -/
theorem handedBack (h : Keeping c b) (hs : Sound c) (hc : Custody c)
    (hp : c.perform fleet (.handBack message) = some c')
    (first : b.hands.head? = some message) : Keeping c' (b.note (.handBack message) ()) := by
  obtain ⟨rest, hands⟩ := List.head?_eq_some_iff.mp first
  obtain ⟨inHands, returned⟩ := h.others hs hc hp hands rfl
  refine ⟨h.parted.trans ?_, h.distinct, fun other hm => ?_, ?_, fun other hm => ?_⟩
  · simp only [Loop.Books.note, hands, List.tail_cons, List.append_assoc, List.singleton_append]
    exact .refl _
  · exact Nat.le_trans (h.known other hm) (hc.delivered_le hs hp)
  · simp only [Loop.Books.note, hands, List.tail_cons]
    exact inHands
  · rcases List.mem_append.mp hm with hm | hm
    · exact returned other hm
    · obtain rfl := List.mem_singleton.mp hm
      obtain ⟨free, rfl⟩ := State.of_handBack hp
      exact ⟨(held?_settle _ _ _ other).trans (if_pos rfl), free⟩

end Keeping

/-! The crew. -/

/-- The handlers of the loop, when there are so many slots: each handles the message that it was started
for, occupies a slot until it has ended, and is joined once after that. -/
structure Staffed (slots : Nat) (t : Station) (b : Loop.Books) : Prop where
  /-- A slot is free, taken for the next message, or occupied. -/
  slots : t.free + (if b.slot then 1 else 0) + t.running.length = slots
  messages : t.crew.map t.cluster.messageOf = b.started.map some
  shifts : t.crew.Perm (t.running ++ t.ended ++ t.seen)
  /-- Handlers that have ended do nothing more. -/
  finished : ∀ number ∈ t.ended ++ t.seen, ∃ a, t.cluster.actors[number]? = some a ∧
    (a.outcome?.isSome = true ∨ a.isBroken = true)
  joined : b.joined = t.seen.map t.result

namespace Staffed

/-- Only the slots, the handlers and what the books say of them matter. -/
theorem congr (h : Staffed slots t b) {b' : Loop.Books}
    (station : (t'.cluster, t'.free, t'.crew, t'.running, t'.ended, t'.seen) =
      (t.cluster, t.free, t.crew, t.running, t.ended, t.seen))
    (books : (b'.slot, b'.started, b'.joined) = (b.slot, b.started, b.joined)) :
    Staffed slots t' b' := by
  simp only [Prod.mk.injEq] at station books
  obtain ⟨cluster, free, crew, running, ended, seen⟩ := station
  obtain ⟨slot, started, joined⟩ := books
  have result : t'.result = t.result := by
    funext number
    simp only [Station.result, cluster]
  refine ⟨?_, ?_, ?_, ?_, ?_⟩
  · rw [free, running, slot]
    exact h.slots
  · rw [crew, cluster, started]
    exact h.messages
  · rw [crew, running, ended, seen]
    exact h.shifts
  · rw [ended, seen, cluster]
    exact h.finished
  · rw [joined, seen, result]
    exact h.joined

/-- The handlers stay as they are when something happens in the cluster, as far as their messages and
their results go. -/
theorem elsewhere (h : Staffed slots t b) (hs : Sound t.cluster)
    (hp : t.cluster.perform fleet event = some c) : Staffed slots { t with cluster := c } b := by
  have still (number : Nat) (hm : number ∈ t.ended ++ t.seen) :
      c.actors[number]? = t.cluster.actors[number]? := by
    obtain ⟨a, ha, finished⟩ := h.finished number hm
    exact (hs.over_stays hp ha finished).trans ha.symm
  refine ⟨h.slots, ?_, h.shifts, fun number hm => ?_, ?_⟩
  · rw [← h.messages]
    refine List.map_congr_left fun number hm => ?_
    have some : t.cluster.messageOf number ∈ b.started.map some := by
      rw [← h.messages]
      exact List.mem_map_of_mem hm
    obtain ⟨message, -, own⟩ := List.mem_map.mp some
    exact (hs.messageOf_stays hp own.symm).trans own
  · rw [still number hm]
    exact h.finished number hm
  · refine h.joined.trans (List.map_congr_left fun number hm => ?_)
    unfold Station.result
    rw [still number (List.mem_append_right _ hm)]

/-- A handler begins in the slot that was taken for its message. -/
theorem began (h : Staffed slots t b) (hs : Sound t.cluster) {task : TaskId}
    (hp : t.cluster.perform fleet (.start pod (.handle message task)) = some c)
    (slot : b.slot = true) :
    Staffed slots { t with
      cluster := c
      crew := t.crew ++ [t.cluster.actors.length]
      running := t.running ++ [t.cluster.actors.length] } (b.note (.start message) ()) := by
  have still := h.elsewhere hs hp
  have new : c.messageOf t.cluster.actors.length = some message := by
    obtain ⟨-, rfl⟩ := State.of_start hp
    unfold State.messageOf
    rw [List.getElem?_concat_length]
    rfl
  refine ⟨?_, ?_, ?_, still.finished, still.joined⟩
  · have slots := h.slots
    rw [slot, if_pos rfl] at slots
    simp only [Loop.Books.note, List.length_append, List.length_cons, List.length_nil,
      Bool.false_eq_true, if_false]
    omega
  · have messages := still.messages
    simp only [Loop.Books.note, List.map_append, List.map_cons, List.map_nil, new] at messages ⊢
    rw [messages]
  · refine (h.shifts.append_right _).trans (List.perm_iff_count.mpr fun number => ?_)
    simp only [List.count_append]
    omega

/-- The first handler that ended is joined. -/
theorem joins (h : Staffed slots t b) {handler : Nat} {rest : List Nat}
    (ended : t.ended = handler :: rest) :
    Staffed slots { t with ended := rest, seen := t.seen ++ [handler] }
      (b.join (t.result handler)) := by
  refine ⟨h.slots, h.messages, h.shifts.trans ?_, fun number hm => h.finished number ?_, ?_⟩
  · rw [ended]
    refine List.perm_iff_count.mpr fun number => ?_
    simp only [List.count_append, List.count_cons, List.count_nil]
    omega
  · rw [ended]
    rcases List.mem_append.mp hm with hm | hm
    · exact List.mem_append_left _ (List.mem_cons_of_mem handler hm)
    · rcases List.mem_append.mp hm with hm | hm
      · exact List.mem_append_right _ hm
      · rw [List.mem_singleton.mp hm]
        exact List.mem_append_left _ List.mem_cons_self
  · rw [Loop.Books.join, h.joined, List.map_append]
    rfl

/-- A handler that is over leaves its slot. -/
theorem leaves (h : Staffed slots t b) {handler : Nat} (runs : handler ∈ t.running)
    (ha : t.cluster.actors[handler]? = some a)
    (finished : a.outcome?.isSome = true ∨ a.isBroken = true) :
    Staffed slots (t.leave handler) b := by
  refine ⟨?_, h.messages, h.shifts.trans ?_, fun number hm => ?_, h.joined⟩
  · have slots := h.slots
    have fewer := List.length_erase_of_mem runs
    have some := List.length_pos_of_mem runs
    simp only [Station.leave]
    omega
  · have moved := List.perm_cons_erase runs
    refine List.perm_iff_count.mpr fun number => ?_
    have counted := moved.count_eq number
    simp only [Station.leave, List.count_append, List.count_cons, List.count_nil] at counted ⊢
    omega
  · simp only [Station.leave, List.append_assoc, List.mem_append, List.mem_singleton] at hm
    rcases hm with hm | rfl | hm
    · exact h.finished number (List.mem_append_left _ hm)
    · exact ⟨a, ha, finished⟩
    · exact h.finished number (List.mem_append_right _ hm)

end Staffed

/-! As long as the agent works. -/

/-- A pull that was told nothing of messages leaves the hands of the loop empty. -/
theorem note_pull_of_told {most : Nat} {pulled : Option Pulled}
    (h : ∀ ids, pulled = some (.ok ids) → ids = []) : b.note (.pull most) pulled = b.pull [] := by
  rcases pulled with _ | cause | ids
  · rfl
  · rfl
  · rw [h ids rfl]
    rfl

theorem note_pull_of_looked (most : Nat) (found : Pull) :
    b.note (.pull most) (some found.pulled) = b.pull found.handedOut := by
  cases found <;> rfl

theorem Keeping.told (h : Keeping c b) {request : LoopRequest} {reply : request.Reply}
    (may : b.May request) (tells : t.Tells request reply) : Keeping c (b.note request reply) := by
  cases request with
  | pull most =>
    have none := (may.ask nofun).1
    rw [note_pull_of_told tells]
    refine h.congr ?_
    rw [Loop.Books.pull, none, List.append_nil]
  | takeSlot =>
    obtain ⟨rfl, -⟩ := tells
    exact h.congr rfl
  | tryJoin =>
    obtain rfl : reply = none := tells
    exact h
  | isStopped => exact h.congr rfl
  | isInitialized => exact h
  | prepare collaborator => exact h
  | idle => exact h
  | hasFailed => exact h
  | _ => exact tells.elim

/-- Every answer to the loop leaves its messages where the books say. -/
theorem Keeping.served {request : LoopRequest} {reply : request.Reply} (h : Keeping t.cluster b)
    (hs : Sound t.cluster) (hc : Custody t.cluster) (may : b.May request)
    (served : LoopServed fleet pod t request reply t') : Keeping t'.cluster (b.note request reply) := by
  cases served with
  | told request reply tells => exact h.told may tells
  | looked most cluster performed =>
    rw [note_pull_of_looked]
    exact h.pulled hs hc performed (may.ask nofun).1
  | began message delivery cluster held performed =>
    exact h.began hs hc performed (may.ask nofun).1
  | returned message cluster performed => exact h.handedBack hs hc performed (may.ask nofun).1
  | _ => exact h.congr rfl

theorem Staffed.told (h : Staffed slots t b) {request : LoopRequest} {reply : request.Reply}
    (tells : t.Tells request reply) : Staffed slots t (b.note request reply) := by
  cases request with
  | pull most =>
    rw [note_pull_of_told tells]
    exact h.congr rfl rfl
  | takeSlot =>
    obtain ⟨rfl, -⟩ := tells
    exact h.congr rfl rfl
  | tryJoin =>
    obtain rfl : reply = none := tells
    exact h
  | isStopped => exact h.congr rfl rfl
  | isInitialized => exact h
  | prepare collaborator => exact h
  | idle => exact h
  | hasFailed => exact h
  | _ => exact tells.elim

/-- Every answer to the loop leaves its handlers where the books say. -/
theorem Staffed.served {request : LoopRequest} {reply : request.Reply} (h : Staffed slots t b)
    (hs : Sound t.cluster) (may : b.May request)
    (served : LoopServed fleet pod t request reply t') : Staffed slots t' (b.note request reply) := by
  cases served with
  | told request reply tells => exact h.told tells
  | initialized => exact h.congr rfl rfl
  | stopped => exact h.congr rfl rfl
  | joined handler rest ended => exact h.joins ended
  | joinedSoon handler rest ended => exact h.joins ended
  | looked most cluster performed =>
    rw [note_pull_of_looked]
    exact (h.elsewhere hs performed).congr rfl rfl
  | taken goes free =>
    have slots := h.slots
    rw [(may.ask (by simp)).2.1] at slots
    refine ⟨?_, h.messages, h.shifts, h.finished, h.joined⟩
    simp only [Loop.Books.note, if_true, Bool.false_eq_true, if_false] at slots ⊢
    omega
  | began message delivery cluster held performed =>
    exact h.began hs performed (may.ask (by simp)).2
  | returned message cluster performed =>
    exact (h.elsewhere hs performed).congr rfl rfl
  | counted => exact h.congr rfl rfl

/-- As long as an agent works, its messages and its handlers are where the books of its loop say. -/
theorem Works.kept (h : Works fleet pod start t) {s : Settings} {most : Nat}
    (fresh : start.Fresh s most) (hi : origin.Initial)
    (hr : Reaches fleet anyEvent origin start.cluster) :
    Keeping t.cluster t.books ∧ Staffed s.slots t t.books := by
  apply h.invariant
  · have none : start.books = {} := by
      unfold Station.books
      rw [fresh.past]
      rfl
    rw [none]
    refine ⟨⟨.nil, .nil, nofun, nofun, nofun⟩, ⟨?_, ?_, ?_, ?_, ?_⟩⟩
    · rw [fresh.free, fresh.running]
      rfl
    · rw [fresh.crew]
      rfl
    · rw [fresh.crew, fresh.running, fresh.ended, fresh.seen]
      exact .nil
    · rw [fresh.ended, fresh.seen]
      nofun
    · rw [fresh.seen]
      rfl
  · intro t t' happening works ⟨keeping, staffed⟩ happens
    have reached := works.reaches hr
    have hs := reached.sound hi
    have hc := reached.custody hi
    have follows := works.follows fresh
    cases happens with
    | answered request next reply t₁ asks served =>
      rw [asks] at follows
      have keeping' := keeping.served hs hc follows.1 served
      have staffed' := staffed.served hs follows.1 served
      exact ⟨keeping', staffed'.congr rfl rfl⟩
    | concluded handler a outcome runs actor returned =>
      have fed : Staffed s.slots (t.feed outcome) t.books := staffed.congr rfl rfl
      exact ⟨keeping, fed.leaves runs actor (.inl (returned ▸ rfl))⟩
    | died handler a runs actor broken => exact ⟨keeping, staffed.leaves runs actor (.inr broken)⟩
    | toldToStop => exact ⟨keeping, staffed.congr rfl rfl⟩
    | checked probe dependencies => exact ⟨keeping, staffed.congr rfl rfl⟩
    | forgotten => exact ⟨keeping, staffed.congr rfl rfl⟩
    | elsewhere event cluster spared performed =>
      refine ⟨keeping.elsewhere hs hc performed fun message hm about => ?_,
        staffed.elsewhere hs performed⟩
      unfold Station.spares at spared
      rw [about] at spared
      exact of_decide_eq_true spared hm

end GridAgent.Cluster
