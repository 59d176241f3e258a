import GridAgent.Proofs.Cluster.Effect
import GridAgent.Proofs.Handler.Bidding

/-!
# One agent acquires

Any number of agents acquire the same submitted task at once. While nothing fails and nobody else
writes, the store is untouched until one claim is written, and from then on no other claim can be:
whoever has not read the task yet finds it taken, and whoever has is refused. When all have returned,
exactly one has the task, and all others have postponed their messages without having written
anything.
-/

namespace GridAgent.Cluster

open Agent Program Acquisition

variable {fleet : Fleet} {start c c' : State} {pods : List PodId} {record : TaskRecord}
  {s s' : Shared} {pod : PodId} {task : TaskId}

/-- Surroundings in which sessions run, owners are alive and agents stay. -/
structure Calm (choice : (operation : Operation) → Option operation.Reply) : Prop where
  /-- Sessions run. -/
  session : ∀ session reply, choice (.agent (.readSession session)) = some reply →
    ∃ found : SessionRecord, reply = Except.ok (some found) ∧ found.status = .running
  /-- Owners are alive. -/
  alive : ∀ session task owner reply, choice (.agent (.isAlive session task owner)) = some reply →
    reply = Except.ok true
  /-- Agents do not shut down. -/
  shutdown : ∀ reply, choice (.agent .shutdownRequested) = some reply → reply = false

/-- Agents are answered their calls, and nothing else happens. -/
def inCalm : Event → Prop
  | .answer _ choice => Calm choice
  | _ => False

/-- Agents on different pods are about to acquire one submitted task that nobody holds. -/
structure Contest (fleet : Fleet) (pods : List PodId) (record : TaskRecord) (c : State) : Prop where
  /-- There is an agent. -/
  nonempty : pods ≠ []
  /-- Agents are on different pods. -/
  distinct : pods.Nodup
  /-- Each of them is about to acquire the task. -/
  actors : c.actors = pods.map fun pod => .start (fleet.settings pod) (.acquire record.id)
  /-- The task is stored. -/
  stored : c.shared.store.get? record.id = some record
  /-- The task can be claimed. -/
  free : IsFree record
  /-- The store does not fail. -/
  healthy : c.shared.store.failures = 0

/-- What an acquisition has returned. -/
def Actor.acquisition? : Actor → Option (Except AgentError Acquired)
  | ⟨_, .acquire _, _, .done outcome⟩ => some outcome
  | _ => none

/-- The call changed nothing that agents share: a reading, or an update that was lost. -/
def Answered.OnlyLooks : Answered → Prop
  | ⟨.agent .now, _⟩ => True
  | ⟨.agent (.readTask _), _⟩ => True
  | ⟨.agent (.readSession _), _⟩ => True
  | ⟨.agent (.isAlive ..), _⟩ => True
  | ⟨.agent .shutdownRequested, _⟩ => True
  | ⟨.agent (.updateTask ..), .error (.conflict _)⟩ => True
  | _ => False

/-- The record once a pod has claimed the task. -/
def claimed (fleet : Fleet) (record : TaskRecord) (pod : PodId) (date : Date) : TaskRecord :=
  record.apply (.dispatch pod (fleet.settings pod).podName date)

/-- The store once a pod has claimed the task. -/
def claimedStore (fleet : Fleet) (store : Store) (record : TaskRecord) (pod : PodId) (date : Date) :
    Store :=
  { store with
    tasks := store.tasks.set record.id (claimed fleet record pod date)
    log := store.log ++ [(record.id, .dispatched)] }

/-- A claimed record is taken, as all other pods see it. -/
theorem isTaken_claimed {other : PodId} {date : Date} (h : other ≠ pod) :
    IsTaken pod (claimed fleet record other date) :=
  ⟨TaskRecord.apply_status _ _, other, TaskRecord.apply_owner _ _, h⟩

/-! One answer. -/

/-- How a bid goes on with an answered call, and the store with it. -/
inductive Bid.Step (fleet : Fleet) (pod : PodId) (t : TaskRecord) (bid : Bid) (store : Store) :
    Answered → Bid → Store → Prop where
  /-- Nothing was learned of the claim. -/
  | looks {x : Answered} {bid' : Bid} (looks : x.OnlyLooks) (stands : bid'.standing = bid.standing) :
    Step fleet pod t bid store x bid' store
  /-- The task is taken. -/
  | loses {x : Answered} {bid' : Bid} (looks : x.OnlyLooks) (taken : ¬ IsFree t)
    (unwon : ¬ bid.IsWon) (lost : bid'.standing = .lost) : Step fleet pod t bid store x bid' store
  /-- The claim is written. -/
  | wins {x : Answered} {bid' : Bid} (date : Date) (free : IsFree t) (clock : bid.clock = some date)
    (won : bid'.standing = .won (claimed fleet t pod date)) :
    Step fleet pod t bid store x bid' (claimedStore fleet store t pod date)

/-- A bid that has stood as it does is won if it was. -/
theorem Bid.isWon_of_standing {bid bid' : Bid} (h : bid'.standing = bid.standing) :
    bid'.IsWon ↔ bid.IsWon := by
  unfold Bid.IsWon
  rw [h]

/-- Whoever has not won after an answer had not won before, and has looked only. -/
theorem Bid.Step.quiet {bid bid' : Bid} {t : TaskRecord} {store store' : Store} {x : Answered}
    (h : bid.Step fleet pod t store x bid' store') (unwon : ¬ bid'.IsWon) :
    x.OnlyLooks ∧ ¬ bid.IsWon := by
  cases h with
  | looks looks stands => exact ⟨looks, mt (isWon_of_standing stands).mpr unwon⟩
  | loses looks taken unwon' lost => exact ⟨looks, unwon'⟩
  | wins date free clock won => exact absurd ⟨_, won⟩ unwon

/-- What is counted on is answered, and the bid goes on. -/
theorem Bid.step_of_answer {bid : Bid} {t : TaskRecord} {request : Agent.Request}
    {choice : (operation : Operation) → Option operation.Reply} {reply : request.Reply}
    (may : bid.May pod (fleet.settings pod).podName t.id request) (calm : Calm choice)
    (healthy : s.store.failures = 0) (stored : s.store.get? t.id = some t)
    (found : ¬ bid.IsWon → IsFree t ∨ IsTaken pod t)
    (h : s.answerAgent pod request (choice (.agent request)) = some (reply, s')) :
    Bid.Credible pod t.id request reply ∧
      bid.Step fleet pod t s.store ⟨.agent request, reply⟩ (bid.note request reply) s'.store := by
  cases request with
  | now =>
    obtain ⟨date, -, h⟩ := Option.map_eq_some_iff.mp h
    cases h
    exact ⟨trivial, .looks trivial rfl⟩
  | readTask task =>
    obtain ⟨rfl, unwon⟩ := may
    have read : Store.read t.id s.store = (.ok (some t), s.store) := by
      rw [← stored]
      exact Store.fallible_of_healthy _ healthy
    simp only [Shared.answerAgent, Shared.onStore, read] at h
    cases h
    refine ⟨⟨t, rfl, rfl, found unwon⟩, ?_⟩
    rcases found unwon with free | taken
    · exact .looks trivial (by simp [Bid.note, free.owner])
    · obtain ⟨owner, ho, -⟩ := taken.owner
      have owned : ¬ IsFree t := fun free => by simp [free.owner] at ho
      exact .loses trivial owned unwon (by simp [Bid.note, ho])
  | readSession session =>
    obtain ⟨chosen, hc, h⟩ := Option.map_eq_some_iff.mp h
    cases h
    exact ⟨calm.session session reply hc, .looks trivial rfl⟩
  | isAlive session task owner =>
    obtain ⟨chosen, hc, h⟩ := Option.map_eq_some_iff.mp h
    cases h
    exact ⟨calm.alive session task owner reply hc, .looks trivial rfl⟩
  | shutdownRequested =>
    obtain ⟨chosen, hc, h⟩ := Option.map_eq_some_iff.mp h
    cases h
    exact ⟨calm.shutdown reply hc, .looks trivial rfl⟩
  | updateTask task expected change =>
    obtain ⟨rfl, unwon, rfl, date, clock, rfl⟩ := may
    simp only [Shared.answerAgent, Shared.onStore, Store.update_of_healthy healthy stored] at h
    rcases found unwon with free | taken
    · have holds : (Expectation.status .submitted).unowned.holds t = true := by
        simp [Expectation.holds, Expectation.status, Expectation.unowned, OwnerMatch.holds,
          free.status, free.owner]
      simp only [holds, if_true] at h
      cases h
      exact ⟨.inl ⟨_, rfl⟩, .wins date free clock rfl⟩
    · have refused : (Expectation.status .submitted).unowned.holds t = false := by
        simp [Expectation.holds, Expectation.status, Expectation.unowned, taken.status]
      simp only [refused] at h
      cases h
      have owned : ¬ IsFree t := fun free => by simpa [free.status] using taken.status
      exact ⟨.inr ⟨_, rfl⟩, .loses trivial owned unwon rfl⟩
  | _ => exact may.elim

/-- The clock of a bid shows what was read last. -/
theorem Bid.note_clock (bid : Bid) (request : Agent.Request) (reply : request.Reply) :
    (bid.note request reply).clock = bid.clock ∨
      ∃ date : Date, (⟨.agent request, reply⟩ : Answered) = ⟨.agent .now, date⟩ ∧
        (bid.note request reply).clock = some date := by
  cases request with
  | now => exact .inr ⟨reply, rfl, rfl⟩
  | readTask task =>
    rcases reply with _ | _ | t
    · exact .inl rfl
    · exact .inl rfl
    · simp only [Bid.note]
      split <;> exact .inl rfl
  | updateTask task expected change => rcases reply with (_ | _ | _) | _ <;> exact .inl rfl
  | _ => exact .inl rfl

/-! One agent of the contest. -/

/-- The rules of an agent in a contest. -/
def contestRules (fleet : Fleet) (pod : PodId) (task : TaskId) : Conduct operations Bid :=
  withFinalizers (bidding pod (fleet.settings pod).podName task) False

/-- The bid of an actor. -/
def Actor.bid (fleet : Fleet) (a : Actor) : Bid := a.books (contestRules fleet a.pod a.job.task) {}

@[simp] theorem Actor.bid_start (settings : Settings) (job : Job) :
    (Actor.start settings job).bid fleet = {} := rfl

/-- An agent that acquires the task by the rules. -/
structure Contender (fleet : Fleet) (task : TaskId) (a : Actor) : Prop where
  /-- It acquires the task. -/
  job : a.job = .acquire task
  /-- It obeys the rules and settles its bid. -/
  obeys : a.Obeys (contestRules fleet a.pod a.job.task) {} Bid.Promised
  /-- It has read the date in its books. -/
  clock : ∀ date, (a.bid fleet).clock = some date → ⟨.agent .now, date⟩ ∈ a.past
  /-- It has written nothing unless it has won. -/
  quiet : ¬ (a.bid fleet).IsWon → ∀ x ∈ a.past, x.OnlyLooks

/-- A lost bid is not won. -/
theorem Bid.not_isWon_of_lost {bid : Bid} (h : bid.standing = .lost) : ¬ bid.IsWon :=
  fun ⟨_, hw⟩ => nomatch h.symm.trans hw

/-- Every agent of the fleet that begins is a contender. -/
theorem contender_start (fleet : Fleet) (pod : PodId) (task : TaskId) :
    Contender fleet task (.start (fleet.settings pod) (.acquire task)) := by
  have here : (Actor.start (fleet.settings pod) (.acquire task)).pod = pod :=
    fleet.podId_settings pod
  have obeys := acquire_bids (fleet.settings pod) task
  rw [fleet.podId_settings pod] at obeys
  refine ⟨rfl, ?_, by simp, fun _ x hx => nomatch hx⟩
  rw [here]
  exact obeys

/-- A contender that is answered stays one, and its bid goes on. -/
theorem Contender.answered {a : Actor} {t : TaskRecord} {operation : Operation}
    {next : operation.Reply → Program operations a.job.Result} {reply : operation.Reply}
    {choice : (operation : Operation) → Option operation.Reply}
    (h : Contender fleet t.id a) (hr : a.rest = .call operation next) (calm : Calm choice)
    (healthy : s.store.failures = 0) (stored : s.store.get? t.id = some t)
    (found : ¬ (a.bid fleet).IsWon → IsFree t ∨ IsTaken a.pod t)
    (hs : s.answer a.pod operation (choice operation) = some (reply, s')) :
    Contender fleet t.id (a.advance operation reply (next reply)) ∧
      (a.bid fleet).Step fleet a.pod t s.store ⟨operation, reply⟩
        ((a.advance operation reply (next reply)).bid fleet) s'.store := by
  have may := h.obeys.may hr
  rcases operation with request | request
  · have task : a.job.task = t.id := by rw [h.job]; rfl
    have may' : (a.bid fleet).May a.pod (fleet.settings a.pod).podName t.id request := task ▸ may
    obtain ⟨credible, step⟩ := Bid.step_of_answer may' calm healthy stored found hs
    have credible' : Bid.Credible a.pod a.job.task request reply := by rw [task]; exact credible
    refine ⟨⟨h.job, h.obeys.advance hr credible', ?_, ?_⟩, step⟩
    · intro date hd
      rcases (a.bid fleet).note_clock request reply with same | ⟨read, hx, hc⟩
      · exact List.mem_cons_of_mem _ (h.clock date (same.symm.trans hd))
      · obtain rfl := Option.some.inj (hc.symm.trans hd)
        rw [← hx]
        exact List.mem_cons_self
    · intro unwon x hx
      rcases step.quiet unwon with ⟨looks, before⟩
      rcases List.mem_cons.mp hx with rfl | hx
      · exact looks
      · exact h.quiet before x hx
  · exact may.elim

/-! The contest as a whole. -/

/-- How a contest stands: the store is as it was and every claim is to be decided, or one agent has
won. -/
inductive Underway (fleet : Fleet) (record : TaskRecord) (store : Store) (c : State) : Prop where
  /-- Nobody has claimed the task. -/
  | undecided (untouched : c.shared.store = store)
    (bids : ∀ a ∈ c.actors, (a.bid fleet).standing = .undecided)
  /-- One agent has claimed the task. -/
  | decided (i : Nat) (winner : Actor) (date : Date) (actor : c.actors[i]? = some winner)
    (won : (winner.bid fleet).standing = .won (claimed fleet record winner.pod date))
    (clock : ⟨.agent .now, date⟩ ∈ winner.past)
    (store : c.shared.store = claimedStore fleet store record winner.pod date)
    (others : ∀ j a, c.actors[j]? = some a → j ≠ i → ¬ (a.bid fleet).IsWon)

/-- The state of a contest. -/
structure Contested (fleet : Fleet) (pods : List PodId) (record : TaskRecord) (store : Store)
    (c : State) : Prop where
  /-- There is one agent on each pod. -/
  pods : c.actors.map Actor.pod = pods
  /-- All of them are contenders. -/
  contenders : ∀ a ∈ c.actors, Contender fleet record.id a
  /-- How the contest stands. -/
  underway : Underway fleet record store c

/-- Agents on different pods are different. -/
theorem pod_ne_of_ne (distinct : (c.actors.map Actor.pod).Nodup) {i j : Nat} {a b : Actor}
    (ha : c.actors[i]? = some a) (hb : c.actors[j]? = some b) (h : j ≠ i) : a.pod ≠ b.pod := by
  intro e
  have hi : i < (c.actors.map Actor.pod).length := by
    rw [List.length_map]
    exact (List.getElem?_eq_some_iff.mp ha).1
  refine h ((List.getElem?_inj hi distinct).mp ?_).symm
  rw [List.getElem?_map, List.getElem?_map, ha, hb]
  exact congrArg some e

/-- The answered agent is in its place. -/
theorem after_self {actors : List Actor} {number : Nat} {a : Actor}
    (ha : actors[number]? = some a) (b : Actor) : (actors.set number b)[number]? = some b :=
  List.getElem?_set_self (List.getElem?_eq_some_iff.mp ha).1

section
variable {store : Store} {number : Nat} {a : Actor} {operation : Operation}
  {next : operation.Reply → Program operations a.job.Result} {reply : operation.Reply}
  {choice : (operation : Operation) → Option operation.Reply}

/-- Everybody but the answered agent is a contender as before. -/
theorem Contested.contenders_answered (h : Contested fleet pods record store c)
    {b : Actor} (hb : Contender fleet record.id b) :
    ∀ x ∈ c.actors.set number b, Contender fleet record.id x := by
  intro x hx
  rcases List.mem_or_eq_of_mem_set hx with hx | rfl
  · exact h.contenders x hx
  · exact hb

/-- While nobody has claimed the task an answer tells nothing, or it is the claim. -/
theorem Contested.answered_undecided (h : Contested fleet pods record c.shared.store c)
    (bids : ∀ a ∈ c.actors, (a.bid fleet).standing = .undecided)
    (stored : c.shared.store.get? record.id = some record) (free : IsFree record)
    (healthy : c.shared.store.failures = 0) (calm : Calm choice)
    (ha : c.actors[number]? = some a) (hr : a.rest = .call operation next)
    (hs : c.shared.answer a.pod operation (choice operation) = some (reply, s')) :
    Contender fleet record.id (a.advance operation reply (next reply)) ∧
      Underway fleet record c.shared.store
        ⟨s', c.actors.set number (a.advance operation reply (next reply))⟩ := by
  have contender := h.contenders a (List.mem_of_getElem? ha)
  obtain ⟨hb, step⟩ := contender.answered hr calm healthy stored (fun _ => .inl free) hs
  refine ⟨hb, ?_⟩
  generalize hw : a.advance operation reply (next reply) = b at hb step
  have pod : b.pod = a.pod := by rw [← hw]; rfl
  have self := after_self ha b
  generalize hx : (⟨operation, reply⟩ : Answered) = x at step
  generalize hst : s'.store = store' at step
  cases step with
  | looks looks stands =>
    refine .undecided hst fun y hy => ?_
    rcases List.mem_or_eq_of_mem_set hy with hy | rfl
    · exact bids y hy
    · exact stands.trans (bids a (List.mem_of_getElem? ha))
  | loses looks taken => exact absurd free taken
  | wins date _ clock won =>
    refine .decided number b date self (pod ▸ won) ?_ (pod ▸ hst) fun j y hy hj => ?_
    · rw [← hw]
      exact List.mem_cons_of_mem _ (contender.clock date clock)
    · rw [List.getElem?_set_ne (Ne.symm hj)] at hy
      rintro ⟨record, hy'⟩
      exact nomatch (bids y (List.mem_of_getElem? hy)).symm.trans hy'

/-- A claim stands while the store does: the answered agent is the winner with its bid as it was, or
another one that has not won. -/
theorem Underway.stands {i : Nat} {winner b : Actor} {date : Date}
    (actor : c.actors[i]? = some winner)
    (won : (winner.bid fleet).standing = .won (claimed fleet record winner.pod date))
    (clock : ⟨.agent .now, date⟩ ∈ winner.past)
    (hst : c.shared.store = claimedStore fleet store record winner.pod date)
    (others : ∀ j a, c.actors[j]? = some a → j ≠ i → ¬ (a.bid fleet).IsWon)
    (ha : c.actors[number]? = some a) (pod : b.pod = a.pod) (past : ∀ x ∈ a.past, x ∈ b.past)
    (same : s'.store = c.shared.store)
    (bids : (b.bid fleet).standing = (a.bid fleet).standing ∨
      ¬ (a.bid fleet).IsWon ∧ ¬ (b.bid fleet).IsWon) :
    Underway fleet record store ⟨s', c.actors.set number b⟩ := by
  have self := after_self ha b
  by_cases e : number = i
  · subst e
    obtain rfl := Option.some.inj (actor.symm.trans ha)
    have stood : (b.bid fleet).standing = .won (claimed fleet record b.pod date) := by
      rcases bids with same | ⟨unwon, -⟩
      · rw [same, pod]
        exact won
      · exact absurd ⟨_, won⟩ unwon
    refine .decided number b date self stood (past _ clock) ?_ fun j y hy hj => ?_
    · rw [pod]
      exact same.trans hst
    · rw [List.getElem?_set_ne (Ne.symm hj)] at hy
      exact others j y hy hj
  · refine .decided i winner date ?_ won clock (same.trans hst) fun j y hy hj => ?_
    · rw [List.getElem?_set_ne e]
      exact actor
    · by_cases ej : j = number
      · subst ej
        obtain rfl := Option.some.inj (self.symm.trans hy)
        rcases bids with same | ⟨-, unwon⟩
        · exact mt (Bid.isWon_of_standing same).mp (others j a ha hj)
        · exact unwon
      · rw [List.getElem?_set_ne (Ne.symm ej)] at hy
        exact others j y hy hj

/-- Once the task is claimed an answer tells others that they have lost, and the claim stands. -/
theorem Contested.answered_decided {i : Nat} {winner : Actor} {date : Date}
    (h : Contested fleet pods record store c) (distinct : pods.Nodup)
    (actor : c.actors[i]? = some winner)
    (won : (winner.bid fleet).standing = .won (claimed fleet record winner.pod date))
    (clock : ⟨.agent .now, date⟩ ∈ winner.past)
    (hst : c.shared.store = claimedStore fleet store record winner.pod date)
    (others : ∀ j a, c.actors[j]? = some a → j ≠ i → ¬ (a.bid fleet).IsWon)
    (healthy : store.failures = 0) (calm : Calm choice)
    (ha : c.actors[number]? = some a) (hr : a.rest = .call operation next)
    (hs : c.shared.answer a.pod operation (choice operation) = some (reply, s')) :
    Contender fleet record.id (a.advance operation reply (next reply)) ∧
      Underway fleet record store
        ⟨s', c.actors.set number (a.advance operation reply (next reply))⟩ := by
  have contender := h.contenders a (List.mem_of_getElem? ha)
  have same : (claimed fleet record winner.pod date).id = record.id := TaskRecord.apply_id _ _
  have taken (unwon : ¬ (a.bid fleet).IsWon) :
      IsTaken a.pod (claimed fleet record winner.pod date) := by
    refine isTaken_claimed (pod_ne_of_ne (h.pods ▸ distinct) actor ha ?_)
    rintro rfl
    obtain rfl := Option.some.inj (actor.symm.trans ha)
    exact unwon ⟨_, won⟩
  have stored : c.shared.store.get? (claimed fleet record winner.pod date).id =
      some (claimed fleet record winner.pod date) := by
    rw [same, hst]
    exact (Table.get?_set _ _ _ _).trans (if_pos rfl)
  have healthy' : c.shared.store.failures = 0 := by rw [hst]; exact healthy
  rw [← same] at contender ⊢
  obtain ⟨hb, step⟩ := contender.answered hr calm healthy' stored
    (fun unwon => .inr (taken unwon)) hs
  refine ⟨hb, ?_⟩
  generalize hx : (⟨operation, reply⟩ : Answered) = x at step
  generalize hst' : s'.store = store' at step
  have past : ∀ x ∈ a.past, x ∈ (a.advance operation reply (next reply)).past :=
    fun x hx => List.mem_cons_of_mem _ hx
  cases step with
  | looks looks stands =>
    exact .stands actor won clock hst others ha rfl past hst' (.inl stands)
  | loses looks notFree unwon lost =>
    exact .stands actor won clock hst others ha rfl past hst'
      (.inr ⟨unwon, Bid.not_isWon_of_lost lost⟩)
  | wins _ free => exact nomatch (TaskRecord.apply_status _ _).symm.trans free.status

end

/-- A contest goes on as one. -/
theorem Contested.perform {store : Store} (distinct : pods.Nodup) (free : IsFree record)
    (stored : store.get? record.id = some record) (healthy : store.failures = 0)
    (h : Contested fleet pods record store c) {event : Event} (calm : inCalm event)
    (hp : c.perform fleet event = some c') : Contested fleet pods record store c' := by
  cases event with
  | answer number choice =>
    obtain ⟨a, operation, next, reply, shared, ha, hr, hs, rfl⟩ := State.answer_eq_some hp
    have kept : (c.actors.set number (a.advance operation reply (next reply))).map Actor.pod =
        pods := by
      obtain ⟨hl, rfl⟩ := List.getElem?_eq_some_iff.mp ha
      rw [List.map_set, ← h.pods]
      refine (congrArg _ ?_).trans (List.set_getElem_self (by simpa using hl))
      rw [List.getElem_map]
      rfl
    obtain ⟨contender, underway⟩ :
        Contender fleet record.id (a.advance operation reply (next reply)) ∧
          Underway fleet record store
            ⟨shared, c.actors.set number (a.advance operation reply (next reply))⟩ := by
      cases h.underway with
      | undecided untouched bids =>
        subst untouched
        exact h.answered_undecided bids stored free healthy calm ha hr hs
      | decided i winner date actor won clock store others =>
        exact h.answered_decided distinct actor won clock store others healthy calm ha hr hs
    exact ⟨kept, h.contenders_answered contender, underway⟩
  | _ => exact calm.elim

/-- A contest begins undecided. -/
theorem Contest.contested (h : Contest fleet pods record c) :
    Contested fleet pods record c.shared.store c := by
  refine ⟨?_, ?_, .undecided rfl ?_⟩
  · rw [h.actors, List.map_map]
    exact List.map_id'' fleet.podId_settings pods
  · intro a ha
    rw [h.actors] at ha
    obtain ⟨pod, -, rfl⟩ := List.mem_map.mp ha
    exact contender_start fleet pod record.id
  · intro a ha
    rw [h.actors] at ha
    obtain ⟨pod, -, rfl⟩ := List.mem_map.mp ha
    rfl

/-- A contest is one to its end. -/
theorem Contest.reached (h : Contest fleet pods record start)
    (run : Reaches fleet inCalm start c) :
    Contested fleet pods record start.shared.store c :=
  run.invariant h.contested fun _ _ _ _ hc calm hp =>
    hc.perform h.distinct h.free h.stored h.healthy calm hp

/-- A contender that has returned has settled its bid. -/
theorem Contender.returned {a : Actor} (h : Contender fleet task a)
    (hr : a.acquisition?.isSome = true) :
    ∃ acquired, a.acquisition? = some (.ok acquired) ∧ (a.bid fleet).Settles acquired := by
  obtain ⟨pod, job, past, rest⟩ := a
  obtain rfl := h.job
  cases rest with
  | done outcome =>
    have promised := h.obeys.returned rfl
    cases outcome with
    | error cause => exact promised.elim
    | ok acquired => exact ⟨acquired, rfl, promised⟩
  | call operation next => cases hr

/-- Any number of agents on different pods acquire one submitted task that nobody holds, in whatever
order they are answered. When all have returned, one of them has acquired the task: the record is
dispatched under its pod, with the name of the pod and a date that it read, and this is all that was
logged. The others have postponed their messages and changed nothing. -/
theorem exactly_one_agent_acquires (contest : Contest fleet pods record start)
    (run : Reaches fleet inCalm start c) (returned : ∀ a ∈ c.actors, a.acquisition?.isSome = true) :
    c.actors.map Actor.pod = pods ∧
    ∃ (i : Nat) (winner : Actor) (date : Date) (options : Options) (stored : TaskRecord),
      c.actors[i]? = some winner ∧ (⟨.agent .now, date⟩ : Answered) ∈ winner.past ∧
      winner.acquisition? =
        some (.ok ⟨.acquired, some .dispatched, .waiting, some { stored with options }⟩) ∧
      c.shared.store.get? record.id = some stored ∧ stored.status = .dispatched ∧
      stored.owner = some winner.pod ∧
      stored.ownerName = some (fleet.settings winner.pod).podName ∧ stored.acquired = some date ∧
      c.shared.store.log = start.shared.store.log ++ [(record.id, .dispatched)] ∧
      ∀ j loser, c.actors[j]? = some loser → j ≠ i →
        (∃ acquired, loser.acquisition? = some (.ok acquired) ∧ acquired.outcome ≠ .acquired ∧
          acquired.disposition = .postponed) ∧
        ∀ x ∈ loser.past, x.OnlyLooks := by
  have contested := contest.reached run
  refine ⟨contested.pods, ?_⟩
  cases contested.underway with
  | undecided untouched bids =>
    -- somebody has returned, and nobody returns undecided
    obtain ⟨a, ha⟩ : ∃ a, a ∈ c.actors := by
      refine List.exists_mem_of_ne_nil _ fun none => contest.nonempty ?_
      rw [← contested.pods, none]
      rfl
    obtain ⟨acquired, -, settled⟩ := (contested.contenders a ha).returned (returned a ha)
    unfold Bid.Settles at settled
    rw [bids a ha] at settled
    exact settled.elim
  | decided i winner date actor won clock store others =>
    have hw := List.mem_of_getElem? actor
    obtain ⟨acquired, outcome, settled⟩ := (contested.contenders winner hw).returned
      (returned winner hw)
    unfold Bid.Settles at settled
    rw [won] at settled
    obtain ⟨options, rfl⟩ := settled
    refine ⟨i, winner, date, options, claimed fleet record winner.pod date, actor, clock, ?_, ?_,
      rfl, rfl, rfl, rfl, ?_, ?_⟩
    · exact outcome
    · rw [store]
      exact (Table.get?_set _ _ _ _).trans (if_pos rfl)
    · rw [store]
      rfl
    · intro j loser hj hne
      have hl := List.mem_of_getElem? hj
      have unwon := others j loser hj hne
      have contender := contested.contenders loser hl
      obtain ⟨acquired, outcome, settled⟩ := contender.returned (returned loser hl)
      refine ⟨⟨acquired, outcome, ?_⟩, contender.quiet unwon⟩
      unfold Bid.Settles at settled
      split at settled
      · exact settled.elim
      · exact settled
      · next record hs => exact absurd ⟨record, hs⟩ unwon

/-! Two agents. The first one claims the task when both have found it free; six hours later the second
one has lost its update and learns that the owner is alive. -/

/-- Calm surroundings at a moment. -/
def calmly (now : Date) : (operation : Operation) → Option operation.Reply
  | .agent .now => some now
  | .agent (.readSession session) => some (Except.ok (some (.running session)))
  | .agent (.isAlive ..) => some (.ok true)
  | .agent .shutdownRequested => some false
  | _ => none

theorem calm_calmly (now : Date) : Calm (calmly now) := by
  refine ⟨?_, ?_, ?_⟩
  · rintro session reply hr
    cases hr
    exact ⟨.running session, rfl, rfl⟩
  · rintro session task owner reply hr
    cases hr
    rfl
  · rintro reply hr
    cases hr
    rfl

/-- The pods of two agents. -/
def pairPods : List PodId := [⟨"first"⟩, ⟨"second"⟩]

/-- Two agents are about to acquire the task. -/
def pairStart : State :=
  { plainStart with
    actors := pairPods.map fun pod => .start (plainFleet.settings pod) (.acquire plainTask.id) }

/-- Both agents come to their claims in the morning, and their claims are answered at noon. -/
def pairEvents : List Event :=
  [0, 1, 0, 1, 0, 1, 0, 1, 0, 1].map (fun number => .answer number (calmly morning)) ++
    [0, 1, 1, 1, 1, 1, 1, 1].map (fun number => .answer number (calmly noon))

/-- The two agents at the end. -/
def pairEnd : State := (pairStart.play plainFleet pairEvents).getD pairStart

theorem pair_contest : Contest plainFleet pairPods plainTask pairStart where
  nonempty := nofun
  distinct := by decide
  actors := rfl
  stored := rfl
  free := ⟨rfl, rfl⟩
  healthy := rfl

theorem pairEnd_reached : Reaches plainFleet inCalm pairStart pairEnd := by
  refine .of_played fun event he => ?_
  rcases List.mem_append.mp he with he | he
  · obtain ⟨number, -, rfl⟩ := List.mem_map.mp he
    exact calm_calmly morning
  · obtain ⟨number, -, rfl⟩ := List.mem_map.mp he
    exact calm_calmly noon

/-- Of two agents that come to their claims at once one has the task in the end. -/
theorem exactly_one_agent_acquires_pair :
    Contest plainFleet pairPods plainTask pairStart ∧
    Reaches plainFleet inCalm pairStart pairEnd ∧
    (∀ a ∈ pairEnd.actors, a.acquisition?.isSome = true) ∧
    ∃ (i : Nat) (winner : Actor) (stored : TaskRecord), pairEnd.actors[i]? = some winner ∧
      pairEnd.shared.store.get? plainTask.id = some stored ∧ stored.owner = some winner.pod ∧
      pairEnd.shared.store.log = pairStart.shared.store.log ++ [(plainTask.id, .dispatched)] := by
  have returned : ∀ a ∈ pairEnd.actors, a.acquisition?.isSome = true := by
    rw [← List.all_eq_true]
    decide +kernel
  obtain ⟨-, i, winner, -, -, stored, hw, -, -, hs, -, owner, -, -, log, -⟩ :=
    exactly_one_agent_acquires pair_contest pairEnd_reached returned
  exact ⟨pair_contest, pairEnd_reached, returned, i, winner, stored, hw, hs, owner, log⟩

end GridAgent.Cluster
