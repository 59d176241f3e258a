import Mathlib.Algebra.GroupWithZero.Nat
import Mathlib.Algebra.Order.BigOperators.Group.List
import Mathlib.Algebra.Order.Group.Nat
import GridAgent.Proofs.Cluster.Deeds
import GridAgent.Proofs.Cluster.Holding

/-!
# One execution at a time

Two handlers can believe at once that they have acquired the same task, and tasks are taken away
from handlers that are about to start. Still no two handlers of a task are between the start of the
execution and the end of the exchange with the worker at the same time, and the worker is called no
more often than the task became processing.
-/

namespace GridAgent.Cluster

open Agent Track

variable {fleet : Fleet} {allowed : Event → Prop} {start c c' : State} {pod : PodId}
  {s s' : Shared} {task : TaskId}

/-! The log of statuses. -/

/-- A call only adds to the log. -/
theorem log_of_effect {operation : Operation} {reply : operation.Reply}
    (h : Effect pod s operation reply s') : s.store.log <+: s'.store.log := by
  cases h with
  | silent silent alike =>
    obtain ⟨failures, scratches, rfl⟩ := alike
    exact List.prefix_rfl
  | written => exact List.prefix_append _ _
  | created parent candidate missing => exact List.prefix_append _ _
  | resolved => exact List.prefix_append _ _
  | gaveUp => exact List.prefix_append _ _
  | _ => exact List.prefix_rfl

/-- A move only adds to the log. -/
theorem log_of_move {m : Move} (h : s.move m = some s') : s.store.log <+: s'.store.log := by
  obtain ⟨effect, -⟩ := effect_of_move h
  generalize s'.store = store at effect ⊢
  cases effect with
  | aside same =>
    obtain ⟨failures, rfl⟩ := same
    exact List.prefix_rfl
  | marked => exact List.prefix_append _ _
  | inserted => exact List.prefix_append _ _
  | resolved => exact List.prefix_append _ _
  | gaveUp => exact List.prefix_append _ _

/-- An event only adds to the log. -/
theorem Sound.log_perform (h : Sound c) {event : Event} (hp : c.perform fleet event = some c') :
    c.shared.store.log <+: c'.shared.store.log := by
  rcases h.store_cases hp with same | ⟨number, a, b, operation, reply, ha⟩ | ⟨m, -, hm⟩
  · exact same ▸ List.prefix_rfl
  · exact log_of_effect ha.effect
  · exact log_of_move hm

/-- A log that goes on counts no status less often. -/
theorem count_of_log {s s' : Store} (h : s.log <+: s'.log) (task : TaskId) (status : TaskStatus) :
    (s.transitionsOf task).count status ≤ (s'.transitionsOf task).count status := by
  obtain ⟨more, h⟩ := h
  unfold Store.transitionsOf
  rw [← h, List.filter_append, List.map_append, List.count_append]
  exact Nat.le_add_right _ _

/-- How often the task became processing. -/
def Shared.startsOf (s : Shared) (task : TaskId) : Nat :=
  (s.store.transitionsOf task).count .processing

/-- A log that goes on counts no less. -/
theorem startsOf_of_log (h : s.store.log <+: s'.store.log) (task : TaskId) :
    s.startsOf task ≤ s'.startsOf task := count_of_log h task .processing

/-- An answered call that starts an execution is an update of the record. -/
theorem update_of_starts {x : Answered} (h : x.deed task = .starts) :
    ∃ expected change record, x = ⟨.agent (.updateTask task expected change), .ok record⟩ ∧
      expected.statuses = [.dispatched] ∧ change.status = .processing := by
  unfold Answered.deed at h
  split at h
  · next updated expected change record =>
    split at h
    · next hd =>
      obtain ⟨rfl, he, hc⟩ := hd
      exact ⟨expected, change, record, rfl, he, hc⟩
    · cases h
  all_goals cases h

/-- An execution starts with a dispatched task, and the log says so. -/
theorem effect_of_starts {operation : Operation} {reply : operation.Reply}
    (h : Effect pod s operation reply s')
    (hd : Answered.deed task ⟨operation, reply⟩ = .starts) :
    s.Has task (fun record => record.status = .dispatched) ∧
      s'.startsOf task = s.startsOf task + 1 := by
  obtain ⟨expected, change, record, he, hs, hc⟩ := update_of_starts hd
  cases he
  cases h with
  | silent silent alike => cases silent
  | written task expected change found hf holds =>
    refine ⟨⟨found, hf, ?_⟩, ?_⟩
    · have hm := Expectation.status_mem holds
      rw [hs] at hm
      exact List.mem_singleton.mp hm
    · unfold Shared.startsOf Store.transitionsOf
      rw [hc, List.filter_append, List.map_append, List.count_append]
      simp

/-! One handler at a time. -/

/-- The actors are in exchanges about the same task. -/
def Actor.SharesExchange (x y : Actor) : Prop :=
  x.job.task = y.job.task ∧ x.track.stage.isTalking = true ∧ y.track.stage.isTalking = true

theorem Actor.SharesExchange.symm {x y : Actor} (h : x.SharesExchange y) : y.SharesExchange x := by
  obtain ⟨task, hx, hy⟩ := h
  exact ⟨task.symm, hy, hx⟩

/-- No two actors are in exchanges about the same task. -/
def Exclusive (c : State) : Prop := c.Apart Actor.SharesExchange

/-- Whoever is in an exchange was in it before, or finds the task dispatched and starts it. -/
theorem Answers.talking {number : Nat} {a b : Actor} {operation : Operation}
    {reply : operation.Reply} (ha : Answers c number a b operation reply c')
    (hb : b.track.stage.isTalking = true) :
    a.track.stage.isTalking = true ∨
      c.shared.Has a.job.task fun record => record.status = .dispatched := by
  have turn := ha.turn
  generalize hd : Answered.deed a.job.task ⟨operation, reply⟩ = deed at turn
  cases turn with
  | starts run before after released => exact .inr (effect_of_starts ha.effect hd).1
  | opens run before after => exact .inl (after ▸ hb)
  | talks run before after released => exact .inl (after ▸ hb)
  | hangsUp after =>
    rw [after, Stage.isTalking_hungUp] at hb
    cases hb
  | stays after released => exact .inl (after ▸ hb)
  | registers run before after =>
    rw [after] at hb
    cases hb
  | leaves run before after =>
    rw [after] at hb
    cases hb

/-- While an actor is in an exchange the task is not dispatched. -/
theorem Truthful.not_dispatched {x : Actor} (ht : Truthful s x) (hk : Chronicle x)
    (hx : x.track.stage.isTalking = true) :
    ¬ s.Has x.job.task fun record => record.status = .dispatched := by
  rintro ⟨record, hr, hd⟩
  obtain ⟨found, hf, held⟩ := ht.holds (Stage.hasStarted_of_isTalking hx) (hk.unreleased hx)
  obtain rfl := Option.some.inj (hr.symm.trans hf)
  rcases held with ⟨h, -⟩ | h | h <;> rw [hd] at h <;> cases h

/-- Exchanges stay exclusive. -/
theorem Exclusive.perform (h : Exclusive c) (hs : Sound c)
    (ht : ∀ x ∈ c.actors, Truthful c.shared x) (hk : ∀ x ∈ c.actors, Chronicle x) {event : Event}
    (hp : c.perform fleet event = some c') : Exclusive c' := by
  cases event with
  | start pod job =>
    obtain ⟨-, rfl⟩ := State.of_start hp
    refine State.Apart.started h (fun _ _ => Actor.SharesExchange.symm) ?_
    rintro x - ⟨-, talking, -⟩
    cases job <;> cases talking
  | answer number choice =>
    obtain ⟨a, b, operation, reply, ha, -⟩ := hs.answers hp
    refine State.Apart.answered h (fun _ _ => Actor.SharesExchange.symm) ha ?_
    rintro i x hx ⟨he, hbt, hxt⟩
    have same : a.job.task = x.job.task := (congrArg Job.task ha.job).symm.trans he
    rcases ha.talking hbt with hat | hd
    · exact h i number x a hx ha.actor ⟨same.symm, hxt, hat⟩
    · have hm := List.mem_of_getElem? hx
      exact absurd (same ▸ hd) ((ht x hm).not_dispatched (hk x hm) hxt)
  | handBack message =>
    obtain ⟨-, rfl⟩ := State.of_handBack hp
    exact h
  | move m =>
    obtain ⟨shared, -, rfl⟩ := State.of_move hp
    exact h

theorem Reaches.exclusive (hr : Reaches fleet allowed start c) (hi : start.Initial) :
    Exclusive c := by
  apply hr.invariant
  · exact hi.apart
  · intro c c' event hr h _ hp
    exact h.perform (hr.sound hi) (hr.truthful hi) (hr.chronicle hi) hp

/-- Whoever is at a call of an exchange has started the execution. -/
theorem Sound.isTalking_of_asks (h : Sound c) {x : Actor} (hx : x ∈ c.actors)
    {operation : Operation} (asks : x.Asks operation) (talk : operation.isTalk = true) :
    x.track.stage.isTalking = true := by
  obtain ⟨next, hn⟩ := asks
  have may : x.track.May x.pod x.job operation := by
    have follows := h.follows x hx
    rw [hn] at follows
    exact follows.1
  rcases operation with request | request
  · cases request with
    | send run stream request => rw [may.2.1]; rfl
    | finishSending run stream => rw [may.2.1]; rfl
    | awaitReply run stream => rw [may.2.1]; rfl
    | _ => cases talk
  · cases talk

/-! Counting. -/

/-- How often the actor has started an execution of the task. -/
def Actor.startsOf (task : TaskId) (a : Actor) : Nat := if a.job.task = task then a.starts else 0

/-- How often the actor has called the worker about the task. -/
def Actor.exchangesOf (task : TaskId) (a : Actor) : Nat :=
  if a.job.task = task then a.exchanges else 0

/-- The sum over a list in which one place changes. -/
theorem sum_map_set {α : Type} (f : α → Nat) {l : List α} {i : Nat} {x y : α}
    (h : l[i]? = some x) : ((l.set i y).map f).sum + f x = (l.map f).sum + f y := by
  induction l generalizing i with
  | nil => cases h
  | cons z l ih =>
    cases i with
    | zero =>
      obtain rfl := Option.some.inj h
      simp only [List.set_cons_zero, List.map_cons, List.sum_cons]
      omega
    | succ i =>
      have ih := ih (i := i) h
      simp only [List.set_cons_succ, List.map_cons, List.sum_cons]
      omega

/-- The log counts what the actors have started. -/
theorem startsOf_step (hs : Sound c) {event : Event} (hp : c.perform fleet event = some c')
    {before : Nat} (h : before + (c.actors.map (Actor.startsOf task)).sum ≤ c.shared.startsOf task) :
    before + (c'.actors.map (Actor.startsOf task)).sum ≤ c'.shared.startsOf task := by
  cases event with
  | start pod job =>
    obtain ⟨-, rfl⟩ := State.of_start hp
    have none : (Actor.start (fleet.settings pod) job).startsOf task = 0 := by
      unfold Actor.startsOf
      split <;> rfl
    rw [List.map_append, List.sum_append, List.map_singleton, List.sum_singleton, none]
    exact h
  | answer number choice =>
    obtain ⟨a, b, operation, reply, ha, -⟩ := hs.answers hp
    have sum := sum_map_set (Actor.startsOf task) (y := b) ha.actor
    have more := startsOf_of_log (log_of_effect ha.effect) task
    have starts := starts_of_cons ha.deeds
    rw [ha.actors]
    by_cases e : a.job.task = task
    · have hb : b.startsOf task = b.starts := if_pos (ha.job ▸ e)
      have hk : a.startsOf task = a.starts := if_pos e
      by_cases hd : Answered.deed a.job.task ⟨operation, reply⟩ = .starts
      · have one := (effect_of_starts ha.effect hd).2
        rw [e] at one
        rw [if_pos hd] at starts
        omega
      · rw [if_neg hd] at starts
        omega
    · have hb : b.startsOf task = 0 := if_neg (ha.job ▸ e)
      have hk : a.startsOf task = 0 := if_neg e
      omega
  | handBack message =>
    obtain ⟨-, rfl⟩ := State.of_handBack hp
    exact h
  | move m =>
    obtain ⟨shared, hm, rfl⟩ := State.of_move hp
    exact Nat.le_trans h (startsOf_of_log (log_of_move hm) task)

theorem Reaches.startsOf_le (hr : Reaches fleet allowed start c) (hi : start.Initial)
    (task : TaskId) :
    start.shared.startsOf task + (c.actors.map (Actor.startsOf task)).sum ≤
      c.shared.startsOf task := by
  apply hr.invariant
  · rw [hi.actors]
    exact Nat.le_refl _
  · intro c c' event hr h _ hp
    exact startsOf_step (hr.sound hi) hp h

/-- An actor has no more exchanges about a task than it has starts of it. -/
theorem Chronicle.exchangesOf_le {x : Actor} (h : Chronicle x) (task : TaskId) :
    x.exchangesOf task ≤ x.startsOf task := by
  unfold Actor.exchangesOf Actor.startsOf
  split
  · exact h.exchanges_le
  · exact Nat.le_refl 0

/-- In every reached state one actor at most is in an exchange about a task, whoever talks to the
worker has started the execution once and is in its exchange, and there were no more exchanges about
a task than it became processing. -/
theorem executions_exclusive (hi : start.Initial) (hr : Reaches fleet anyEvent start c) :
    (∀ (i j : Nat) (x y : Actor), c.actors[i]? = some x → c.actors[j]? = some y →
      x.job.task = y.job.task → x.isExchanging = true → y.isExchanging = true → i = j) ∧
    (∀ x ∈ c.actors, ∀ operation, x.Asks operation → operation.isTalk = true →
      x.isExchanging = true ∧ x.starts = 1) ∧
    (∀ task, start.shared.startsOf task + (c.actors.map (Actor.exchangesOf task)).sum ≤
      c.shared.startsOf task) := by
  have chronicle := hr.chronicle hi
  refine ⟨?_, ?_, ?_⟩
  · intro i j x y hx hy he hxe hye
    rw [(chronicle x (List.mem_of_getElem? hx)).exchanging] at hxe
    rw [(chronicle y (List.mem_of_getElem? hy)).exchanging] at hye
    exact hr.exclusive hi i j x y hx hy ⟨he, hxe, hye⟩
  · intro x hx operation asks talk
    have talking := (hr.sound hi).isTalking_of_asks hx asks talk
    exact ⟨(chronicle x hx).exchanging.trans talking,
      (chronicle x hx).started (Stage.hasStarted_of_isTalking talking)⟩
  · intro task
    have counted := hr.startsOf_le hi task
    have fewer : (c.actors.map (Actor.exchangesOf task)).sum ≤
        (c.actors.map (Actor.startsOf task)).sum :=
      List.sum_le_sum fun x hx => (chronicle x hx).exchangesOf_le task
    omega

/-- A handler is about to reach the worker when a second one on its pod acquires the task, and is
refused its execution. The first one is talking to the worker when the checker tells an agent on another
pod that the owner of the task is dead, and the task ends as abandoned. -/
def contendedEvents : List Event :=
  plainEvents 15 ++ anotherMessage ⟨"first"⟩ 2 1 8 ++
    List.replicate 5 (.answer 0 (plainly morning)) ++ anotherMessage ⟨"second"⟩ 3 2 12

/-- The small cluster with three handlers of the task. -/
def contendedCluster : State := (plainStart.play plainFleet contendedEvents).getD plainStart

/-- The first handler is still talking to the worker. It is the only one to do so, and its exchange is
counted. -/
theorem executions_exclusive_contended :
    ∃ c, Reaches plainFleet anyEvent plainStart c ∧
      (c.shared.store.get? plainTask.id).map TaskRecord.status = some .error ∧
      (c.actors.map Actor.isExchanging = [true, false, false] ∧
        c.actors.map Actor.exchanges = [1, 0, 0]) ∧
      (∀ j y, c.actors[j]? = some y → y.job.task = plainTask.id → y.isExchanging = true → j = 0) ∧
      1 ≤ c.shared.startsOf plainTask.id := by
  have run : Reaches plainFleet anyEvent plainStart contendedCluster := .of_played fun _ _ => trivial
  obtain ⟨alone, -, counted⟩ := executions_exclusive plainStart_initial run
  refine ⟨_, run, by decide +kernel, ⟨by decide +kernel, by decide +kernel⟩,
    fun j y hy he hx => ?_, ?_⟩
  · have first : contendedCluster.actors[0]?.map (fun x => (x.job.task, x.isExchanging)) =
        some (plainTask.id, true) := by decide +kernel
    obtain ⟨x, hx₀, hf⟩ := Option.map_eq_some_iff.mp first
    obtain ⟨hk, hb⟩ := Prod.mk.inj hf
    exact alone j 0 y x hy hx₀ (he.trans hk.symm) hx hb
  · have one : (contendedCluster.actors.map (Actor.exchangesOf plainTask.id)).sum = 1 := by
      decide +kernel
    have le := counted plainTask.id
    rw [one] at le
    exact Nat.le_trans (Nat.le_add_left 1 _) le

end GridAgent.Cluster
