import GridAgent.Proofs.Cluster.Books
import GridAgent.Proofs.Cluster.Deeds
import GridAgent.Proofs.Cluster.Executions

/-!
# Calls that stop an execution

Any number of calls stop one execution, of administrators and of those who watch the store. Each of
them asks the registry first whether the execution was asked to stop before. The one that was the
first marks the task and cancels the execution, whatever the store answers to the mark; the others
are over. The flag in the registry is set exactly when there is a first one, so that there is never
a second.
-/

namespace GridAgent.Agent.Registry

variable {r r' : Registry} {task : TaskId} {run : RunId}

/-- Numbers of executions have been given out. -/
def Numbered (r : Registry) : Prop := ∀ run, r.count ≤ run → r.executions.get? run = none

theorem numbered_empty : Numbered {} := fun _ _ => rfl

/-- Executions keep their tasks and whether they were asked to stop, and numbers go on being given
out. -/
structure KeepsFlags (r r' : Registry) : Prop where
  numbered : r'.Numbered
  tasks : ∀ run task, r.taskOf? run = some task → r'.taskOf? run = some task
  flags : ∀ run, r'.stopRequested run = r.stopRequested run

theorem Numbered.keepsFlags (h : r.Numbered) : r.KeepsFlags r :=
  ⟨h, fun _ _ known => known, fun _ => rfl⟩

/-- A new execution has a new number and was not asked to stop. -/
theorem Numbered.keepsFlags_register (h : r.Numbered) (free : r.running.get? task = none) :
    r.KeepsFlags (r.register task).2 := by
  rw [register_of_free free]
  refine ⟨fun run beyond => ?_, fun run other known => ?_, fun run => ?_⟩
  · rw [Table.get?_set, if_neg (Nat.ne_of_gt beyond)]
    exact h run (Nat.le_of_succ_le beyond)
  · rw [taskOf?, Table.get?_set]
    split
    · next e =>
      rw [taskOf?, h run (Nat.le_of_eq e.symm)] at known
      cases known
    · exact known
  · rw [stopRequested, stopRequested, Table.get?_set]
    split
    · next e =>
      rw [h run (Nat.le_of_eq e.symm)]
      rfl
    · rfl

theorem Numbered.keepsFlags_unregister (h : r.Numbered) (run : RunId) :
    r.KeepsFlags (r.unregister run) := by
  obtain ⟨executions, count⟩ := r.unregister_executions run
  refine ⟨fun number => ?_, fun number other => ?_, fun number => ?_⟩
  · rw [executions, count]
    exact h number
  · rw [taskOf?, taskOf?, executions]
    exact id
  · rw [stopRequested, executions]
    rfl

/-- A known execution is asked to stop from then on; nothing else changes. -/
theorem stopRequested_requestStop (known : r.taskOf? run = some task) (number : RunId) :
    (r.requestStop run).2.stopRequested number =
      if number = run then true else r.stopRequested number := by
  unfold stopRequested requestStop
  dsimp only
  rw [Table.get?_modify]
  split
  · next e =>
    obtain ⟨execution, found, -⟩ := Option.map_eq_some_iff.mp known
    rw [found]
    rfl
  · rfl

theorem Numbered.requestStop (h : r.Numbered) (run : RunId) : (r.requestStop run).2.Numbered := by
  intro number beyond
  show (r.executions.modify run _).get? number = none
  rw [Table.get?_modify]
  split
  · next e =>
    rw [← e, h number beyond]
    rfl
  · exact h number beyond

end GridAgent.Agent.Registry

namespace GridAgent.Cluster

open Agent Program

/-- The execution that a job stops from outside. -/
def Job.stops? : Job → Option RunId
  | .stop run _ => some run
  | .watch run _ => some run
  | _ => none

namespace Answered

/-- The task was looked at. -/
def lookedAt (task : TaskId) (reply : Except StoreError (Option TaskRecord)) : Answered :=
  ⟨.agent (.readTask task), reply⟩

/-- The execution was asked to stop. -/
def stopAsked (run : RunId) (before : Bool) : Answered := ⟨.agent (.requestStop run), before⟩

/-- The task was marked for cancellation, or could not be. -/
def markAsked (pod : PodId) (task : TaskId) (reply : Except StoreError TaskRecord) : Answered :=
  ⟨.agent (.updateTask task (heldBy pod) { status := .cancelling }), reply⟩

/-- The execution was cancelled. -/
def cancelled (run : RunId) : Answered := ⟨.agent (.cancel run), ()⟩

/-- Whether the execution had been asked to stop before. -/
def before? : Answered → Option Bool
  | ⟨.agent (.requestStop _), before⟩ => some before
  | _ => none

/-- An update was answered. -/
def isMark : Answered → Bool
  | ⟨.agent (.updateTask ..), _⟩ => true
  | _ => false

/-- An execution was cancelled. -/
def isCancel : Answered → Bool
  | ⟨.agent (.cancel _), _⟩ => true
  | _ => false

end Answered

/-- What a call has looked at before it asks for a stop: who watches has found its task cancelled.
-/
def Job.HasLooked : Job → List Answered → Prop
  | .stop .., past => past = []
  | .watch _ task, past => ∃ t : TaskRecord, t.status.isCancellation = true ∧
    past = [.lookedAt task (.ok (some t))]
  | _, _ => False

namespace Stopping

open Answered

/-- What a call that stops an execution may ask, by what it was answered: it looks at its task, asks
to stop the execution, marks the task if it was the first to ask, and then cancels the execution. -/
def May (pod : PodId) (job : Job) (run : RunId) (past : List Answered) : Operation → Prop
  | .agent (.readTask task) => past = [] ∧ job = .watch run task
  | .agent (.requestStop other) => job.HasLooked past ∧ other = run
  | .agent (.updateTask task expected change) =>
    (∃ looks, job.HasLooked looks ∧ past = stopAsked run false :: looks) ∧
      task = job.task ∧ expected = heldBy pod ∧ change = { status := .cancelling }
  | .agent (.cancel other) =>
    (∃ looks reply, job.HasLooked looks ∧
      past = markAsked pod job.task reply :: stopAsked run false :: looks) ∧ other = run
  | _ => False

/-- What the first call answers, given the answer to its mark. -/
def verdict : Except StoreError TaskRecord → Except AgentError Bool
  | .ok _ => .ok true
  | .error (.conflict _) => .ok true
  | .error cause => .error (.store cause)

/-- A call is over: it was not the first, or it has done everything. -/
inductive Over (pod : PodId) (job : Job) (run : RunId) :
    List Answered → Except AgentError Bool → Prop where
  /-- The execution was asked to stop before. -/
  | later (looks : List Answered) (looked : job.HasLooked looks) :
    Over pod job run (stopAsked run true :: looks) (.ok false)
  /-- The task was marked, or was not, and the execution is cancelled. -/
  | first (looks : List Answered) (looked : job.HasLooked looks)
    (reply : Except StoreError TaskRecord) :
    Over pod job run
      (cancelled run :: markAsked pod job.task reply :: stopAsked run false :: looks)
      (verdict reply)

/-- What a job that stops an execution ends with. Who watches looks again as long as it has not
asked. -/
def Ends (pod : PodId) : (job : Job) → job.Result → List Answered → Prop
  | .stop run task, answer, past => Over pod (.stop run task) run past answer
  | .watch run task, again, past =>
    again = true ∧ (∃ reply, past = [lookedAt task reply]) ∨
      again = false ∧ ∃ answer, Over pod (.watch run task) run past answer
  | _, _, _ => True

end Stopping

/-- The rules of a call that stops an execution. They go by all it was answered. -/
def stopConduct (pod : PodId) (job : Job) : Conduct operations (List Answered) where
  may past operation := ∀ run, job.stops? = some run → Stopping.May pod job run past operation
  credible _ _ := True
  note past operation reply := ⟨operation, reply⟩ :: past

/-- A stop follows the rules, after the looks that come before it. -/
theorem stopExecution_obeys (s : Settings) (job : Job) {run : RunId} (stops : job.stops? = some run)
    {looks : List Answered} (looked : job.HasLooked looks) :
    (agentCalls (stopExecution s job.task run).run).Follows (stopConduct s.podId job) looks
      fun answer past => Stopping.Over s.podId job run past answer := by
  refine ⟨fun other e => ?_, fun before _ => ?_⟩
  · cases stops.symm.trans e
    exact ⟨looked, rfl⟩
  cases before with
  | true => exact .later looks looked
  | false =>
    refine ⟨fun other e => ?_, fun reply _ => ⟨fun other e => ?_, fun _ _ => ?_⟩⟩
    · cases stops.symm.trans e
      exact ⟨⟨looks, looked, rfl⟩, rfl, rfl, rfl⟩
    · cases stops.symm.trans e
      exact ⟨⟨looks, reply, looked, rfl⟩, rfl⟩
    · have finished : Stopping.Over s.podId job run
          (.cancelled run :: .markAsked s.podId job.task reply :: .stopAsked run false :: looks)
          (Stopping.verdict reply) := .first looks looked reply
      rcases reply with (task | found | reason) | record <;> exact finished

/-- A look follows the rules, and is followed by another one unless it found a cancellation. -/
theorem lookForCancellation_obeys (s : Settings) (run : RunId) (task : TaskId) :
    (agentCalls (lookForCancellation s task run)).Follows (stopConduct s.podId (.watch run task)) []
      (Stopping.Ends s.podId (.watch run task)) := by
  refine ⟨fun other e => ?_, fun reply _ => ?_⟩
  · cases e
    exact ⟨rfl, rfl⟩
  rcases reply with cause | _ | t
  · exact .inl ⟨rfl, _, rfl⟩
  · exact .inl ⟨rfl, _, rfl⟩
  · show (agentCalls (if t.status.isCancellation then
      (stopExecution s task run).run.bind fun _ => .done false
      else .done true)).Follows _ _ _
    split
    · next found =>
      rw [agentCalls_bind]
      have obeys := stopExecution_obeys s (.watch run task) rfl ⟨t, found, rfl⟩
      refine follows_bind.mpr (obeys.mono ?_)
      exact fun answer past finished => .inr ⟨rfl, answer, finished⟩
    · exact .inl ⟨rfl, _, rfl⟩

/-- A job that stops nothing is free. -/
theorem obeys_of_stops_none {pod : PodId} (job : Job) (none : job.stops? = none)
    (ends : ∀ value past, Stopping.Ends pod job value past) (p : Program operations job.Result)
    (past : List Answered) : p.Follows (stopConduct pod job) past (Stopping.Ends pod job) := by
  induction p generalizing past with
  | done value => exact ends value past
  | call request next ih =>
    refine ⟨fun run e => ?_, fun reply _ => ih reply _⟩
    cases none.symm.trans e

/-- Every job follows the rules. -/
theorem program_stops (s : Settings) (job : Job) :
    (job.program s).Follows (stopConduct s.podId job) [] (Stopping.Ends s.podId job) := by
  cases job with
  | handle message task =>
    exact obeys_of_stops_none (.handle message task) rfl (fun _ _ => trivial) _ _
  | acquire task => exact obeys_of_stops_none (.acquire task) rfl (fun _ _ => trivial) _ _
  | stop run task => exact stopExecution_obeys s (.stop run task) rfl rfl
  | watch run task => exact lookForCancellation_obeys s run task

/-! In a cluster. -/

variable {fleet : Fleet} {allowed : Event → Prop} {start c c' : State} {number : Nat} {a b : Actor}
  {operation : Operation} {reply : operation.Reply} {run : RunId}

/-- In every reached cluster every job follows the rules. -/
theorem Reaches.stoppings (hr : Reaches fleet allowed start c) (hi : start.Initial) :
    ∀ a ∈ c.actors,
      a.rest.Follows (stopConduct a.pod a.job) a.past (Stopping.Ends a.pod a.job) := by
  apply hr.invariant
  · exact fun a ha => absurd ha hi.not_mem
  · intro c c' event hr h _ hp x hx
    cases event with
    | start pod job =>
      obtain ⟨-, rfl⟩ := State.of_start hp
      rcases List.mem_append.mp hx with hx | hx
      · exact h x hx
      · obtain rfl := List.mem_singleton.mp hx
        exact program_stops (fleet.settings pod) job
    | answer number choice =>
      obtain ⟨a, operation, next, reply, asks, ha, -⟩ := (hr.sound hi).advances hp
      rcases ha.mem_cases hx with rfl | hx
      · have follows := h a (List.mem_of_getElem? ha.actor)
        rw [asks] at follows
        exact follows.2 reply trivial
      · exact h x hx
    | handBack message =>
      obtain ⟨-, rfl⟩ := State.of_handBack hp
      exact h x hx
    | move m =>
      obtain ⟨shared, -, rfl⟩ := State.of_move hp
      exact h x hx

theorem Stage.eq_of_hungUp_stopping {stage : Stage} (h : stage.hungUp = .stopping run) :
    stage = .stopping run := by
  cases stage <;> cases h
  rfl

/-- Only the jobs for it stop an execution. -/
theorem Reaches.stops (hr : Reaches fleet allowed start c) (hi : start.Initial) :
    ∀ a ∈ c.actors, ∀ run, a.track.stage = .stopping run → a.job.stops? = some run := by
  refine hr.all_actors hi (fun pod job _ run hs => ?_) fun _ ha h run hs => ?_
  · cases job <;> cases hs <;> rfl
  · rw [ha.job]
    refine h run ?_
    have turn := ha.turn
    generalize Answered.deed _ _ = deed at turn
    cases turn with
    | starts run before after => cases after.symm.trans hs
    | opens run before after => exact after.symm.trans hs
    | talks run before after => exact after.symm.trans hs
    | hangsUp after => exact Stage.eq_of_hungUp_stopping (after.symm.trans hs)
    | stays after => exact after.symm.trans hs
    | registers run before after => cases after.symm.trans hs
    | leaves run before after => cases after.symm.trans hs

/-- Whether the execution had been asked to stop when the actor asked it to; none before that. -/
def Actor.before? (a : Actor) : Option Bool := a.past.findSome? Answered.before?

/-- An answer is remembered. -/
theorem Answers.before? (ha : Answers c number a b operation reply c') :
    b.before? = (Answered.before? ⟨operation, reply⟩).or a.before? := by
  rw [Actor.before?, ha.past, List.findSome?_cons]
  cases Answered.before? ⟨operation, reply⟩ <;> rfl

/-- What a call does to the flags: it asks an execution to stop, or keeps them all. -/
theorem flags_of_effect {pod : PodId} {s s' : Shared} {operation : Operation}
    {reply : operation.Reply} (numbered : ∀ p, (s.registries p).Numbered)
    (h : Effect pod s operation reply s') :
    (∃ run, operation = .agent (.requestStop run) ∧
      Answered.before? ⟨operation, reply⟩ = some ((s.registries pod).stopRequested run) ∧
      s' = s.setRegistry pod ((s.registries pod).requestStop run).2) ∨
    (Answered.before? ⟨operation, reply⟩ = none ∧
      ∀ p, (s.registries p).KeepsFlags (s'.registries p)) := by
  have same (p : PodId) := (numbered p).keepsFlags
  have set {registry : Registry} (kept : (s.registries pod).KeepsFlags registry) (p : PodId) :
      (s.registries p).KeepsFlags ((s.setRegistry pod registry).registries p) := by
    rw [Shared.registries_setRegistry]
    split
    · next e =>
      rw [e]
      exact kept
    · exact same p
  cases h with
  | silent silent alike =>
    obtain ⟨failures, scratches, rfl⟩ := alike
    refine .inr ⟨?_, same⟩
    rcases operation with request | request
    · cases request <;> first | rfl | cases silent
    · rfl
  | registered task free => exact .inr ⟨rfl, set ((numbered pod).keepsFlags_register free)⟩
  | unregistered run => exact .inr ⟨rfl, set ((numbered pod).keepsFlags_unregister run)⟩
  | stopAsked run => exact .inl ⟨run, rfl, rfl, rfl⟩
  | _ => exact .inr ⟨rfl, same⟩

/-- An answer changes what is counted for the answered actor only. -/
theorem Answers.countP (ha : Answers c number a b operation reply c') (p : Actor → Bool) :
    c'.actors.countP p + (if p a then 1 else 0) = c.actors.countP p + if p b then 1 else 0 := by
  obtain ⟨bound, here⟩ := List.getElem?_eq_some_iff.mp ha.actor
  have counted : p a = true → 0 < c.actors.countP p := fun h =>
    List.countP_pos_iff.mpr ⟨a, List.mem_of_getElem? ha.actor, h⟩
  rw [ha.actors, List.countP_set bound, here]
  by_cases h : p a = true
  · have := counted h
    rw [if_pos h]
    omega
  · rw [if_neg h]
    omega

/-- The call stops the execution of a pod. -/
def Actor.isStopOf (pod : PodId) (run : RunId) (a : Actor) : Bool :=
  a.pod = pod && a.job.stops? = some run

/-- The call was the first one to ask the execution to stop. -/
def Actor.isFirstOf (pod : PodId) (run : RunId) (a : Actor) : Bool :=
  a.isStopOf pod run && a.before? = some false

/-- The flags of the executions are those that calls have set. -/
structure Stoppable (c : State) : Prop where
  /-- Numbers of executions have been given out. -/
  numbered : ∀ pod, (c.shared.registries pod).Numbered
  /-- Whatever is stopped is known. -/
  known : ∀ a ∈ c.actors, ∀ run, a.job.stops? = some run →
    (c.shared.registries a.pod).taskOf? run = some a.job.task
  /-- An execution that a call has asked to stop is flagged. -/
  flagged : ∀ a ∈ c.actors, ∀ run, a.job.stops? = some run → a.before? ≠ none →
    (c.shared.registries a.pod).stopRequested run = true
  /-- One call was the first for a flagged execution, and none for another. -/
  first : ∀ pod run, c.actors.countP (Actor.isFirstOf pod run) =
    if (c.shared.registries pod).stopRequested run then 1 else 0

theorem State.Initial.stoppable (h : c.Initial) : Stoppable c := by
  refine ⟨fun pod => ?_, fun a ha => absurd ha h.not_mem, fun a ha => absurd ha h.not_mem,
    fun pod run => ?_⟩
  · rw [h.registries pod]
    exact Registry.numbered_empty
  · rw [h.actors, h.registries pod]
    rfl

/-- A job begins without having asked. -/
theorem Stoppable.started (h : Stoppable c) {pod : PodId} {job : Job}
    (can : c.canStart pod job = true) :
    Stoppable { c with actors := c.actors ++ [Actor.start (fleet.settings pod) job] } := by
  have here : (Actor.start (fleet.settings pod) job).pod = pod := fleet.podId_settings pod
  refine ⟨h.numbered, fun a ha run stops => ?_, fun a ha run stops asked => ?_, fun p run => ?_⟩
  · rcases List.mem_append.mp ha with ha | ha
    · exact h.known a ha run stops
    · obtain rfl := List.mem_singleton.mp ha
      rw [here]
      cases job with
      | stop other task =>
        cases stops
        exact of_decide_eq_true can
      | watch other task =>
        cases stops
        exact of_decide_eq_true can
      | _ => cases stops
  · rcases List.mem_append.mp ha with ha | ha
    · exact h.flagged a ha run stops asked
    · obtain rfl := List.mem_singleton.mp ha
      exact absurd rfl asked
  · have fresh : (Actor.start (fleet.settings pod) job).isFirstOf p run = false := Bool.and_false _
    rw [List.countP_append, h.first p run, List.countP_singleton, fresh]
    rfl

/-- An answer that keeps the flags keeps who was the first. -/
theorem Stoppable.kept (h : Stoppable c) (ha : Answers c number a b operation reply c')
    (asked : b.before? = a.before?)
    (flags : ∀ p, (c.shared.registries p).KeepsFlags (c'.shared.registries p)) : Stoppable c' := by
  have mem := List.mem_of_getElem? ha.actor
  refine ⟨fun p => (flags p).numbered, fun x hx run stops => ?_, fun x hx run stops hk => ?_,
    fun p run => ?_⟩
  · refine (flags x.pod).tasks run x.job.task ?_
    rcases ha.mem_cases hx with rfl | hx
    · rw [ha.job] at stops ⊢
      rw [ha.pod]
      exact h.known a mem run stops
    · exact h.known x hx run stops
  · rw [(flags x.pod).flags]
    rcases ha.mem_cases hx with rfl | hx
    · rw [ha.job] at stops
      rw [ha.pod]
      rw [asked] at hk
      exact h.flagged a mem run stops hk
    · exact h.flagged x hx run stops hk
  · have same : b.isFirstOf p run = a.isFirstOf p run := by
      rw [Actor.isFirstOf, Actor.isStopOf, asked, ha.pod, ha.job]
      rfl
    have counted := ha.countP (Actor.isFirstOf p run)
    rw [same] at counted
    rw [(flags p).flags, ← h.first p run]
    exact Nat.add_right_cancel counted

/-- Asking for a stop flags an execution that is registered, and no other. -/
theorem stopRequested_of_asked {s : Shared} {pod : PodId} {task : TaskId}
    (known : (s.registries pod).taskOf? run = some task) (p : PodId) (other : RunId) :
    ((s.setRegistry pod ((s.registries pod).requestStop run).2).registries p).stopRequested other =
      if p = pod ∧ other = run then true else (s.registries p).stopRequested other := by
  rw [Shared.registries_setRegistry]
  by_cases e : p = pod
  · subst e
    rw [if_pos rfl, Registry.stopRequested_requestStop known]
    simp only [true_and]
  · rw [if_neg e, if_neg fun both => e both.1]

/-- Asking for a stop leaves all executions with their tasks. -/
theorem taskOf?_of_asked (s : Shared) (pod p : PodId) (run other : RunId) :
    ((s.setRegistry pod ((s.registries pod).requestStop run).2).registries p).taskOf? other =
      (s.registries p).taskOf? other := by
  rw [Shared.registries_setRegistry]
  split
  · next e => rw [e, Registry.taskOf?_requestStop]
  · rfl

/-- A call that asks for a stop counts as the first if the execution was not flagged. -/
theorem Answers.countP_first {reply : (Operation.agent (.requestStop run)).Reply}
    (ha : Answers c number a b (.agent (.requestStop run)) reply c') (stops : a.job.stops? = some run)
    (none : a.before? = none)
    (asked : b.before? = some ((c.shared.registries a.pod).stopRequested run)) (p : PodId)
    (other : RunId) : c'.actors.countP (Actor.isFirstOf p other) =
      c.actors.countP (Actor.isFirstOf p other) +
        if (p = a.pod ∧ other = run) ∧ (c.shared.registries a.pod).stopRequested run = false then 1
        else 0 := by
  have counted := ha.countP (Actor.isFirstOf p other)
  have before : a.isFirstOf p other = false := by
    rw [Actor.isFirstOf, none, Bool.and_eq_false_iff]
    exact .inr rfl
  have after : b.isFirstOf p other = (decide (p = a.pod ∧ other = run) &&
      !(c.shared.registries a.pod).stopRequested run) := by
    rw [Actor.isFirstOf, Actor.isStopOf, ha.pod, ha.job, stops, asked]
    cases (c.shared.registries a.pod).stopRequested run <;> simp [eq_comm]
  rw [before, after] at counted
  simpa using counted

/-- The first call that asks for a stop flags the execution. -/
theorem Stoppable.asked (h : Stoppable c) {reply : (Operation.agent (.requestStop run)).Reply}
    (ha : Answers c number a b (.agent (.requestStop run)) reply c')
    (stops : a.job.stops? = some run) (none : a.before? = none)
    (asked : b.before? = some ((c.shared.registries a.pod).stopRequested run))
    (shared : c'.shared = c.shared.setRegistry a.pod
      ((c.shared.registries a.pod).requestStop run).2) : Stoppable c' := by
  have mem := List.mem_of_getElem? ha.actor
  have flags (p : PodId) (other : RunId) : (c'.shared.registries p).stopRequested other =
      if p = a.pod ∧ other = run then true else (c.shared.registries p).stopRequested other := by
    rw [shared, stopRequested_of_asked (h.known a mem run stops)]
  refine ⟨fun p => ?_, fun x hx other hs => ?_, fun x hx other hs hk => ?_, fun p other => ?_⟩
  · rw [shared, Shared.registries_setRegistry]
    split
    · exact (h.numbered a.pod).requestStop run
    · exact h.numbered p
  · rw [shared, taskOf?_of_asked]
    rcases ha.mem_cases hx with rfl | hx
    · rw [ha.job] at hs ⊢
      rw [ha.pod]
      exact h.known a mem other hs
    · exact h.known x hx other hs
  · rcases ha.mem_cases hx with rfl | hx
    · rw [ha.job, stops] at hs
      rw [flags, ha.pod, if_pos ⟨rfl, (Option.some.inj hs).symm⟩]
    · rw [flags, h.flagged x hx other hs hk, ite_self]
  · rw [ha.countP_first stops none asked, h.first p other, flags]
    by_cases here : p = a.pod ∧ other = run
    · obtain ⟨rfl, rfl⟩ := here
      cases (c.shared.registries a.pod).stopRequested other <;> simp
    · simp [here]

/-- An actor that stops an execution asks only what it may. -/
theorem Reaches.may_stop (hr : Reaches fleet allowed start c) (hi : start.Initial)
    (ha : Answers c number a b operation reply c') (stops : a.job.stops? = some run) :
    Stopping.May a.pod a.job run a.past operation := by
  obtain ⟨next, hn⟩ := ha.asks
  have follows := hr.stoppings hi a (List.mem_of_getElem? ha.actor)
  rw [hn] at follows
  exact follows.1 run stops

/-- A call that has looked only has not asked. -/
theorem Job.HasLooked.before? {job : Job} {past : List Answered} (h : job.HasLooked past) :
    past.findSome? Answered.before? = none := by
  cases job with
  | stop run task =>
    obtain rfl : past = [] := h
    rfl
  | watch run task =>
    obtain ⟨t, -, rfl⟩ := h
    rfl
  | _ => cases h

/-- An answer keeps track of who was the first. -/
theorem Stoppable.answered (h : Stoppable c) (hr : Reaches fleet allowed start c)
    (hi : start.Initial) (ha : Answers c number a b operation reply c') : Stoppable c' := by
  have remembered := ha.before?
  rcases flags_of_effect h.numbered ha.effect with ⟨run, rfl, told, shared⟩ | ⟨told, flags⟩
  · have stops := hr.stops hi a (List.mem_of_getElem? ha.actor) run ha.may.2
    rw [told, Option.some_or] at remembered
    exact h.asked ha stops (hr.may_stop hi ha stops).1.before? remembered shared
  · rw [told, Option.none_or] at remembered
    exact h.kept ha remembered flags

/-- In every reached cluster the flags are those that calls have set. -/
theorem Reaches.stoppable (hr : Reaches fleet allowed start c) (hi : start.Initial) :
    Stoppable c := by
  refine hr.invariant hi.stoppable fun c c' event hr h _ hp => ?_
  cases event with
  | start pod job =>
    obtain ⟨can, rfl⟩ := State.of_start hp
    exact h.started can
  | answer number choice =>
    obtain ⟨a, b, operation, reply, ha, -⟩ := (hr.sound hi).answers hp
    exact h.answered hr hi ha
  | handBack message =>
    obtain ⟨-, rfl⟩ := State.of_handBack hp
    exact ⟨h.numbered, h.known, h.flagged, h.first⟩
  | move m =>
    obtain ⟨shared, hm, rfl⟩ := State.of_move hp
    have same := (pods_of_move hm).1
    refine ⟨fun pod => ?_, fun a ha => ?_, fun a ha => ?_, fun pod => ?_⟩
    · exact (congrFun same pod) ▸ h.numbered pod
    · exact (congrFun same a.pod) ▸ h.known a ha
    · exact (congrFun same a.pod) ▸ h.flagged a ha
    · exact (congrFun same pod) ▸ h.first pod

end GridAgent.Cluster
