import GridAgent.Proofs.Finalizer.Desk
import GridAgent.Proofs.Store.Arrivals

/-!
# Who waits for results is promoted once

The result that a task needed last promotes it, whichever it is. So the order in which results arrive
does not matter, results that arrive again promote nobody, and finalizers that produce the outputs of
several tasks push each of those that they free once, however often they are called.
-/

namespace GridAgent

open Store

/-- Results that arrive at one moment in one order do what they would do in another one. -/
structure ArriveAlike (s : Store) (arrivals arrivals' : List Arrival) : Prop where
  /-- Records, the index and the available data are the same; only the log can differ. -/
  content : (s.resolveEach arrivals).2 =
    { (s.resolveEach arrivals').2 with log := (s.resolveEach arrivals).2.log }
  /-- The log differs in its order. -/
  log : (s.resolveEach arrivals).2.log.Perm (s.resolveEach arrivals').2.log
  /-- Nobody becomes submitted twice. -/
  once : (s.resolveEach arrivals).1.flatten.Nodup
  /-- Whoever was in creation and waited becomes submitted if all that it waited for arrives. -/
  exactly : ∀ x, x ∈ (s.resolveEach arrivals).1.flatten ↔ s.hasStatus x [.creating] = true ∧
    (∃ data, data ∈ s.dependencies.awaitedBy x) ∧
      ∀ data ∈ s.dependencies.awaitedBy x, data ∈ arrivals.map Arrival.data
  /-- The same results again, at any time and in any number, change nothing and promote nobody. -/
  again : ∀ repeated : List Arrival, (∀ a ∈ repeated, a.data ∈ arrivals.map Arrival.data) →
    (s.resolveEach arrivals).2.resolveEach repeated =
      (repeated.map fun _ => [], (s.resolveEach arrivals).2)

theorem arriveAlike {s : Store} {arrivals arrivals' : List Arrival} {now : Date}
    (mirrored : s.dependencies.Mirrored)
    (same : (arrivals.map Arrival.data).Perm (arrivals'.map Arrival.data))
    (moment : ∀ a ∈ arrivals, a.now = now) (moment' : ∀ a ∈ arrivals', a.now = now) :
    ArriveAlike s arrivals arrivals' := by
  have produced := produced_resolveEach s arrivals
  have produced' := produced_resolveEach s arrivals'
  obtain ⟨woken, content⟩ := resolveEach_perm mirrored same moment moment'
  refine ⟨content, ?_, produced.once, produced.exactly mirrored, fun repeated known => ?_⟩
  · rw [produced.log, produced'.log]
    exact (woken.map _).append_left _
  · refine resolveEach_again fun a ha => ?_
    obtain ⟨b, hb, e⟩ := List.mem_map.mp (known a ha)
    rw [← e]
    exact hasArrived_resolveEach s hb

namespace Store

variable {s : Store} {x : TaskId}

/-- The results that a task is expected to produce, none if it is not stored. -/
def outputsOf (s : Store) (task : TaskId) : List DataId :=
  ((s.get? task).map TaskRecord.outputs).getD []

/-- Relief does not change what a task is expected to produce. -/
theorem outputs_relieved (arrived : List DataId) (woken : List TaskId) (now : Date) (r : TaskRecord) :
    (s.relieved arrived woken now x r).outputs = r.outputs := by
  unfold relieved
  dsimp only
  split
  · rw [TaskRecord.eq_of_essence TaskRecord.outputs (TaskRecord.apply_essence _ _) fun _ => rfl]
  · rfl

/-- Arrivals do not change what tasks are expected to produce. -/
theorem outputsOf_resolveEach (s : Store) (arrivals : List Arrival) (x : TaskId) :
    (s.resolveEach arrivals).2.outputsOf x = s.outputsOf x := by
  induction arrivals generalizing s with
  | nil => rfl
  | cons a rest ih =>
    rw [resolveEach_cons, ih]
    unfold outputsOf
    rw [get?_resolveDataIn, Option.map_map]
    refine congrArg (Option.getD · []) (congrArg (Option.map · _) (funext fun r => ?_))
    exact outputs_relieved ..

end Store

namespace Finalizer

variable {c : Circumstances} {d : Desk} {task : TaskId}

namespace Circumstances

/-- Finalizes tasks one after the other, whether or not it comes off. -/
def finalizeEach (c : Circumstances) : List TaskId → Desk → List (Except AgentError Unit) × Desk
  | [], d => ([], d)
  | task :: rest, d =>
    let (outcome, d) := c.does (finalize task) d
    let (more, d) := c.finalizeEach rest d
    (outcome :: more, d)

/-- The outputs of a task arrive one after the other. -/
theorem run_resolveAll (c : Circumstances) (outputs : List DataId) (d : Desk) :
    ∃ arrivals : List Arrival, ∃ turn, arrivals.map Arrival.data = outputs ∧
      c.run (resolveAll outputs) d = ((d.store.resolveEach arrivals).1.flatten,
        { d with store := (d.store.resolveEach arrivals).2, turn }) := by
  induction outputs generalizing d with
  | nil => exact ⟨[], d.turn, rfl, rfl⟩
  | cons data rest ih =>
    obtain ⟨arrivals, turn, listed, run⟩ := ih (d.resolve c data).2
    refine ⟨⟨data, c.clock d.turn, c.visits (d.turn + 1)⟩ :: arrivals, turn, ?_, ?_⟩
    · rw [List.map_cons, listed]
    · rw [run_resolveAll_cons, run]
      rfl

end Circumstances

/-- Tasks have been finalized: so many of their dependents were promoted for it. -/
structure Promotes (c : Circumstances) (d : Desk) (outputs : List DataId) (woken : List TaskId)
    (d' : Desk) : Prop where
  /-- The outputs have become available. -/
  produced : Produced d.store outputs woken d'.store
  /-- What tasks are expected to produce has not changed. -/
  outputs : ∀ x, d'.store.outputsOf x = d.store.outputsOf x
  /-- The dependents were handed to the queue, each once. -/
  handed : d'.handed = d.handed ++ woken
  /-- The queue has taken them, unless it refused a push. -/
  pushed : (∀ n, c.refusal n = none) → d'.queue = d.queue.push woken

theorem Promotes.trans {d' d'' : Desk} {outputs outputs' : List DataId} {woken woken' : List TaskId}
    (h : Promotes c d outputs woken d') (h' : Promotes c d' outputs' woken' d'') :
    Promotes c d (outputs ++ outputs') (woken ++ woken') d'' where
  produced := h.produced.trans h'.produced
  outputs x := (h'.outputs x).trans (h.outputs x)
  handed := by rw [h'.handed, h.handed, List.append_assoc]
  pushed willing := by
    rw [h'.pushed willing, h.pushed willing]
    unfold Queue.push
    rw [List.append_assoc]

/-- A task is finalized. -/
theorem finalize_promotes (c : Circumstances) (healthy : d.store.failures = 0) (task : TaskId) :
    ∃ woken, Promotes c d (d.store.outputsOf task) woken (c.does (finalize task) d).2 := by
  have read : c.does (readTask task) d = (.ok (d.store.get? task), { d with turn := d.turn + 1 }) :=
    Circumstances.does_readTask healthy
  have work : c.does (finalize task) d = _ := Circumstances.does_bind read
  rw [work]
  have nothing (q : Queue) : q.push [] = q := by
    unfold Queue.push
    rw [List.append_nil]
  cases stored : d.store.get? task with
  | none =>
    have none : d.store.outputsOf task = [] := by
      unfold Store.outputsOf
      rw [stored]
      rfl
    rw [none]
    exact ⟨[], .refl _, fun _ => rfl, (List.append_nil _).symm, fun _ => (nothing _).symm⟩
  | some t =>
    have outputs : d.store.outputsOf task = t.outputs := by
      unfold Store.outputsOf
      rw [stored]
      rfl
    obtain ⟨arrivals, turn, listed, run⟩ :=
      c.run_resolveAll t.outputs { d with turn := d.turn + 1 }
    have produced := produced_resolveEach d.store arrivals
    have kept := d.store.outputsOf_resolveEach arrivals
    rw [listed] at produced
    rw [outputs]
    dsimp only
    rw [Circumstances.does_lift, run]
    cases woken : (d.store.resolveEach arrivals).1.flatten with
    | nil =>
      rw [woken] at produced
      exact ⟨[], produced, kept, (List.append_nil _).symm, fun _ => (nothing _).symm⟩
    | cons first others =>
      rw [woken] at produced
      refine ⟨first :: others, ?_⟩
      show Promotes c d t.outputs (first :: others) (c.does (push (first :: others)) _).2
      rw [Circumstances.does_push]
      constructor
      · rw [Desk.store_push]
        exact produced
      · rw [Desk.store_push]
        exact kept
      · exact Desk.handed_push _
      · exact fun willing => Desk.queue_push willing _

/-- Tasks are finalized one after the other. -/
theorem finalizeEach_promotes (c : Circumstances) (healthy : d.store.failures = 0)
    (tasks : List TaskId) :
    ∃ woken, Promotes c d (tasks.flatMap d.store.outputsOf) woken (c.finalizeEach tasks d).2 := by
  induction tasks generalizing d with
  | nil =>
    refine ⟨[], .refl _, fun _ => rfl, (List.append_nil _).symm, fun _ => ?_⟩
    exact congrArg (fun ready => { d.queue with ready }) (List.append_nil _).symm
  | cons task rest ih =>
    obtain ⟨woken, first⟩ := finalize_promotes c healthy task
    obtain ⟨woken', later⟩ := ih (first.produced.failures.trans healthy)
    have outputs : rest.flatMap (c.does (finalize task) d).2.store.outputsOf =
        rest.flatMap d.store.outputsOf := by
      rw [show (c.does (finalize task) d).2.store.outputsOf = d.store.outputsOf from
        funext first.outputs]
    rw [outputs] at later
    exact ⟨woken ++ woken', first.trans later⟩

/-- Who is promoted when tasks are finalized, and how. -/
structure PromotesOnce (c : Circumstances) (d : Desk) (tasks : List TaskId) (woken : List TaskId)
    (d' : Desk) : Prop where
  /-- Those are promoted that were in creation and waited, all of it for outputs of the tasks. -/
  exactly : ∀ x, x ∈ woken ↔ d.store.hasStatus x [.creating] = true ∧
    (∃ data, data ∈ d.store.dependencies.awaitedBy x) ∧
      ∀ data ∈ d.store.dependencies.awaitedBy x, ∃ task ∈ tasks, data ∈ d.store.outputsOf task
  /-- Each is promoted once. -/
  once : woken.Nodup
  /-- That is all that is written. -/
  log : d'.store.log = d.store.log ++ woken.map fun x => (x, .submitted)
  /-- It has been submitted. -/
  submitted : ∀ x ∈ woken, d'.store.hasStatus x [.submitted] = true
  /-- It is handed to the queue once. -/
  handed : d'.handed = d.handed ++ woken
  /-- So it is pushed once, unless the queue refuses a push. -/
  pushed : (∀ n, c.refusal n = none) → d'.queue = d.queue.push woken

/-- Where both sides of the index hold the same edges, the order in which results arrive does not
matter, each task is promoted by one of them at most, and results that arrive again promote nobody. So
finalizers that are called in any order and any number of times promote each task that they free once,
and push it once. -/
theorem results_promote_once (d : Desk) (mirrored : d.store.dependencies.Mirrored) :
    (∀ (now : Date) (arrivals arrivals' : List Arrival),
      (arrivals.map Arrival.data).Perm (arrivals'.map Arrival.data) →
      (∀ a ∈ arrivals, a.now = now) → (∀ a ∈ arrivals', a.now = now) →
        ArriveAlike d.store arrivals arrivals') ∧
    ∀ (c : Circumstances) (tasks : List TaskId), d.store.failures = 0 →
      ∃ woken, PromotesOnce c d tasks woken (c.finalizeEach tasks d).2 := by
  refine ⟨fun now arrivals arrivals' same => arriveAlike mirrored same, ?_⟩
  intro c tasks healthy
  obtain ⟨woken, promotes⟩ := finalizeEach_promotes c healthy tasks
  have produced := promotes.produced
  refine ⟨woken, ?_, produced.once, produced.log, ?_, promotes.handed, promotes.pushed⟩
  · intro x
    rw [produced.exactly mirrored]
    simp only [List.mem_flatMap]
  · intro x hx
    obtain ⟨-, r, -, -, stored, submitted⟩ := produced.moved x hx
    exact hasStatus_iff.mpr ⟨r, stored, List.mem_singleton.mpr submitted⟩

/-- Two tasks produce what two others wait for: one of them needs outputs of both. -/
def shared : Store :=
  (((({} : Store).insert (sketch 1 .completed [] [100])).insert
    (sketch 2 .completed [] [101, 101])).insert (sketch 3 .creating [100, 101] [])).insert
      (sketch 4 .creating [101] [])

theorem shared_mirrored : shared.dependencies.Mirrored :=
  (((mirrored_empty.addAll _).addAll _).addAll _).addAll _

/-- The outputs arrive in one order and in the other. Then the tasks are finalized, the second one
twice, and both dependents are pushed once. -/
theorem shared_promoted :
    ArriveAlike shared
      [⟨.ofNat 100, Cluster.morning, .descending⟩, ⟨.ofNat 101, Cluster.morning, .ascending⟩]
      [⟨.ofNat 101, Cluster.morning, .ascending⟩, ⟨.ofNat 100, Cluster.morning, .ascending⟩] ∧
    PromotesOnce .descending ⟨shared, {}, 0, []⟩ [.ofNat 2, .ofNat 1, .ofNat 2] [.ofNat 4, .ofNat 3]
      (Circumstances.descending.finalizeEach [.ofNat 2, .ofNat 1, .ofNat 2] ⟨shared, {}, 0, []⟩).2 := by
  obtain ⟨alike, promotes⟩ := results_promote_once ⟨shared, {}, 0, []⟩ shared_mirrored
  constructor
  · exact alike Cluster.morning _ _ (.swap _ _ _) (by simp) (by simp)
  · obtain ⟨woken, promotes⟩ := promotes .descending [.ofNat 2, .ofNat 1, .ofNat 2] rfl
    have handed : (Circumstances.descending.finalizeEach [.ofNat 2, .ofNat 1, .ofNat 2]
        ⟨shared, {}, 0, []⟩).2.handed = [.ofNat 4, .ofNat 3] := by decide +kernel
    obtain rfl : woken = [.ofNat 4, .ofNat 3] := promotes.handed.symm.trans handed
    exact promotes

end Finalizer

end GridAgent
