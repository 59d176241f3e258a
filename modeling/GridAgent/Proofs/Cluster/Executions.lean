import GridAgent.Proofs.Cluster.Soundness

/-!
# Executions on a pod

An execution has a number of its own on its pod, and the number belongs to one actor from its
registration to its end. As long as it lasts its task is registered under that number, so a pod
executes a task in one actor at a time.
-/

namespace GridAgent.Agent.Registry

variable {r : Registry} {task : TaskId} {run : RunId}

/-- Numbers that are registered have been given out, to executions of the registered tasks. -/
def Coherent (r : Registry) : Prop :=
  ∀ task run, r.running.get? task = some run → run < r.count ∧ r.taskOf? run = some task

theorem coherent_empty : Coherent {} := nofun

/-- A registration takes the next number. -/
theorem register_of_free (h : r.running.get? task = none) :
    (r.register task).2 =
      { executions := r.executions.set r.count { task }
        running := r.running.set task r.count
        count := r.count + 1 } := by
  simp [register, Table.contains, h]

theorem Coherent.register (hc : r.Coherent) (h : r.running.get? task = none) :
    (r.register task).2.Coherent := by
  intro other run hr
  rw [register_of_free h] at hr ⊢
  simp only [Table.get?_set, taskOf?] at hr ⊢
  by_cases e : other = task
  · rw [if_pos e] at hr
    cases hr
    simp [e]
  · rw [if_neg e] at hr
    obtain ⟨hl, ht⟩ := hc other run hr
    refine ⟨Nat.lt_succ_of_lt hl, ?_⟩
    rw [if_neg (Nat.ne_of_lt hl)]
    exact ht

/-- The end of an execution removes its own registration and no other. -/
theorem running_unregister (r : Registry) (run : RunId) (task : TaskId) :
    (r.unregister run).running.get? task =
      if r.taskOf? run = some task ∧ r.running.get? task = some run then none
      else r.running.get? task := by
  unfold unregister
  split
  · next h => simp [h]
  · next found h =>
    by_cases hr : r.running.get? found = some run
    · simp only [hr, if_true, Table.get?_erase, h, Option.some.injEq]
      by_cases e : task = found
      · simp [e, hr]
      · simp [e, Ne.symm e]
    · simp only [hr, if_false, h, Option.some.injEq]
      rw [if_neg ?_]
      rintro ⟨rfl, he⟩
      exact hr he

theorem unregister_executions (r : Registry) (run : RunId) :
    (r.unregister run).executions = r.executions ∧ (r.unregister run).count = r.count := by
  unfold unregister
  split
  · exact ⟨rfl, rfl⟩
  · split <;> exact ⟨rfl, rfl⟩

theorem Coherent.unregister (hc : r.Coherent) (run : RunId) : (r.unregister run).Coherent := by
  intro task number hr
  rw [running_unregister] at hr
  obtain ⟨he, hn⟩ := r.unregister_executions run
  rw [taskOf?, he, hn]
  split at hr
  · cases hr
  · exact hc task number hr

/-- A registration stays when another task is registered. -/
theorem running_register {other : TaskId} (before : r.running.get? task = some run)
    (free : r.running.get? other = none) : (r.register other).2.running.get? task = some run := by
  rw [register_of_free free, Table.get?_set, if_neg ?_]
  · exact before
  · rintro rfl
    rw [free] at before
    cases before

/-- A registration that does not stay is the one that ends. -/
theorem eq_of_unregister {ended : RunId} (before : r.running.get? task = some run)
    (after : (r.unregister ended).running.get? task ≠ some run) : ended = run := by
  rw [running_unregister] at after
  split at after
  · next hits => exact Option.some.inj (hits.2.symm.trans before)
  · exact absurd before after

/-- A stop request keeps the registrations. -/
theorem taskOf?_requestStop (r : Registry) (run number : RunId) :
    (r.requestStop run).2.taskOf? number = r.taskOf? number := by
  simp only [requestStop, taskOf?, Table.get?_modify]
  split
  · next e =>
    rw [e]
    cases r.executions.get? run <;> rfl
  · rfl

theorem Coherent.requestStop (hc : r.Coherent) (run : RunId) :
    (r.requestStop run).2.Coherent := by
  intro task number hr
  rw [taskOf?_requestStop]
  exact hc task number hr

end GridAgent.Agent.Registry

namespace GridAgent.Cluster

open Agent Track

variable {fleet : Fleet} {allowed : Event → Prop} {start c c' : State} {number : Nat} {a b : Actor}
  {operation : Operation} {reply : operation.Reply}

/-- The actors are on one pod and have the same execution. -/
def Actor.SharesRun (x y : Actor) : Prop :=
  x.pod = y.pod ∧ ∃ run, x.track.stage.run? = some run ∧ y.track.stage.run? = some run

theorem Actor.SharesRun.symm {x y : Actor} (h : x.SharesRun y) : y.SharesRun x := by
  obtain ⟨hp, run, hx, hy⟩ := h
  exact ⟨hp.symm, run, hy, hx⟩

/-- The executions of the actors are registered, each under its own number. -/
structure Registered (c : State) : Prop where
  /-- Numbers belong to the registered tasks. -/
  coherent : ∀ pod, (c.shared.registries pod).Coherent
  /-- The task of an execution is registered under its number. -/
  running : ∀ a ∈ c.actors, ∀ run, a.track.stage.run? = some run →
    (c.shared.registries a.pod).running.get? a.job.task = some run
  /-- No two actors on a pod have the same number. -/
  distinct : c.Apart Actor.SharesRun

/-- A task is executed by one actor of a pod at a time. -/
theorem Registered.unique (h : Registered c) {i j : Nat} {a b : Actor}
    (ha : c.actors[i]? = some a) (hb : c.actors[j]? = some b) (hp : a.pod = b.pod)
    (ht : a.job.task = b.job.task) (hra : a.track.stage.run?.isSome)
    (hrb : b.track.stage.run?.isSome) : i = j := by
  obtain ⟨run, hra⟩ := Option.isSome_iff_exists.mp hra
  obtain ⟨run', hrb⟩ := Option.isSome_iff_exists.mp hrb
  have har := h.running a (List.mem_of_getElem? ha) run hra
  have hbr := h.running b (List.mem_of_getElem? hb) run' hrb
  rw [← hp, ← ht, har] at hbr
  obtain rfl := Option.some.inj hbr
  exact h.distinct i j a b ha hb ⟨hp, run, hra, hrb⟩

/-- How a call changes the registrations and that of its actor: it keeps them, begins an execution
or ends one. -/
theorem run_of_effect {pod : PodId} {s s' : Shared} (k : Track) {operation : Operation}
    {reply : operation.Reply} (h : Effect pod s operation reply s') :
    ((k.note pod operation reply).stage.run? = k.stage.run? ∧
      ∀ p, (s'.registries p).running = (s.registries p).running) ∨
    (∃ task, operation = .agent (.register task) ∧
      (s.registries pod).running.get? task = none ∧
      (k.note pod operation reply).stage = .executing (s.registries pod).count ∧
      s' = s.setRegistry pod ((s.registries pod).register task).2) ∨
    (∃ run, operation = .agent (.unregister run) ∧
      (k.note pod operation reply).stage = .left ∧
      s' = s.setRegistry pod ((s.registries pod).unregister run)) := by
  cases h with
  | silent silent alike =>
    obtain ⟨failures, scratches, rfl⟩ := alike
    exact .inl ⟨(alike_note_of_silent k silent).run?, fun _ => rfl⟩
  | read task =>
    refine .inl ⟨?_, fun _ => rfl⟩
    simp only [note, noteAgent]
    rw [read_eq]
  | lost task expected change record found unexpected =>
    exact .inl ⟨updated_run? k task expected change _, fun _ => rfl⟩
  | written task expected change record found holds =>
    exact .inl ⟨updated_run? k task expected change _, fun _ => rfl⟩
  | registered task free => exact .inr (.inl ⟨task, rfl, free, rfl, rfl⟩)
  | unregistered run => exact .inr (.inr ⟨run, rfl, rfl, rfl⟩)
  | stopAsked run =>
    refine .inl ⟨rfl, fun p => ?_⟩
    rw [Shared.registries_setRegistry]
    split
    · next e =>
      rw [e]
      rfl
    · rfl
  | disposed message disposition =>
    refine .inl ⟨?_, fun _ => rfl⟩
    simp only [note]
    rw [noteAgent_dispose]
  | _ => exact .inl ⟨rfl, fun _ => rfl⟩

/-- Calls keep the registries coherent. -/
theorem coherent_of_effect {pod : PodId} {s s' : Shared} {operation : Operation}
    {reply : operation.Reply} (h : Effect pod s operation reply s')
    (hc : ∀ p, (s.registries p).Coherent) (p : PodId) : (s'.registries p).Coherent := by
  have set (registry : Registry) (hr : registry.Coherent) :
      ((s.setRegistry pod registry).registries p).Coherent := by
    rw [Shared.registries_setRegistry]
    split
    · exact hr
    · exact hc p
  cases h with
  | silent silent alike =>
    obtain ⟨failures, scratches, rfl⟩ := alike
    exact hc p
  | registered task free => exact set _ ((hc pod).register free)
  | unregistered run => exact set _ ((hc pod).unregister run)
  | stopAsked run => exact set _ ((hc pod).requestStop run)
  | _ => exact hc p

/-- Executions stay registered while the registrations stay. -/
theorem Registered.kept (h : Registered c) (ha : Answers c number a b operation reply c')
    (hb : b.track.stage.run? = a.track.stage.run?)
    (hs : ∀ p, (c'.shared.registries p).running = (c.shared.registries p).running) :
    Registered c' := by
  refine ⟨coherent_of_effect ha.effect h.coherent, ?_, ?_⟩
  · intro x hx run hr
    rw [hs]
    rcases ha.mem_cases hx with rfl | hx
    · rw [ha.pod, ha.job]
      exact h.running a (List.mem_of_getElem? ha.actor) run (hb ▸ hr)
    · exact h.running x hx run hr
  · refine h.distinct.answered (fun _ _ => Actor.SharesRun.symm) ha ?_
    rintro i x hx ⟨hp, run, hrb, hrx⟩
    exact h.distinct i number x a hx ha.actor ⟨hp.symm.trans ha.pod, run, hrx, hb ▸ hrb⟩

/-- A new execution is registered under a number of its own. -/
theorem Registered.begun (h : Registered c) {number : Nat} {a b : Actor}
    {reply : (Operation.agent (.register a.job.task)).Reply}
    (ha : Answers c number a b (.agent (.register a.job.task)) reply c')
    (hf : (c.shared.registries a.pod).running.get? a.job.task = none)
    (hb : b.track.stage = .executing (c.shared.registries a.pod).count)
    (hs : c'.shared = c.shared.setRegistry a.pod
      ((c.shared.registries a.pod).register a.job.task).2) : Registered c' := by
  have below : ∀ x ∈ c.actors, x.pod = a.pod → ∀ run, x.track.stage.run? = some run →
      run < (c.shared.registries a.pod).count := by
    intro x hx hp run hr
    have running := h.running x hx run hr
    rw [hp] at running
    exact (h.coherent a.pod _ run running).1
  have own : b.track.stage.run? = some (c.shared.registries a.pod).count := by rw [hb]; rfl
  refine ⟨coherent_of_effect ha.effect h.coherent, ?_, ?_⟩
  · intro x hx run hr
    rw [hs, Shared.registries_setRegistry]
    rcases ha.mem_cases hx with rfl | hx
    · rw [if_pos ha.pod, Registry.register_of_free hf, ha.job, Table.get?_set, if_pos rfl]
      exact own.symm.trans hr
    · have running := h.running x hx run hr
      split
      · next hp =>
        rw [hp] at running
        exact Registry.running_register running hf
      · exact running
  · refine h.distinct.answered (fun _ _ => Actor.SharesRun.symm) ha ?_
    rintro i x hx ⟨hp, run, hrb, hrx⟩
    have hl := below x (List.mem_of_getElem? hx) (hp.symm.trans ha.pod) run hrx
    rw [own] at hrb
    cases hrb
    exact absurd hl (Nat.lt_irrefl _)

/-- The end of an execution leaves the others registered. -/
theorem Registered.ended (h : Registered c) {number : Nat} {a b : Actor} {run : RunId}
    {reply : (Operation.agent (.unregister run)).Reply}
    (ha : Answers c number a b (.agent (.unregister run)) reply c')
    (hb : b.track.stage = .left)
    (hs : c'.shared = c.shared.setRegistry a.pod
      ((c.shared.registries a.pod).unregister run)) : Registered c' := by
  have own : a.track.stage.run? = some run := by
    rcases ha.may.2 with hk | hk <;> rw [hk] <;> rfl
  have none : b.track.stage.run? = none := by rw [hb]; rfl
  refine ⟨coherent_of_effect ha.effect h.coherent, ?_, ?_⟩
  · intro x hx other hr
    obtain ⟨i, hx⟩ := List.mem_iff_getElem?.mp hx
    rcases ha.cases hx with ⟨rfl, rfl⟩ | ⟨hi, hx⟩
    · rw [none] at hr
      cases hr
    · have running := h.running x (List.mem_of_getElem? hx) other hr
      rw [hs, Shared.registries_setRegistry]
      split
      · next hp =>
        rw [hp] at running
        rw [Registry.running_unregister, if_neg ?_]
        · exact running
        · rintro ⟨-, he⟩
          obtain rfl := Option.some.inj (running.symm.trans he)
          exact hi (h.distinct i number x a hx ha.actor ⟨hp, other, hr, own⟩)
      · exact running
  · refine h.distinct.answered (fun _ _ => Actor.SharesRun.symm) ha ?_
    rintro i x hx ⟨-, other, hrb, -⟩
    rw [none] at hrb
    cases hrb

/-- Executions stay registered when an actor is answered. -/
theorem Registered.answered (h : Registered c)
    (ha : Answers c number a b operation reply c') : Registered c' := by
  have hrun := run_of_effect a.track ha.effect
  rw [← ha.track] at hrun
  rcases hrun with ⟨hb, hs⟩ | ⟨task, rfl, hf, hb, hs⟩ | ⟨run, rfl, hb, hs⟩
  · exact h.kept ha hb hs
  · obtain rfl : task = a.job.task := ha.may.2.1
    exact h.begun ha hf hb hs
  · exact h.ended ha hb hs

/-- A job begins outside of any execution. -/
theorem Job.run?_start (job : Job) : (Track.start job).stage.run? = none := by
  cases job <;> rfl

/-- Executions stay registered. -/
theorem Registered.perform (h : Registered c) (hs : Sound c) {event : Event}
    (hp : c.perform fleet event = some c') : Registered c' := by
  cases event with
  | start pod job =>
    obtain ⟨-, rfl⟩ := State.of_start hp
    refine ⟨h.coherent, ?_, ?_⟩
    · intro x hx run hr
      rcases List.mem_append.mp hx with hx | hx
      · exact h.running x hx run hr
      · obtain rfl := List.mem_singleton.mp hx
        cases (Job.run?_start job).symm.trans hr
    · refine h.distinct.started (fun _ _ => Actor.SharesRun.symm) ?_
      rintro x - ⟨-, run, hr, -⟩
      cases (Job.run?_start job).symm.trans hr
  | answer number choice =>
    obtain ⟨a, b, operation, reply, ha, -⟩ := hs.answers hp
    exact h.answered ha
  | handBack message =>
    obtain ⟨-, rfl⟩ := State.of_handBack hp
    exact ⟨h.coherent, h.running, h.distinct⟩
  | move m =>
    obtain ⟨shared, hm, rfl⟩ := State.of_move hp
    have same := (pods_of_move hm).1
    refine ⟨fun pod => ?_, fun a ha run hr => ?_, h.distinct⟩
    · exact (congrFun same pod) ▸ h.coherent pod
    · exact (congrFun same a.pod) ▸ h.running a ha run hr

theorem State.Initial.registered (h : c.Initial) : Registered c := by
  refine ⟨fun pod => ?_, fun a ha => absurd ha h.not_mem, h.apart⟩
  rw [h.registries pod]
  exact Registry.coherent_empty

/-- In every reached cluster the executions of the actors are registered. -/
theorem Reaches.registered (hr : Reaches fleet allowed start c) (h : start.Initial) :
    Registered c :=
  hr.invariant h.registered fun _ _ _ hr hc _ hp => hc.perform (hr.sound h) hp

/-- A registration is ended by the actor whose execution it is, and by nobody else. -/
theorem Registered.ends (h : Registered c) (hs : Sound c) {event : Event}
    (hp : c.perform fleet event = some c') {pod : PodId} {task : TaskId} {run : RunId}
    (before : (c.shared.registries pod).running.get? task = some run)
    (after : (c'.shared.registries pod).running.get? task ≠ some run) :
    ∃ number choice a, event = .answer number choice ∧ c.actors[number]? = some a ∧
      a.Asks (.agent (.unregister run)) ∧ a.pod = pod ∧ a.job.task = task ∧
      a.track.stage.run? = some run := by
  rcases State.pods_of_perform hp with ⟨number, choice, rfl⟩ | ⟨same, -⟩
  · obtain ⟨a, b, operation, reply, ha, -⟩ := hs.answers hp
    rcases run_of_effect a.track ha.effect with ⟨-, same⟩ | ⟨other, -, free, -, he⟩ |
      ⟨ended, rfl, -, he⟩
    · exact absurd ((congrArg (fun t => t.get? task) (same pod)).trans before) after
    · refine absurd ?_ after
      rw [he, Shared.registries_setRegistry]
      split
      · next hp =>
        subst hp
        exact Registry.running_register before free
      · exact before
    · rw [he, Shared.registries_setRegistry] at after
      split at after
      · next hp =>
        subst hp
        obtain rfl := Registry.eq_of_unregister before after
        have own : a.track.stage.run? = some ended := by
          rcases ha.may.2 with hk | hk <;> rw [hk] <;> rfl
        have running := h.running a (List.mem_of_getElem? ha.actor) ended own
        have about := (h.coherent a.pod a.job.task ended running).2
        exact ⟨number, choice, a, rfl, ha.actor, ha.asks, rfl,
          Option.some.inj (about.symm.trans (h.coherent a.pod task ended before).2), own⟩
      · exact absurd before after
  · rw [same] at after
    exact absurd before after

end GridAgent.Cluster
