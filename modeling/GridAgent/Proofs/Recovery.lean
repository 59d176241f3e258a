import GridAgent.Proofs.Cluster.Releases
import GridAgent.Proofs.Cluster.Repairs
import GridAgent.Proofs.Cluster.Supply

/-!
# Successions that are interrupted

A handler that retries its task has four things left to do in two places: to make a successor up, to
store it, to take it out of creation, and to push it. Wherever it fails on the way, its message comes
back, and the next handler of the task to which nothing goes wrong leaves the task with one successor
that is out of creation. The push is the exception: only whoever takes a successor out of creation
pushes it, and if that push fails nobody makes up for it.
-/

namespace GridAgent.Cluster

open Agent Track

variable {fleet : Fleet} {start c₀ c₁ c : State} {number : Nat} {a : Actor} {expected : Expectation}
  {change : TaskUpdate}

/-- The task has exactly one successor. It is out of creation, and its push went through, has failed,
or comes next. -/
structure State.HasSuccessor (c : State) (task heir : TaskId) : Prop where
  /-- It comes after the task, and is out of creation. -/
  stored : c.shared.Has heir fun t => t.ancestors.getLast? = some task ∧ t.status ≠ .creating
  /-- It is the only one. -/
  single : ∀ other t, c.shared.store.get? other = some t → t.ancestors.getLast? = some task →
    other = heir
  /-- It is in the queue, or will be, unless a push of it failed. -/
  pushed : c.HasPushed heir ∨ c.HasFailedToPush heir ∨ ∃ x ∈ c.actors, PushesNext heir x.rest

/-- A task that is retried was not retried before. -/
theorem Applies.retries (hu : Applies fleet c₀ number a expected change c₁) (hs : Sound c₀)
    (retries : change.status = .retried) :
    (∀ t, c₀.shared.store.get? a.job.task = some t → t.status ≠ .retried) ∧
      c₁.shared.Has a.job.task fun t => t.status = .retried := by
  obtain ⟨may, t, ht, holds⟩ := hu.found hs
  have next := next_of_may may holds
  rw [retries] at next
  constructor
  · intro t' ht' before
    obtain rfl := Option.some.inj (ht.symm.trans ht')
    rw [before] at next
    cases next
  · obtain ⟨b, stored, ha⟩ := hu.answers hs
    obtain ⟨⟨found, -, -, rfl⟩, after⟩ := written_of_effect ha.effect
    exact ⟨_, after, (TaskRecord.apply_status found change).trans retries⟩

/-- The run up to the update and the one after it. -/
theorem Applies.run (hu : Applies fleet c₀ number a expected change c₁) :
    Reaches fleet insertsFirst c₀ c₁ := by
  obtain ⟨choice, hp⟩ := hu.performed
  exact .step (.answer number choice) .refl trivial hp

/-- A task that is retried by an update has no successor at the start. -/
theorem Applies.unborn (hu : Applies fleet c₀ number a expected change c₁)
    (retries : change.status = .retried) (hi : start.Initial) (hs : Successions start.shared.store)
    (hr : Reaches fleet insertsFirst start c₀) :
    start.shared.store.successors.get? a.job.task = none := by
  cases recorded : start.shared.store.successors.get? a.job.task with
  | none => rfl
  | some heir =>
    -- the parent of a recorded successor is retried and stays so, but before the update it is not
    obtain ⟨⟨p, hp, retried⟩, -⟩ := hs.recorded _ heir recorded
    obtain ⟨p', hp', -, stays⟩ := hi.sound.record_run hp hr
    exact absurd (stays retried) ((hu.retries (hr.sound hi) retries).1 p' hp')

/-- A task whose record is retried, whose successor is provided for and out of creation, has this
successor. -/
theorem Successions.hasSuccessor {task heir : TaskId} {t : TaskRecord} (h : Successions c.shared.store)
    (hs : Sound c) (provided : c.Provides heir)
    (recorded : c.shared.store.successors.get? task = some heir)
    (stored : c.shared.store.get? heir = some t) (left : t.status ≠ .creating) :
    c.HasSuccessor task heir := by
  obtain ⟨-, t', ht', last⟩ := h.recorded task heir recorded
  obtain rfl := Option.some.inj (stored.symm.trans ht')
  refine ⟨⟨t, stored, last, left⟩, fun other t' ht' hl => ?_, ?_⟩
  · exact Option.some.inj ((h.child other t' task ht' hl).symm.trans recorded)
  · obtain ⟨found, hf, -, creating | accounted⟩ := provided
    · obtain rfl := Option.some.inj (stored.symm.trans hf)
      exact absurd creating left
    · exact accounted.imp id (Or.imp id fun ⟨x, hx, owed⟩ => ⟨x, hx, hs.pushesNext hx owed⟩)

/-- A handler that retries its task and returns before the succession has ended fails, and has released
its message. -/
theorem Applies.released (hu : Applies fleet c₀ number a expected change c₁)
    (retries : change.status = .retried) (hi : start.Initial)
    (hr : Reaches fleet insertsFirst start c₀) (run : Reaches fleet insertsFirst c₁ c) {x : Actor}
    {message : DeliveryId} {outcome : Except AgentError HandlerReport} {later : List Answered}
    {updated : TaskRecord} (hx : c.actors[number]? = some x)
    (job : x.job = .handle message a.job.task) (returned : x.outcome? = some outcome)
    (past : x.past =
      later ++ ⟨.agent (.updateTask a.job.task expected change), .ok updated⟩ :: a.past)
    (going : ∀ y ∈ later, y.concludes = false) :
    (∃ cause, outcome = .error cause) ∧
      HasReleased fleet insertsFirst c₁ message a.job.task c := by
  have hr₁ : Reaches fleet insertsFirst start c₁ := hr.trans hu.run
  obtain ⟨b, stored, hb, -, hpast, torn⟩ := hu.leavesTorn hr hi retries
  obtain ⟨x', later', hx', -, past', leaves⟩ := hr₁.leavesTorn hi hb torn run
  obtain rfl := Option.some.inj (hx.symm.trans hx')
  have same : later' = later := by
    have lengths : later'.length = later.length := by
      have both := congrArg List.length (past'.symm.trans past)
      rw [hpast] at both
      simpa using both
    exact (List.append_inj (past'.symm.trans past) lengths).1
  exact (leaves (same ▸ going)).returned (hr₁.trans run) hi (List.mem_of_getElem? hx) job returned

/-- After a task is retried, every handler of it that begins and to which nothing goes wrong leaves it
with one successor. -/
theorem Applies.succeeded (hu : Applies fleet c₀ number a expected change c₁)
    (retries : change.status = .retried) (hi : start.Initial) (hs : Successions start.shared.store)
    (hp : Provisions start.shared.store) (hr : Reaches fleet insertsFirst start c₀)
    (run : Reaches fleet insertsFirst c₁ c) {i : Nat} {x : Actor} {message : DeliveryId}
    {outcome : Except AgentError HandlerReport} (hx : c.actors[i]? = some x)
    (late : c₁.actors.length ≤ i) (job : x.job = .handle message a.job.task)
    (returned : x.outcome? = some outcome) (healthy : ∀ y ∈ x.past, y.isHealthy = true) :
    ∃ heir, c.HasSuccessor a.job.task heir := by
  have hr₁ : Reaches fleet insertsFirst start c₁ := hr.trans hu.run
  have hr' : Reaches fleet insertsFirst start c := hr₁.trans run
  have retried := (hu.retries (hr.sound hi) retries).2
  have repairs := hr₁.repairing hi hs retried run i x message hx late job healthy
  obtain ⟨heir, t, recorded, stored, left⟩ : ∃ heir t,
      c.shared.store.successors.get? a.job.task = some heir ∧
        c.shared.store.get? heir = some t ∧ t.status ≠ .creating := by
    obtain ⟨pod, job', past, rest⟩ := x
    obtain rfl : job' = .handle message a.job.task := job
    cases rest with
    | done value => exact repairs.secured rfl
    | call operation next => cases returned
  -- the task never waited for data since it was submitted, so only a promotion moved the successor
  have ready := (hr'.provisions hi hs hp).mono fun _ here => here.readyParent a.job.task
  have provided := ready.provides hi hs (hu.unborn retries hi hs hr) heir recorded
  exact ⟨heir, (hr'.successions hi hs).hasSuccessor (hr'.sound hi) provided recorded stored left⟩

/-- A handler that retries its task and returns before the succession has ended fails and has released
its message; and every handler of the task that begins after the retry, and to which nothing goes wrong,
leaves the task with exactly one successor, out of creation, that was pushed or is pushed next, but
for one: a push of the successor may have failed. The store may start with successors that are recorded
as they should be, and with tasks that wait for data as long as they are in creation. -/
theorem succession_recovers (hi : start.Initial) (hs : Successions start.shared.store)
    (hp : Provisions start.shared.store) (hr : Reaches fleet insertsFirst start c₀)
    (hu : Applies fleet c₀ number a expected change c₁) (retries : change.status = .retried)
    (run : Reaches fleet insertsFirst c₁ c) :
    (∀ x message outcome later updated, c.actors[number]? = some x →
      x.job = .handle message a.job.task → x.outcome? = some outcome →
      x.past = later ++ ⟨.agent (.updateTask a.job.task expected change), .ok updated⟩ :: a.past →
      (∀ y ∈ later, y.concludes = false) →
        (∃ cause, outcome = .error cause) ∧
          HasReleased fleet insertsFirst c₁ message a.job.task c) ∧
    ∀ i x message outcome, c.actors[i]? = some x → c₁.actors.length ≤ i →
      x.job = .handle message a.job.task → x.outcome? = some outcome →
      (∀ y ∈ x.past, y.isHealthy = true) → ∃ heir, c.HasSuccessor a.job.task heir := by
  constructor
  · intro x message outcome later updated hx job returned past going
    exact hu.released retries hi hr run hx job returned past going
  · intro i x message outcome hx late job returned healthy
    exact hu.succeeded retries hi hs hp hr run hx late job returned healthy

/-! Two interruptions. -/

/-- Surroundings in which the worker breaks down and calls are tried again. -/
def breakingOften : (operation : Operation) → Option operation.Reply
  | .agent (.pause _) => some ()
  | operation => breakingDown operation

/-- The same with the queue out of reach. -/
def queueDown : (operation : Operation) → Option operation.Reply
  | .agent (.push _) => some (.error (.unavailable "queue is down"))
  | operation => breakingOften operation

/-- A handler of a message about the small task begins, and is answered some of its calls. -/
def handlerEvents (message : DeliveryId) (number answers : Nat) : List Event :=
  [.move (.pull 1), .start ⟨"first"⟩ (.handle message plainTask.id)] ++
    List.replicate answers (.answer number breakingOften)

/-- The small cluster while the worker breaks down. -/
def brokenCluster (answers : Nat) : State :=
  (plainStart.play plainFleet (handlerEvents 1 0 answers)).getD plainStart

/-- The small cluster after a succession that was interrupted, and a second handler. -/
def recoveringCluster (interruption : List Event) (answers : Nat) : State :=
  ((brokenCluster 27).play plainFleet (interruption ++ handlerEvents 2 1 answers)).getD
    (brokenCluster 27)

/-- The store is out of reach when the successor is to be taken out of creation. -/
def storeFails : List Event :=
  List.replicate 4 (.answer 0 breakingOften) ++
    .move (.failStore 5) :: List.replicate 13 (.answer 0 breakingOften)

/-- The queue is out of reach when the successor is to be pushed. -/
def queueFails : List Event := List.replicate 18 (.answer 0 queueDown)

theorem handlerEvents_insertsFirst {message : DeliveryId} {number answers : Nat} :
    ∀ event ∈ handlerEvents message number answers, insertsFirst event := by
  intro event he
  rcases List.mem_append.mp he with he | he
  · simp only [List.mem_cons, List.not_mem_nil, or_false] at he
    rcases he with rfl | rfl <;> trivial
  · rw [List.eq_of_mem_replicate he]
    trivial

theorem brokenCluster_reached (answers : Nat) :
    Reaches plainFleet insertsFirst plainStart (brokenCluster answers) :=
  .of_played handlerEvents_insertsFirst

theorem recoveringCluster_reached {interruption : List Event} {answers : Nat}
    (permitted : ∀ event ∈ interruption, insertsFirst event) :
    Reaches plainFleet insertsFirst (brokenCluster 27) (recoveringCluster interruption answers) := by
  refine .of_played fun event he => ?_
  exact (List.mem_append.mp he).elim (permitted event) (handlerEvents_insertsFirst event)

/-- The handler of the small task whose worker broke down retries it. -/
theorem brokenCluster_applies : ∃ expected change,
    Applies plainFleet (brokenCluster 26) 0 (plainActor (brokenCluster 26) 0) expected change
      (brokenCluster 27) ∧ change.status = .retried :=
  ⟨_, _,
    ⟨rfl, ⟨breakingOften, rfl⟩, plainActor (brokenCluster 27) 0, _, rfl, rfl⟩, rfl⟩

/-- The small store holds no successor, and its task has its data. -/
theorem plainStart_successions :
    Successions plainStart.shared.store ∧ Provisions plainStart.shared.store := by
  refine ⟨⟨nofun, fun task t parent ht hl => ?_, nofun⟩, ⟨⟨fun task t ht hs => ?_, ?_⟩, nofun⟩⟩
  · obtain ⟨rfl, rfl⟩ := plainStart_stored ht
    cases hl
  · obtain ⟨rfl, rfl⟩ := plainStart_stored ht
    cases hs
  · intro task t ht _
    obtain ⟨rfl, rfl⟩ := plainStart_stored ht
    rfl

theorem storeFails_insertsFirst : ∀ event ∈ storeFails, insertsFirst event := by
  intro event he
  rcases List.mem_append.mp he with he | he
  · rw [List.eq_of_mem_replicate he]
    trivial
  · rcases List.mem_cons.mp he with rfl | he
    · trivial
    · rw [List.eq_of_mem_replicate he]
      trivial

/-- An actor of a small cluster is in its place. -/
theorem plainActor_getElem? {c : State} {number : Nat} (h : number < c.actors.length) :
    c.actors[number]? = some (plainActor c number) := by
  unfold plainActor
  rw [List.getD_eq_getElem?_getD, List.getElem?_eq_getElem h]
  rfl

/-- A succession that the store interrupts before the successor is out of creation is recovered: the
message is released, and its next handler takes the successor out of creation and pushes it. -/
theorem succession_recovers_storeFails :
    ∃ c₀ c₁ c a expected change heir, Reaches plainFleet insertsFirst plainStart c₀ ∧
      Applies plainFleet c₀ 0 a expected change c₁ ∧ change.status = .retried ∧
      Reaches plainFleet insertsFirst c₁ c ∧ HasReleased plainFleet insertsFirst c₁ 1 plainTask.id c ∧
      c.HasSuccessor plainTask.id heir ∧ c.HasPushed heir := by
  obtain ⟨expected, change, applies, retries⟩ := brokenCluster_applies
  have before := brokenCluster_reached 26
  have run : Reaches plainFleet insertsFirst (brokenCluster 27) (recoveringCluster storeFails 11) :=
    recoveringCluster_reached storeFails_insertsFirst
  obtain ⟨successions, provisions⟩ := plainStart_successions
  obtain ⟨released, succeeded⟩ := succession_recovers plainStart_initial successions provisions before
    applies retries run
  refine ⟨_, _, _, _, expected, change, .ofNat 2, before, applies, retries, run, ?_, ?_, ?_⟩
  · -- nothing that the first handler was answered concludes the succession
    obtain ⟨b, updated, hb, -, hpast, torn⟩ := applies.leavesTorn before plainStart_initial retries
    obtain ⟨x, later, hx, -, past, -⟩ :=
      (before.trans applies.run).leavesTorn plainStart_initial hb torn run
    have first : x = plainActor (recoveringCluster storeFails 11) 0 :=
      Option.some.inj (hx.symm.trans (plainActor_getElem? (by decide +kernel)))
    have going : (x.past.all fun y => !y.concludes) = true := by
      rw [first]
      decide +kernel
    have returned : x.outcome?.isSome = true := by
      rw [first]
      decide +kernel
    have job : x.job = .handle 1 plainTask.id := by
      rw [first]
      decide +kernel
    obtain ⟨outcome, hreport⟩ := Option.isSome_iff_exists.mp returned
    refine (released x 1 outcome later updated hx job hreport (hpast ▸ past) fun y hy => ?_).2
    exact (Bool.not_eq_true' _).mp
      (List.all_eq_true.mp going y (past ▸ List.mem_append_left _ hy))
  · have second : (recoveringCluster storeFails 11).actors[1]? =
        some (plainActor (recoveringCluster storeFails 11) 1) :=
      plainActor_getElem? (by decide +kernel)
    have late : (brokenCluster 27).actors.length ≤ 1 := by decide +kernel
    have job : (plainActor (recoveringCluster storeFails 11) 1).job = .handle 2 plainTask.id := by
      decide +kernel
    have returned : (plainActor (recoveringCluster storeFails 11) 1).outcome?.isSome = true := by
      decide +kernel
    have healthy : (plainActor (recoveringCluster storeFails 11) 1).past.all Answered.isHealthy =
        true := by decide +kernel
    obtain ⟨outcome, hreport⟩ := Option.isSome_iff_exists.mp returned
    obtain ⟨heir, succeeded⟩ := succeeded 1 _ 2 outcome second late job hreport
      (List.all_eq_true.mp healthy)
    have stored : (((recoveringCluster storeFails 11).shared.store.get? (.ofNat 2)).map
        fun t => t.ancestors.getLast?) = some (some plainTask.id) := by decide +kernel
    obtain ⟨t, ht, last⟩ := Option.map_eq_some_iff.mp stored
    obtain rfl := succeeded.single _ t ht last
    exact succeeded
  · show ∃ a ∈ (recoveringCluster storeFails 11).actors, ∃ x ∈ a.past, (.ofNat 2 : TaskId) ∈ x.pushed
    decide +kernel

theorem queueFails_insertsFirst : ∀ event ∈ queueFails, insertsFirst event := by
  intro event he
  rw [List.eq_of_mem_replicate he]
  trivial

/-- The push is never made up for: where the queue is out of reach when the successor is to be pushed,
the next handler rejects the message although nothing goes wrong, and everybody has returned. -/
theorem not_always_recovers :
    ∃ c₀ c₁ c a expected change x heir, Reaches plainFleet insertsFirst plainStart c₀ ∧
      Applies plainFleet c₀ 0 a expected change c₁ ∧ change.status = .retried ∧
      Reaches plainFleet insertsFirst c₁ c ∧ c.actors[1]? = some x ∧
      x.job = .handle 2 plainTask.id ∧ (∀ y ∈ x.past, y.isHealthy = true) ∧
      (∀ y ∈ c.actors, y.outcome?.isSome = true) ∧
      (c.shared.Has heir fun t =>
        t.ancestors.getLast? = some plainTask.id ∧ t.status = .submitted) ∧
      ¬ c.HasPushed heir ∧ c.shared.queue.ready = [] ∧ c.shared.queue.delayed = [] ∧
      c.shared.queue.deadLetters = [plainTask.id] := by
  obtain ⟨expected, change, applies, retries⟩ := brokenCluster_applies
  have run : Reaches plainFleet insertsFirst (brokenCluster 27) (recoveringCluster queueFails 8) :=
    recoveringCluster_reached queueFails_insertsFirst
  have second : (recoveringCluster queueFails 8).actors[1]? =
      some (plainActor (recoveringCluster queueFails 8) 1) :=
    plainActor_getElem? (by decide +kernel)
  have job : (plainActor (recoveringCluster queueFails 8) 1).job = .handle 2 plainTask.id := by
    decide +kernel
  have healthy : (plainActor (recoveringCluster queueFails 8) 1).past.all Answered.isHealthy =
      true := by decide +kernel
  have returned : ((recoveringCluster queueFails 8).actors.all fun y => y.outcome?.isSome) = true := by
    decide +kernel
  have stored : (((recoveringCluster queueFails 8).shared.store.get? (.ofNat 2)).map
      fun t => (t.ancestors.getLast?, t.status)) = some (some plainTask.id, .submitted) := by
    decide +kernel
  obtain ⟨t, ht, facts⟩ := Option.map_eq_some_iff.mp stored
  refine ⟨_, _, _, _, expected, change, _, .ofNat 2, brokenCluster_reached 26, applies, retries, run,
    second, job, List.all_eq_true.mp healthy, List.all_eq_true.mp returned, ⟨t, ht, ?_⟩, ?_, ?_, ?_, ?_⟩
  · exact Prod.mk.inj facts
  · show ¬ ∃ a ∈ (recoveringCluster queueFails 8).actors, ∃ x ∈ a.past,
      (.ofNat 2 : TaskId) ∈ x.pushed
    decide +kernel
  · decide +kernel
  · decide +kernel
  · decide +kernel

end GridAgent.Cluster
