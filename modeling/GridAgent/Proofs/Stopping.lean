import Mathlib.Algebra.GroupWithZero.Nat
import Mathlib.Algebra.Order.BigOperators.Group.List
import Mathlib.Algebra.Order.Group.Nat
import GridAgent.Proofs.Cluster.Stops
import GridAgent.Proofs.Simulation.Scripts

/-!
# Stopping is idempotent

Any number of calls stop one execution, beside its handler, other agents and administrators. Exactly
one of them is the first: it marks the task, cancels the execution and answers that it did, even if
the mark was lost. Every other call answers that it was not the first and leaves the store alone.
The call to the worker is cut off after that, or after the agent was shut down, and never before.
-/

namespace GridAgent.Cluster

open Agent Program Stopping

variable {fleet : Fleet} {allowed : Event → Prop} {start c c' : State} {pod : PodId} {run : RunId}
  {number : Nat} {a : Actor}

/-! One call. -/

/-- The call is over with an answer. Who watches lets the answer go, and looks no more. -/
def Actor.HasStopped (answer : Except AgentError Bool) : Actor → Prop
  | ⟨_, .stop .., _, .done value⟩ => value = answer
  | ⟨_, .watch .., _, .done again⟩ => again = false
  | _ => False

/-- Who watches is done for now, and will look again. -/
def Actor.LooksAgain : Actor → Prop
  | ⟨_, .watch .., _, .done again⟩ => again = true
  | _ => False

/-- How far a call is that stops an execution. -/
inductive Actor.Stops (run : RunId) (a : Actor) : Prop where
  /-- Who watches looks at the task first. -/
  | looks (past : a.past = []) (watches : a.job = .watch run a.job.task)
    (asks : a.Asks (.agent (.readTask a.job.task)))
  /-- Who watches has found nothing. -/
  | again (reply : Except StoreError (Option TaskRecord)) (watches : a.job = .watch run a.job.task)
    (past : a.past = [.lookedAt a.job.task reply]) (finished : a.LooksAgain)
  /-- It asks next whether it is the first. -/
  | asks (looked : a.job.HasLooked a.past) (asks : a.Asks (.agent (.requestStop run)))
  /-- It was not the first, and that was its answer. -/
  | later (looks : List Answered) (looked : a.job.HasLooked looks)
    (past : a.past = .stopAsked run true :: looks) (finished : a.HasStopped (.ok false))
  /-- It is the first, and marks the task next. -/
  | marks (looks : List Answered) (looked : a.job.HasLooked looks)
    (past : a.past = .stopAsked run false :: looks)
    (asks : a.Asks (.agent (.updateTask a.job.task (heldBy a.pod) { status := .cancelling })))
  /-- Its mark was answered, and it cancels the execution next. -/
  | cancels (looks : List Answered) (looked : a.job.HasLooked looks)
    (reply : Except StoreError TaskRecord)
    (past : a.past = .markAsked a.pod a.job.task reply :: .stopAsked run false :: looks)
    (asks : a.Asks (.agent (.cancel run)))
  /-- It has done both, and its answer is as the mark allows. -/
  | first (looks : List Answered) (looked : a.job.HasLooked looks)
    (reply : Except StoreError TaskRecord)
    (past : a.past =
      .cancelled run :: .markAsked a.pod a.job.task reply :: .stopAsked run false :: looks)
    (finished : a.HasStopped (verdict reply))

/-- A call that is over is the first one or a later one. -/
theorem Actor.stops_of_over {past : List Answered} {answer : Except AgentError Bool}
    (h : Stopping.Over a.pod a.job run past answer) (hp : a.past = past)
    (finished : a.HasStopped answer) : a.Stops run := by
  cases h with
  | later looks looked => exact .later looks looked hp finished
  | first looks looked reply => exact .first looks looked reply hp finished

/-- In every reached cluster a call that stops an execution goes from one to the next. -/
theorem Reaches.stops_as (hr : Reaches fleet allowed start c) (hi : start.Initial)
    (ha : a ∈ c.actors) (stops : a.job.stops? = some run) : a.Stops run := by
  have follows := hr.stoppings hi a ha
  obtain ⟨pod, job, past, rest⟩ := a
  cases rest with
  | done value =>
    cases job with
    | stop other task =>
      cases stops
      exact Actor.stops_of_over follows rfl rfl
    | watch other task =>
      cases stops
      rcases follows with ⟨again, reply, looked⟩ | ⟨ended, answer, finished⟩
      · exact .again reply rfl looked again
      · exact Actor.stops_of_over finished rfl ended
    | _ => cases stops
  | call operation next =>
    have may : May pod job run past operation := follows.1 run stops
    rcases operation with request | request
    · cases request with
      | readTask task =>
        obtain ⟨past, rfl⟩ := may
        cases stops
        exact .looks past rfl ⟨next, rfl⟩
      | requestStop other =>
        obtain ⟨looked, rfl⟩ := may
        exact .asks looked ⟨next, rfl⟩
      | updateTask task expected change =>
        obtain ⟨⟨looks, looked, past⟩, rfl, rfl, rfl⟩ := may
        exact .marks looks looked past ⟨next, rfl⟩
      | cancel other =>
        obtain ⟨⟨looks, reply, looked, past⟩, rfl⟩ := may
        exact .cancels looks looked reply past ⟨next, rfl⟩
      | _ => cases may
    · cases may

theorem Actor.HasStopped.not_asks {answer : Except AgentError Bool} (h : a.HasStopped answer)
    {operation : Operation} (asks : a.Asks operation) : False := by
  obtain ⟨pod, job, past, rest⟩ := a
  cases rest with
  | done value =>
    obtain ⟨next, hn⟩ := asks
    cases hn
  | call other next => cases job <;> exact h

/-- A call fails because its mark does, and not for a conflict. -/
theorem Actor.Stops.fails {task : TaskId} {cause : AgentError} (h : a.Stops run)
    (stop : a.job = .stop run task) (finished : a.HasStopped (.error cause)) :
    ∃ failure, cause = .store failure ∧ ∀ lost, failure ≠ .conflict lost := by
  have same {answer : Except AgentError Bool} (ended : a.HasStopped answer) :
      answer = .error cause := by
    obtain ⟨pod, job, past, rest⟩ := a
    cases stop
    cases rest with
    | done value => exact ended.symm.trans finished
    | call operation next => cases finished
  cases h with
  | looks past watches asks => exact absurd asks finished.not_asks
  | again reply watches => cases stop.symm.trans watches
  | asks looked asks => exact absurd asks finished.not_asks
  | later looks looked past ended => cases same ended
  | marks looks looked past asks => exact absurd asks finished.not_asks
  | cancels looks looked reply past asks => exact absurd asks finished.not_asks
  | first looks looked reply past ended =>
    have told := same ended
    rcases reply with (missing | lost | reason) | record
    · cases told
      exact ⟨_, rfl, nofun⟩
    · cases told
    · cases told
      exact ⟨_, rfl, nofun⟩
    · cases told

/-! All calls together. -/

/-- How often an actor was answered a call of a kind. -/
def Actor.answers (kind : Answered → Bool) (a : Actor) : Nat := a.past.countP kind

/-- How often those who stop an execution were answered a call of a kind. -/
def State.stopAnswers (c : State) (pod : PodId) (run : RunId) (kind : Answered → Bool) : Nat :=
  ((c.actors.filter (Actor.isStopOf pod run)).map (Actor.answers kind)).sum

/-- What only one of several does, and that one once, is done once at most. -/
theorem sum_le_countP {α : Type} (f : α → Nat) (p : α → Bool) (l : List α)
    (h : ∀ x ∈ l, f x ≤ if p x then 1 else 0) : (l.map f).sum ≤ l.countP p := by
  induction l with
  | nil => exact Nat.le_refl 0
  | cons x l ih =>
    rw [List.map_cons, List.sum_cons, List.countP_cons, Nat.add_comm]
    exact Nat.add_le_add (ih fun y hy => h y (List.mem_cons_of_mem _ hy)) (h x List.mem_cons_self)

/-- Looks are no marks, no cancellations, and do not ask for a stop. -/
theorem Job.HasLooked.countP {job : Job} {past : List Answered} (h : job.HasLooked past)
    (kind : Answered → Bool) (none : ∀ task reply, kind (.lookedAt task reply) = false) :
    past.countP kind = 0 := by
  cases job with
  | stop run task =>
    obtain rfl : past = [] := h
    rfl
  | watch run task =>
    obtain ⟨t, -, rfl⟩ := h
    rw [List.countP_singleton, none]
    rfl
  | _ => cases h

/-- Only the first call is answered a mark or a cancellation, and each of them once at most. -/
theorem Actor.Stops.answers_le (h : a.Stops run) (stops : a.isStopOf pod run = true)
    {kind : Answered → Bool} (hk : kind = Answered.isMark ∨ kind = Answered.isCancel) :
    a.answers kind ≤ if a.isFirstOf pod run then 1 else 0 := by
  have looks (task : TaskId) (reply : Except StoreError (Option TaskRecord)) :
      kind (.lookedAt task reply) = false := by
    rcases hk with rfl | rfl <;> rfl
  have asked (before : Bool) : kind (.stopAsked run before) = false := by
    rcases hk with rfl | rfl <;> rfl
  have isFirst {past : List Answered} (more : List Answered)
      (hp : a.past = more ++ .stopAsked run false :: past)
      (none : more.findSome? Answered.before? = none) : a.isFirstOf pod run = true := by
    have first : a.before? = some false := by
      rw [Actor.before?, hp, List.findSome?_append, none]
      rfl
    rw [Actor.isFirstOf, stops, first]
    rfl
  unfold Actor.answers
  cases h with
  | looks past =>
    rw [past]
    exact Nat.zero_le _
  | again reply watches past =>
    rw [past, List.countP_singleton, looks]
    exact Nat.zero_le _
  | asks looked =>
    rw [looked.countP kind looks]
    exact Nat.zero_le _
  | later before looked past =>
    rw [past, List.countP_cons, asked, looked.countP kind looks]
    exact Nat.zero_le _
  | marks before looked past =>
    rw [past, List.countP_cons, asked, looked.countP kind looks]
    exact Nat.zero_le _
  | cancels before looked reply past =>
    rw [isFirst [.markAsked a.pod a.job.task reply] past rfl]
    rw [past, List.countP_cons, List.countP_cons, asked, looked.countP kind looks]
    rcases hk with rfl | rfl
    · exact Nat.le_refl 1
    · exact Nat.zero_le 1
  | first before looked reply past =>
    rw [isFirst [.cancelled run, .markAsked a.pod a.job.task reply] past rfl]
    rw [past, List.countP_cons, List.countP_cons, List.countP_cons, asked,
      looked.countP kind looks]
    rcases hk with rfl | rfl <;> exact Nat.le_refl 1

/-- The calls that stop an execution go their ways, and one of them is the first. -/
structure StopsOnce (c : State) (pod : PodId) (run : RunId) : Prop where
  /-- Each of them goes from one answer to the next. -/
  each : ∀ a ∈ c.actors, a.isStopOf pod run = true → a.Stops run
  /-- Once one of them was answered whether it is the first, exactly one of them is. -/
  one : (∃ a ∈ c.actors, a.isStopOf pod run = true ∧ a.before? ≠ none) →
    c.actors.countP (Actor.isFirstOf pod run) = 1
  /-- None of them fails because its mark is lost. -/
  fails : ∀ a ∈ c.actors, a.pod = pod → ∀ task, a.job = .stop run task → ∀ cause,
    a.HasStopped (.error cause) →
      ∃ failure, cause = .store failure ∧ ∀ lost, failure ≠ .conflict lost
  /-- All of them together are answered one mark. -/
  marks : c.stopAnswers pod run Answered.isMark ≤ 1
  /-- All of them together are answered one cancellation. -/
  cancels : c.stopAnswers pod run Answered.isCancel ≤ 1

/-- In every reached cluster an execution is stopped once. -/
theorem Reaches.stops_once (hr : Reaches fleet allowed start c) (hi : start.Initial) (pod : PodId)
    (run : RunId) : StopsOnce c pod run := by
  have stoppable := hr.stoppable hi
  have each : ∀ a ∈ c.actors, a.isStopOf pod run = true → a.Stops run := by
    intro a ha stops
    simp only [Actor.isStopOf, Bool.and_eq_true, decide_eq_true_eq] at stops
    exact hr.stops_as hi ha stops.2
  have flag (kind : Answered → Bool) (hk : kind = Answered.isMark ∨ kind = Answered.isCancel) :
      c.stopAnswers pod run kind ≤ 1 := by
    calc c.stopAnswers pod run kind
      _ ≤ (c.actors.filter (Actor.isStopOf pod run)).countP (Actor.isFirstOf pod run) := by
        refine sum_le_countP _ _ _ fun a ha => ?_
        obtain ⟨ha, stops⟩ := List.mem_filter.mp ha
        exact (each a ha stops).answers_le stops hk
      _ ≤ c.actors.countP (Actor.isFirstOf pod run) := List.filter_sublist.countP_le
      _ ≤ 1 := by
        rw [stoppable.first pod run]
        split <;> decide
  refine ⟨each, ?_, fun a ha _ task hj cause finished => ?_, flag _ (.inl rfl), flag _ (.inr rfl)⟩
  rotate_left
  · exact (hr.stops_as hi ha (congrArg Job.stops? hj)).fails hj finished
  rintro ⟨a, ha, stops, asked⟩
  simp only [Actor.isStopOf, Bool.and_eq_true, decide_eq_true_eq] at stops
  obtain ⟨rfl, stops⟩ := stops
  rw [stoppable.first, stoppable.flagged a ha run stops asked]
  rfl

/-! The store. -/

/-- What an answer to a call that stops an execution does to the store. -/
inductive StopEffect (c : State) (number : Nat) (a : Actor) (c' : State) : Prop where
  /-- Nothing, except that a failure that was ahead is over. -/
  | none (same : Store.SameContent c.shared.store c'.shared.store)
  /-- The first call marks the task, which this pod holds. -/
  | marked (record : TaskRecord) (found : c.shared.store.get? a.job.task = some record)
    (held : record.status = .dispatched ∨ record.status = .processing)
    (owned : record.owner = some a.pod) (first : a.before? = some false)
    (answered : ∃ b, c'.actors[number]? = some b ∧ b.past =
      .markAsked a.pod a.job.task (.ok (record.apply { status := .cancelling })) :: a.past)
    (written : c'.shared.store = { c.shared.store with
      tasks := c.shared.store.tasks.set a.job.task (record.apply { status := .cancelling })
      log := c.shared.store.log ++ [(a.job.task, .cancelling)] })

/-- Only the first call changes the store, and only if its task is held by the pod. -/
theorem Reaches.stopEffect (hr : Reaches fleet allowed start c) (hi : start.Initial)
    (ha : c.actors[number]? = some a) (stops : a.job.stops? = some run)
    {choice : (operation : Operation) → Option operation.Reply}
    (hp : c.perform fleet (.answer number choice) = some c') : StopEffect c number a c' := by
  obtain ⟨x, b, operation, reply, answers, -⟩ := (hr.sound hi).answers hp
  obtain rfl := Option.some.inj (ha.symm.trans answers.actor)
  have may := hr.may_stop hi answers stops
  have effect := answers.effect
  generalize hs : c'.shared = s' at effect
  cases effect with
  | silent silent alike =>
    obtain ⟨failures, scratches, rfl⟩ := alike
    exact .none (hs ▸ ⟨failures, rfl⟩)
  | read task => exact .none (hs ▸ .refl _)
  | lost task expected change record found unexpected => exact .none (hs ▸ .refl _)
  | written task expected change record found holds =>
    obtain ⟨⟨looks, looked, past⟩, rfl, rfl, rfl⟩ := may
    have owned := Expectation.owner_of_holds holds rfl
    refine .marked record found ?_ owned ?_ ⟨b, answers.self, ?_⟩ ?_
    · simpa [heldBy, Expectation.ownedBy, Expectation.anyOf] using Expectation.status_mem holds
    · rw [Actor.before?, past]
      rfl
    · exact answers.past
    · rw [hs]
  | stopAsked other => exact .none (hs ▸ .refl _)
  | _ => cases may

end GridAgent.Cluster

namespace GridAgent.Simulation

/-- The call of an execution to the worker is cut off only after the execution was cancelled, by its
own token or by one above it, which shuts the agent down. -/
def World.CutsOffLast (w : World) : Prop :=
  ∀ key tokens, w.executionTokens.get? key = some tokens →
    w.tokens.chain tokens.abort = [tokens.abort] ∧
      ∀ later earlier, w.tokens.fired = later ++ tokens.abort :: earlier →
        ∃ above ∈ w.tokens.chain tokens.cancel, above ∈ earlier

/-- In a world that is wired well calls are cut off last. -/
theorem Wired.cutsOffLast (s : Wired) : s.world.CutsOffLast := by
  intro key tokens found
  obtain ⟨-, -, guards⟩ := s.sound.executions key tokens found
  refine ⟨(s.sound.guarded _ _ guards).2.2, fun later earlier split => ?_⟩
  obtain ⟨above, ha, fired⟩ := List.any_eq_true.mp (s.sound.first _ _ guards later earlier split)
  exact ⟨above, ha, List.contains_iff_mem.mp fired⟩

end GridAgent.Simulation

namespace GridAgent.Cluster

open Agent

/-- However the calls that stop an execution come between each other, the handler, other agents and
administrators, one of them is the first: it asks for the mark, and cancels the execution, once.
The others leave the store alone and answer that they were not the first. The store changes only by
the mark, of a record that the pod holds, and no lost mark is a failure. And in whatever order the
threads of an agent run, the call to the worker is cut off only after the execution was cancelled
or the agent shut down. -/
theorem stopping_idempotent (fleet : Fleet) {start c : State} (hi : start.Initial)
    (hr : Reaches fleet anyEvent start c) (pod : PodId) (run : RunId) :
    StopsOnce c pod run ∧
    (∀ (number : Nat) (a : Actor) (choice : (operation : Operation) → Option operation.Reply)
      (c' : State), c.actors[number]? = some a → a.isStopOf pod run = true →
        c.perform fleet (.answer number choice) = some c' → StopEffect c number a c') ∧
    ∀ (setup : Simulation.Setup) (steps : List Simulation.Step) (w : Simulation.World)
      (threads : List (Simulation.Thread Simulation.World)),
      Simulation.Comes setup.world (Simulation.playScenario steps {} fun _ => .ended) w threads →
        w.CutsOffLast := by
  refine ⟨hr.stops_once hi pod run, fun number a choice c' ha stops performed => ?_,
    fun setup steps w threads comes => ?_⟩
  · simp only [Actor.isStopOf, Bool.and_eq_true, decide_eq_true_eq] at stops
    exact hr.stopEffect hi ha stops.2 performed
  · obtain ⟨s, rfl⟩ := Simulation.wired_of_comes comes
    exact s.cutsOffLast

/-! A small cluster in which an execution is stopped twice, and a worker that hangs. -/

/-- The worker is being called when two calls to stop the execution begin. The second one is
answered before the first one has marked the task. -/
def stoppingEvents : List Event :=
  plainEvents 20 ++
    [.start ⟨"first"⟩ (.stop 0 plainTask.id), .start ⟨"first"⟩ (.stop 0 plainTask.id),
      .answer 1 (plainly morning), .answer 2 (plainly morning), .answer 1 (plainly morning),
      .answer 1 (plainly morning)]

def stoppedCluster : State :=
  (plainStart.play plainFleet stoppingEvents).getD plainStart

/-- The worker never replies. -/
def hangingSetup : Simulation.Setup where
  settings := plainFleet.settings ⟨"first"⟩
  clock := morning
  workerClock := morning
  behaviour := .hang
  pollTimeout := 1
  redeliveryDelay := 1

/-- An execution is stopped five milliseconds after its message was delivered. -/
def stoppingSteps : List Simulation.Step :=
  [.plain (.session (.running (.ofNat 1))), .plain (.put (.ofNat 100) []),
    .plain (.task { id := .ofNat 1 }),
    .handle (.ofNat 1) false (some [(5, [.stop (.ofNat 1) .single])])]

theorem stopping_idempotent_twice :
    plainStart.Initial ∧ Reaches plainFleet anyEvent plainStart stoppedCluster ∧
    StopsOnce stoppedCluster ⟨"first"⟩ 0 ∧
    stoppedCluster.actors.map (Actor.isFirstOf ⟨"first"⟩ 0) = [false, true, false] ∧
    stoppedCluster.shared.store.log.map Prod.snd =
      [.submitted, .dispatched, .processing, .cancelling] ∧
    (Simulation.finalWorld hangingSetup stoppingSteps).CutsOffLast ∧
    (Simulation.finalWorld hangingSetup stoppingSteps).tokens.fired = [4, 3, 2] ∧
    ((Simulation.finalWorld hangingSetup stoppingSteps).executionTokens.values.map fun tokens =>
      (tokens.cancel, tokens.abort, tokens.done)) = [(2, 3, 4)] := by
  have run : Reaches plainFleet anyEvent plainStart stoppedCluster := .of_played fun _ _ => trivial
  obtain ⟨once, -, last⟩ := stopping_idempotent plainFleet plainStart_initial run ⟨"first"⟩ 0
  obtain ⟨threads, comes⟩ := Simulation.comes_runThreads Simulation.World.isOver hangingSetup.world
    (Simulation.playScenario stoppingSteps {} fun _ => .ended)
  exact ⟨plainStart_initial, run, once, by decide +kernel, by decide +kernel,
    last hangingSetup stoppingSteps _ threads comes, by decide +kernel, by decide +kernel⟩

end GridAgent.Cluster
