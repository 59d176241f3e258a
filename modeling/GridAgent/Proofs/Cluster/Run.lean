import GridAgent.Proofs.Cluster.Operation
import GridAgent.Proofs.Store.Visits
import GridAgent.Queue

/-!
# Runs of a cluster

Any number of agents share one store and one queue. A run is any sequence of events: an actor is
answered its next call, a job begins, or something happens outside the agents. The store, the queue
and the registries answer as they stand; clocks, checkers, workers, sessions and objects answer
anything, and new identifiers are new. Those who wait for data that is settled are visited in any
order. Outside the agents messages are pulled and handed back, time passes, clients insert tasks and
settle data, and an administrator marks held tasks for cancellation.
-/

namespace GridAgent.Cluster

/-- What the agents share, and what each pod has of its own. -/
structure Shared where
  /-- The store. -/
  store : Store := {}
  /-- The queue. -/
  queue : Queue := {}
  /-- Moment on the timer of the queue. -/
  time : Nat := 0
  /-- The executions of each pod. -/
  registries : PodId → Agent.Registry := fun _ => {}
  /-- The scratch area of each pod. -/
  scratches : PodId → Scratch := fun _ => {}
  /-- Identifiers made up so far. -/
  issued : List TaskId := []

namespace Shared

/-- Nothing is stored under the identifier, and it has not been made up before. -/
def isNew (s : Shared) (task : TaskId) : Bool :=
  !s.store.tasks.contains task && !s.issued.contains task

/-- A call to the store. -/
def onStore {α : Type} (s : Shared) (call : Store.Call α) : Except StoreError α × Shared :=
  ((call s.store).1, { s with store := (call s.store).2 })

/-- Changes the executions of a pod. -/
def setRegistry (s : Shared) (pod : PodId) (registry : Agent.Registry) : Shared :=
  { s with registries := fun p => if p = pod then registry else s.registries p }

/-- Changes the scratch area of a pod. -/
def setScratch (s : Shared) (pod : PodId) (scratch : Scratch) : Shared :=
  { s with scratches := fun p => if p = pod then scratch else s.scratches p }

/-- A push, unless it is chosen to fail. -/
def push (s : Shared) (tasks : List TaskId) :
    Option (Except QueueError Unit) → Except QueueError Unit × Shared
  | some (.error cause) => (.error cause, s)
  | _ => (.ok (), { s with queue := s.queue.push tasks })

/-- Work on the scratch area, unless it is chosen to fail. -/
def onScratch (s : Shared) (pod : PodId)
    (work : Scratch → Except StorageError Unit × Scratch) :
    Option (Except StorageError Unit) → Except StorageError Unit × Shared
  | some (.error cause) => (.error cause, s)
  | _ => ((work (s.scratches pod)).1, s.setScratch pod (work (s.scratches pod)).2)

/-- The answer to a call of an agent. Where the surroundings are free to answer they answer as
chosen. -/
def answerAgent (s : Shared) (pod : PodId) : (request : Agent.Request) →
    Option request.Reply → Option (request.Reply × Shared)
  | .newTaskId, choice => choice.bind fun task =>
    if s.isNew task then some (task, { s with issued := task :: s.issued }) else none
  | .readTask task, _ => some (s.onStore (Store.read task))
  | .updateTask task expected change, _ => some (s.onStore (Store.update task expected change))
  | .createSuccessor parent candidate, _ =>
    some (s.onStore (Store.createSuccessor parent candidate))
  | .findSuccessor task, _ => some (s.onStore (Store.findSuccessor task))
  | .push tasks, choice => some (s.push tasks choice)
  | .makeScratch task, choice => some (s.onScratch pod (fun d => d.make task) choice)
  | .saveScratch task data bytes, choice =>
    some (s.onScratch pod (fun d => d.save task data bytes) choice)
  | .clearScratch task, _ => some ((), s.setScratch pod ((s.scratches pod).clear task))
  | .register task, _ =>
    some (((s.registries pod).register task).1,
      s.setRegistry pod ((s.registries pod).register task).2)
  | .unregister run, _ => some ((), s.setRegistry pod ((s.registries pod).unregister run))
  | .stopRequested run, _ => some ((s.registries pod).stopRequested run, s)
  | .requestStop run, _ =>
    some (((s.registries pod).requestStop run).1,
      s.setRegistry pod ((s.registries pod).requestStop run).2)
  | .dispose message disposition, _ =>
    some ((s.queue.dispose message disposition).1,
      { s with queue := (s.queue.dispose message disposition).2 })
  | .settle message, _ => some (.ok (), { s with queue := s.queue.settle message s.time })
  | .finalize _, _ => none
  | .abandon _, _ => none
  | _, choice => choice.map fun reply => (reply, s)

/-- Data becomes available, and those who wait for it are visited in an order. -/
def resolve (s : Shared) (visit : Visit) (data : DataId) (now : Date) : List TaskId × Shared :=
  ((s.store.resolveDataIn visit data now).1,
    { s with store := (s.store.resolveDataIn visit data now).2 })

/-- Data is given up, and those who wait for it are visited in an order. -/
def giveUp (s : Shared) (visit : Visit) (data : DataId) (now : Date) : List TaskId × Shared :=
  ((s.store.abortDataIn visit data now).1,
    { s with store := (s.store.abortDataIn visit data now).2 })

/-- The answer to a call of a finalizer. Counting may come late and find more tasks. Where data is
settled the order is chosen in which those who wait for it are visited, and the answer follows. -/
def answerFinalizer (s : Shared) : (request : Finalizer.Request) →
    Option request.Reply → Option (request.Reply × Shared)
  | .now, choice => choice.map fun date => (date, s)
  | .countTasks, choice => choice.bind fun (count : Nat) =>
    if s.store.taskIds.length ≤ count then some (count, s) else none
  | .readTask task, _ => some (s.onStore (Store.read task))
  | .resolve data now, choice => some (s.resolve (.choosing (choice.getD [])) data now)
  | .giveUp data now, choice => some (s.giveUp (.choosing (choice.getD [])) data now)
  | .push tasks, choice => some (s.push tasks choice)

/-- No order is left out: the visits can be chosen as they like. -/
theorem answerFinalizer_resolve (s : Shared) (visit : Visit) (data : DataId) (now : Date) :
    s.answerFinalizer (.resolve data now)
      (some (visit.order (s.store.dependencies.waitingFor data))) =
      some (s.resolve visit data now) := by
  show some (s.resolve (.choosing (visit.order (s.store.dependencies.waitingFor data))) data now) = _
  unfold resolve
  rw [Store.resolveDataIn_congr (visit.order_choosing _)]

theorem answerFinalizer_giveUp (s : Shared) (visit : Visit) (data : DataId) (now : Date) :
    s.answerFinalizer (.giveUp data now)
      (some (visit.order (s.store.dependencies.waitingFor data))) =
      some (s.giveUp visit data now) := by
  show some (s.giveUp (.choosing (visit.order (s.store.dependencies.waitingFor data))) data now) = _
  unfold giveUp
  rw [Store.abortDataIn_congr (visit.order_choosing _)]

/-- The answer to a call that is made on a pod, and what is shared after it. -/
def answer (s : Shared) (pod : PodId) : (operation : Operation) →
    Option operation.Reply → Option (operation.Reply × Shared)
  | .agent request, choice => s.answerAgent pod request choice
  | .finalizer request, choice => s.answerFinalizer request choice

end Shared

/-- What happens outside the agents. -/
inductive Move where
  /-- An agent pulls messages. -/
  | pull (most : Nat)
  /-- The queue hands a message about a task to an agent. -/
  | deliver (task : TaskId)
  /-- Time passes, and messages whose delay is over become visible. -/
  | elapse (millis : Nat)
  /-- A client pushes tasks. -/
  | push (tasks : List TaskId)
  /-- An administrator marks a held task for cancellation. -/
  | cancel (task : TaskId) (expected : Expectation)
  /-- A client inserts a new task. -/
  | insert (record : TaskRecord)
  /-- A client produces data, and those who wait for it are visited in an order. -/
  | resolve (visit : Visit) (data : DataId) (now : Date)
  /-- A client gives data up, and those who wait for it are visited in an order. -/
  | giveUp (visit : Visit) (data : DataId) (now : Date)
  /-- The next calls to the store fail. -/
  | failStore (calls : Nat)
  /-- The next pulls fail. -/
  | failPulls (pulls : Nat)

/-- Statuses in which an administrator may mark a task for cancellation. -/
def heldStatuses : List TaskStatus := [.dispatched, .processing]

/-- Statuses that a client may give a new task. -/
def newStatuses : List TaskStatus := [.creating, .pending, .submitted]

/-- What is shared after a move. -/
def Shared.move (s : Shared) : Move → Option Shared
  | .pull most => some { s with queue := (s.queue.take most).2 }
  | .deliver task => some { s with queue := (s.queue.deliver task).2 }
  | .elapse millis =>
    some { s with time := s.time + millis, queue := s.queue.arrive (s.time + millis) }
  | .push tasks => some { s with queue := s.queue.push tasks }
  | .cancel task expected =>
    if expected.statuses ⊆ heldStatuses then
      some (s.onStore (Store.update task expected { status := .cancelling })).2
    else none
  | .insert record =>
    if s.isNew record.id ∧ record.status ∈ newStatuses then
      some { s with store := s.store.insert record }
    else none
  | .resolve visit data now => some (s.resolve visit data now).2
  | .giveUp visit data now => some (s.giveUp visit data now).2
  | .failStore calls => some { s with store := { s.store with failures := calls } }
  | .failPulls pulls => some { s with queue := { s.queue with failures := pulls } }

/-- The agents of a cluster: one for each pod. -/
structure Fleet where
  /-- The settings of the agent on a pod. -/
  settings : PodId → Settings
  /-- Agents know their pods. -/
  podId_settings : ∀ pod, (settings pod).podId = pod

/-- A cluster at a moment. -/
structure State where
  /-- What the agents share. -/
  shared : Shared
  /-- Every job so far, in order of beginning. -/
  actors : List Actor := []

namespace State

/-- The message has been given to a handler. -/
def isHandled (c : State) (message : DeliveryId) : Bool :=
  c.actors.any fun a => a.job.message? = some message

/-- A job can begin: a handler on a message that nobody handles, a stop on an execution. -/
def canStart (c : State) (pod : PodId) : Job → Bool
  | .handle message task =>
    (c.shared.queue.held? message).map Delivery.task = some task && !c.isHandled message
  | .acquire _ => true
  | .stop run task => (c.shared.registries pod).taskOf? run = some task
  | .watch run task => (c.shared.registries pod).taskOf? run = some task

end State

/-- What happens next. -/
inductive Event where
  /-- A job begins on a pod. -/
  | start (pod : PodId) (job : Job)
  /-- The actor of a number is answered its next call. -/
  | answer (number : Nat) (choice : (operation : Operation) → Option operation.Reply)
  /-- An agent hands a message back that it has not begun to handle. -/
  | handBack (message : DeliveryId)
  /-- Something happens outside the agents. -/
  | move (move : Move)

namespace State

/-- The actor of a number is answered its next call. -/
def answer (c : State) (number : Nat)
    (choice : (operation : Operation) → Option operation.Reply) : Option State :=
  c.actors[number]?.bind fun a =>
    match a.rest with
    | .done _ => none
    | .call operation next =>
      (c.shared.answer a.pod operation (choice operation)).map fun (reply, shared) =>
        ⟨shared, c.actors.set number (a.advance operation reply (next reply))⟩

/-- The cluster after an event; none where the event cannot happen. -/
def perform (fleet : Fleet) (c : State) : Event → Option State
  | .start pod job =>
    if c.canStart pod job then
      some { c with actors := c.actors ++ [Actor.start (fleet.settings pod) job] }
    else none
  | .answer number choice => c.answer number choice
  | .handBack message =>
    if c.isHandled message then none
    else
      let queue := c.shared.queue.settle message c.shared.time
      some { c with shared := { c.shared with queue } }
  | .move move => (c.shared.move move).map fun shared => { c with shared }

/-- The cluster after several events. -/
def play (fleet : Fleet) (c : State) : List Event → Option State
  | [] => some c
  | event :: events => (c.perform fleet event).bind fun c => c.play fleet events

/-- Agents have not begun: nothing is executing or decided. Records are stored under their own
identifiers, and deliveries are numbered from one. -/
structure Initial (c : State) : Prop where
  /-- No job has begun. -/
  actors : c.actors = []
  /-- Nothing is executing. -/
  registries : ∀ pod, c.shared.registries pod = {}
  /-- Records are stored under their own identifiers. -/
  keyed : ∀ task record, c.shared.store.get? task = some record → record.id = task
  /-- Nothing is decided on a message. -/
  undecided : ∀ message delivery, c.shared.queue.held? message = some delivery →
    delivery.decided = none
  /-- Deliveries are numbered from one. -/
  numbered : ∀ message delivery, c.shared.queue.held? message = some delivery →
    message ≤ c.shared.queue.delivered

end State

variable {fleet : Fleet} {allowed : Event → Prop} {start c c' : State}

/-- The cluster comes to a state by events of an allowed kind. -/
inductive Reaches (fleet : Fleet) (allowed : Event → Prop) (start : State) : State → Prop where
  /-- Nothing has happened. -/
  | refl : Reaches fleet allowed start start
  /-- One more event. -/
  | step {c c' : State} (event : Event) (before : Reaches fleet allowed start c)
    (permitted : allowed event) (performed : c.perform fleet event = some c') :
    Reaches fleet allowed start c'

/-- Every event is allowed. -/
def anyEvent : Event → Prop := fun _ => True

/-- What holds at the start and is kept by every allowed event in a reached state holds in every
reached state. -/
theorem Reaches.invariant {inv : State → Prop} (hr : Reaches fleet allowed start c)
    (h₀ : inv start)
    (hs : ∀ c c' event, Reaches fleet allowed start c → inv c → allowed event →
      c.perform fleet event = some c' → inv c') :
    inv c := by
  induction hr with
  | refl => exact h₀
  | step event before permitted performed ih => exact hs _ _ event before ih permitted performed

/-- Runs of allowed events can be put one after another. -/
theorem Reaches.trans {c'' : State} (h : Reaches fleet allowed start c)
    (h' : Reaches fleet allowed c c'') : Reaches fleet allowed start c'' :=
  h'.invariant h fun _ _ event _ hc ha hp => .step event hc ha hp

/-- A run of events of one kind is a run of events of any wider kind. -/
theorem Reaches.mono {wider : Event → Prop} (hr : Reaches fleet allowed start c)
    (h : ∀ event, allowed event → wider event) : Reaches fleet wider start c := by
  induction hr with
  | refl => exact .refl
  | step event before permitted performed ih => exact .step event ih (h event permitted) performed

/-- The cluster comes to a state by events of an allowed kind, and every state from the first to the
last is as described. -/
inductive Passes (fleet : Fleet) (allowed : Event → Prop) (P : State → Prop) (start : State) :
    State → Prop where
  /-- Nothing has happened. -/
  | refl (here : P start) : Passes fleet allowed P start start
  /-- One more event. -/
  | step {c c' : State} (event : Event) (before : Passes fleet allowed P start c)
    (permitted : allowed event) (performed : c.perform fleet event = some c') (here : P c') :
    Passes fleet allowed P start c'

section
variable {P Q : State → Prop}

theorem Passes.reaches (h : Passes fleet allowed P start c) : Reaches fleet allowed start c := by
  induction h with
  | refl => exact .refl
  | step event _ permitted performed _ ih => exact .step event ih permitted performed

/-- The first state is as described. -/
theorem Passes.first (h : Passes fleet allowed P start c) : P start := by
  induction h with
  | refl here => exact here
  | step _ _ _ _ _ ih => exact ih

/-- The last state is as described. -/
theorem Passes.here (h : Passes fleet allowed P start c) : P c := by
  cases h with
  | refl here => exact here
  | step _ _ _ _ here => exact here

theorem Passes.mono (h : Passes fleet allowed P start c) (hPQ : ∀ d, P d → Q d) :
    Passes fleet allowed Q start c := by
  induction h with
  | refl here => exact .refl (hPQ _ here)
  | step event _ permitted performed here ih =>
    exact .step event ih permitted performed (hPQ _ here)

/-- What holds at the end, and before every event after which it holds, holds all the way. -/
theorem Reaches.passes (hr : Reaches fleet allowed start c) (last : P c)
    (back : ∀ d d' event, Reaches fleet allowed start d → d.perform fleet event = some d' →
      P d' → P d) : Passes fleet allowed P start c := by
  induction hr with
  | refl => exact .refl last
  | step event before permitted performed ih =>
    exact .step event (ih (back _ _ event before performed last)) permitted performed last

end

/-- The cluster comes to a state by events each of which is allowed where it happens. -/
inductive Proceeds (fleet : Fleet) (allows : State → Event → Prop) (start : State) : State → Prop where
  /-- Nothing has happened. -/
  | refl : Proceeds fleet allows start start
  /-- One more event. -/
  | step {c c' : State} (event : Event) (before : Proceeds fleet allows start c)
    (permitted : allows c event) (performed : c.perform fleet event = some c') :
    Proceeds fleet allows start c'

section
variable {allows : State → Event → Prop}

theorem Proceeds.reaches (h : Proceeds fleet allows start c) : Reaches fleet anyEvent start c := by
  induction h with
  | refl => exact .refl
  | step event _ _ performed ih => exact .step event ih trivial performed

/-- Events that are allowed everywhere can be played. -/
theorem Proceeds.of_play {events : List Event} (h : Proceeds fleet allows start c)
    (ha : ∀ event ∈ events, ∀ d, allows d event) (hp : c.play fleet events = some c') :
    Proceeds fleet allows start c' := by
  induction events generalizing c with
  | nil =>
    obtain rfl : c = c' := Option.some.inj hp
    exact h
  | cons event events ih =>
    obtain ⟨next, hn, hp⟩ := Option.bind_eq_some_iff.mp hp
    have first : Proceeds fleet allows start next :=
      .step event h (ha event List.mem_cons_self c) hn
    exact ih first (fun e he => ha e (List.mem_cons_of_mem _ he)) hp

end

/-- A played list of allowed events is a run. -/
theorem Reaches.of_play {events : List Event} (ha : ∀ event ∈ events, allowed event)
    (hp : start.play fleet events = some c) : Reaches fleet allowed start c := by
  induction events generalizing start with
  | nil =>
    obtain rfl : start = c := Option.some.inj hp
    exact .refl
  | cons event events ih =>
    obtain ⟨next, hn, hp⟩ := Option.bind_eq_some_iff.mp hp
    have first : Reaches fleet allowed start next :=
      .step event .refl (ha event (List.mem_cons_self ..)) hn
    exact first.trans (ih (fun e he => ha e (List.mem_cons_of_mem _ he)) hp)

/-- A played list of allowed events passes through states that can be looked at one by one. -/
theorem Passes.of_play {P : State → Prop} [DecidablePred P] (events : List Event)
    (ha : ∀ event ∈ events, allowed event)
    (checked : ∀ k ≤ events.length,
      (start.play fleet (events.take k)).any (fun c => decide (P c)) = true)
    (hp : start.play fleet events = some c) : Passes fleet allowed P start c := by
  suffices h : ∀ {first : State}, Passes fleet allowed P first start →
      Passes fleet allowed P first c from
    h (.refl (of_decide_eq_true (checked 0 (Nat.zero_le _))))
  intro first before
  induction events generalizing start with
  | nil =>
    obtain rfl : start = c := Option.some.inj hp
    exact before
  | cons event events ih =>
    obtain ⟨next, hn, hp⟩ := Option.bind_eq_some_iff.mp hp
    have later (k : Nat) (hk : k ≤ events.length) :
        (next.play fleet (events.take k)).any (fun c => decide (P c)) = true := by
      have checked := checked (k + 1) (Nat.succ_le_succ hk)
      simpa only [List.take_succ_cons, State.play, hn, Option.bind_some] using checked
    refine ih (fun e he => ha e (List.mem_cons_of_mem _ he)) later hp ?_
    exact .step event before (ha event List.mem_cons_self) hn
      (of_decide_eq_true (later 0 (Nat.zero_le _)))

/-- Playing allowed events is a run, or none if they cannot happen. -/
theorem Reaches.of_played {events : List Event} (ha : ∀ event ∈ events, allowed event) :
    Reaches fleet allowed start ((start.play fleet events).getD start) := by
  cases hp : start.play fleet events with
  | none => exact .refl
  | some c => exact .of_play ha hp

/-- A job that begins could begin, and its actor is the last one. -/
theorem State.of_start {pod : PodId} {job : Job} (h : c.perform fleet (.start pod job) = some c') :
    c.canStart pod job = true ∧
      c' = { c with actors := c.actors ++ [Actor.start (fleet.settings pod) job] } := by
  simp only [State.perform] at h
  split at h
  · next hs => exact ⟨hs, (Option.some.inj h).symm⟩
  · cases h

/-- A message that is handed back is settled, and nobody handles it. -/
theorem State.of_handBack {message : DeliveryId}
    (h : c.perform fleet (.handBack message) = some c') :
    c.isHandled message = false ∧
      c' = { c with shared :=
        { c.shared with queue := c.shared.queue.settle message c.shared.time } } := by
  simp only [State.perform] at h
  split at h
  · cases h
  · next hm => exact ⟨Bool.eq_false_iff.mpr hm, (Option.some.inj h).symm⟩

/-- What happens outside the agents leaves them as they are. -/
theorem State.of_move {m : Move} (h : c.perform fleet (.move m) = some c') :
    ∃ shared, c.shared.move m = some shared ∧ c' = { c with shared } := by
  obtain ⟨shared, hm, rfl⟩ := Option.map_eq_some_iff.mp h
  exact ⟨shared, hm, rfl⟩

/-- An actor that is answered makes the call it is at. -/
theorem State.answer_eq_some {number : Nat}
    {choice : (operation : Operation) → Option operation.Reply}
    (h : c.answer number choice = some c') :
    ∃ a operation next reply shared, c.actors[number]? = some a ∧
      a.rest = .call operation next ∧
      c.shared.answer a.pod operation (choice operation) = some (reply, shared) ∧
      c' = ⟨shared, c.actors.set number (a.advance operation reply (next reply))⟩ := by
  obtain ⟨a, ha, h⟩ := Option.bind_eq_some_iff.mp h
  cases hr : a.rest with
  | done value => rw [hr] at h; cases h
  | call operation next =>
    rw [hr] at h
    obtain ⟨⟨reply, shared⟩, hs, rfl⟩ := Option.map_eq_some_iff.mp h
    exact ⟨a, operation, next, reply, shared, ha, hr, hs, rfl⟩

/-! A small cluster, on which runs can be looked at. -/

/-- Agents that differ in their pods only. -/
def plainFleet : Fleet where
  settings pod := { podId := pod, podName := pod.name, scratchRoot := "" }
  podId_settings _ := rfl

/-- Six in the morning of the first day of 1970. -/
def morning : Date := { nanos := 21600000000000, inCalendar := by decide }

/-- Six hours later. -/
def noon : Date := { nanos := 43200000000000, inCalendar := by decide }

/-- A submitted task. -/
def plainTask : TaskRecord :=
  { TaskRecord.first (.ofNat 1) (.ofNat 1) (.ofNat 1) {} morning with status := .submitted }

/-- The task is stored, and a message about it is visible. -/
def plainStart : State where
  shared :=
    { store := ({} : Store).insert plainTask
      queue := ({} : Queue).push [plainTask.id] }

/-- Surroundings in which nothing goes wrong, except that owners are not alive. -/
def plainly (now : Date) : (operation : Operation) → Option operation.Reply
  | .agent .now => some now
  | .agent (.readSession session) => some (Except.ok (some (.running session)))
  | .agent (.isAlive ..) => some (.ok false)
  | .agent (.fetch _) => some (.ok [])
  | .agent .shutdownRequested => some false
  | .agent (.cancel _) => some ()
  | .agent (.beginWatch _) => some ()
  | .agent (.endWatch _) => some ()
  | .agent (.connect ..) => some (.ok 0)
  | .agent (.send ..) => some (.ok ())
  | .agent (.finishSending ..) => some (.ok ())
  | .agent (.awaitReply ..) => some (.ok .success)
  | .agent (.hangUp _) => some ()
  | .finalizer .now => some now
  | .finalizer .countTasks => some (1 : Nat)
  | _ => none

/-- A retry that the sessions allow. -/
def oneRetry : Options := { maxRetries := some 1 }

/-- Surroundings in which the worker breaks down during each call, and sessions allow a retry. -/
def breakingDown : (operation : Operation) → Option operation.Reply
  | .agent (.readSession session) =>
    some (Except.ok (some { SessionRecord.running session with defaults := oneRetry }))
  | .agent .newTaskId => some (.ofNat 2 : TaskId)
  | .agent (.awaitReply ..) => some (.error (.fault "worker broke down"))
  | operation => plainly morning operation

/-- A handler of the message begins on a pod, and is answered some of its calls. -/
def plainEvents (answers : Nat) : List Event :=
  [.move (.pull 1), .start ⟨"first"⟩ (.handle 1 plainTask.id)] ++
    List.replicate answers (.answer 0 (plainly morning))

/-- What is true of the pull, of the start and of the answers is true of all these events. -/
theorem forall_plainEvents {P : Event → Prop} (pull : P (.move (.pull 1)))
    (start : P (.start ⟨"first"⟩ (.handle 1 plainTask.id))) (answer : P (.answer 0 (plainly morning)))
    (answers : Nat) : ∀ event ∈ plainEvents answers, P event := by
  intro event he
  rcases List.mem_append.mp he with he | he
  · simp only [List.mem_cons, List.not_mem_nil, or_false] at he
    rcases he with rfl | rfl
    · exact pull
    · exact start
  · rw [List.eq_of_mem_replicate he]
    exact answer

/-- Another message about the task comes to a handler on a pod, which is answered some calls. -/
def anotherMessage (pod : PodId) (message : DeliveryId) (number answers : Nat) : List Event :=
  [.move (.push [plainTask.id]), .move (.pull 1), .start pod (.handle message plainTask.id)] ++
    List.replicate answers (.answer number (plainly noon))

/-- The small cluster after the handler was answered some of its calls. -/
def plainCluster (answers : Nat) : State :=
  (plainStart.play plainFleet (plainEvents answers)).getD plainStart

/-- One of the actors of a small cluster. -/
def plainActor (c : State) (number : Nat) : Actor :=
  c.actors.getD number (.start (plainFleet.settings ⟨"nowhere"⟩) (.acquire plainTask.id))

theorem plainCluster_reached (answers : Nat) :
    Reaches plainFleet anyEvent plainStart (plainCluster answers) :=
  .of_played fun _ _ => trivial

/-- Only the task is stored. -/
theorem plainStart_stored {task : TaskId} {record : TaskRecord}
    (hr : plainStart.shared.store.get? task = some record) :
    task = plainTask.id ∧ record = plainTask := by
  have hg := (Table.get?_set .empty plainTask.id task plainTask).symm.trans hr
  split at hg
  · next e => exact ⟨e, (Option.some.inj hg).symm⟩
  · cases hg

theorem plainStart_initial : plainStart.Initial := by
  refine ⟨rfl, fun _ => rfl, ?_, nofun, nofun⟩
  intro task record hr
  obtain ⟨rfl, rfl⟩ := plainStart_stored hr
  rfl

/-! The same with a result. -/

/-- A submitted task that is expected to produce something. -/
def fruitfulTask : TaskRecord := { plainTask with outputs := [.ofNat 5] }

/-- The task is stored, and a message about it is visible. -/
def fruitfulStart : State where
  shared :=
    { store := ({} : Store).insert fruitfulTask
      queue := ({} : Queue).push [fruitfulTask.id] }

/-- Only the task is stored. -/
theorem fruitfulStart_stored {task : TaskId} {record : TaskRecord}
    (hr : fruitfulStart.shared.store.get? task = some record) :
    task = fruitfulTask.id ∧ record = fruitfulTask := by
  have hg := (Table.get?_set .empty fruitfulTask.id task fruitfulTask).symm.trans hr
  split at hg
  · next e => exact ⟨e, (Option.some.inj hg).symm⟩
  · cases hg

theorem fruitfulStart_initial : fruitfulStart.Initial := by
  refine ⟨rfl, fun _ => rfl, ?_, nofun, nofun⟩
  intro task record hr
  obtain ⟨rfl, rfl⟩ := fruitfulStart_stored hr
  rfl

end GridAgent.Cluster
