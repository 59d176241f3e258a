import GridAgent.Proofs.Cluster.Settlements
import GridAgent.Proofs.Health.Budget
import GridAgent.Proofs.Loop.Books

/-!
# An agent at work

The loop of one agent runs beside its handlers, in a cluster in which anything else may happen. What
the loop pulls, starts and hands back are events of the cluster. A handler that returns feeds its result
into the error budget, stops the loop if the budget is used up, and leaves its slot; one that breaks off
leaves its slot only. At any moment the agent may be told to shut down, answer a probe, or have its
failures forgotten.
-/

namespace GridAgent

/-- What a look at the queue is to a pull that does not wait any longer. -/
def Queue.Pull.pulled : Queue.Pull → Pulled
  | .failed cause => .error cause
  | .nothing => .ok []
  | .messages ids => .ok ids

namespace Cluster

open Agent

/-- A request of the loop and what it was answered. -/
structure LoopAnswered where
  /-- The request. -/
  request : LoopRequest
  /-- The answer. -/
  reply : request.Reply

/-- An agent at a moment. -/
structure Station where
  /-- What the agent shares with others, and all jobs. -/
  cluster : State
  /-- The health monitor. -/
  health : HealthMonitor.Watched
  /-- The loop is stopped. -/
  stopped : Bool := false
  /-- Free slots. -/
  free : Nat
  /-- Handlers that the loop has started, by their numbers in the cluster. -/
  crew : List Nat := []
  /-- Those of them that have not left their slots. -/
  running : List Nat := []
  /-- Those that ended and were not joined, in order. -/
  ended : List Nat := []
  /-- Those that were joined, in order. -/
  seen : List Nat := []
  /-- The answered requests of the loop, the latest first. -/
  past : List LoopAnswered := []
  /-- What is left of the loop. -/
  rest : LoopAction (Except AgentError (Option Exit))

namespace Station

/-- The books of the loop. -/
def books (t : Station) : Loop.Books :=
  t.past.foldr (fun x b => b.note x.request x.reply) {}

/-- How a handler of the agent ended. -/
def result (t : Station) (handler : Nat) : Joined :=
  match (t.cluster.actors[handler]?).bind Actor.outcome? with
  | some outcome => .reported outcome
  | none => .died

/-- Changes the cluster by an event. -/
def onCluster (fleet : Fleet) (t : Station) (event : Event) : Option Station :=
  (t.cluster.perform fleet event).map fun cluster => { t with cluster }

/-- The first handler that ended is joined. -/
def join (t : Station) : Option (Joined × Station) :=
  match t.ended with
  | [] => none
  | handler :: rest => some (t.result handler, { t with ended := rest, seen := t.seen ++ [handler] })

/-- The answer to a pull: it is given up once the loop is stopped, it fails or comes back empty as
chosen, or it looks at the queue. -/
def pull (fleet : Fleet) (t : Station) (most : Nat) :
    Option (Option Pulled) → Option (Option Pulled × Station)
  | some none => if t.stopped then some (none, t) else none
  | some (some (.error cause)) => some (some (.error cause), t)
  | some (some (.ok [])) => some (some (.ok []), t)
  | some (some (.ok (_ :: _))) => none
  | none => (t.onCluster fleet (.move (.pull most))).map fun t' =>
    (some (t.cluster.shared.queue.take most).1.pulled, t')

/-- A handler of a message begins. -/
def startHandler (fleet : Fleet) (pod : PodId) (t : Station) (message : DeliveryId) :
    Option Station :=
  (t.cluster.shared.queue.held? message).bind fun delivery =>
    (t.onCluster fleet (.start pod (.handle message delivery.task))).map fun t' =>
      { t' with
        crew := t.crew ++ [t.cluster.actors.length]
        running := t.running ++ [t.cluster.actors.length] }

/-- The answer to a request of the loop. Where the surroundings are free to answer they answer as
chosen. -/
def serve (fleet : Fleet) (pod : PodId) (t : Station) : (request : LoopRequest) →
    Option request.Reply → Option (request.Reply × Station)
  | .isInitialized, _ => some (t.health.monitor.initialized, t)
  | .markInitialized, _ => some ((), { t with health := t.health.markInitialized })
  | .isStopped, _ => some (t.stopped, t)
  | .stop, _ => some ((), { t with stopped := true })
  | .tryJoin, _ =>
    some (match t.join with
      | none => (none, t)
      | some (joined, t) => (some joined, t))
  | .join, _ => t.join
  | .pull most, choice => t.pull fleet most choice
  | .takeSlot, _ =>
    if t.stopped then some (false, t)
    else if 0 < t.free then some (true, { t with free := t.free - 1 })
    else none
  | .start message, _ => (t.startHandler fleet pod message).map fun t => ((), t)
  | .handBack message, _ => (t.onCluster fleet (.handBack message)).map fun t => ((), t)
  | .recordError, _ =>
    some (t.health.monitor.recordError.1,
      { t with health := t.health.count t.health.monitor.recordError })
  | .hasFailed, _ => some (t.health.monitor.failed, t)
  | .prepare _, choice => choice.map fun reply => (reply, t)
  | .idle, _ => some ((), t)

/-- What can happen next. -/
inductive Happening where
  /-- The loop is answered its next request. -/
  | answer (choice : (request : LoopRequest) → Option request.Reply)
  /-- A handler that has returned leaves its slot. -/
  | conclude (handler : Nat)
  /-- A handler that has broken off leaves its slot. -/
  | die (handler : Nat)
  /-- The agent is told to shut down. -/
  | shutDown
  /-- A probe is answered. -/
  | check (probe : Probe) (dependencies : HealthReport)
  /-- All failures are forgotten. -/
  | reset
  /-- Something happens in the cluster. -/
  | other (event : Event)

/-- Nobody else takes messages that the loop has pulled. -/
def spares (t : Station) (event : Event) : Bool :=
  match event.message? with
  | some message => message ∉ t.books.pulled
  | none => true

/-- A handler leaves its slot. -/
def leave (t : Station) (handler : Nat) : Station :=
  { t with
    free := t.free + 1
    running := t.running.erase handler
    ended := t.ended ++ [handler] }

/-- A handler that has returned something feeds it into the error budget. -/
def feed (t : Station) (outcome : Except AgentError HandlerReport) : Station :=
  { t with
    health := t.health.count (recordResult t.health.monitor outcome)
    stopped := t.stopped || (recordResult t.health.monitor outcome).1 }

/-- The agent after something happened; none where it cannot happen. -/
def perform (fleet : Fleet) (pod : PodId) (t : Station) : Happening → Option Station
  | .answer choice =>
    match t.rest with
    | .done _ => none
    | .call request next =>
      (t.serve fleet pod request (choice request)).map fun (reply, t') =>
        { t' with past := ⟨request, reply⟩ :: t.past, rest := next reply }
  | .conclude handler =>
    if handler ∈ t.running then
      ((t.cluster.actors[handler]?).bind Actor.outcome?).map fun outcome =>
        (t.feed outcome).leave handler
    else none
  | .die handler =>
    if handler ∈ t.running then
      ((t.cluster.actors[handler]?).filter Actor.isBroken).map fun _ => t.leave handler
    else none
  | .shutDown => some { t with stopped := true }
  | .check probe dependencies => some { t with health := t.health.check probe dependencies }
  | .reset => some { t with health := t.health.reset }
  | .other event => if t.spares event then t.onCluster fleet event else none

/-- The agent after several happenings. -/
def play (fleet : Fleet) (pod : PodId) (t : Station) : List Happening → Option Station
  | [] => some t
  | happening :: rest => (t.perform fleet pod happening).bind fun t => t.play fleet pod rest

/-- The loop of an agent has not begun: all slots are free, and no handler of it was started. -/
structure Fresh (t : Station) (s : Settings) (most : Nat) : Prop where
  free : t.free = s.slots
  crew : t.crew = []
  running : t.running = []
  ended : t.ended = []
  seen : t.seen = []
  past : t.past = []
  rest : t.rest = (Loop.run s most).run

end Station

/-- The agent on a pod comes from one state to another. -/
inductive Works (fleet : Fleet) (pod : PodId) (start : Station) : Station → Prop where
  /-- Nothing has happened. -/
  | refl : Works fleet pod start start
  /-- One more happening. -/
  | step {t t' : Station} (happening : Station.Happening) (before : Works fleet pod start t)
    (performed : t.perform fleet pod happening = some t') : Works fleet pod start t'

/-! What an answer to the loop does. -/

/-- What the loop is told by answers that change nothing. -/
def Station.Tells (t : Station) : (request : LoopRequest) → request.Reply → Prop
  | .isStopped, stopped => stopped = t.stopped
  | .takeSlot, taken => taken = false ∧ t.stopped = true
  | .pull _, pulled => ∀ ids, pulled = some (.ok ids) → ids = []
  | .tryJoin, joined => joined = none
  | .isInitialized, _ => True
  | .prepare _, _ => True
  | .idle, _ => True
  | .hasFailed, _ => True
  | _, _ => False

section
variable (fleet : Fleet) (pod : PodId) (t : Station)

/-- What an answer to the loop tells and does. -/
inductive LoopServed : (request : LoopRequest) → request.Reply → Station → Prop where
  /-- The loop is told something. -/
  | told (request : LoopRequest) (reply : request.Reply) (tells : t.Tells request reply) :
    LoopServed request reply t
  /-- The agent has started. -/
  | initialized : LoopServed .markInitialized () { t with health := t.health.markInitialized }
  /-- The loop is stopped. -/
  | stopped : LoopServed .stop () { t with stopped := true }
  /-- A handler is joined. -/
  | joined (handler : Nat) (rest : List Nat) (ended : t.ended = handler :: rest) :
    LoopServed .join (t.result handler) { t with ended := rest, seen := t.seen ++ [handler] }
  /-- A handler is joined that has ended already. -/
  | joinedSoon (handler : Nat) (rest : List Nat) (ended : t.ended = handler :: rest) :
    LoopServed .tryJoin (some (t.result handler))
      { t with ended := rest, seen := t.seen ++ [handler] }
  /-- A pull looks at the queue. -/
  | looked (most : Nat) (cluster : State)
    (performed : t.cluster.perform fleet (.move (.pull most)) = some cluster) :
    LoopServed (.pull most) (some (t.cluster.shared.queue.take most).1.pulled) { t with cluster }
  /-- A slot is taken. -/
  | taken (goes : t.stopped = false) (free : 0 < t.free) :
    LoopServed .takeSlot true { t with free := t.free - 1 }
  /-- A handler begins. -/
  | began (message : DeliveryId) (delivery : Delivery) (cluster : State)
    (held : t.cluster.shared.queue.held? message = some delivery)
    (performed : t.cluster.perform fleet (.start pod (.handle message delivery.task)) = some cluster) :
    LoopServed (.start message) () { t with
      cluster
      crew := t.crew ++ [t.cluster.actors.length]
      running := t.running ++ [t.cluster.actors.length] }
  /-- A message is handed back. -/
  | returned (message : DeliveryId) (cluster : State)
    (performed : t.cluster.perform fleet (.handBack message) = some cluster) :
    LoopServed (.handBack message) () { t with cluster }
  /-- A failure is counted. -/
  | counted : LoopServed .recordError t.health.monitor.recordError.1
    { t with health := t.health.count t.health.monitor.recordError }

end

variable {fleet : Fleet} {pod : PodId} {t t' : Station}

theorem Station.of_onCluster {event : Event} (h : t.onCluster fleet event = some t') :
    ∃ cluster, t.cluster.perform fleet event = some cluster ∧ t' = { t with cluster } := by
  obtain ⟨cluster, hp, rfl⟩ := Option.map_eq_some_iff.mp h
  exact ⟨cluster, hp, rfl⟩

theorem served_of_pull {most : Nat} {choice : Option (Option Pulled)} {reply : Option Pulled}
    (h : t.pull fleet most choice = some (reply, t')) :
    LoopServed fleet pod t (.pull most) reply t' := by
  unfold Station.pull at h
  split at h
  · split at h <;> cases h
    exact .told (.pull most) none nofun
  · next cause =>
    cases h
    exact .told (.pull most) (some (.error cause)) nofun
  · cases h
    exact .told (.pull most) (some (.ok [])) fun ids e =>
      (Except.ok.inj (Option.some.inj e)).symm
  · cases h
  · obtain ⟨_, h₁, e⟩ := Option.map_eq_some_iff.mp h
    obtain ⟨cluster, hp, rfl⟩ := Station.of_onCluster h₁
    cases e
    exact .looked most cluster hp

theorem served_of_startHandler {message : DeliveryId}
    (h : t.startHandler fleet pod message = some t') :
    LoopServed fleet pod t (.start message) () t' := by
  obtain ⟨delivery, hd, h⟩ := Option.bind_eq_some_iff.mp h
  obtain ⟨_, h₁, rfl⟩ := Option.map_eq_some_iff.mp h
  obtain ⟨cluster, hp, rfl⟩ := Station.of_onCluster h₁
  exact .began message delivery cluster hd hp

/-- A join takes the first handler that ended. -/
theorem Station.of_join {joined : Joined} (h : t.join = some (joined, t')) :
    ∃ handler rest, t.ended = handler :: rest ∧ joined = t.result handler ∧
      t' = { t with ended := rest, seen := t.seen ++ [handler] } := by
  unfold Station.join at h
  split at h <;> cases h
  next handler rest ended => exact ⟨handler, rest, ended, rfl, rfl⟩

theorem served_of_tryJoin {choice : Option (Option Joined)} {reply : Option Joined}
    (h : t.serve fleet pod .tryJoin choice = some (reply, t')) :
    LoopServed fleet pod t .tryJoin reply t' := by
  cases hj : t.join with
  | none =>
    simp only [Station.serve, hj] at h
    cases h
    exact .told .tryJoin none rfl
  | some found =>
    simp only [Station.serve, hj] at h
    cases h
    obtain ⟨handler, rest, ended, e, hs⟩ := Station.of_join hj
    rw [e, hs]
    exact .joinedSoon handler rest ended

theorem served_of_takeSlot {choice : Option Bool} {reply : Bool}
    (h : t.serve fleet pod .takeSlot choice = some (reply, t')) :
    LoopServed fleet pod t .takeSlot reply t' := by
  simp only [Station.serve] at h
  split at h
  · next stopped =>
    cases h
    exact .told .takeSlot false ⟨rfl, stopped⟩
  · next goes =>
    split at h <;> cases h
    next free => exact .taken (Bool.eq_false_iff.mpr goes) free

theorem served_of_serve {request : LoopRequest} {choice : Option request.Reply}
    {reply : request.Reply} (h : t.serve fleet pod request choice = some (reply, t')) :
    LoopServed fleet pod t request reply t' := by
  cases request with
  | pull most => exact served_of_pull h
  | start message =>
    obtain ⟨_, h₁, e⟩ := Option.map_eq_some_iff.mp h
    cases e
    exact served_of_startHandler h₁
  | handBack message =>
    obtain ⟨_, h₁, e⟩ := Option.map_eq_some_iff.mp h
    obtain ⟨cluster, hp, rfl⟩ := Station.of_onCluster h₁
    cases e
    exact .returned message cluster hp
  | tryJoin => exact served_of_tryJoin h
  | join =>
    obtain ⟨handler, rest, ended, rfl, rfl⟩ := Station.of_join h
    exact .joined handler rest ended
  | takeSlot => exact served_of_takeSlot h
  | prepare collaborator =>
    obtain ⟨outcome, -, e⟩ := Option.map_eq_some_iff.mp h
    cases e
    exact .told (.prepare collaborator) _ trivial
  | isInitialized =>
    cases h
    exact .told .isInitialized _ trivial
  | isStopped =>
    cases h
    exact .told .isStopped _ rfl
  | idle =>
    cases h
    exact .told .idle () trivial
  | hasFailed =>
    cases h
    exact .told .hasFailed _ trivial
  | markInitialized =>
    cases h
    exact .initialized
  | stop =>
    cases h
    exact .stopped
  | recordError =>
    cases h
    exact .counted

/-- What can happen to an agent, and what becomes of it. -/
inductive Happens (fleet : Fleet) (pod : PodId) (t : Station) : Station.Happening → Station → Prop where
  /-- The loop is answered. -/
  | answered {choice : (request : LoopRequest) → Option request.Reply} (request : LoopRequest)
    (next : request.Reply → LoopAction (Except AgentError (Option Exit))) (reply : request.Reply)
    (t' : Station) (asks : t.rest = .call request next)
    (served : LoopServed fleet pod t request reply t') :
    Happens fleet pod t (.answer choice)
      { t' with past := ⟨request, reply⟩ :: t.past, rest := next reply }
  /-- A handler that has returned leaves. -/
  | concluded (handler : Nat) (a : Actor) (outcome : Except AgentError HandlerReport)
    (runs : handler ∈ t.running) (actor : t.cluster.actors[handler]? = some a)
    (returned : a.outcome? = some outcome) :
    Happens fleet pod t (.conclude handler) ((t.feed outcome).leave handler)
  /-- A handler that has broken off leaves. -/
  | died (handler : Nat) (a : Actor) (runs : handler ∈ t.running)
    (actor : t.cluster.actors[handler]? = some a) (broken : a.isBroken = true) :
    Happens fleet pod t (.die handler) (t.leave handler)
  /-- The agent is told to shut down. -/
  | toldToStop : Happens fleet pod t .shutDown { t with stopped := true }
  /-- A probe is answered. -/
  | checked (probe : Probe) (dependencies : HealthReport) :
    Happens fleet pod t (.check probe dependencies)
      { t with health := t.health.check probe dependencies }
  /-- All failures are forgotten. -/
  | forgotten : Happens fleet pod t .reset { t with health := t.health.reset }
  /-- Something happens in the cluster. -/
  | elsewhere (event : Event) (cluster : State) (spared : t.spares event = true)
    (performed : t.cluster.perform fleet event = some cluster) :
    Happens fleet pod t (.other event) { t with cluster }

theorem happens_of_perform {happening : Station.Happening}
    (h : t.perform fleet pod happening = some t') : Happens fleet pod t happening t' := by
  cases happening with
  | answer choice =>
    unfold Station.perform at h
    cases asks : t.rest with
    | done value =>
      rw [asks] at h
      cases h
    | call request next =>
      rw [asks] at h
      obtain ⟨⟨reply, t₁⟩, hs, rfl⟩ := Option.map_eq_some_iff.mp h
      exact .answered request next reply t₁ asks (served_of_serve hs)
  | conclude handler =>
    simp only [Station.perform] at h
    split at h
    · next runs =>
      obtain ⟨outcome, ho, rfl⟩ := Option.map_eq_some_iff.mp h
      obtain ⟨a, ha, ho⟩ := Option.bind_eq_some_iff.mp ho
      exact .concluded handler a outcome runs ha ho
    · cases h
  | die handler =>
    simp only [Station.perform] at h
    split at h
    · next runs =>
      obtain ⟨a, found, rfl⟩ := Option.map_eq_some_iff.mp h
      obtain ⟨ha, broken⟩ := Option.filter_eq_some_iff.mp found
      exact .died handler a runs ha broken
    · cases h
  | shutDown =>
    cases h
    exact .toldToStop
  | check probe dependencies =>
    cases h
    exact .checked probe dependencies
  | reset =>
    cases h
    exact .forgotten
  | other event =>
    simp only [Station.perform] at h
    split at h
    · next spared =>
      obtain ⟨cluster, hp, rfl⟩ := Station.of_onCluster h
      exact .elsewhere event cluster spared hp
    · cases h

/-- What happens to an agent is at most one event of the cluster. -/
theorem Happens.cluster {happening : Station.Happening} (h : Happens fleet pod t happening t') :
    t'.cluster = t.cluster ∨ ∃ event, t.cluster.perform fleet event = some t'.cluster := by
  cases h with
  | answered request next reply t₁ asks served =>
    cases served with
    | looked most cluster performed => exact .inr ⟨_, performed⟩
    | began message delivery cluster held performed => exact .inr ⟨_, performed⟩
    | returned message cluster performed => exact .inr ⟨_, performed⟩
    | _ => exact .inl rfl
  | elsewhere event cluster spared performed => exact .inr ⟨_, performed⟩
  | _ => exact .inl rfl

section
variable {start : Station} {origin : State}

/-- What happens to an agent is a run of the cluster. -/
theorem Works.reaches (h : Works fleet pod start t)
    (hr : Reaches fleet anyEvent origin start.cluster) : Reaches fleet anyEvent origin t.cluster := by
  induction h with
  | refl => exact hr
  | step happening before performed ih =>
    rcases (happens_of_perform performed).cluster with same | ⟨event, hp⟩
    · rw [same]
      exact ih
    · exact .step event ih trivial hp

/-- What holds at the start and is kept by everything that happens holds as long as the agent works. -/
theorem Works.invariant {inv : Station → Prop} (h : Works fleet pod start t) (first : inv start)
    (kept : ∀ t t' happening, Works fleet pod start t → inv t → Happens fleet pod t happening t' →
      inv t') : inv t := by
  induction h with
  | refl => exact first
  | step happening before performed ih =>
    exact kept _ _ happening before ih (happens_of_perform performed)

/-- What happens to an agent can be put one after another. -/
theorem Works.trans (h : Works fleet pod start t) (h' : Works fleet pod t t') :
    Works fleet pod start t' := by
  induction h' with
  | refl => exact h
  | step happening _ performed ih => exact .step happening ih performed

/-- What is played happens to the agent; nothing if it cannot happen. -/
theorem Works.of_played (happenings : List Station.Happening) :
    Works fleet pod start ((start.play fleet pod happenings).getD start) := by
  suffices h : ∀ t' t, Works fleet pod start t → t.play fleet pod happenings = some t' →
      Works fleet pod start t' by
    cases hp : start.play fleet pod happenings with
    | none => exact .refl
    | some t => exact h t start .refl hp
  intro t'
  induction happenings with
  | nil =>
    intro t before hp
    obtain rfl : t = t' := Option.some.inj hp
    exact before
  | cons happening rest ih =>
    intro t before hp
    obtain ⟨next, performed, hp⟩ := Option.bind_eq_some_iff.mp hp
    exact ih next (.step happening before performed) hp

/-- A stopped loop stays stopped. -/
theorem Works.stays_stopped (h : Works fleet pod start t) (stopped : start.stopped = true) :
    t.stopped = true := by
  apply h.invariant stopped
  intro t t' happening _ ih happens
  cases happens with
  | answered request next reply t₁ asks served => cases served <;> first | exact ih | rfl
  | concluded handler a outcome runs actor returned =>
    simp [Station.leave, Station.feed, ih]
  | toldToStop => rfl
  | _ => exact ih

/-- The loop follows its rules as long as the agent works. -/
theorem Works.follows {s : Settings} {most : Nat} (h : Works fleet pod start t)
    (fresh : start.Fresh s most) :
    t.rest.Follows Loop.rules t.books fun value b => b.Ends value := by
  apply h.invariant
  · unfold Station.books
    rw [fresh.rest, fresh.past]
    refine Program.Follows.mono (Loop.run_follows s most) ?_
    rintro (cause | value) b ends <;> exact ends
  · intro t t' happening _ ih happens
    cases happens with
    | answered request next reply t₁ asks served =>
      rw [asks] at ih
      exact ih.2 reply trivial
    | _ => exact ih

end

/-! A small agent, on which runs can be looked at. -/

/-- Agents that pull two messages at a time, and have one slot. -/
def batchFleet : Fleet where
  settings pod := { podId := pod, podName := pod.name, scratchRoot := "", pullBatchSize := 2 }
  podId_settings _ := rfl

/-- Another message about the task is visible. -/
def batchStart : State :=
  (plainStart.perform batchFleet (.move (.push [plainTask.id]))).getD plainStart

/-- An agent before its loop begins. -/
def plainStation : Station where
  cluster := batchStart
  health := { monitor := { budget := 5 } }
  free := 1
  rest := (Loop.run (batchFleet.settings ⟨"first"⟩) 9).run

/-- The loop is answered; it can initialize everything. -/
def plainAnswer : Station.Happening :=
  .answer fun request =>
    match request with
    | .prepare _ => some (.ok ())
    | _ => none

theorem plainStation_reached : Reaches batchFleet anyEvent plainStart plainStation.cluster :=
  .step (.move (.push [plainTask.id])) .refl trivial rfl

theorem plainStation_fresh : plainStation.Fresh (batchFleet.settings ⟨"first"⟩) 9 :=
  ⟨rfl, rfl, rfl, rfl, rfl, rfl, rfl⟩

end Cluster

end GridAgent
