import GridAgent.Proofs.Cluster.Executions
import GridAgent.Proofs.Handler.Docket
import GridAgent.Proofs.Queue.Balance

/-!
# A handler at its bench

A handler runs beside everybody else. Its message lies in the queue, and its execution in the registry
of its agent; both also change by what others do between its calls. Whatever else it asks is answered
in any way. The rules for its docket say what the bench looks like at every moment of such a run.
-/

namespace GridAgent.Agent.Registry

variable {r r' : Registry} {run : RunId}

/-- Numbers are given out in order, and only new ones come in. -/
structure GoesOn (r r' : Registry) : Prop where
  /-- Numbers that were given out stay so. -/
  count : r.count ≤ r'.count
  /-- Whatever is registered was registered before, or has a new number. -/
  running : ∀ task run, r'.running.get? task = some run →
    r.running.get? task = some run ∨ r.count ≤ run

/-- The number is not registered. -/
def Lacks (r : Registry) (run : RunId) : Prop := ∀ task, r.running.get? task ≠ some run

/-- A number that was given out and is not registered is not registered later. -/
theorem Lacks.goesOn (h : r.Lacks run) (hr : r.GoesOn r') (known : run < r.count) : r'.Lacks run := by
  intro task registered
  rcases hr.running task run registered with before | later
  · exact h task before
  · exact absurd known (Nat.not_lt.mpr later)

/-- A task that is executing is not registered again; any other one gets the next number. -/
theorem register_cases (r : Registry) (task : TaskId) :
    r.register task = (none, r) ∨
      r.running.get? task = none ∧ (r.register task).1 = some r.count ∧
        (r.register task).2.count = r.count + 1 := by
  cases h : r.running.get? task with
  | none =>
    have number : (r.register task).1 = some r.count := by simp [register, Table.contains, h]
    exact .inr ⟨rfl, number, by rw [register_of_free h]⟩
  | some run => exact .inl (by simp [register, Table.contains, h])

theorem Coherent.registered (hc : r.Coherent) (task : TaskId) : (r.register task).2.Coherent := by
  rcases r.register_cases task with same | ⟨free, -⟩
  · rw [same]
    exact hc
  · exact hc.register free

theorem goesOn_register (r : Registry) (task : TaskId) : r.GoesOn (r.register task).2 := by
  rcases r.register_cases task with same | ⟨free, -⟩
  · rw [same]
    exact ⟨Nat.le_refl _, fun _ _ h => .inl h⟩
  · rw [register_of_free free]
    refine ⟨Nat.le_succ _, fun other run h => ?_⟩
    rw [Table.get?_set] at h
    split at h
    · exact .inr (Nat.le_of_eq (Option.some.inj h))
    · exact .inl h

theorem goesOn_unregister (r : Registry) (run : RunId) : r.GoesOn (r.unregister run) := by
  refine ⟨Nat.le_of_eq (r.unregister_executions run).2.symm, fun task number h => .inl ?_⟩
  rw [running_unregister] at h
  split at h
  · cases h
  · exact h

theorem goesOn_requestStop (r : Registry) (run : RunId) : r.GoesOn (r.requestStop run).2 :=
  ⟨Nat.le_refl _, fun _ _ h => .inl h⟩

/-- An execution that has ended is not registered. -/
theorem Coherent.lacks_unregister (hc : r.Coherent) (run : RunId) : (r.unregister run).Lacks run := by
  intro task h
  rw [running_unregister] at h
  split at h
  · cases h
  · next still => exact still ⟨(hc task run h).2, h⟩

end GridAgent.Agent.Registry

namespace GridAgent.Cluster

open Agent Program

/-- A settlement that a handler has asked for. -/
structure Settling where
  /-- The settled message. -/
  message : DeliveryId
  /-- The queue before it. -/
  before : Queue
  /-- The queue after it. -/
  after : Queue
  /-- How it was answered. -/
  reply : Except QueueError Unit

/-- What a handler works at: the queue with its message, the executions of its agent, and what it has
settled and registered so far. -/
structure Bench where
  /-- The queue. -/
  queue : Queue
  /-- The executions of the agent. -/
  registry : Registry := {}
  /-- The settlements by the handler. -/
  settlings : List Settling := []
  /-- The executions that the handler has registered. -/
  runs : List RunId := []

namespace Bench

variable {α β : Type} {b b' : Bench} {message : DeliveryId} {task : TaskId} {k : Docket}

/-- What a call of the handler that is answered does at the bench. A decision may be refused without
more ado, a settlement may be answered in any way, and what decides on nothing leaves the bench. -/
inductive Answers (b : Bench) : (request : Request) → request.Reply → Bench → Prop where
  /-- An execution is registered, unless the task is executing. -/
  | registered (task : TaskId) :
    Answers b (.register task) (b.registry.register task).1
      { b with
        registry := (b.registry.register task).2
        runs := (b.registry.register task).1.toList ++ b.runs }
  /-- An execution ends. -/
  | unregistered (run : RunId) :
    Answers b (.unregister run) () { b with registry := b.registry.unregister run }
  /-- The queue takes a decision, or refuses it. -/
  | disposed (message : DeliveryId) (disposition : Disposition) :
    Answers b (.dispose message disposition) (b.queue.dispose message disposition).1
      { b with queue := (b.queue.dispose message disposition).2 }
  /-- The queue is not reached with a decision. -/
  | refused (message : DeliveryId) (disposition : Disposition) (cause : QueueError) :
    Answers b (.dispose message disposition) (.error cause) b
  /-- The queue takes a message back at some moment. -/
  | settled (message : DeliveryId) (now : Nat) (reply : Except QueueError Unit) :
    Answers b (.settle message) reply
      { b with
        queue := b.queue.settle message now
        settlings := ⟨message, b.queue, b.queue.settle message now, reply⟩ :: b.settlings }
  /-- Everything else is answered in any way. -/
  | aside (request : Request) (h : request.isDecisive = false) (reply : request.Reply) :
    Answers b request reply b

/-- What others do at the bench of the handler of a message: anything to the queue that leaves the
delivery, and registrations, ends and stop requests of any executions. -/
inductive Moves (message : DeliveryId) (b : Bench) : Bench → Prop where
  /-- The queue changes, and the delivery does not. -/
  | queue (queue : Queue) (kept : queue.held? message = b.queue.held? message) :
    Moves message b { b with queue }
  /-- An execution is registered. -/
  | registered (task : TaskId) :
    Moves message b { b with registry := (b.registry.register task).2 }
  /-- An execution ends. -/
  | unregistered (run : RunId) : Moves message b { b with registry := b.registry.unregister run }
  /-- An execution is asked to stop. -/
  | stopAsked (run : RunId) :
    Moves message b { b with registry := (b.registry.requestStop run).2 }

/-- The runs of a program of the handler of a message, with everything that others do meanwhile and
afterwards. -/
inductive Runs (message : DeliveryId) (p : Program collaborators α) (b : Bench) :
    Bench → Program collaborators α → Prop where
  /-- Nothing has happened. -/
  | start : Runs message p b b p
  /-- Others do something. -/
  | moved {b' b'' : Bench} {rest : Program collaborators α} (before : Runs message p b b' rest)
    (moves : b'.Moves message b'') : Runs message p b b'' rest
  /-- The program is answered. -/
  | answered {b' b'' : Bench} {request : Request} {next : request.Reply → Program collaborators α}
    {reply : request.Reply} (before : Runs message p b b' (.call request next))
    (answers : b'.Answers request reply b'') : Runs message p b b'' (next reply)

/-- A run of a sequence is in its first part, or in the second one after a run of the first. -/
theorem Runs.of_bind {p : Program collaborators α} {f : α → Program collaborators β}
    {rest : Program collaborators β} (h : Runs message (p.bind f) b b' rest) :
    (∃ first, Runs message p b b' first ∧ rest = first.bind f) ∨
      ∃ value between, Runs message p b between (.done value) ∧
        Runs message (f value) between b' rest := by
  induction h with
  | start => exact .inl ⟨p, .start, rfl⟩
  | moved before moves ih =>
    rcases ih with ⟨first, run, rfl⟩ | ⟨value, between, run, later⟩
    · exact .inl ⟨first, run.moved moves, rfl⟩
    · exact .inr ⟨value, between, run, later.moved moves⟩
  | @answered b₁ b₂ request next reply before answers ih =>
    rcases ih with ⟨first, run, same⟩ | ⟨value, between, run, later⟩
    · cases first with
      | done value =>
        have second : Runs message (f value) b₁ b₁ (.call request next) := by
          rw [same, bind_done]
          exact .start
        exact .inr ⟨value, b₁, run, second.answered answers⟩
      | call request next =>
        cases same
        exact .inl ⟨_, run.answered answers, rfl⟩
    · exact .inr ⟨value, between, run, later.answered answers⟩

/-- Every call can be answered but the one that breaks off. -/
theorem answerable (b : Bench) (request : Request) :
    (∃ run, request = .breakOff run) ∨ ∃ reply b', b.Answers request reply b' := by
  cases request with
  | breakOff run => exact .inl ⟨run, rfl⟩
  | register task => exact .inr ⟨_, _, .registered task⟩
  | unregister run => exact .inr ⟨_, _, .unregistered run⟩
  | dispose message disposition => exact .inr ⟨_, _, .disposed message disposition⟩
  | settle message => exact .inr ⟨.ok (), _, .settled message 0 _⟩
  | now => exact .inr ⟨Date.epoch, _, .aside _ rfl _⟩
  | newTaskId => exact .inr ⟨(.ofNat 0 : TaskId), _, .aside _ rfl _⟩
  | probeLiveness => exact .inr ⟨HealthReport.healthy, _, .aside _ rfl _⟩
  | updateTask task expected change => exact .inr ⟨.error (.notFound task), _, .aside _ rfl _⟩
  | createSuccessor parent candidate => exact .inr ⟨.ok candidate, _, .aside _ rfl _⟩
  | isAlive session task owner => exact .inr ⟨.ok false, _, .aside _ rfl _⟩
  | fetch data => exact .inr ⟨.ok [], _, .aside _ rfl _⟩
  | connect run task deadline => exact .inr ⟨.ok 0, _, .aside _ rfl _⟩
  | awaitReply run stream => exact .inr ⟨.ok .success, _, .aside _ rfl _⟩
  | _ =>
    -- nothing, nothing or a failure, a record or a failure, yes or no
    first
      | exact .inr ⟨(), _, .aside _ rfl _⟩
      | exact .inr ⟨.ok (), _, .aside _ rfl _⟩
      | exact .inr ⟨.ok none, _, .aside _ rfl _⟩
      | exact .inr ⟨false, _, .aside _ rfl _⟩

/-! The docket and the bench. -/

/-- The bench of a handler of a message about a task is as the docket says. -/
structure Fits (message : DeliveryId) (task : TaskId) (k : Docket) (b : Bench) : Prop where
  /-- Until the settlement the message is in flight, decided on as recorded. -/
  held : k.settled = none → b.queue.held? message = some ⟨task, k.decided⟩ ∧ b.settlings = []
  /-- After it there was one, with the message decided on as recorded. -/
  settled : ∀ reply, k.settled = some reply → ∃ before now,
    before.held? message = some ⟨task, k.decided⟩ ∧
      b.settlings = [⟨message, before, before.settle message now, reply⟩]
  /-- The registry is coherent. -/
  coherent : b.registry.Coherent
  /-- What was registered has a number that was given out. -/
  known : ∀ run ∈ b.runs, run < b.registry.count
  /-- What was registered is the recorded execution, or registered no more. -/
  runs : ∀ run ∈ b.runs, k.run = some run ∨ b.registry.Lacks run

/-- An undecided message fits an empty docket. -/
theorem Fits.fresh (held : b.queue.held? message = some { task }) (settlings : b.settlings = [])
    (runs : b.runs = []) (coherent : b.registry.Coherent) : Fits message task {} b where
  held _ := ⟨held, settlings⟩
  settled _ h := nomatch h
  coherent := coherent
  known _ hr := absurd (runs ▸ hr) List.not_mem_nil
  runs _ hr := absurd (runs ▸ hr) List.not_mem_nil

/-- There is one settlement at most. -/
theorem Fits.length_settlings (h : Fits message task k b) : b.settlings.length ≤ 1 := by
  cases hs : k.settled with
  | none =>
    rw [(h.held hs).2]
    exact Nat.zero_le 1
  | some reply =>
    obtain ⟨before, now, -, settlings⟩ := h.settled reply hs
    rw [settlings]
    exact Nat.le_refl 1

/-- The executions fit a registry that has gone on. -/
theorem Fits.goesOn {registry : Registry} (h : Fits message task k b)
    (hr : b.registry.GoesOn registry) (coherent : registry.Coherent) :
    Fits message task k { b with registry } where
  held := h.held
  settled := h.settled
  coherent := coherent
  known run hm := Nat.lt_of_lt_of_le (h.known run hm) hr.count
  runs run hm := (h.runs run hm).imp_right fun lacks => lacks.goesOn hr (h.known run hm)

/-- What others do does not matter to the docket. -/
theorem Fits.moved (h : Fits message task k b) (hm : b.Moves message b') :
    Fits message task k b' := by
  cases hm with
  | queue queue kept =>
    exact ⟨fun open' => ⟨kept.trans (h.held open').1, (h.held open').2⟩, h.settled, h.coherent,
      h.known, h.runs⟩
  | registered other => exact h.goesOn (b.registry.goesOn_register other) (h.coherent.registered other)
  | unregistered run => exact h.goesOn (b.registry.goesOn_unregister run) (h.coherent.unregister run)
  | stopAsked run => exact h.goesOn (b.registry.goesOn_requestStop run) (h.coherent.requestStop run)

/-- An execution that the handler registers is the one that the docket has from then on. -/
theorem Fits.begun (h : Fits message task k b) (free : k.run = none) {other : TaskId}
    (issued : (b.registry.register other).2.count = b.registry.count + 1) :
    Fits message task { k with run := some b.registry.count }
      { b with registry := (b.registry.register other).2, runs := b.registry.count :: b.runs } where
  held := h.held
  settled := h.settled
  coherent := h.coherent.registered other
  known run hm := by
    rw [issued]
    rcases List.mem_cons.mp hm with rfl | hm
    · exact Nat.lt_succ_self _
    · exact Nat.lt_succ_of_lt (h.known run hm)
  runs run hm := by
    rcases List.mem_cons.mp hm with rfl | hm
    · exact .inl rfl
    · have lacks := (h.runs run hm).resolve_left (by rw [free]; nofun)
      exact .inr (lacks.goesOn (b.registry.goesOn_register other) (h.known run hm))

/-- A decision on a message that is in flight and undecided is taken. -/
theorem dispose_accepted {queue : Queue} {message : DeliveryId} (disposition : Disposition)
    (held : queue.held? message = some ⟨task, none⟩) :
    (queue.dispose message disposition).1 = .ok () := by
  rcases queue.dispose_cases message disposition with
    ⟨⟨found, decided, here, conflict⟩, -⟩ | ⟨-, accepted, -⟩
  · obtain rfl := Option.some.inj (held.symm.trans here)
    cases conflict
  · exact accepted

/-- The docket says what becomes of the bench. -/
theorem Fits.answered {request : Request} {reply : request.Reply} (h : Fits message task k b)
    (may : k.May message request) (ha : b.Answers request reply b') :
    Fits message task (k.note request reply) b' := by
  cases ha with
  | registered other =>
    rcases b.registry.register_cases other with same | ⟨-, number, issued⟩
    · rw [same]
      exact h
    · rw [number]
      exact h.begun may issued
  | unregistered run =>
    have fits := h.goesOn (b.registry.goesOn_unregister run) (h.coherent.unregister run)
    refine ⟨h.held, h.settled, fits.coherent, fits.known, fun other hm => .inr ?_⟩
    rcases fits.runs other hm with same | lacks
    · obtain rfl := Option.some.inj (Eq.trans (Eq.symm may) same)
      exact h.coherent.lacks_unregister run
    · exact lacks
  | disposed other disposition =>
    obtain ⟨rfl, unsettled, undecided⟩ := may
    obtain ⟨held, none⟩ := h.held unsettled
    have recorded := Queue.held?_disposed held disposition other
    rw [if_pos rfl, undecided, Option.none_or] at recorded
    rw [dispose_accepted disposition (undecided ▸ held)]
    refine ⟨fun _ => ⟨recorded, none⟩, fun reply hs => ?_, h.coherent, h.known, h.runs⟩
    cases unsettled.symm.trans hs
  | refused other disposition cause => exact h
  | settled other now reply =>
    obtain ⟨rfl, unsettled, -⟩ := may
    obtain ⟨held, none⟩ := h.held unsettled
    refine ⟨nofun, fun answer hs => ?_, h.coherent, h.known, h.runs⟩
    obtain rfl := Option.some.inj hs
    exact ⟨b.queue, now, held, by rw [none]⟩
  | aside request plain reply =>
    obtain ⟨-, unnoted⟩ : (Docket.rules message).may k request ∧
        ∀ reply, k.note request reply = k := Docket.aside plain
    rw [unnoted reply]
    exact h

/-- At every moment of a run of a program that keeps to the rules the bench is as the docket says, and
the rest of the program keeps to the rules. -/
theorem Runs.follows {p rest : Program collaborators α} {Q : α → Docket → Prop}
    (h : Runs message p b b' rest) (fits : Fits message task k b)
    (hp : p.Follows (Docket.rules message) k Q) :
    ∃ k', Fits message task k' b' ∧ rest.Follows (Docket.rules message) k' Q := by
  induction h with
  | start => exact ⟨k, fits, hp⟩
  | moved before moves ih =>
    obtain ⟨k', fits, follows⟩ := ih
    exact ⟨k', fits.moved moves, follows⟩
  | answered before answers ih =>
    obtain ⟨k', fits, may, follows⟩ := ih
    exact ⟨_, fits.answered may answers, follows _ trivial⟩

end Bench

end GridAgent.Cluster
