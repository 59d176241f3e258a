import GridAgent.Finalizer
import GridAgent.Proofs.Cluster.Run
import GridAgent.Proofs.Store.Settling
import GridAgent.Proofs.Store.Visits
import GridAgent.Queue

/-!
# A finalizer at its desk

A finalizer works on a store and a queue that nobody else touches meanwhile. The clock says what it
likes, the tasks that wait for settled data are visited in any order, and the queue may refuse a push:
which of it happens goes by the number of calls made so far.
-/

namespace GridAgent

/-- One program after the other runs on from where the first one ends. -/
theorem Program.run_bind {I : Interface} {α β σ : Type}
    (reply : (request : I.Request) → σ → I.Reply request × σ) (p : Program I α)
    (f : α → Program I β) (s : σ) :
    (p.bind f).run reply s = (f (p.run reply s).1).run reply (p.run reply s).2 := by
  induction p generalizing s with
  | done value => rfl
  | call request next ih => exact ih _ _

namespace Finalizer

/-- What lies before a finalizer. -/
structure Desk where
  /-- The store. -/
  store : Store
  /-- The queue. -/
  queue : Queue := {}
  /-- Calls made so far. -/
  turn : Nat := 0
  /-- Everybody who was handed to the queue so far, in order, taken or not. -/
  handed : List TaskId := []

/-- What a finalizer has no say in, by the number of calls made before. -/
structure Circumstances where
  /-- What the clock says. -/
  clock : Nat → Date
  /-- In which order tasks are visited. -/
  visits : Nat → Visit := fun _ => .ascending
  /-- Why the queue refuses a push, if it does. -/
  refusal : Nat → Option QueueError := fun _ => none

/-- Hands tasks to the queue, which takes them or not. -/
def Desk.push (d : Desk) (c : Circumstances) (tasks : List TaskId) : Except QueueError Unit × Desk :=
  let d' := { d with turn := d.turn + 1, handed := d.handed ++ tasks }
  match c.refusal d.turn with
  | some cause => (.error cause, d')
  | none => (.ok (), { d' with queue := d.queue.push tasks })

namespace Circumstances

/-- Answers a call. Counting is none: it is there to bound the rounds. -/
def reply (c : Circumstances) : (request : Request) → Desk → request.Reply × Desk
  | .now, d => (c.clock d.turn, { d with turn := d.turn + 1 })
  | .countTasks, d => (d.store.taskIds.length, d)
  | .readTask task, d =>
    let (answer, store) := Store.read task d.store
    (answer, { d with store, turn := d.turn + 1 })
  | .resolve data now, d =>
    let (submitted, store) := d.store.resolveDataIn (c.visits d.turn) data now
    (submitted, { d with store, turn := d.turn + 1 })
  | .giveUp data now, d =>
    let (failed, store) := d.store.abortDataIn (c.visits d.turn) data now
    (failed, { d with store, turn := d.turn + 1 })
  | .push tasks, d => d.push c tasks

/-- What work that cannot fail comes to, and the desk after it. -/
def run {α : Type} (c : Circumstances) (p : Program collaborators α) (d : Desk) : α × Desk :=
  Program.run (I := collaborators) c.reply p d

/-- What work comes to, and the desk after it. -/
def does {α : Type} (c : Circumstances) (p : Action α) (d : Desk) : Except AgentError α × Desk :=
  c.run p.run d

variable {α β : Type} {c : Circumstances} {d : Desk} {task : TaskId}

/-- Work goes on where the work before it ends. -/
theorem run_bind (p : Program collaborators α) (f : α → Program collaborators β) :
    c.run (p.bind f) d = c.run (f (c.run p d).1) (c.run p d).2 :=
  Program.run_bind (I := collaborators) c.reply p f d

/-- Work goes on after work that comes to a value. -/
theorem does_bind {p : Action α} {f : α → Action β} {value : α} {d' : Desk}
    (h : c.does p d = (.ok value, d')) : c.does (p >>= f) d = c.does (f value) d' := by
  have first : c.run p.run d = (.ok value, d') := h
  show c.run (Program.bind p.run _) d = _
  rw [run_bind, first]
  rfl

/-- Work goes on after work that cannot fail. -/
theorem does_lift {p : Program collaborators α} {f : α → Action β} :
    c.does (liftM p >>= f) d = c.does (f (c.run p d).1) (c.run p d).2 :=
  does_bind (p := liftM p) (run_bind p _)

/-- A record is read. -/
theorem does_readTask (healthy : d.store.failures = 0) :
    c.does (readTask task) d = (.ok (d.store.get? task), { d with turn := d.turn + 1 }) := by
  have read : Store.read task d.store = (.ok (d.store.get? task), d.store) :=
    Store.fallible_of_healthy _ healthy
  show (Except.mapError AgentError.store (Store.read task d.store).1,
    { d with store := (Store.read task d.store).2, turn := d.turn + 1 }) = _
  rw [read]
  rfl

end Circumstances

namespace Desk

/-- The desk after data is given up: the clock is read first. -/
def giveUp (d : Desk) (c : Circumstances) (data : DataId) : List TaskId × Desk :=
  let (failed, store) := d.store.abortDataIn (c.visits (d.turn + 1)) data (c.clock d.turn)
  (failed, { d with store, turn := d.turn + 2 })

/-- The desk after data has become available: the clock is read first. -/
def resolve (d : Desk) (c : Circumstances) (data : DataId) : List TaskId × Desk :=
  let (submitted, store) := d.store.resolveDataIn (c.visits (d.turn + 1)) data (c.clock d.turn)
  (submitted, { d with store, turn := d.turn + 2 })

end Desk

namespace Circumstances

variable {c : Circumstances} {d : Desk}

/-- Outputs are given up one after the other. -/
theorem run_giveUpAll_cons (data : DataId) (rest : List DataId) :
    c.run (giveUpAll (data :: rest)) d =
      ((d.giveUp c data).1 ++ (c.run (giveUpAll rest) (d.giveUp c data).2).1,
        (c.run (giveUpAll rest) (d.giveUp c data).2).2) :=
  run_bind (d := (d.giveUp c data).2) (giveUpAll rest)
    fun more => .done ((d.giveUp c data).1 ++ more)

/-- Outputs become available one after the other. -/
theorem run_resolveAll_cons (data : DataId) (rest : List DataId) :
    c.run (resolveAll (data :: rest)) d =
      ((d.resolve c data).1 ++ (c.run (resolveAll rest) (d.resolve c data).2).1,
        (c.run (resolveAll rest) (d.resolve c data).2).2) :=
  run_bind (d := (d.resolve c data).2) (resolveAll rest)
    fun more => .done ((d.resolve c data).1 ++ more)

/-- A push is made. -/
theorem does_push (tasks : List TaskId) :
    c.does (push tasks) d = (Except.mapError .queue (d.push c tasks).1, (d.push c tasks).2) := rfl

end Circumstances

namespace Desk

variable {c : Circumstances} {d : Desk}

/-- A push leaves the store alone. -/
@[simp] theorem store_push (tasks : List TaskId) : (d.push c tasks).2.store = d.store := by
  unfold push
  dsimp only
  split <;> rfl

@[simp] theorem handed_push (tasks : List TaskId) :
    (d.push c tasks).2.handed = d.handed ++ tasks := by
  unfold push
  dsimp only
  split <;> rfl

/-- A queue that refuses nothing takes the push. -/
theorem queue_push (willing : ∀ n, c.refusal n = none) (tasks : List TaskId) :
    (d.push c tasks).2.queue = d.queue.push tasks := by
  unfold push
  rw [willing]

end Desk

/-- It is always morning, tasks are visited in descending order, and the queue takes everything. -/
def Circumstances.descending : Circumstances :=
  ⟨fun _ => Cluster.morning, fun _ => .descending, fun _ => none⟩

/-- A task by numbers: what it needs, and the results that it is expected to produce. -/
def sketch (number : Nat) (status : TaskStatus) (needs outputs : List Nat) : TaskRecord :=
  { TaskRecord.first (.ofNat number) (.ofNat 1) (.ofNat 52) {} Cluster.morning with
    status
    dependencies := .ofList (needs.map .ofNat)
    remaining := .ofList (needs.map .ofNat)
    outputs := outputs.map .ofNat }

/-- Both sides of an index without edges hold the same ones. -/
theorem mirrored_empty : Dependencies.Mirrored {} := by
  intro task data
  refine iff_of_false List.not_mem_nil ?_
  show data ∉ (IdSet.empty : IdSet .data)
  exact IdSet.not_mem_empty

end Finalizer

end GridAgent
