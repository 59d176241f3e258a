import GridAgent.Error
import GridAgent.Program
import GridAgent.Task.Record

/-!
# Settling results

The results of a task are settled once the task has ended. A completed task makes its outputs
available, and the tasks that waited for nothing else are pushed to the queue. The outputs of a task
that ended without producing them are given up; the tasks that fail for it give up their own outputs
in turn. Each call is made once: a failure ends the work where it stands.
-/

namespace GridAgent.Finalizer

/-- One call of the finalizer. -/
inductive Request where
  /-- Reads the clock. -/
  | now
  /-- Counts the stored tasks. -/
  | countTasks
  /-- Reads a record. -/
  | readTask (task : TaskId)
  /-- Makes data available; answers the tasks that became submitted. -/
  | resolve (data : DataId) (now : Date)
  /-- Gives data up; answers the tasks that failed for it. -/
  | giveUp (data : DataId) (now : Date)
  /-- Pushes tasks to the queue. -/
  | push (tasks : List TaskId)

/-- What each call answers. -/
def Request.Reply : Request → Type
  | now => Date
  | countTasks => Nat
  | readTask _ => Except StoreError (Option TaskRecord)
  | resolve .. => List TaskId
  | giveUp .. => List TaskId
  | push _ => Except QueueError Unit

/-- The collaborators of the finalizer. -/
def collaborators : Interface := ⟨Request, Request.Reply⟩

/-- A program of the finalizer that may fail. -/
abbrev Action (α : Type) : Type := ExceptT AgentError (Program collaborators) α

/-- Makes a request. -/
def ask (request : Request) : Program collaborators request.Reply := .call request .done

/-- Reads the clock. -/
def readClock : Program collaborators Date := ask .now

/-- Counts the stored tasks. -/
def countTasks : Program collaborators Nat := ask .countTasks

/-- Reads a record. -/
def readTask (task : TaskId) : Action (Option TaskRecord) :=
  ExceptT.adapt AgentError.store (ask (.readTask task) : ExceptT StoreError (Program _) _)

/-- Makes data available; answers the tasks that became submitted. -/
def resolve (data : DataId) (now : Date) : Program collaborators (List TaskId) :=
  ask (.resolve data now)

/-- Gives data up; answers the tasks that failed for it. -/
def giveUp (data : DataId) (now : Date) : Program collaborators (List TaskId) :=
  ask (.giveUp data now)

/-- Pushes tasks to the queue. -/
def push (tasks : List TaskId) : Action Unit :=
  ExceptT.adapt AgentError.queue (ask (.push tasks) : ExceptT QueueError (Program _) _)

/-- Makes several outputs available; answers the tasks that became submitted, in order. -/
def resolveAll : List DataId → Program collaborators (List TaskId)
  | [] => return []
  | data :: rest => do
    let now ← readClock
    let submitted ← resolve data now
    let more ← resolveAll rest
    return submitted ++ more

/-- Gives several outputs up; answers the tasks that failed, in order. -/
def giveUpAll : List DataId → Program collaborators (List TaskId)
  | [] => return []
  | data :: rest => do
    let now ← readClock
    let failed ← giveUp data now
    let more ← giveUpAll rest
    return failed ++ more

/-- Makes the outputs of a task available. -/
def finalize (task : TaskId) : Action Unit := do
  match ← readTask task with
  | none => return ()
  | some t =>
    let submitted ← resolveAll t.outputs
    if submitted.isEmpty then return () else push submitted

/-- Gives up the outputs of a task; answers the tasks that failed for it. -/
def abandonOne (task : TaskId) : Action (List TaskId) := do
  match ← readTask task with
  | none => return []
  | some t => giveUpAll t.outputs

/-- Gives up the outputs of the pending tasks, the last one first, and of those that fail for it. -/
def abandonWithin : (rounds : Nat) → (pending : List TaskId) → Action Unit
  | 0, _ => return ()
  | rounds + 1, pending =>
    match pending.getLast? with
    | none => return ()
    | some task => do
      let failed ← abandonOne task
      abandonWithin rounds (pending.dropLast ++ failed)

/-- Gives up the outputs of a task and of all that fail for it. A task fails once, so there are no
more rounds than tasks, and one for the first. -/
def abandon (task : TaskId) : Action Unit := do
  let tasks ← countTasks
  abandonWithin (tasks + 1) [task]

end GridAgent.Finalizer
