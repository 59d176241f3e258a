import GridAgent.Error
import GridAgent.Health.Report
import GridAgent.Store.Dependencies
import GridAgent.Task.Lineage

/-!
# The store

The store keeps the task records, the successor of each retried task, which data is available or
will never exist, and a log of every status it wrote. Agents use four calls: reading a record, a
conditional update, creating a successor and finding one. Each call happens at once; it may be made
to fail a number of times first, and then it changes nothing but that number. Results become
available or are given up by `resolveData` and `abortData`, which move the tasks that wait for them.
-/

namespace GridAgent

/-- State of the store. -/
structure Store where
  /-- The record of each task. -/
  tasks : Table TaskId TaskRecord := .empty
  /-- The successor of each retried task. -/
  successors : Table TaskId TaskId := .empty
  /-- Who waits for what. -/
  dependencies : Dependencies := {}
  /-- Data that has been produced. -/
  available : IdSet .data := .empty
  /-- Data that will never be produced. -/
  aborted : IdSet .data := .empty
  /-- Every status written, oldest first. -/
  log : List (TaskId × TaskStatus) := []
  /-- Calls still to fail. -/
  failures : Nat := 0
  /-- Answer to probes; healthy when unset. -/
  health : Option HealthReport := none

/-- A call to the store: an answer and the state after it. -/
abbrev Store.Call (α : Type) : Type := Store → Except StoreError α × Store

namespace Store

instance : Inhabited Store := ⟨{}⟩

/-- Answer to a probe. -/
def report (s : Store) : HealthReport := s.health.getD .healthy

/-- A call that fails for as long as failures are left. -/
def Call.fallible {α : Type} (call : Call α) : Call α := fun s =>
  if 0 < s.failures then
    (.error (.unavailable "injected failure"), { s with failures := s.failures - 1 })
  else call s

/-- A record without dependencies on data that is available already. -/
def withoutAvailable (s : Store) (task : TaskRecord) : TaskRecord :=
  { task with remaining := task.remaining.filter fun data => !s.available.contains data }

/-- Puts a record in, new or in place of the one before. It waits for what it still needs. -/
def insert (s : Store) (task : TaskRecord) : Store :=
  let task := s.withoutAvailable task
  { s with
    dependencies := task.remaining.toList.foldl (fun g data => g.add task.id data) s.dependencies
    log := s.log ++ [(task.id, task.status)]
    tasks := s.tasks.set task.id task }

/-- The record of a task. -/
def get? (s : Store) (task : TaskId) : Option TaskRecord := s.tasks.get? task

/-- The tasks in ascending order. -/
def taskIds (s : Store) : List TaskId := s.tasks.keys.mergeSort Id.le

/-- Every status written for a task, oldest first. -/
def transitionsOf (s : Store) (task : TaskId) : List TaskStatus :=
  (s.log.filter fun e => e.1 = task).map Prod.snd

/-- Every attempt of a lineage, by number of ancestors and then by identifier. -/
def lineage (s : Store) (initial : TaskId) : List TaskRecord :=
  (s.tasks.values.filter fun t => t.initial = initial).mergeSort fun a b =>
    if a.ancestors.length = b.ancestors.length then Id.le a.id b.id
    else a.ancestors.length < b.ancestors.length

/-- Reads a record. -/
def read (task : TaskId) : Call (Option TaskRecord) :=
  Call.fallible fun s => (.ok (s.get? task), s)

/-- Applies an update to a record that is what the update expects. -/
def update (task : TaskId) (expected : Expectation) (change : TaskUpdate) : Call TaskRecord :=
  Call.fallible fun s =>
    match s.get? task with
    | none => (.error (.notFound task), s)
    | some record =>
      if expected.holds record then
        let record := record.apply change
        (.ok record,
          { s with tasks := s.tasks.set task record, log := s.log ++ [(task, record.status)] })
      else (.error (.conflict ⟨record.status, record.owner⟩), s)

/-- The stored successor of a task. -/
def successor? (s : Store) (task : TaskId) : Option TaskRecord :=
  (s.successors.get? task).bind s.get?

/-- Gives a task a successor, unless it has one already. Answers the successor. -/
def createSuccessor (parent candidate : TaskRecord) : Call TaskRecord :=
  Call.fallible fun s =>
    match s.successor? parent.id with
    | some existing => (.ok existing, s)
    | none =>
      (.ok candidate,
        { s with successors := s.successors.set parent.id candidate.id }.insert candidate)

/-- Finds the successor of a task. -/
def findSuccessor (task : TaskId) : Call (Option TaskRecord) :=
  Call.fallible fun s => (.ok (s.successor? task), s)

/-- The task is stored with one of the statuses. -/
def hasStatus (s : Store) (task : TaskId) (statuses : List TaskStatus) : Bool :=
  match s.get? task with
  | some record => statuses.contains record.status
  | none => false

/-- Changes the records of several tasks. -/
def modifyAll (s : Store) (tasks : List TaskId) (f : TaskRecord → TaskRecord) : Store :=
  { s with tasks := tasks.foldl (fun records task => records.modify task f) s.tasks }

/-- Writes an update to several records, and logs it. -/
def writeAll (s : Store) (tasks : List TaskId) (change : TaskUpdate) : Store :=
  let s := s.modifyAll tasks fun t => t.apply change
  { s with log := s.log ++ tasks.map fun task => (task, change.status) }

/-- The data has been produced. Tasks in creation that wait for nothing any more become submitted;
answers which. -/
def resolveData (s : Store) (data : DataId) (now : Date) : List TaskId × Store :=
  let (waited, dependencies) := s.dependencies.resolve data
  let s := { s with available := s.available.insert data, dependencies }
  let s := s.modifyAll (waited.map Prod.fst) fun t =>
    { t with remaining := t.remaining.erase data }
  let unblocked := (waited.filter fun w => w.2 && s.hasStatus w.1 [.creating]).map Prod.fst
  (unblocked, s.writeAll unblocked { status := .submitted, submitted := some now })

/-- The data will never be produced. Tasks in creation or held back that wait for it end with an
error; answers which. -/
def abortData (s : Store) (data : DataId) (now : Date) : List TaskId × Store :=
  let (waited, dependencies) := s.dependencies.abort data
  let s := { s with aborted := s.aborted.insert data, dependencies }
  let failed := waited.filter fun task => s.hasStatus task [.creating, .pending]
  let output := Output.failure ("input data " ++ data.toString ++ " was aborted")
  (failed, s.writeAll failed (TaskUpdate.finish .error output now))

end Store

end GridAgent
