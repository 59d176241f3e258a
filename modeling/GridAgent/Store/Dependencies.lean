import GridAgent.Id.Set
import GridAgent.Table

/-!
# Dependencies

A task waits for data, and data is waited for by tasks. The same edges are kept from both sides:
what a task still waits for, and who waits for a data object. No entry is ever an empty set. Data
that becomes available drops its edges; data that will never exist takes every task waiting for it
out of the index.
-/

namespace GridAgent

/-- Who waits for what. -/
structure Dependencies where
  /-- What each waiting task still waits for. -/
  awaited : Table TaskId (IdSet .data) := .empty
  /-- Who waits for each data object. -/
  waiting : Table DataId (IdSet .task) := .empty

namespace Dependencies

instance : Inhabited Dependencies := ⟨{}⟩

/-- Adds an edge from one side. -/
def link {a b : IdKind} (near : Id a) (far : Id b) (t : Table (Id a) (IdSet b)) :
    Table (Id a) (IdSet b) :=
  t.set near (((t.get? near).getD .empty).insert far)

/-- Removes an edge from one side; a set that becomes empty leaves with it. -/
def unlink {a b : IdKind} (near : Id a) (far : Id b) (t : Table (Id a) (IdSet b)) :
    Table (Id a) (IdSet b) :=
  match t.get? near with
  | none => t
  | some others =>
    let others := others.erase far
    if others.isEmpty then t.erase near else t.set near others

/-- The task waits for the data. -/
def add (g : Dependencies) (task : TaskId) (data : DataId) : Dependencies where
  awaited := link task data g.awaited
  waiting := link data task g.waiting

/-- What a task waits for. -/
def awaitedBy (g : Dependencies) (task : TaskId) : IdSet .data := (g.awaited.get? task).getD .empty

/-- Who waits for the data, in ascending order. -/
def waitingFor (g : Dependencies) (data : DataId) : List TaskId :=
  ((g.waiting.get? data).getD .empty).toList

/-- The task waits for something. -/
def isWaiting (g : Dependencies) (task : TaskId) : Bool := !(g.awaitedBy task).isEmpty

/-- The data is available: its edges go. Answers who waited for it, and whether each of them waits
for nothing now. -/
def resolve (g : Dependencies) (data : DataId) : List (TaskId × Bool) × Dependencies :=
  let waiting := g.waitingFor data
  (waiting.map fun task => (task, ((g.awaitedBy task).erase data).isEmpty),
    { awaited := waiting.foldl (fun awaited task => unlink task data awaited) g.awaited
      waiting := g.waiting.erase data })

/-- Takes a task out of the index with all its edges. -/
def leave (g : Dependencies) (task : TaskId) : Dependencies where
  awaited := g.awaited.erase task
  waiting :=
    (g.awaitedBy task).toList.foldl (fun waiting data => unlink data task waiting) g.waiting

/-- The data will never exist: everyone waiting for it leaves the index. Answers who did. -/
def abort (g : Dependencies) (data : DataId) : List TaskId × Dependencies :=
  let waiting := g.waitingFor data
  (waiting, waiting.foldl leave { g with waiting := g.waiting.erase data })

end Dependencies

end GridAgent
