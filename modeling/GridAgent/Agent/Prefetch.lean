import GridAgent.Agent.Infrastructure
import GridAgent.Scratch

/-!
# Prefetching

Before the worker is called, the payload of the task and then the data it needs, in ascending order,
are fetched and written into the scratch directory of the task. What the worker is sent is the
header of the task and one request for each file, in the order of writing.
-/

namespace GridAgent.Agent

/-- The header of a task as it is sent to the worker. -/
def header (t : TaskRecord) : WorkRequest :=
  .init t.id t.session t.payload t.outputs t.options

/-- Fetches an object and writes it into the scratch directory; answers the request that tells the
worker where it is. -/
def prefetchObject (s : Settings) (task : TaskId) (data : DataId) :
    Fallible StorageError WorkRequest := do
  let bytes ← fetch s data
  Call.saveScratch task data bytes
  return .data data (Scratch.filePath s.scratchRoot task data)

/-- Fetches several objects, one after the other. -/
def prefetchAll (s : Settings) (task : TaskId) :
    List DataId → Fallible StorageError (List WorkRequest)
  | [] => return []
  | data :: rest => do
    let request ← prefetchObject s task data
    let requests ← prefetchAll s task rest
    return request :: requests

/-- What a task needs: its payload, then its dependencies in ascending order. -/
def neededData (t : TaskRecord) : List DataId := t.payload :: t.dependencies.toList

/-- Fills the scratch directory of a task; answers what is sent to the worker. -/
def prefetch (s : Settings) (t : TaskRecord) : Fallible StorageError (List WorkRequest) := do
  Call.makeScratch t.id
  let requests ← prefetchAll s t.id (neededData t)
  return header t :: requests

end GridAgent.Agent
