import GridAgent.Task.Record

/-!
# Drafts

A draft describes a record or an update and leaves out what follows from the clock or is usually the
same. Dates that are left out are the reading of the clock when the draft is filled in.
-/

namespace GridAgent

/-- Description of a task record. -/
structure TaskDraft where
  /-- The task. -/
  id : TaskId
  /-- Its session. -/
  session : SessionId := .ofNat 1
  /-- The object that the worker is given. -/
  payload : DataId := .ofNat 100
  /-- Where the task is in its life. -/
  status : TaskStatus := .submitted
  /-- Pod that holds the task. -/
  owner : Option PodId := none
  /-- When the owner took the task; the clock's reading when left out. -/
  acquired : Option (Option Date) := none
  /-- Data the task needs. -/
  dependencies : List DataId := []
  /-- Data that is not resolved yet; all of it when left out. -/
  remaining : Option (List DataId) := none
  /-- Results the task is expected to produce. -/
  outputs : List DataId := []
  /-- Execution options. -/
  options : Options := {}
  /-- When the record was made; the clock's reading when left out. -/
  created : Option Date := none
  /-- Ancestors in the lineage, oldest first. -/
  ancestors : List TaskId := []
  /-- Root of the lineage; the task itself when left out. -/
  initial : Option TaskId := none
  /-- When the task became ready. -/
  submitted : Option Date := none
  /-- When execution started. -/
  started : Option Date := none
  /-- Output of the execution. -/
  output : Option Output := none

/-- The described record, at a reading of the clock. -/
def TaskDraft.record (d : TaskDraft) (now : Date) : TaskRecord :=
  { TaskRecord.first d.id d.session d.payload d.options (d.created.getD now) with
    initial := d.initial.getD d.id
    ancestors := d.ancestors
    status := d.status
    owner := d.owner
    ownerName := d.owner.map PodId.name
    acquired := d.owner.bind fun _ => d.acquired.getD (some now)
    dependencies := .ofList d.dependencies
    remaining := .ofList (d.remaining.getD d.dependencies)
    outputs := d.outputs
    submitted := d.submitted
    started := d.started
    output := d.output }

/-- What an update is made from. -/
inductive UpdateKind where
  /-- A pod claims the task. -/
  | dispatch (pod : PodId) (name : String) (now : Option Date)
  /-- The task goes back to the queue. -/
  | release (now : Option Date)
  /-- The task ends with an output. -/
  | finish (status : TaskStatus) (output : Output) (now : Option Date)
  /-- A status, and an output if there is one. -/
  | plain (status : TaskStatus) (output : Option Output)

/-- Description of an update: its kind, and what is replaced in it. -/
structure UpdateDraft where
  /-- What the update is made from. -/
  kind : UpdateKind
  /-- Owner change in place of that of the kind. -/
  owner : Option OwnerChange := none
  /-- Date of acquisition in place of that of the kind. -/
  acquired : Option Date := none
  /-- Date of submission in place of that of the kind. -/
  submitted : Option Date := none
  /-- Start date in place of that of the kind. -/
  started : Option Date := none
  /-- End date in place of that of the kind. -/
  ended : Option Date := none

/-- The update of a kind, at a reading of the clock. -/
def UpdateKind.update (clock : Date) : UpdateKind → TaskUpdate
  | .dispatch pod name now => .dispatch pod name (now.getD clock)
  | .release now => .release (now.getD clock)
  | .finish status output now => .finish status output (now.getD clock)
  | .plain status output => { status, output }

/-- The described update, at a reading of the clock. -/
def UpdateDraft.update (d : UpdateDraft) (clock : Date) : TaskUpdate :=
  let u := d.kind.update clock
  { u with
    owner := d.owner.getD u.owner
    acquired := d.acquired.or u.acquired
    submitted := d.submitted.or u.submitted
    started := d.started.or u.started
    ended := d.ended.or u.ended }

end GridAgent
