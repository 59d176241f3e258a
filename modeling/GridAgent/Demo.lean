import GridAgent.Json.Reader
import GridAgent.Json.Writer
import GridAgent.Simulation.Scenario

/-!
# Demonstration

One agent works through one session: three tasks that greet by name, and a farewell that waits for
the result of the first greeting. The name stands in the payload of each task. The first calls to
the worker fail on purpose, so that their tasks are tried again. The agent is shut down once every
task has ended, and the report tells what was said and how each task fared.
-/

namespace GridAgent.Demo

open Simulation Agent

/-- What a demonstration starts from. -/
structure Plan where
  /-- Settings of the agent. -/
  settings : Settings
  /-- Reading of the clock. -/
  clock : Date
  /-- Identifiers count up from here. -/
  base : Nat := 0
  /-- No scratch directory can be made, because a plain file stands in the way. -/
  blocked : Bool := false

/-- Names to greet, in order. -/
def names : List String := ["pollster", "armonik", "rust"]

/-- The name in the farewell. -/
def farewell : String := "farewell"

/-- Calls to the worker that fail on purpose. -/
def failures : Nat := 2

/-- What the worker says when it fails on purpose and so many failures are left. -/
def intendedFailure (left : Nat) : Behaviour :=
  .fail ("intentional failure (left=" ++ toString left ++ ")")

/-- The failures on purpose, one a call. -/
def intendedFailures : List Behaviour :=
  (List.range failures).map fun n => intendedFailure (failures - n)

/-- The payload that holds a name. -/
def payload (name : String) : List UInt8 := (Json.obj [("name", .str name)]).write.toUTF8.toList

/-- The name in a payload. -/
def nameIn? (bytes : List UInt8) : Option String := do
  let text ← String.fromUTF8? ⟨bytes.toArray⟩
  let json ← Json.read? text
  (← json.member? "name").text?

namespace Plan

/-- The session. -/
def session (p : Plan) : SessionId := .ofNat (p.base + 1)

/-- A task by its number. -/
def task (p : Plan) (number : Nat) : TaskId := .ofNat (p.base + number)

/-- The payload of a task by its number. -/
def payloadId (p : Plan) (number : Nat) : DataId := .ofNat (p.base + number)

/-- The result of the first greeting. -/
def result (p : Plan) : DataId := .ofNat (p.base + names.length + 2)

/-- The task with a number, ready and without data to wait for. -/
def draft (p : Plan) (number : Nat) : TaskDraft :=
  { id := p.task number
    session := p.session
    payload := p.payloadId number
    options := { maxRetries := some 2 } }

/-- Stores the payload of a task and the task. -/
def submission (p : Plan) (name : String) (number : Nat) (change : TaskDraft → TaskDraft) :
    List PlainStep :=
  [.put (p.payloadId number) (payload name), .task (change (p.draft number))]

/-- The greetings, numbered from one. The first one has a result. -/
def greetings (p : Plan) : List PlainStep :=
  names.zipIdx.flatMap fun (name, n) =>
    p.submission name (n + 1) fun d => if n = 0 then { d with outputs := [p.result] } else d

/-- The farewell, which waits for the result of the first greeting. -/
def goodbye (p : Plan) : List PlainStep :=
  p.submission farewell (names.length + 1) fun d =>
    { d with status := .creating, dependencies := [p.result] }

/-- Everything that stands ready before the agent starts. -/
def preparation (p : Plan) : List PlainStep :=
  [.script intendedFailures, .session (.running p.session),
    .put p.result "greeting".toUTF8.toList] ++
  p.greetings ++ p.goodbye ++
  [.push ((List.range names.length).map fun n => p.task (n + 1))] ++
  if p.blocked then [.blockScratch] else []

/-- The whole demonstration. -/
def steps (p : Plan) : List Step :=
  p.preparation.map .plain ++ [.runToEnd 50, .check .liveness]

/-- The surroundings of the agent. -/
def setup (p : Plan) : Setup :=
  { settings := p.settings
    clock := p.clock
    workerClock := p.clock
    behaviour := .succeed
    pollTimeout := 100
    redeliveryDelay := 200
    lastTaskId := p.base + names.length + 2 }

end Plan

/-- What a worker said. -/
structure Greeting where
  /-- The spoken words. -/
  text : String
  /-- The task it was said for. -/
  task : TaskId
  /-- The attempt that the task is, from one. -/
  attempt : Nat

/-- What came of a demonstration. -/
structure Report where
  /-- What was said, in order. -/
  greetings : List Greeting
  /-- Every task, by lineage and then by attempt. -/
  tasks : List TaskRecord
  /-- How the run of the agent ended; nothing when it failed. -/
  exit : Option Exit
  /-- Health of the agent after the run. -/
  liveness : HealthStatus

/-- The attempt that a task is, from one. -/
def attemptOf (t : TaskRecord) : Nat := t.ancestors.length + 1

/-- What the worker said for a task that was completed. -/
def greetingFor? (w : World) (task : TaskId) : Option Greeting := do
  let t ← w.store.get? task
  let bytes ← (w.objects.fetch t.payload).toOption
  let name ← nameIn? bytes
  if t.status = .completed then return ⟨"Hello, " ++ name ++ "!", task, attemptOf t⟩ else none

/-- Tasks of one lineage stand together, the first attempt in front. -/
def comesBefore (a b : TaskRecord) : Bool :=
  if a.initial = b.initial then attemptOf a ≤ attemptOf b else a.initial.le b.initial

/-- How the run of the agent ended. -/
def exitOf? : Answer × Snapshot → Option Exit
  | (.ran (.reported exit) _ _, _) => some exit
  | _ => none

/-- The health in an answer to a probe. -/
def livenessOf? : Answer × Snapshot → Option HealthStatus
  | (.report report, _) => some report.status
  | _ => none

/-- Runs the demonstration. -/
def run (p : Plan) : Report :=
  let w := finalWorld p.setup p.steps
  { greetings := w.worker.calls.filterMap fun call => greetingFor? w call.1
    tasks := w.store.tasks.values.mergeSort comesBefore
    exit := w.trace.findSome? exitOf?
    liveness := (w.trace.findSome? livenessOf?).getD .unhealthy }

/-! ## Printed lines -/

/-- The line for something that was said. -/
def Greeting.line (g : Greeting) : String := g.text ++ " (task " ++ g.task.toString ++ ")"

/-- The line for a task. -/
def taskLine (t : TaskRecord) : String :=
  (Json.obj [
    ("attempt", .ofNat (attemptOf t)), ("error", .ofText? (t.output.bind Output.error)),
    ("initial_task_id", .str t.initial.toString), ("status", .str t.status.name),
    ("task_id", .str t.id.toString)]).write

/-- The last line. -/
def summaryLine (exit : Exit) (liveness : HealthStatus) : String :=
  "handled=" ++ toString exit.handled ++ " acquired=" ++ toString exit.acquired ++
    " budget_exhausted=" ++ toString exit.budgetExhausted ++ " liveness=" ++ liveness.name

/-- The last line of a report. -/
def Report.summary (r : Report) : List String :=
  (r.exit.map fun exit => summaryLine exit r.liveness).toList

/-- Every line of a report. -/
def Report.lines (r : Report) : List String :=
  r.greetings.map Greeting.line ++ r.tasks.map taskLine ++ r.summary

/-- What is printed about settings that cannot be used. -/
def refusal : SettingsError → String
  | .zero field => "Error: ZeroValue \x7b field: " ++ Text.Quoted.encode field ++ " \x7d"
  | .multiplier value => "Error: InvalidMultiplier(" ++ Decimal.diagnostic value ++ ")"
  | .emptyPodId => "Error: EmptyPodId"
  | .malformed => "Error: Parse"

end GridAgent.Demo
