import GridAgent.Health.Report
import GridAgent.Json.Fields
import GridAgent.Session
import GridAgent.Task.Record
import GridAgent.Time.Timestamp

/-!
# Records in JSON

How records and their parts are written as JSON and read back. Identifiers are objects with the
digits, sets are arrays in ascending order, dates are texts in UTC, spans are seconds and
nanoseconds, and statuses are their names. Optional fields may be missing.
-/

namespace GridAgent

open Json (Fields)

/-! ## Names -/

/-- Reads a name: a text, or an object whose only member has that name and is null. -/
def Json.nameOf? : Json → Option String
  | .str s => some s
  | .obj [(name, .null)] => some name
  | _ => none

/-- Reads a task status. -/
def TaskStatus.ofJson? (j : Json) : Option TaskStatus := j.nameOf? >>= ofName?

/-- Reads a session status. -/
def SessionStatus.ofJson? (j : Json) : Option SessionStatus := j.nameOf? >>= ofName?

/-- Reads a disposition. -/
def Disposition.ofJson? (j : Json) : Option Disposition := j.nameOf? >>= ofName?

/-- Reads an output status. -/
def OutputStatus.ofJson? (j : Json) : Option OutputStatus := j.nameOf? >>= ofName?

/-- Reads a state of health. -/
def HealthStatus.ofJson? (j : Json) : Option HealthStatus := j.nameOf? >>= ofName?

/-- Reads a probe. -/
def Probe.ofJson? (j : Json) : Option Probe := j.nameOf? >>= ofName?

/-! ## Identifiers, dates and spans -/

namespace Id

variable {kind : IdKind}

/-- The written form of an identifier. -/
def toJson (id : Id kind) : Json := .obj [("ulid", .str id.digits)]

/-- Reads the digits of an identifier. -/
def ofDigitsJson? (j : Json) : Option (Id kind) := j.text? >>= fun s => (ofDigits s).toOption

/-- Reads an identifier. -/
def ofJson? (j : Json) : Option (Id kind) := do
  let f ← j.allFields? ["ulid"]
  f.required ofDigitsJson? "ulid"

end Id

/-- The written form of a pod. -/
def PodId.toJson (pod : PodId) : Json := .str pod.name

/-- Reads a pod. -/
def PodId.ofJson? (j : Json) : Option PodId := j.text?.map PodId.mk

/-- The written form of a set. -/
def IdSet.toJson {kind : IdKind} (s : IdSet kind) : Json := .arr (s.toList.map Id.toJson)

/-- Reads a set, in any order and with repetitions. -/
def IdSet.ofJson? {kind : IdKind} (j : Json) : Option (IdSet kind) :=
  (j.listOf? Id.ofJson?).map IdSet.ofList

/-- The written form of a date. -/
def Date.toJson (d : Date) : Json := .str d.write

/-- Reads a date. -/
def Date.ofJson? (j : Json) : Option Date := j.text? >>= Date.read?

/-- The written form of a span. -/
def Span.toJson (s : Span) : Json :=
  .obj [("secs", .ofNat s.seconds), ("nanos", .ofNat s.subsecond)]

/-- No member of an object has a name beyond these. -/
def Json.hasOnly (names : List String) : Json → Bool
  | .obj members => members.all fun m => names.contains m.1
  | _ => true

/-- Reads a span. It has no other members, and its seconds fit 64 bits once whole seconds are
carried over from the nanoseconds. -/
def Span.ofJson? (j : Json) : Option Span := do
  let f ← j.allFields? ["secs", "nanos"]
  let secs ← f.required (Json.natOfBits? 64) "secs"
  let nanos ← f.required (Json.natOfBits? 32) "nanos"
  let span : Span := ⟨secs * nanosPerSecond + nanos⟩
  if j.hasOnly ["secs", "nanos"] && span.seconds < Nat.pow 2 64 then return span else none

/-! ## Options, outputs, records -/

namespace Options

/-- The fields in order. -/
def fieldNames : List String :=
  ["max_duration_ms", "max_retries", "priority", "partition_id", "application_name", "options"]

/-- The written form of options. -/
def toJson (o : Options) : Json :=
  .obj [
    ("max_duration_ms", .ofOption .ofNat o.maxDurationMillis),
    ("max_retries", .ofOption .ofNat o.maxRetries),
    ("priority", .int o.priority),
    ("partition_id", .ofText? o.partitionId),
    ("application_name", .ofText? o.applicationName),
    ("options", .obj (o.extra.entries.map fun e => (e.1, .str e.2)))]

/-- Reads a dictionary of texts. -/
def readExtra : Json → Option Text.Dictionary
  | .obj members => do
    let entries ← members.mapM fun (name, value) => value.text?.map fun s => (name, s)
    return .ofList entries
  | _ => none

/-- Reads options. The free-form ones may be missing but not null. -/
def ofJson? (j : Json) : Option Options := do
  let f ← j.fields? fieldNames 5
  return {
    maxDurationMillis := ← f.optional (Json.natOfBits? 64) "max_duration_ms"
    maxRetries := ← f.optional (Json.natOfBits? 32) "max_retries"
    priority := ← f.required (Json.intIn? (-Nat.pow 2 31) (Nat.pow 2 31 - 1)) "priority"
    partitionId := ← f.optional Json.text? "partition_id"
    applicationName := ← f.optional Json.text? "application_name"
    extra := ← f.withDefault readExtra .empty "options" }

end Options

/-- The written form of an output. -/
def Output.toJson (o : Output) : Json :=
  .obj [("status", .str o.status.name), ("error", .ofText? o.error)]

/-- Reads an output. -/
def Output.ofJson? (j : Json) : Option Output := do
  let f ← j.allFields? ["status", "error"]
  return ⟨← f.required OutputStatus.ofJson? "status", ← f.optional Json.text? "error"⟩

/-- The written form of a report. -/
def HealthReport.toJson (r : HealthReport) : Json :=
  .obj [("status", .str r.status.name), ("description", .ofText? r.description)]

/-- Reads a report. -/
def HealthReport.ofJson? (j : Json) : Option HealthReport := do
  let f ← j.allFields? ["status", "description"]
  return ⟨← f.required HealthStatus.ofJson? "status", ← f.optional Json.text? "description"⟩

/-- The written form of a session. -/
def SessionRecord.toJson (s : SessionRecord) : Json :=
  .obj [
    ("session_id", s.id.toJson),
    ("status", .str s.status.name),
    ("partition_ids", .arr (s.partitions.map .str)),
    ("default_options", s.defaults.toJson)]

/-- Reads a session. -/
def SessionRecord.ofJson? (j : Json) : Option SessionRecord := do
  let f ← j.allFields? ["session_id", "status", "partition_ids", "default_options"]
  return {
    id := ← f.required Id.ofJson? "session_id"
    status := ← f.required SessionStatus.ofJson? "status"
    partitions := ← f.required (Json.listOf? Json.text?) "partition_ids"
    defaults := ← f.required Options.ofJson? "default_options" }

namespace TaskRecord

/-- The written form of a record. -/
def toJson (t : TaskRecord) : Json :=
  .obj [
    ("task_id", t.id.toJson),
    ("session_id", t.session.toJson),
    ("initial_task_id", t.initial.toJson),
    ("retry_of_ids", .arr (t.ancestors.map Id.toJson)),
    ("status", .str t.status.name),
    ("owner_pod_id", .ofOption PodId.toJson t.owner),
    ("owner_pod_name", .ofText? t.ownerName),
    ("acquisition_date", .ofOption Date.toJson t.acquired),
    ("payload_id", t.payload.toJson),
    ("data_dependencies", t.dependencies.toJson),
    ("remaining_data_dependencies", t.remaining.toJson),
    ("expected_output_ids", .arr (t.outputs.map Id.toJson)),
    ("options", t.options.toJson),
    ("creation_date", t.created.toJson),
    ("submitted_date", .ofOption Date.toJson t.submitted),
    ("start_date", .ofOption Date.toJson t.started),
    ("end_date", .ofOption Date.toJson t.ended),
    ("creation_to_end_duration", .ofOption Span.toJson t.creationToEnd),
    ("processing_to_end_duration", .ofOption Span.toJson t.processingToEnd),
    ("output", .ofOption Output.toJson t.output)]

/-- The fields in order. -/
def fieldNames : List String :=
  ["task_id", "session_id", "initial_task_id", "retry_of_ids", "status", "owner_pod_id",
    "owner_pod_name", "acquisition_date", "payload_id", "data_dependencies",
    "remaining_data_dependencies", "expected_output_ids", "options", "creation_date",
    "submitted_date", "start_date", "end_date", "creation_to_end_duration",
    "processing_to_end_duration", "output"]

/-- Reads a record. -/
def ofJson? (j : Json) : Option TaskRecord := do
  let f ← j.allFields? fieldNames
  return {
    id := ← f.required Id.ofJson? "task_id"
    session := ← f.required Id.ofJson? "session_id"
    initial := ← f.required Id.ofJson? "initial_task_id"
    ancestors := ← f.required (Json.listOf? Id.ofJson?) "retry_of_ids"
    status := ← f.required TaskStatus.ofJson? "status"
    owner := ← f.optional PodId.ofJson? "owner_pod_id"
    ownerName := ← f.optional Json.text? "owner_pod_name"
    acquired := ← f.optional Date.ofJson? "acquisition_date"
    payload := ← f.required Id.ofJson? "payload_id"
    dependencies := ← f.required IdSet.ofJson? "data_dependencies"
    remaining := ← f.required IdSet.ofJson? "remaining_data_dependencies"
    outputs := ← f.required (Json.listOf? Id.ofJson?) "expected_output_ids"
    options := ← f.required Options.ofJson? "options"
    created := ← f.required Date.ofJson? "creation_date"
    submitted := ← f.optional Date.ofJson? "submitted_date"
    started := ← f.optional Date.ofJson? "start_date"
    ended := ← f.optional Date.ofJson? "end_date"
    creationToEnd := ← f.optional Span.ofJson? "creation_to_end_duration"
    processingToEnd := ← f.optional Span.ofJson? "processing_to_end_duration"
    output := ← f.optional Output.ofJson? "output" }

end TaskRecord

end GridAgent
