import GridAgent.Json.Short
import GridAgent.Task.Draft

/-!
# Drafts in JSON

How drafts of records and updates are written in short form. What a draft leaves out is filled in
later.
-/

namespace GridAgent

open Json

/-- Reads a pod by its name. -/
def PodId.ofShort? (j : Json) : Option PodId := j.text?.map PodId.mk

/-- Reads a task status by its name. -/
def TaskStatus.ofShort? : Json → Option TaskStatus := named? ofName?

/-- Reads further options. -/
def Text.Dictionary.ofShort? : Json → Option Text.Dictionary
  | .obj members => do
    let entries ← members.mapM fun (name, value) => value.text?.map fun s => (name, s)
    return .ofList entries
  | _ => none

/-- Reads options. -/
def Options.ofShort? (j : Json) : Option Options := do
  return {
    maxDurationMillis := ← j.maybe "max_duration_ms" nat?
    maxRetries := ← j.maybe "max_retries" nat?
    priority := ← j.orDefault "priority" 0 int?
    partitionId := ← j.maybe "partition_id" Json.text?
    applicationName := ← j.maybe "application_name" Json.text?
    extra := ← j.orDefault "options" .empty Text.Dictionary.ofShort? }

/-- Reads an output. -/
def Output.ofShort? (j : Json) : Option Output := do
  return ⟨← j.need "status" (named? OutputStatus.ofName?), ← j.maybe "error" Json.text?⟩

/-- Reads the date of acquisition. An explicit null means that there is none. -/
def acquisitionOfShort? (j : Json) : Option (Option (Option Date)) :=
  match j.member? "acquired" with
  | none => some none
  | some .null => some (some none)
  | some v => (date? v).map fun d => some (some d)

/-- Reads a draft of a record. -/
def TaskDraft.ofShort? (j : Json) : Option TaskDraft := do
  return {
    id := ← j.need "id" id?
    session := ← j.orDefault "session" (.ofNat 1) id?
    payload := ← j.orDefault "payload" (.ofNat 100) id?
    status := ← j.orDefault "status" .submitted TaskStatus.ofShort?
    owner := ← j.maybe "owner" PodId.ofShort?
    acquired := ← acquisitionOfShort? j
    dependencies := ← j.orDefault "deps" [] (list? id?)
    remaining := ← j.maybe "remaining" (list? id?)
    outputs := ← j.orDefault "outputs" [] (list? id?)
    options := ← j.orDefault "options" {} Options.ofShort?
    created := ← j.maybe "created" date?
    ancestors := ← j.orDefault "retry_of" [] (list? id?)
    initial := ← j.maybe "initial" id?
    submitted := ← j.maybe "submitted" date?
    started := ← j.maybe "started" date?
    output := ← j.maybe "output" Output.ofShort? }

/-- Reads an owner change. -/
def OwnerChange.ofShort? : Json → Option OwnerChange
  | .str "keep" => some .keep
  | .str "clear" => some .clear
  | j => do return .assign (← j.need "pod" PodId.ofShort?) (← j.need "name" Json.text?)

/-- Reads what an update is made from. -/
def UpdateKind.ofShort? (j : Json) : Option UpdateKind := do
  match ← j.maybe "make" Json.text? with
  | some "dispatch" =>
    return .dispatch (← j.need "pod" PodId.ofShort?) (← j.need "name" Json.text?)
      (← j.maybe "now" date?)
  | some "release" => return .release (← j.maybe "now" date?)
  | some "finish" =>
    return .finish (← j.need "status" TaskStatus.ofShort?) (← j.need "output" Output.ofShort?)
      (← j.maybe "now" date?)
  | some _ => none
  | none =>
    return .plain (← j.need "status" TaskStatus.ofShort?) (← j.maybe "output" Output.ofShort?)

/-- Reads a draft of an update. -/
def UpdateDraft.ofShort? (j : Json) : Option UpdateDraft := do
  return {
    kind := ← UpdateKind.ofShort? j
    owner := ← j.maybe "owner" OwnerChange.ofShort?
    acquired := ← j.maybe "acquisition_date" date?
    submitted := ← j.maybe "submitted_date" date?
    started := ← j.maybe "start_date" date?
    ended := ← j.maybe "end_date" date? }

/-- Reads the owner that is expected. -/
def OwnerMatch.ofShort? : Json → Option OwnerMatch
  | .str "any" => some .any
  | .str "unowned" => some .unowned
  | j => do return .is (← j.need "is" PodId.ofShort?)

/-- Reads an expectation. -/
def Expectation.ofShort? (j : Json) : Option Expectation := do
  return ⟨← j.need "statuses" (list? TaskStatus.ofShort?),
    ← j.orDefault "owner" .any OwnerMatch.ofShort?⟩

end GridAgent
