import GridAgent.Demo
import GridAgent.Toml.Reader

/-!
# Command line

Runs the demonstration with the settings of a file, or with two slots when no file is given, and
prints its report. Time is simulated; only the settings file and the scratch root are real.
-/

namespace GridAgent.Main

/-- A number drawn at random. -/
def draw (bits : Nat) : IO Nat := IO.rand 0 (Nat.pow 2 bits - 1)

/-- An identifier drawn at random. -/
def drawId : IO TaskId := do
  let time ← IO.monoMsNow
  return .stamped time (.ofNat 80 (← draw 80))

/-- Settings on top of which those of a file are read. -/
def freshDefaults : IO Settings := do
  let pod := "pollster-" ++ (← drawId).digits
  let area := (← IO.getEnv "TMPDIR").getD "/tmp"
  return .defaults pod (Scratch.joinPath area "pollster")

/-- The settings of a run. -/
def settingsFor (arguments : List String) : IO (Except SettingsError Settings) := do
  let defaults ← freshDefaults
  match arguments with
  | path :: _ => return defaults.ofToml (← IO.FS.readFile path)
  | [] => return defaults.build [.slots 2]

/-- A directory cannot be made here. -/
def isBlocked (path : String) : IO Bool := do
  try
    IO.FS.createDirAll path
    return false
  catch _ => return true

/-- Runs the demonstration and prints its report. -/
def report (settings : Settings) : IO Unit := do
  let plan : Demo.Plan := {
    settings
    clock := .epoch
    base := (← drawId).value.toNat
    blocked := ← isBlocked settings.scratchRoot }
  for line in (Demo.run plan).lines do
    IO.println line

/-- Runs the command. -/
def run (arguments : List String) : IO UInt32 := do
  try
    match ← settingsFor arguments with
    | .ok settings =>
      report settings
      return 0
    | .error cause =>
      IO.eprintln (Demo.refusal cause)
      return 1
  catch cause =>
    IO.eprintln ("Error: " ++ toString cause)
    return 1

end GridAgent.Main

/-- The command. -/
def main (arguments : List String) : IO UInt32 := GridAgent.Main.run arguments
