import GridAgent.Health.Report

/-!
# Health monitor

The monitor counts failures in a row. Once there are more than the budget allows it fails and stays
failed until it is reset; a negative budget allows any number. An unhealthy answer to a liveness
probe makes it fail too. `recordError` answers whether this very failure used up the budget.

An agent keeps the counts in 64 bits and compares the one of a row with its budget as a signed number.
Here they are natural numbers, which is exact below 2 ^ 63 failures in a row and 2 ^ 64 in all.
-/

namespace GridAgent

/-- Error budget and latched liveness of one agent. -/
structure HealthMonitor where
  /-- Failures in a row that are tolerated; negative for any number. -/
  budget : Int
  /-- Failures since the last success. -/
  consecutive : Nat := 0
  /-- Failures since the last reset. -/
  total : Nat := 0
  /-- The agent has started. -/
  initialized : Bool := false
  /-- The agent is unhealthy until reset. -/
  failed : Bool := false
  deriving DecidableEq, Repr

namespace HealthMonitor

/-- Counts a failure; answers whether this failure exhausted the budget. -/
def recordError (m : HealthMonitor) : Bool × HealthMonitor :=
  let counted := { m with consecutive := m.consecutive + 1, total := m.total + 1 }
  if m.budget < 0 then (false, counted)
  else if m.budget < counted.consecutive then (!m.failed, { counted with failed := true })
  else (false, counted)

/-- Ends a row of failures. -/
def recordSuccess (m : HealthMonitor) : HealthMonitor := { m with consecutive := 0 }

/-- Fails for a reason other than the budget. -/
def latch (m : HealthMonitor) : HealthMonitor := { m with failed := true }

/-- The agent has started. -/
def markInitialized (m : HealthMonitor) : HealthMonitor := { m with initialized := true }

/-- Forgets all failures; that the agent has started stays. -/
def reset (m : HealthMonitor) : HealthMonitor :=
  { m with consecutive := 0, total := 0, failed := false }

/-- Answers a probe, given what the dependencies of the agent report. Startup asks whether the agent
has started and readiness whether every dependency can be reached; liveness is unhealthy for a
failed agent, and an unhealthy answer makes the agent fail. -/
def check (m : HealthMonitor) (probe : Probe) (dependencies : HealthReport) :
    HealthReport × HealthMonitor :=
  match probe with
  | .startup => (if m.initialized then .healthy else .unhealthy "agent not initialized", m)
  | .readiness => (dependencies, m)
  | .liveness =>
    if m.failed then (.unhealthy "agent latched unhealthy", m)
    else (dependencies, if dependencies.status = .unhealthy then m.latch else m)

end HealthMonitor

end GridAgent
