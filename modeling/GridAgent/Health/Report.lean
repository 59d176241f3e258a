/-!
# Health reports

A probe asks for a status and an optional description. Reports of several parts combine to the worst
status, and their descriptions stand one after the other.
-/

namespace GridAgent

/-- Which probe is asking. -/
inductive Probe where
  /-- Has the agent started? -/
  | startup
  /-- Can the agent take work? -/
  | readiness
  /-- Should the agent keep running? -/
  | liveness
  deriving DecidableEq, Repr

namespace Probe

/-- Every probe, in order of declaration. -/
def all : List Probe := [startup, readiness, liveness]

/-- The written name. -/
def name : Probe → String
  | startup => "Startup"
  | readiness => "Readiness"
  | liveness => "Liveness"

/-- The probe with a given name. -/
def ofName? (s : String) : Option Probe := all.find? (·.name = s)

end Probe

/-- State of health. -/
inductive HealthStatus where
  | unhealthy
  | degraded
  | healthy
  deriving DecidableEq, Repr

namespace HealthStatus

/-- Every state, worst first. -/
def all : List HealthStatus := [unhealthy, degraded, healthy]

/-- The written name. -/
def name : HealthStatus → String
  | unhealthy => "Unhealthy"
  | degraded => "Degraded"
  | healthy => "Healthy"

/-- The state with a given name. -/
def ofName? (s : String) : Option HealthStatus := all.find? (·.name = s)

/-- Position among the states, worst first. -/
def rank : HealthStatus → Nat
  | unhealthy => 0
  | degraded => 1
  | healthy => 2

/-- The worse of two states. -/
def worse (a b : HealthStatus) : HealthStatus := if a.rank ≤ b.rank then a else b

end HealthStatus

/-- Answer to a probe. -/
structure HealthReport where
  /-- State of health. -/
  status : HealthStatus
  /-- What is wrong, if known. -/
  description : Option String
  deriving DecidableEq, Repr

namespace HealthReport

/-- Nothing is wrong. -/
def healthy : HealthReport := ⟨.healthy, none⟩

/-- Something is wrong. -/
def unhealthy (description : String) : HealthReport := ⟨.unhealthy, some description⟩

/-- A state without a description. -/
def ofStatus (status : HealthStatus) : HealthReport := ⟨status, none⟩

/-- Nothing is wrong. -/
def isHealthy (r : HealthReport) : Bool := r.status = .healthy

/-- Two descriptions, parted by a semicolon. -/
def joinDescriptions : Option String → Option String → Option String
  | some a, some b => some (a ++ "; " ++ b)
  | some a, none => some a
  | none, b => b

/-- The worse status, and both descriptions. -/
def combine (a b : HealthReport) : HealthReport :=
  ⟨a.status.worse b.status, joinDescriptions a.description b.description⟩

/-- The combination of a list of reports. -/
def combineAll (reports : List HealthReport) : HealthReport := reports.foldl combine healthy

end HealthReport

end GridAgent
