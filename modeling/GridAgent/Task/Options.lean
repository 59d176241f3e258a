import GridAgent.Text.Dictionary
import GridAgent.Time.Date

/-!
# Execution options

A task may leave options open; the session of the task has defaults for them. `Options.mergedWith`
fills the open ones in, and what the task sets itself stays. The priority is always the task's own.
-/

namespace GridAgent

open Text

/-- Execution options of a task. -/
structure Options where
  /-- Upper bound on the worker call, in milliseconds. -/
  maxDurationMillis : Option Nat := none
  /-- Retries allowed for the lineage. -/
  maxRetries : Option Nat := none
  /-- Priority among the tasks of a session. -/
  priority : Int := 0
  /-- Partition of the grid that the task is meant for. -/
  partitionId : Option String := none
  /-- Name of the application. -/
  applicationName : Option String := none
  /-- Free-form options forwarded to the worker. -/
  extra : Dictionary := .empty
  deriving DecidableEq, Inhabited

namespace Options

/-- Upper bound on the worker call. -/
def maxDuration (o : Options) : Option Span := o.maxDurationMillis.map Span.ofMillis

/-- Retries allowed for the lineage; none when unset. -/
def retryLimit (o : Options) : Nat := o.maxRetries.getD 0

/-- Fills open options from the defaults; values set on the task win. -/
def mergedWith (own defaults : Options) : Options where
  maxDurationMillis := own.maxDurationMillis.or defaults.maxDurationMillis
  maxRetries := own.maxRetries.or defaults.maxRetries
  priority := own.priority
  partitionId := own.partitionId.or defaults.partitionId
  applicationName := own.applicationName.or defaults.applicationName
  extra := own.extra.union defaults.extra

end Options

end GridAgent
