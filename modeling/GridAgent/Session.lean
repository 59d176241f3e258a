import GridAgent.Id
import GridAgent.Status
import GridAgent.Task.Options

/-!
# Sessions

A session groups tasks. The agent only reads it: its status says whether tasks may start, and its
options are the defaults for what the tasks leave open.
-/

namespace GridAgent

/-- A session as an agent sees it. -/
structure SessionRecord where
  /-- The session. -/
  id : SessionId
  /-- Administrative state. -/
  status : SessionStatus
  /-- Partitions the session may use. -/
  partitions : List String
  /-- Defaults for options that a task leaves open. -/
  defaults : Options

/-- A running session without partitions or defaults. -/
def SessionRecord.running (id : SessionId) : SessionRecord := ⟨id, .running, [], {}⟩

end GridAgent
