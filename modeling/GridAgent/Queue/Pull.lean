import GridAgent.Program
import GridAgent.Queue

/-!
# Pulls

A pull looks for messages, and while there are none it waits for some and looks again. What it asks
for is served one request at a time, so others may use the queue between its look and its wait, and
its caller may go away at any of its requests.
-/

namespace GridAgent

/-- What a pull asks for. -/
inductive PullRequest where
  /-- Look for up to `most` messages. -/
  | look (most : Nat)
  /-- Wait until a message may be visible, the time is up or the pull is called off. -/
  | wait

/-- What a pull is told: what a look found, and whether the wait was for a message. -/
def PullRequest.Reply : PullRequest → Type
  | .look _ => Queue.Pull
  | .wait => Bool

/-- The surroundings of a pull. -/
def pullSurroundings : Interface := ⟨PullRequest, PullRequest.Reply⟩

/-- What a pull answers. -/
abbrev Pulled : Type := Except QueueError (List DeliveryId)

/-- Looks for messages. -/
def look (most : Nat) : Program pullSurroundings Queue.Pull :=
  .ask (I := pullSurroundings) (.look most)

/-- Waits for a message. -/
def awaitMessage : Program pullSurroundings Bool := .ask (I := pullSurroundings) .wait

/-- One look for messages, and a wait if there are none; no answer when it is worth another look. -/
def lookOnce (most : Nat) : Program pullSurroundings (Option Pulled) := do
  match ← look most with
  | .failed cause => return some (.error cause)
  | .messages ids => return some (.ok ids)
  | .nothing => if ← awaitMessage then return none else return some (.ok [])

end GridAgent
