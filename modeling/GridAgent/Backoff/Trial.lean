import GridAgent.Backoff.Retrying

/-!
# Trials of a policy

A trial runs a policy on an operation whose outcomes are given in advance. Past the given outcomes,
and where none is given, the operation succeeds with the number of the call. Pauses end at whole
milliseconds.
-/

namespace GridAgent.RetryPolicy

/-- What a trial asks for. -/
inductive TrialRequest where
  /-- Lets some time pass. -/
  | pause (wait : Span)
  /-- Makes the next call. -/
  | call

/-- What is replied. -/
def TrialRequest.Reply (ε : Type) : TrialRequest → Type
  | pause _ => Unit
  | call => Except ε Nat

/-- The surroundings of a trial. -/
def trialSurroundings (ε : Type) : Interface := ⟨TrialRequest, TrialRequest.Reply ε⟩

/-- Where a trial is. -/
structure TrialState (ε : Type) where
  /-- Failures still to come; none for a success. -/
  outcomes : List (Option ε)
  /-- Number of calls so far. -/
  calls : Nat := 0
  /-- Milliseconds slept so far. -/
  slept : Nat := 0

/-- Replies to a request of a trial. -/
def trialReply {ε : Type} : (request : TrialRequest) → TrialState ε →
    TrialRequest.Reply ε request × TrialState ε
  | .pause wait, s => ((), { s with slept := s.slept + wait.ceilMillis })
  | .call, s =>
    let s' := { s with outcomes := s.outcomes.tail, calls := s.calls + 1 }
    match s.outcomes.head?.join with
    | some cause => (.error cause, s')
    | none => (.ok s'.calls, s')

/-- Runs a policy on given outcomes. -/
def trial {ε : Type} [Transient ε] (policy : RetryPolicy) (outcomes : List (Option ε)) :
    Except ε Nat × TrialState ε :=
  let pause (wait : Span) : Program (trialSurroundings ε) Unit := .call (.pause wait) .done
  let call : Program (trialSurroundings ε) (Except ε Nat) := .call .call .done
  (policy.retrying pause call).run trialReply { outcomes }

end GridAgent.RetryPolicy
