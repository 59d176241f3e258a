import GridAgent.Backoff
import GridAgent.Error
import GridAgent.Program

/-!
# Trying again

An operation is tried until it succeeds, fails for good, or has been tried as often as the policy
allows; after each transient failure but the last the program pauses. The last answer is the answer.
An operation is always tried once.
-/

namespace GridAgent.RetryPolicy

variable {I : Interface} {ε α : Type} [Transient ε]

/-- Tries an operation, at most `left` times more after a failure, `failures` having failed. -/
def tryFrom (policy : RetryPolicy) (pause : Span → Program I Unit)
    (operation : Program I (Except ε α)) : (left failures : Nat) → Program I (Except ε α)
  | 0, _ => operation
  | left + 1, failures =>
    operation.bind fun
      | .ok value => .done (.ok value)
      | .error cause =>
        if isTransient cause then
          (pause (policy.nextDelay (failures + 1))).bind fun _ =>
            policy.tryFrom pause operation left (failures + 1)
        else .done (.error cause)

/-- Tries an operation as often as the policy allows. -/
def retrying (policy : RetryPolicy) (pause : Span → Program I Unit)
    (operation : Program I (Except ε α)) : Program I (Except ε α) :=
  policy.tryFrom pause operation (policy.maxAttempts - 1) 0

end GridAgent.RetryPolicy
