import GridAgent.Decimal.Binary
import GridAgent.Time.Date

/-!
# Backoff

After a transient failure an agent waits before it tries again, longer after each failure and never
longer than a minute. Delays are computed in double precision and rounded to the nearest nanosecond,
a tie to the even one; a delay that is negative, no number or too large is the longest one.
-/

namespace GridAgent

/-- When and how often to try again. -/
structure RetryPolicy where
  /-- Delay after the first failure. -/
  base : Span
  /-- Factor from each delay to the next. -/
  multiplier : Float
  /-- Attempts in all, the first one included. -/
  maxAttempts : Nat

namespace RetryPolicy

/-- The longest wait between two attempts. -/
def longestDelay : Span := .ofSeconds 60

/-- A single attempt. -/
def once : RetryPolicy := ⟨.zero, 1.0, 1⟩

/-- Five attempts, the first wait a tenth of a second, and each twice as long as the one before. -/
def standard : RetryPolicy := ⟨.ofMillis 100, 2.0, 5⟩

/-- The power of a number by repeated squaring, with the result so far as a factor. -/
def powerFrom (result x : Float) (n : Nat) : Float :=
  let result := if n % 2 = 1 then result * x else result
  if n < 2 then result else powerFrom result (x * x) (n / 2)
termination_by n
decreasing_by omega

/-- The power of a number by repeated squaring. -/
def power (x : Float) (n : Nat) : Float := powerFrom 1.0 x n

/-- A span in seconds. -/
def toSeconds (s : Span) : Float :=
  Float.ofNat s.seconds + Float.ofNat s.subsecond / 1000000000.0

/-- Seconds as a span to the nearest nanosecond; negative, non-numbers and more than 64 bits of
seconds have none. -/
def ofSeconds? (x : Float) : Option Span :=
  match Decimal.Parts.ofBits x.toBits.toNat with
  | .zero _ => some .zero
  | .finite false b =>
    let nanos := b.roundedMultiple Span.nanosPerSecond
    if nanos < Nat.pow 2 64 * Span.nanosPerSecond then some ⟨nanos⟩ else none
  | _ => none

/-- The exponent of the delay after a number of failures: one less, at most `2 ^ 31 - 1`. -/
def exponent (failures : Nat) : Nat := min (failures - 1) (Nat.pow 2 31 - 1)

/-- Wait before the next attempt after a number of failures. -/
def nextDelay (p : RetryPolicy) (failures : Nat) : Span :=
  if p.base.nanos = 0 then .zero
  else
    match ofSeconds? (toSeconds p.base * power p.multiplier (exponent failures)) with
    | some delay => ⟨min delay.nanos longestDelay.nanos⟩
    | none => longestDelay

end RetryPolicy

end GridAgent
