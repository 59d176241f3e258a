import GridAgent.Time.Calendar

/-!
# Dates and spans

A date is a count of nanoseconds since 1970-01-01T00:00:00Z that stays inside the supported
calendar, from the first moment of year -262143 to the last nanosecond of year 262142. Moving a date
by a span can leave the calendar, so `Date.add?` may have no answer. A span is a length of time that
is never negative. A leap second is the same moment as the second after it wherever time is
measured; only its written form is another.
-/

namespace GridAgent

/-- A length of time, never negative. -/
structure Span where
  /-- Length in nanoseconds. -/
  nanos : Nat
  deriving DecidableEq, Repr

namespace Span

/-- Nanoseconds in a second. -/
def nanosPerSecond : Nat := 1000000000

/-- Nanoseconds in a millisecond. -/
def nanosPerMilli : Nat := 1000000

/-- No time at all. -/
def zero : Span := ⟨0⟩

/-- A number of seconds. -/
def ofSeconds (n : Nat) : Span := ⟨n * nanosPerSecond⟩

/-- A number of milliseconds. -/
def ofMillis (n : Nat) : Span := ⟨n * nanosPerMilli⟩

/-- Whole seconds. -/
def seconds (s : Span) : Nat := s.nanos / nanosPerSecond

/-- Nanoseconds beyond the whole seconds. -/
def subsecond (s : Span) : Nat := s.nanos % nanosPerSecond

/-- Whole milliseconds, rounded down. -/
def millis (s : Span) : Nat := s.nanos / nanosPerMilli

/-- Whole milliseconds, rounded up: the granularity of timers. -/
def ceilMillis (s : Span) : Nat := (s.nanos + nanosPerMilli - 1) / nanosPerMilli

end Span

/-- A moment inside the supported calendar. -/
structure Date where
  /-- Nanoseconds since 1970-01-01T00:00:00Z. -/
  nanos : Int
  /-- The moment is inside the calendar. -/
  inCalendar : -8334601228800000000000 ≤ nanos ∧ nanos ≤ 8210266876799999999999
  /-- The moment lies in a leap second, which is written as the sixtieth second of its minute. -/
  inLeapSecond : Bool := false
  deriving DecidableEq

namespace Date

/-- 1970-01-01T00:00:00Z. -/
def epoch : Date := { nanos := 0, inCalendar := by decide }

instance : Inhabited Date := ⟨epoch⟩

/-- The moment at a count of nanoseconds, if the calendar reaches it. -/
def ofNanos? (n : Int) : Option Date :=
  if h : -8334601228800000000000 ≤ n ∧ n ≤ 8210266876799999999999 then
    some { nanos := n, inCalendar := h }
  else none

/-- The moment at a count of milliseconds, if the calendar reaches it. -/
def ofMillis? (n : Int) : Option Date := ofNanos? (n * 1000000)

/-- Milliseconds since 1970, rounded towards the past. -/
def millis (d : Date) : Int := d.nanos / 1000000

/-- Moves a date by a signed number of nanoseconds, if the calendar reaches that far. -/
def shift? (d : Date) (n : Int) : Option Date := ofNanos? (d.nanos + n)

/-- Moves a date forward by a span, if the calendar reaches that far. -/
def add? (d : Date) (s : Span) : Option Date := d.shift? s.nanos

/-- The span from `start` to `d`; none if `start` is later. -/
def since? (d start : Date) : Option Span :=
  if start.nanos ≤ d.nanos then some ⟨(d.nanos - start.nanos).toNat⟩ else none

/-- The span from `start` to `d`, taken as zero if `start` is later. -/
def elapsedSince (d start : Date) : Span := ⟨(d.nanos - start.nanos).toNat⟩

end Date

end GridAgent
