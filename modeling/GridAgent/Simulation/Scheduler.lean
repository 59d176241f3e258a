import GridAgent.Simulation.Thread

/-!
# Scheduler

One thread runs at a time, until it waits or ends, and threads that can go on run in the order in
which they became able to. Time stands still as long as any thread can go on. When none can, the
threads that wait for quiet go on, and when there are none either, time jumps to the next moment
that anything waits for.
-/

namespace GridAgent.Simulation

/-- A bound on repetitions that no run comes near. -/
def plenty : Nat := Nat.pow 2 40

/-- A state with a time of its own. -/
class Timed (σ : Type) where
  /-- The time. -/
  time : σ → Nat
  /-- The next moment at which the state changes by itself. -/
  nextDue? : σ → Option Nat
  /-- Moves the time forward. -/
  advanceTo : σ → Nat → σ

/-- Threads beside each other. -/
structure Machine (σ : Type) where
  /-- The state. -/
  state : σ
  /-- Threads that can go on; the first one runs. -/
  ready : List (Thread σ) := []
  /-- What each waiting thread waits for, longest first. -/
  waiting : List (List (Signal σ × (Unit → Thread σ))) := []

namespace Machine

variable {σ : Type} [Timed σ]

/-- The signal is given. -/
def given (w : σ) : Signal σ → Bool
  | .holds condition => condition w
  | .moment time => time ≤ Timed.time w
  | .quiet => false

/-- Some signal is given. -/
def awake (w : σ) (choices : List (Signal σ × (Unit → Thread σ))) : Bool :=
  choices.any fun c => given w c.1

/-- Lets the waiting threads whose signal is given become ready. -/
def wake (m : Machine σ) : Machine σ :=
  let (woken, asleep) := m.waiting.partition (awake m.state)
  { m with ready := m.ready ++ woken.map .wait, waiting := asleep }

/-- Where a thread that waits for quiet goes on. -/
def onQuiet (choices : List (Signal σ × (Unit → Thread σ))) : Option (Thread σ) :=
  (choices.find? fun c => c.1 matches .quiet).map fun c => c.2 ()

/-- The moment a signal waits for. -/
def momentOf : Signal σ → Option Nat
  | .moment time => some time
  | _ => none

/-- The next moment that anything waits for. -/
def nextMoment? (m : Machine σ) : Option Nat :=
  let moments := m.waiting.flatMap fun choices => choices.filterMap fun c => momentOf c.1
  ((Timed.nextDue? m.state).toList ++ moments).min?

/-- Nothing is ready: the threads that wait for quiet go on, or time jumps. -/
def settle (m : Machine σ) : Option (Machine σ) :=
  let quiet := m.waiting.filterMap onQuiet
  if quiet.isEmpty then
    m.nextMoment?.map fun time => { m with state := Timed.advanceTo m.state time }.wake
  else
    some { m with
      ready := quiet
      waiting := m.waiting.filter fun choices => (onQuiet choices).isNone }

/-- The next step of the first ready thread; no answer when nothing will ever happen again. -/
def step (m : Machine σ) : Option (Machine σ) :=
  match m.ready with
  | [] => m.settle
  | .ended :: rest => some { m with ready := rest }
  | .act effect :: rest =>
    let (state, next) := effect m.state
    some { m with state, ready := next :: rest }.wake
  | .wait choices :: rest =>
    match choices.find? fun c => given m.state c.1 with
    | some c => some { m with ready := c.2 () :: rest }
    | none => some { m with ready := rest, waiting := m.waiting ++ [choices] }
  | .spawn child next :: rest => some { m with ready := next :: rest ++ [child] }

/-- Makes steps until a condition holds, at most so many. -/
def runUntil (isOver : σ → Bool) : (most : Nat) → Machine σ → σ
  | 0, m => m.state
  | most + 1, m =>
    if isOver m.state then m.state
    else
      match m.step with
      | none => m.state
      | some m => runUntil isOver most m

end Machine

/-- Runs a thread and all it starts until a condition holds. -/
def runThreads {σ : Type} [Timed σ] (isOver : σ → Bool) (state : σ) (main : Thread σ) : σ :=
  Machine.runUntil isOver plenty { state, ready := [main] }

end GridAgent.Simulation
