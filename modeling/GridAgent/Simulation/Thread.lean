/-!
# Threads

Threads run side by side on one state. A thread acts on the state, waits for signals, and starts
other threads. A script is a thread that goes on with a value; a scope tells it which signals cut a
wait short and where a thread that dies goes on.
-/

namespace GridAgent.Simulation

/-- What a thread waits for. -/
inductive Signal (σ : Type) where
  /-- The state meets a condition. -/
  | holds (condition : σ → Bool)
  /-- The time has come. -/
  | moment (time : Nat)
  /-- No other thread can go on. -/
  | quiet

/-- What a thread does next. -/
inductive Thread (σ : Type) where
  /-- It has ended. -/
  | ended
  /-- It acts on the state. -/
  | act (effect : σ → σ × Thread σ)
  /-- It waits; of several signals the first one in the list counts. -/
  | wait (choices : List (Signal σ × (Unit → Thread σ)))
  /-- It starts another thread. -/
  | spawn (child next : Thread σ)

/-- Surroundings of a script in its thread. -/
structure Scope (σ : Type) where
  /-- Signals that cut a wait short. -/
  interrupts : List (Signal σ × (Unit → Thread σ)) := []
  /-- Where a thread that dies goes on. -/
  onDeath : Thread σ := .ended

/-- A thread that goes on with a value. -/
def Script (σ α : Type) : Type := Scope σ → (α → Thread σ) → Thread σ

namespace Script

variable {σ α β : Type}

instance : Monad (Script σ) where
  pure a := fun _ next => next a
  bind m f := fun scope next => m scope fun a => f a scope next

/-- Acts on the state and goes on with a value. -/
def modifyGet (f : σ → α × σ) : Script σ α := fun _ next =>
  .act fun w => let (a, w) := f w; (w, next a)

/-- Changes the state. -/
def modify (f : σ → σ) : Script σ Unit := modifyGet fun w => ((), f w)

/-- Looks at the state. -/
def gets (f : σ → α) : Script σ α := modifyGet fun w => (f w, w)

/-- Waits for one of several signals; goes on with the value of the first. -/
def await (choices : List (Signal σ × α)) : Script σ α := fun scope next =>
  .wait (choices.map (fun c => (c.1, fun _ => next c.2)) ++ scope.interrupts)

/-- Starts a script beside this one. -/
def spawn (child : Script σ Unit) : Script σ Unit := fun _ next =>
  .spawn (child {} fun _ => .ended) (next ())

/-- Runs a script that a signal may cut short in a wait; no value then. -/
def interruptible (signal : Signal σ) (body : Script σ α) : Script σ (Option α) :=
  fun scope next =>
    body { scope with interrupts := (signal, fun _ => next none) :: scope.interrupts }
      fun a => next (some a)

/-- Runs a script that may die; no value then. -/
def mortal (body : Script σ α) : Script σ (Option α) := fun scope next =>
  body { scope with onDeath := next none } fun a => next (some a)

/-- Dies. -/
def die : Script σ α := fun scope _ => scope.onDeath

end Script

end GridAgent.Simulation
