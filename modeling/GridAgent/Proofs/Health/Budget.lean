import GridAgent.Agent.Loop

/-!
# When the error budget reports

A failure beyond the budget makes the monitor fail, and it is reported by the failure that does so.
The monitor may have failed before: then an earlier failure was reported, or an unhealthy answer to a
liveness probe made it fail, and nothing is reported until it is reset.
-/

namespace GridAgent.HealthMonitor

/-- The monitor with one failure more. -/
def counted (m : HealthMonitor) : HealthMonitor :=
  { m with consecutive := m.consecutive + 1, total := m.total + 1 }

/-- A failure is counted. One beyond the budget makes the monitor fail, and is reported if the monitor
had not failed before. -/
theorem recordError_cases (m : HealthMonitor) :
    ((m.budget < 0 ∨ (m.counted.consecutive : Int) ≤ m.budget) ∧
        m.recordError = (false, m.counted)) ∨
      (m.budget < m.counted.consecutive ∧
        m.recordError = (!m.failed, { m.counted with failed := true })) := by
  unfold recordError
  by_cases unlimited : m.budget < 0
  · exact .inl ⟨.inl unlimited, if_pos unlimited⟩
  · by_cases beyond : m.budget < m.counted.consecutive
    · exact .inr ⟨beyond, (if_neg unlimited).trans (if_pos beyond)⟩
    · exact .inl ⟨.inr (Int.not_lt.mp beyond), (if_neg unlimited).trans (if_neg beyond)⟩

/-- A probe changes a monitor at most by making it fail. -/
theorem check_cases (m : HealthMonitor) (probe : Probe) (dependencies : HealthReport) :
    (m.check probe dependencies).2 = m ∨
      m.failed = false ∧ (m.check probe dependencies).2 = m.latch := by
  cases probe with
  | startup => exact .inl rfl
  | readiness => exact .inl rfl
  | liveness =>
    unfold check
    cases failed : m.failed with
    | true => exact .inl rfl
    | false =>
      simp only [Bool.false_eq_true, if_false]
      split
      · exact .inr ⟨trivial, rfl⟩
      · exact .inl rfl

/-- What happens to a monitor. -/
inductive Event where
  /-- A failure is counted. -/
  | error
  /-- A row of failures ends. -/
  | success
  /-- A probe is answered. -/
  | check (probe : Probe) (dependencies : HealthReport)
  /-- All failures are forgotten. -/
  | reset

/-- A monitor, and what is known of it since the last reset. -/
structure Watched where
  monitor : HealthMonitor
  /-- A failure was answered to have used up the budget. -/
  reported : Bool := false
  /-- An unhealthy answer to a liveness probe made the monitor fail. -/
  latched : Bool := false

namespace Watched

/-- A success or a failure was counted, and it was answered whether the budget was used up. -/
def count (w : Watched) (counted : Bool × HealthMonitor) : Watched :=
  { w with monitor := counted.2, reported := w.reported || counted.1 }

/-- A probe was answered. -/
def check (w : Watched) (probe : Probe) (dependencies : HealthReport) : Watched :=
  { w with
    monitor := (w.monitor.check probe dependencies).2
    latched := w.latched ||
      ((w.monitor.check probe dependencies).2.failed && !w.monitor.failed) }

/-- All failures were forgotten. -/
def reset (w : Watched) : Watched := { monitor := w.monitor.reset }

/-- The agent has started. -/
def markInitialized (w : Watched) : Watched := { w with monitor := w.monitor.markInitialized }

/-- What is known after an event. -/
def play (w : Watched) : Event → Watched
  | .error => w.count w.monitor.recordError
  | .success => w.count (false, w.monitor.recordSuccess)
  | .check probe dependencies => w.check probe dependencies
  | .reset => w.reset

/-- A fresh monitor after some events. -/
def run (budget : Int) (events : List Event) : Watched :=
  events.foldl play { monitor := { budget } }

/-- The monitor has failed if a failure was reported or a probe latched it, and it has failed once there
are more failures in a row than the budget allows. -/
structure Right (w : Watched) : Prop where
  failed : w.monitor.failed = (w.reported || w.latched)
  beyond : 0 ≤ w.monitor.budget → w.monitor.budget < w.monitor.consecutive → w.monitor.failed = true

variable {w : Watched}

/-- Beyond the budget a failure was reported or a probe latched the monitor. -/
theorem Right.reported_or_latched (h : w.Right) (budget : 0 ≤ w.monitor.budget)
    (beyond : w.monitor.budget < w.monitor.consecutive) : w.reported = true ∨ w.latched = true := by
  have failed := h.beyond budget beyond
  rw [h.failed] at failed
  exact Bool.or_eq_true_iff.mp failed

theorem Right.error (h : w.Right) : (w.count w.monitor.recordError).Right := by
  have failed := h.failed
  rcases w.monitor.recordError_cases with ⟨within, answer⟩ | ⟨beyond, answer⟩
  · rw [answer]
    refine ⟨?_, fun budget beyond => ?_⟩
    · rw [count, Bool.or_false]
      exact failed
    · rcases within with unlimited | within
      · exact absurd unlimited (Int.not_lt.mpr budget)
      · exact absurd beyond (Int.not_lt.mpr within)
  · rw [answer]
    refine ⟨?_, fun _ _ => rfl⟩
    cases hf : w.monitor.failed with
    | false => simp [count]
    | true =>
      rw [hf] at failed
      simp [count, ← failed]

theorem Right.success (h : w.Right) : (w.count (false, w.monitor.recordSuccess)).Right := by
  refine ⟨?_, fun budget beyond => absurd budget (Int.not_le.mpr beyond)⟩
  rw [count, Bool.or_false]
  exact h.failed

/-- The result of a handler is counted as a success or as a failure. -/
theorem Right.result (h : w.Right) (outcome : Except AgentError Agent.HandlerReport) :
    (w.count (Agent.recordResult w.monitor outcome)).Right := by
  rcases outcome with cause | report
  · exact h.error
  · obtain ⟨task, outcome, status, disposition, fault⟩ := report
    cases fault with
    | none => exact h.success
    | some fault => exact h.error

theorem Right.check (h : w.Right) (probe : Probe) (dependencies : HealthReport) :
    (w.check probe dependencies).Right := by
  have failed := h.failed
  rcases w.monitor.check_cases probe dependencies with same | ⟨alive, latched⟩
  · unfold Watched.check
    rw [same]
    refine ⟨?_, h.beyond⟩
    dsimp only
    rw [Bool.and_not_self, Bool.or_false]
    exact failed
  · unfold Watched.check
    rw [latched]
    refine ⟨?_, fun _ _ => rfl⟩
    rw [alive]
    simp [latch]

theorem Right.reset (w : Watched) : w.reset.Right :=
  ⟨rfl, fun budget beyond => absurd budget (Int.not_le.mpr beyond)⟩

theorem Right.play (h : w.Right) (event : Event) : (w.play event).Right := by
  cases event with
  | error => exact h.error
  | success => exact h.success
  | check probe dependencies => exact h.check probe dependencies
  | reset => exact .reset w

theorem run_right (budget : Int) (events : List Event) : (run budget events).Right := by
  have fresh : Right { monitor := { budget } } :=
    ⟨rfl, fun budget beyond => absurd budget (Int.not_le.mpr beyond)⟩
  suffices h : ∀ w : Watched, w.Right → (events.foldl Watched.play w).Right from h _ fresh
  induction events with
  | nil => exact fun w h => h
  | cons event rest ih => exact fun w h => ih _ (h.play event)

end Watched

end GridAgent.HealthMonitor
