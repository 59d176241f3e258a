import Mathlib.Data.List.DropRight
import Mathlib.Data.List.Induction
import GridAgent.Proofs.Health.Budget

/-!
# The history of a health monitor

The counters and the latch of a monitor are functions of the calls it was asked: which calls count is
read off the history from its end, back to the last reset or, for the failures in a row, back to the
last success. A history grows at its end, so that every law here is an induction over the calls in the
order in which they were made, with one step lemma for what the last call adds.
-/

namespace GridAgent

namespace HealthStatus

theorem worse_eq_unhealthy (a b : HealthStatus) :
    a.worse b = .unhealthy ↔ a = .unhealthy ∨ b = .unhealthy := by
  cases a <;> cases b <;> decide

end HealthStatus

namespace HealthReport

/-- Reports combine to an unhealthy one exactly if one of them is unhealthy. -/
theorem combineAll_unhealthy (reports : List HealthReport) :
    (combineAll reports).status = .unhealthy ↔ ∃ report ∈ reports, report.status = .unhealthy := by
  suffices h : ∀ first : HealthReport, (reports.foldl combine first).status = .unhealthy ↔
      first.status = .unhealthy ∨ ∃ report ∈ reports, report.status = .unhealthy by
    exact (h healthy).trans (or_iff_right (by decide))
  induction reports with
  | nil => simp
  | cons report rest ih =>
    intro first
    rw [List.foldl_cons, ih, combine, HealthStatus.worse_eq_unhealthy, or_assoc,
      List.exists_mem_cons_iff]

end HealthReport

namespace HealthMonitor

/-- A call on a monitor. -/
inductive Call where
  /-- The agent has started. -/
  | start
  /-- A failure is counted. -/
  | error
  /-- A row of failures ends. -/
  | success
  /-- The monitor fails for a reason other than the budget. -/
  | latch
  /-- All failures are forgotten. -/
  | reset
  /-- A probe is answered, while the dependencies give these reports. -/
  | check (probe : Probe) (reports : List HealthReport)
  deriving DecidableEq

/-- The answer to a probe, while the dependencies give these reports. -/
def answer (m : HealthMonitor) (probe : Probe) (reports : List HealthReport) : HealthReport :=
  (m.check probe (.combineAll reports)).1

/-- The monitor after a call. -/
def called (m : HealthMonitor) : Call → HealthMonitor
  | .start => m.markInitialized
  | .error => m.recordError.2
  | .success => m.recordSuccess
  | .latch => m.latch
  | .reset => m.reset
  | .check probe reports => (m.check probe (.combineAll reports)).2

/-- A fresh monitor after a history of calls. -/
def after (budget : Int) (calls : List Call) : HealthMonitor := calls.foldl called { budget }

namespace Call

/-- The calls after the last reset. -/
def sinceReset (calls : List Call) : List Call := calls.rtakeWhile (· ≠ reset)

/-- The calls after the last success or reset. -/
def sinceSuccess (calls : List Call) : List Call :=
  calls.rtakeWhile fun call => call ≠ success ∧ call ≠ reset

/-- The number of failures. -/
def errors (calls : List Call) : Nat := calls.count error

/-- A reason for the monitor to fail: it is latched, a liveness probe combines to unhealthy, or a
failure is one more in a row than the budget allows. -/
def Breaks (budget : Int) (earlier : List Call) : Call → Prop
  | latch => True
  | check .liveness reports => (HealthReport.combineAll reports).status = .unhealthy
  | error => 0 ≤ budget ∧ budget < (errors (sinceSuccess earlier) + 1 : Nat)
  | _ => False

/-- There was a reason to fail, and no reset since. -/
def Broken (budget : Int) (calls : List Call) : Prop :=
  ∃ earlier call later, calls = earlier ++ call :: later ∧ reset ∉ later ∧
    Breaks budget earlier call

section Spans
variable (calls : List Call) (call : Call)

/-- A failure adds one to those in a row; a success and a reset end the row. -/
theorem errors_sinceSuccess_concat :
    errors (sinceSuccess (calls ++ [call])) =
      match call with
      | success | reset => 0
      | error => errors (sinceSuccess calls) + 1
      | _ => errors (sinceSuccess calls) := by
  unfold sinceSuccess errors
  rw [List.rtakeWhile_concat]
  cases call <;> simp

/-- A failure adds one to those since the last reset. -/
theorem errors_sinceReset_concat :
    errors (sinceReset (calls ++ [call])) =
      match call with
      | reset => 0
      | error => errors (sinceReset calls) + 1
      | _ => errors (sinceReset calls) := by
  unfold sinceReset errors
  rw [List.rtakeWhile_concat]
  cases call <;> simp

theorem errors_sinceSuccess_le : errors (sinceSuccess calls) ≤ calls.length :=
  List.count_le_length.trans (List.rtakeWhile_suffix _ _).length_le

theorem errors_sinceReset_le : errors (sinceReset calls) ≤ calls.length :=
  List.count_le_length.trans (List.rtakeWhile_suffix _ _).length_le

end Spans

theorem not_broken_nil (budget : Int) : ¬Broken budget [] := by
  rintro ⟨earlier, call, later, split, -⟩
  exact List.append_ne_nil_of_right_ne_nil earlier (List.cons_ne_nil call later) split.symm

/-- What the last call adds: a reset ends the trouble, and any other call leaves it or is a reason of
its own. -/
theorem broken_concat (budget : Int) (calls : List Call) (call : Call) :
    Broken budget (calls ++ [call]) ↔
      call ≠ reset ∧ Broken budget calls ∨ Breaks budget calls call := by
  constructor
  · rintro ⟨earlier, cause, later, split, kept, reason⟩
    rcases List.eq_nil_or_concat' later with rfl | ⟨before, last, rfl⟩
    · obtain ⟨rfl, same⟩ := List.append_inj' split rfl
      cases same
      exact .inr reason
    · rw [← List.cons_append, ← List.append_assoc] at split
      obtain ⟨rfl, same⟩ := List.append_inj' split rfl
      cases same
      refine .inl ⟨fun reset => kept (by simp [reset]), earlier, cause, before, rfl, ?_, reason⟩
      exact fun mem => kept (List.mem_append_left _ mem)
  · rintro (⟨kept, earlier, cause, later, rfl, none, reason⟩ | reason)
    · refine ⟨earlier, cause, later ++ [call], by simp, fun mem => ?_, reason⟩
      rcases List.mem_append.mp mem with mem | mem
      · exact none mem
      · exact kept (List.mem_singleton.mp mem).symm
    · exact ⟨calls, call, [], rfl, List.not_mem_nil, reason⟩

end Call

section Steps
variable (budget : Int) (calls : List Call) (call : Call)

@[simp] theorem after_concat : after budget (calls ++ [call]) = (after budget calls).called call := by
  simp [after]

theorem after_append (later : List Call) :
    after budget (calls ++ later) = later.foldl called (after budget calls) := by
  simp [after]

end Steps

section Effects
variable (m : HealthMonitor)

theorem called_budget (call : Call) : (m.called call).budget = m.budget := by
  cases call with
  | error =>
    rcases m.recordError_cases with ⟨-, answer⟩ | ⟨-, answer⟩ <;> rw [called, answer] <;> rfl
  | check probe reports =>
    rcases m.check_cases probe (.combineAll reports) with same | ⟨-, latched⟩
    · rw [called, same]
    · rw [called, latched, latch]
  | start | success | latch | reset => rfl

/-- A failure raises both counters by one, whatever the budget. -/
theorem recordError_counts :
    m.recordError.2.consecutive = m.consecutive + 1 ∧ m.recordError.2.total = m.total + 1 := by
  rcases m.recordError_cases with ⟨-, answer⟩ | ⟨-, answer⟩ <;> rw [answer] <;> exact ⟨rfl, rfl⟩

/-- A probe leaves the counters. -/
theorem check_counts (probe : Probe) (dependencies : HealthReport) :
    (m.check probe dependencies).2.consecutive = m.consecutive ∧
      (m.check probe dependencies).2.total = m.total := by
  rcases m.check_cases probe dependencies with same | ⟨-, latched⟩
  · rw [same]
    exact ⟨rfl, rfl⟩
  · rw [latched]
    exact ⟨rfl, rfl⟩

/-- A failure makes the monitor fail if it is beyond a budget. -/
theorem recordError_failed :
    m.recordError.2.failed = true ↔
      m.failed = true ∨ 0 ≤ m.budget ∧ m.budget < (m.consecutive + 1 : Nat) := by
  unfold recordError
  by_cases unlimited : m.budget < 0
  · rw [if_pos unlimited]
    exact ⟨.inl, fun h => h.resolve_right fun within => Int.not_lt.mpr within.1 unlimited⟩
  · rw [if_neg unlimited]
    by_cases beyond : m.budget < (m.consecutive + 1 : Nat)
    · rw [if_pos beyond]
      exact iff_of_true rfl (.inr ⟨Int.not_lt.mp unlimited, beyond⟩)
    · rw [if_neg beyond]
      exact ⟨.inl, fun h => h.resolve_right fun within => beyond within.2⟩

/-- A failure is reported to have used up the budget exactly if it makes the monitor fail. -/
theorem recordError_reports :
    m.recordError.1 = true ↔ m.failed = false ∧ m.recordError.2.failed = true := by
  rcases m.recordError_cases with ⟨-, answer⟩ | ⟨-, answer⟩
  · rw [answer]
    refine ⟨nofun, fun ⟨alive, failed⟩ => ?_⟩
    exact nomatch alive.symm.trans failed
  · rw [answer]
    rw [Bool.not_eq_true']
    exact ⟨fun alive => ⟨alive, rfl⟩, And.left⟩

/-- A probe makes the monitor fail if it is a liveness probe that combines to unhealthy. -/
theorem check_failed (probe : Probe) (dependencies : HealthReport) :
    (m.check probe dependencies).2.failed = true ↔
      m.failed = true ∨ probe = .liveness ∧ dependencies.status = .unhealthy := by
  cases probe with
  | startup | readiness => simp [check]
  | liveness =>
    unfold check
    cases failed : m.failed with
    | true => simp [failed]
    | false =>
      by_cases unhealthy : dependencies.status = .unhealthy
      · simp [unhealthy, latch]
      · simp [unhealthy, failed]

/-- Only a liveness probe that combines to unhealthy changes a monitor. -/
theorem check_spares (probe : Probe) (dependencies : HealthReport)
    (spared : probe ≠ .liveness ∨ dependencies.status ≠ .unhealthy) :
    (m.check probe dependencies).2 = m := by
  rcases m.check_cases probe dependencies with same | ⟨alive, latched⟩
  · exact same
  · have failed := (m.check_failed probe dependencies).mp (by rw [latched]; rfl)
    rw [alive] at failed
    rcases failed with failed | ⟨liveness, unhealthy⟩
    · exact nomatch failed
    · exact spared.elim (absurd liveness) (absurd unhealthy)

/-- After an unhealthy answer to a liveness probe the monitor has failed. -/
theorem answer_latches (reports : List HealthReport)
    (unhealthy : (m.answer .liveness reports).status = .unhealthy) :
    (m.called (.check .liveness reports)).failed = true := by
  unfold answer check at unhealthy
  refine (m.check_failed _ _).mpr ?_
  cases failed : m.failed with
  | true => exact .inl rfl
  | false =>
    simp only [failed, Bool.false_eq_true, if_false] at unhealthy
    exact .inr ⟨rfl, unhealthy⟩

/-- Only a reset ends that a monitor has failed. -/
theorem called_failed {call : Call} (kept : call ≠ .reset) (failed : m.failed = true) :
    (m.called call).failed = true := by
  cases call with
  | start | success => exact failed
  | latch => rfl
  | error => exact m.recordError_failed.mpr (.inl failed)
  | check probe reports => exact (m.check_failed probe _).mpr (.inl failed)
  | reset => exact absurd rfl kept

/-- A failed monitor stays failed through calls with no reset among them. -/
theorem foldl_called_failed {calls : List Call} (kept : .reset ∉ calls) (failed : m.failed = true) :
    (calls.foldl called m).failed = true := by
  induction calls generalizing m with
  | nil => exact failed
  | cons call rest ih =>
    obtain ⟨other, kept⟩ := List.ne_and_not_mem_of_not_mem_cons kept
    exact ih _ kept (m.called_failed other.symm failed)

end Effects

section Laws
variable (budget : Int) (calls : List Call)

theorem after_budget : (after budget calls).budget = budget := by
  induction calls using List.reverseRecOn with
  | nil => rfl
  | append_singleton calls call ih => rw [after_concat, called_budget, ih]

/-- The failures in a row are those since the last success or reset. -/
theorem after_consecutive :
    (after budget calls).consecutive = Call.errors (Call.sinceSuccess calls) := by
  induction calls using List.reverseRecOn with
  | nil => rfl
  | append_singleton calls call ih =>
    rw [after_concat, Call.errors_sinceSuccess_concat]
    cases call with
    | success | reset => rfl
    | start | latch => exact ih
    | error => exact (recordError_counts _).1.trans (congrArg (· + 1) ih)
    | check probe reports => exact (check_counts _ probe _).1.trans ih

/-- The failures in all are those since the last reset. -/
theorem after_total : (after budget calls).total = Call.errors (Call.sinceReset calls) := by
  induction calls using List.reverseRecOn with
  | nil => rfl
  | append_singleton calls call ih =>
    rw [after_concat, Call.errors_sinceReset_concat]
    cases call with
    | reset => rfl
    | start | success | latch => exact ih
    | error => exact (recordError_counts _).2.trans (congrArg (· + 1) ih)
    | check probe reports => exact (check_counts _ probe _).2.trans ih

/-- The monitor has failed exactly if since the last reset there was a reason to. -/
theorem after_failed : (after budget calls).failed = true ↔ Call.Broken budget calls := by
  induction calls using List.reverseRecOn with
  | nil => exact iff_of_false nofun (Call.not_broken_nil budget)
  | append_singleton calls call ih =>
    rw [after_concat, Call.broken_concat, ← ih]
    cases call with
    | start | success => simp [called, markInitialized, recordSuccess, Call.Breaks]
    | latch => simp [called, latch, Call.Breaks]
    | reset => simp [called, reset, Call.Breaks]
    | error =>
      rw [called, recordError_failed, after_budget, after_consecutive]
      simp [Call.Breaks]
    | check probe reports =>
      rw [called, check_failed]
      cases probe <;> simp [Call.Breaks]

end Laws

end HealthMonitor

end GridAgent
