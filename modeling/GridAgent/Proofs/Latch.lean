import GridAgent.Proofs.Health.History

/-!
# The error budget and the latch

What a monitor counts, when it has failed, what a failure reports and what a probe answers are read
off the calls it was asked before, for every budget and every history of calls.
-/

namespace GridAgent.HealthMonitor

open Call

/-- What a monitor with a budget does after a history of calls. -/
structure Remembers (budget : Int) (calls : List Call) : Prop where
  /-- The failures in a row are those since the last success or reset. -/
  consecutive : (after budget calls).consecutive = errors (sinceSuccess calls)
  /-- The failures in all are those since the last reset. -/
  total : (after budget calls).total = errors (sinceReset calls)
  /-- No counter goes beyond the number of calls. -/
  bounded : (after budget calls).consecutive ≤ calls.length ∧ (after budget calls).total ≤ calls.length
  /-- It has failed exactly if since the last reset it was latched, a liveness probe combined to
  unhealthy, or a failure was one more in a row than the budget allows. -/
  failed : (after budget calls).failed = true ↔ Broken budget calls
  /-- A failure is reported exactly if it makes the monitor fail. -/
  reports : (after budget calls).recordError.1 = true ↔
    (after budget calls).failed = false ∧ (after budget (calls ++ [.error])).failed = true
  /-- After a failure that is reported, none is until a reset. -/
  once : (after budget calls).recordError.1 = true → ∀ later : List Call, .reset ∉ later →
    (after budget (calls ++ .error :: later)).recordError.1 = false
  /-- After an unhealthy answer to a liveness probe every answer to one is unhealthy until a reset,
  whatever the dependencies report. -/
  latches : ∀ reports, ((after budget calls).answer .liveness reports).status = .unhealthy →
    ∀ later : List Call, .reset ∉ later → ∀ others,
      (after budget (calls ++ .check .liveness reports :: later)).answer .liveness others =
        .unhealthy "agent latched unhealthy"
  /-- A probe leaves the monitor as it is if it is not a liveness probe, or if no dependency is
  unhealthy. -/
  spared : ∀ probe reports, (probe ≠ .liveness ∨ ∀ report ∈ reports, report.status ≠ .unhealthy) →
    after budget (calls ++ [.check probe reports]) = after budget calls

/-- A monitor that has failed fails until a reset. -/
theorem after_failed_lasting {budget : Int} {calls later : List Call} (call : Call)
    (failed : ((after budget calls).called call).failed = true) (kept : .reset ∉ later) :
    (after budget (calls ++ call :: later)).failed = true := by
  rw [List.append_cons, after_append, after_concat]
  exact foldl_called_failed _ kept failed

/-- For every budget, a negative one included, and after every history of calls, the monitor counts,
fails, reports and answers as its history says. -/
theorem monitor_remembers (budget : Int) (calls : List Call) : Remembers budget calls where
  consecutive := after_consecutive budget calls
  total := after_total budget calls
  bounded := by
    rw [after_consecutive, after_total]
    exact ⟨errors_sinceSuccess_le calls, errors_sinceReset_le calls⟩
  failed := after_failed budget calls
  reports := by
    rw [after_concat]
    exact recordError_reports _
  once reported later kept := by
    have fails := after_failed_lasting .error ((recordError_reports _).mp reported).2 kept
    refine Bool.eq_false_iff.mpr fun again => ?_
    exact absurd fails (Bool.eq_false_iff.mp ((recordError_reports _).mp again).1)
  latches reports unhealthy later kept others := by
    have fails := after_failed_lasting (.check _ _) (answer_latches _ reports unhealthy) kept
    exact congrArg Prod.fst (if_pos fails)
  spared probe reports harmless := by
    rw [after_concat]
    refine check_spares _ probe _ (harmless.imp_right fun none unhealthy => ?_)
    obtain ⟨report, mem, bad⟩ := (HealthReport.combineAll_unhealthy reports).mp unhealthy
    exact none report mem bad

/-- A budget of one failure: the second in a row is reported, the third is not, a success clears the row
and leaves the latch, and only a reset makes a failed monitor answer that it is well. -/
example :
    (after 1 [.error]).recordError.1 = true ∧ (after 1 [.error, .error]).recordError.1 = false ∧
      (after 1 [.error, .error, .success]).consecutive = 0 ∧
      ((after 1 [.error, .error, .success]).answer .liveness []).status = .unhealthy ∧
      ((after 1 [.error, .error, .reset]).answer .liveness []).status = .healthy ∧
      ((after 1 []).answer .liveness [.ofStatus .degraded]).status = .degraded := by decide

end GridAgent.HealthMonitor
