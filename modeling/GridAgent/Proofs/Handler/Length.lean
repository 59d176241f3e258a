import GridAgent.Agent.Acquire
import GridAgent.Proofs.Program.Length

/-!
# The length of an acquisition

Whatever the collaborators answer, an acquisition comes to its end: its rounds are counted, and in each
round every call is tried a bounded number of times.
-/

namespace GridAgent.Agent

open Program Acquisition

variable {s : Settings} {task : TaskId} {t : TaskRecord}

theorem abandonResults_within {ε : Type} : WithinOr (abandonResults task : Fallible ε Unit) 1 :=
  fun _ => trivial

theorem updateTask_within {expected : Expectation} {change : TaskUpdate} :
    WithinOr (updateTask s task expected change) (tries s) :=
  within_retrying fun _ => trivial

theorem submitSuccessor_within {successor : TaskRecord} :
    WithinOr (submitSuccessor s successor) (2 * tries s + 1) := by
  unfold submitSuccessor
  split
  · exact .pure
  refine .asked .now fun now => ?_
  rw [Nat.two_mul]
  refine .attempted updateTask_within fun outcome => ?_
  split
  · exact .andThen (m := tries s) (n := 0) (.orFail (within_retrying fun _ => trivial)) fun _ => .pure
  · exact .pure
  · exact .failed

theorem ensureSuccessor_within {parent : TaskRecord} :
    WithinOr (ensureSuccessor s parent) (3 * tries s + 3) := by
  rw [show 3 * tries s + 3 = (tries s + (2 * tries s + 1)) + 1 + 1 from by omega]
  refine .asked .newTaskId fun id => .asked .now fun now => ?_
  refine .andThen (.orFail (within_retrying fun _ => trivial)) fun successor => ?_
  exact submitSuccessor_within

theorem retryTask_within {expected : Expectation} {reason : String} :
    WithinOr (retryTask s t expected reason) (4 * tries s + 4) := by
  rw [show 4 * tries s + 4 = (tries s + (3 * tries s + 3)) + 1 from by omega]
  refine .asked .now fun now => .andThen (.orFail updateTask_within) fun stored => ?_
  dsimp only
  split
  · exact .andThen (n := 0) (abandonResults_within.mono (by omega)) fun _ => .pure
  · exact .andThen (n := 0) ensureSuccessor_within fun _ => .pure

theorem repairLineage_within : WithinOr (repairLineage s t) (4 * tries s + 3) := by
  rw [show 4 * tries s + 3 = tries s + (3 * tries s + 3) from by omega]
  refine .andThen (.orFail (within_retrying fun _ => trivial)) fun found => ?_
  cases found with
  | none => exact .andThen (n := 0) ensureSuccessor_within fun _ => .pure
  | some successor =>
    dsimp only
    split
    · exact .andThen (n := 0) (submitSuccessor_within.mono (by omega)) fun _ => .pure
    all_goals exact .pure

theorem makeTransition_within {now : Date} (tr : Transition) :
    WithinOr (makeTransition s t now tr) (4 * tries s + 4) := by
  cases tr with
  | none => exact .pure
  | claim | resetToSubmitted => exact (updateTask_within.mapped _).orFail.mono (by omega)
  | retryAbandoned owner => exact retryTask_within.mapped _
  | finishCancellation =>
    have buries : WithinOr (makeTransition s t now .finishCancellation) (tries s + (1 + 0)) :=
      .andThen (.orFail updateTask_within) fun _ => .andThen abandonResults_within fun _ => .pure
    exact buries.mono (by omega)

theorem carryOut_within {d : Decision} : WithinOr (carryOut s t d) (8 * tries s + 8) := by
  rw [show 8 * tries s + 8 = ((4 * tries s + 4) + (4 * tries s + 3)) + 1 from by omega]
  refine .asked .now fun now => .andThen (makeTransition_within d.transition) fun updated => ?_
  cases updated with
  | some updated => exact .pure
  | none =>
    dsimp only
    split
    · exact .andThen (n := 0) repairLineage_within fun _ => .pure
    · exact .pure

theorem readSituation_within : WithinOr (readSituation s task) (2 * tries s + 2) := by
  rw [show 2 * tries s + 2 = tries s + (tries s + (0 + 1 + 1)) from by omega]
  refine .andThen (.orFail (within_retrying fun _ => trivial)) fun record => ?_
  have rest {f : Option SessionRecord → Date → Bool → Situation} (session : Option SessionRecord) :
      WithinOr (do
        let now ← Call.now
        let shutdown ← Call.shutdownRequested
        return f session now shutdown : Fallible AgentError Situation) (0 + 1 + 1) :=
    .asked .now fun now => .asked .shutdownRequested fun _ => .pure
  cases record with
  | none => exact .andThen .pure rest
  | some t => exact .andThen (.orFail (within_retrying fun _ => trivial)) rest

theorem reachDecision_within {situation : Situation} :
    WithinOr (reachDecision s task situation) (tries s) := by
  unfold reachDecision
  split
  · exact .pure
  · split
    · exact .failed
    · refine .andThen (n := 0) (.orFail (within_retrying fun _ => trivial)) fun alive => ?_
      split
      · exact .pure
      · exact .failed

/-- The most requests that one round makes. -/
def requestsPerRound (s : Settings) : Nat := 11 * tries s + 10

theorem acquireOnce_within : WithinOr (acquireOnce s task) (requestsPerRound s) := by
  rw [show requestsPerRound s = (2 * tries s + 2) + (tries s + (8 * tries s + 8)) from by
    unfold requestsPerRound; omega]
  refine .andThen readSituation_within fun situation => .andThen reachDecision_within fun d => ?_
  split
  · exact .pure
  · refine .attempted (n := 0) carryOut_within fun outcome => ?_
    split
    · exact .pure
    · exact .pure
    · exact .failed

theorem acquireWithin_within (left : Nat) :
    WithinOr (acquireWithin s task left) ((left + 1) * requestsPerRound s) := by
  induction left with
  | zero =>
    rw [show (0 + 1) * requestsPerRound s = requestsPerRound s + 0 from by omega]
    refine .andThen acquireOnce_within fun outcome => ?_
    split <;> exact .pure
  | succ left ih =>
    rw [Nat.succ_mul, Nat.add_comm _ (requestsPerRound s)]
    refine .andThen acquireOnce_within fun outcome => ?_
    split
    · exact .pure
    · exact ih

/-- An acquisition ends after so many requests at the latest. -/
theorem acquire_within (atLeast : 1 ≤ s.maxRounds) :
    WithinOr (acquire s task) (s.maxRounds * requestsPerRound s) := by
  have rounds : s.maxRounds - 1 + 1 = s.maxRounds := by omega
  rw [← rounds]
  exact acquireWithin_within _

end GridAgent.Agent
