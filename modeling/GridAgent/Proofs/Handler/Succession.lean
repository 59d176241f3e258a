import GridAgent.Agent.Cancellation
import GridAgent.Proofs.Handler.Calls

/-!
# Failed attempts and stopped executions

Once the failure of an attempt is recorded, seeing to a successor does not concern the own task any
more: it may reserve an identifier, and promote and push a task that is being created. A failure on
that way is never taken for a lost update of the own task. Stopping an execution asks for one
update.
-/

namespace GridAgent.Cluster

open Agent Program Track

variable {pod : PodId} {job : Job} {k : Track} {s : Settings}

/-- The books are as before but for a reserved identifier. -/
def SameButReserved (k k' : Track) : Prop := ∃ reserved, k' = { k with reserved }

/-- The failure is no lost update. -/
def NoLoss (cause : AgentError) : Prop := ∀ found, cause ≠ .store (.conflict found)

/-- Submitting a successor keeps the books. -/
theorem submitSuccessor_does (ho : k.owed = []) (hc : k.MayPromote) (successor : TaskRecord) :
    Does pod job (submitSuccessor s successor) k (fun _ k' => k' = k)
      (fun cause k' => NoLoss cause ∧ k' = k) := by
  unfold submitSuccessor
  split
  · rfl
  · refine (keeps_now ho).lift fun now => ?_
    refine followsOr_bind.mpr (followsOr_attempt.mpr ((promotion_does ho hc).mono ?_ ?_))
    · rintro record _ ⟨hr, rfl⟩
      refine followsOr_bind.mpr (followsOr_orFail.mpr ((push_does ho ?_).mono ?_ ?_))
      · rw [hr]
        exact fun _ h => h
      · rintro _ _ rfl
        rfl
      · rintro cause _ rfl
        exact ⟨fun _ h => (nomatch h), rfl⟩
    · rintro (task | found | reason) _ rfl
      · exact ⟨fun _ h => (nomatch h), rfl⟩
      · rfl
      · exact ⟨fun _ h => (nomatch h), rfl⟩

/-- The creation of a successor uses the reserved identifier up, or fails because the store cannot
be reached. -/
theorem createSuccessor_does {parent : TaskRecord} {id : TaskId} {now : Date} (ho : k.owed = [])
    (hp : parent.id = job.task) (hc : k.closed = true) (hi : k.reserved = some id) :
    Does pod job (createSuccessor s parent (parent.successor id now)) k
      (fun _ k' => k' = { k with reserved := none })
      (fun cause k' => (∃ reason, cause = .unavailable reason) ∧ k' = k) := by
  refine followsOr_retrying (J := fun k' => k' = k) (K := fun k' => k' = k) ?_ ?_ rfl
  · rintro k' rfl
    refine ⟨⟨ho, hp, hc, hi, now, rfl⟩, ?_⟩
    rintro (cause | record) hr
    · exact ⟨⟨hr, rfl⟩, fun _ => rfl⟩
    · rfl
  · rintro k' wait rfl
    exact keeps_pause ho wait

/-- Seeing to a successor leaves no more than a reserved identifier. -/
theorem ensureSuccessor_does {parent : TaskRecord} (ho : k.owed = [])
    (hp : parent.id = job.task) (hc : k.MayPromote) :
    Does pod job (ensureSuccessor s parent) k (fun _ k' => SameButReserved k k')
      (fun cause k' => NoLoss cause ∧ SameButReserved k k') := by
  unfold ensureSuccessor
  refine followsOr_bind.mpr (followsOr_lift.mpr ((newTaskId_does ho).mono ?_))
  intro id k₁ hk₁
  have ho₁ : k₁.owed = [] := by rw [hk₁]; exact ho
  have hc₁ : k₁.MayPromote := by rw [hk₁]; exact hc
  have hi₁ : k₁.reserved = some id := by rw [hk₁]
  refine (keeps_now ho₁).lift fun now => ?_
  refine followsOr_bind.mpr (followsOr_orFail.mpr ((createSuccessor_does ho₁ hp hc₁.1 hi₁).mono ?_ ?_))
  · intro successor k₂ hk₂
    have ho₂ : k₂.owed = [] := by rw [hk₂]; exact ho₁
    have hc₂ : k₂.MayPromote := by rw [hk₂]; exact hc₁
    have same : SameButReserved k k₂ := ⟨none, by rw [hk₂, hk₁]⟩
    refine (submitSuccessor_does ho₂ hc₂ successor).mono ?_ ?_
    · rintro _ _ rfl
      exact same
    · rintro cause _ ⟨hl, rfl⟩
      exact ⟨hl, same⟩
  · rintro cause k₂ ⟨⟨reason, rfl⟩, rfl⟩
    exact ⟨fun _ h => (nomatch h), some id, hk₁⟩

/-- The statuses of failed attempts stay. -/
theorem failedStatus_isClosed (plan : RetryPlan) : plan.failedStatus.isClosed = true := by
  cases plan <;> rfl

/-- Ending an attempt is lost, or it closes the task, and what comes after leaves no more than a
reserved identifier. -/
theorem retryTask_does {t : TaskRecord} {expected : Expectation} {reason : String}
    (ho : k.owed = []) (hf : k.Free) (ht : t.id = job.task)
    (hw : ∀ (plan : RetryPlan) (now : Date),
      Write pod k expected (.finish plan.failedStatus (.failure reason) now)) :
    Does pod job (retryTask s t expected reason) k
      (fun updated k' => updated.id = job.task ∧ SameButReserved { k with closed := true } k')
      (fun cause k' => (∃ found plan, cause = .store (.conflict found) ∧
          k' = k.lost (RetryPlan.failedStatus plan) found) ∨
        (NoLoss cause ∧ (k' = k ∨ SameButReserved { k with closed := true } k'))) := by
  unfold retryTask
  refine (keeps_now ho).lift fun now => ?_
  rw [ht]
  refine followsOr_bind.mpr (followsOr_orFail.mpr
    ((updateTask_does ho hf (hw (RetryPlan.ofTask t) now)).mono ?_ ?_))
  · rintro stored k₁ ⟨hs, hk₁⟩
    replace hk₁ := hk₁.trans (wrote_of_isClosed k _ (failedStatus_isClosed _))
    have ho₁ : k₁.owed = [] := by rw [hk₁]; exact ho
    have hc₁ : k₁.MayPromote := by
      rw [hk₁]
      exact ⟨rfl, (hw (RetryPlan.ofTask t) now).not_stopping (by cases RetryPlan.ofTask t <;> nofun)⟩
    rw [← hk₁]
    cases RetryPlan.ofTask t with
    | exhausted =>
      refine abandonResults_then ho₁ ?_
      exact ⟨hs, k₁.reserved, rfl⟩
    | retry =>
      have hu : ({ stored with options := t.options } : TaskRecord).id = job.task := hs
      refine followsOr_bind.mpr ((ensureSuccessor_does ho₁ hu hc₁).mono ?_ ?_)
      · intro _ k' hk'
        exact ⟨hs, hk'⟩
      · rintro cause k' ⟨hl, hk'⟩
        exact .inr ⟨hl, .inr hk'⟩
  · rintro (task | found | reason) k' h
    · exact .inr ⟨fun _ h => (nomatch h), .inl h⟩
    · exact .inl ⟨found, RetryPlan.ofTask t, rfl, h⟩
    · exact .inr ⟨fun _ h => (nomatch h), .inl h⟩

/-- Stopping an execution asks for one update and owes nothing. -/
theorem stopExecution_does {run : RunId} (hp : s.podId = pod) (ho : k.owed = []) (hf : k.Free)
    (hs : k.stage = .stopping run) :
    Does pod job (stopExecution s job.task run) k (fun _ k' => k'.owed = [])
      (fun _ k' => k'.owed = []) := by
  unfold stopExecution
  have asked : KeepsBooks pod job k (Call.requestStop run) := keeps_call ⟨ho, hs⟩ fun _ => rfl
  refine asked.lift fun before => ?_
  split
  · exact ho
  · refine followsOr_bind.mpr (followsOr_attempt.mpr ?_)
    rw [hp]
    refine (callUpdate_does ho hf (.stop run hs)).mono ?_ ?_
    · rintro record k₁ ⟨-, hk₁⟩
      have ho₁ : k₁.owed = [] := by rw [hk₁, wrote_owed]; exact ho
      exact (keeps_cancel ho₁ run).lift fun _ => ho₁
    · rintro (task | found | reason) k₁ hk₁
      all_goals
        have ho₁ : k₁.owed = [] := by rw [hk₁]; exact ho
        exact (keeps_cancel ho₁ run).lift fun _ => ho₁

/-- A look at the store stops the execution at most once and owes nothing. -/
theorem lookForCancellation_follows {run : RunId} (hp : s.podId = pod) (ho : k.owed = [])
    (hf : k.Free) (hs : k.stage = .stopping run) :
    Program.Follows (agentConduct pod job) (lookForCancellation s job.task run) k
      fun _ k' => k'.owed = [] := by
  unfold lookForCancellation
  refine follows_bind.mpr (Follows.mono (callRead_does ho (.inr ⟨run, hs⟩)) ?_)
  rintro (cause | _ | t) k₁ ⟨hk₁, -⟩
  · rw [hk₁]
    exact ho
  · rw [hk₁]
    exact ho
  · have ho₁ : k₁.owed = [] := by rw [hk₁]; exact ho
    have hf₁ : k₁.Free := by rw [hk₁]; exact ⟨hf.1, hf.2, hf.3, hf.4⟩
    have hs₁ : k₁.stage = .stopping run := by rw [hk₁]; exact hs
    simp only
    split
    · refine follows_bind.mpr (Follows.mono (stopExecution_does hp ho₁ hf₁ hs₁) ?_)
      rintro (cause | first) k' hk' <;> exact hk'
    · exact ho₁

end GridAgent.Cluster
