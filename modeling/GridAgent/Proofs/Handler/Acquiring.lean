import GridAgent.Agent.Acquire
import GridAgent.Proofs.Acquisition.Decision
import GridAgent.Proofs.Handler.Succession

/-!
# The books while a task is acquired

Acquisition reads, decides and changes the record round by round. Every change it asks for fits what
it read in that round, a lost change leaves the job free for another round, and a message that it
does not want back is one of a task whose status stays.
-/

namespace GridAgent.Cluster

open Agent Program Track Acquisition

variable {pod : PodId} {job : Job} {k : Track} {s : Settings}

/-- The task is being acquired, and may still be changed. -/
structure Track.Acquires (k : Track) : Prop where
  /-- No execution is registered. -/
  stage : k.stage = .acquiring
  /-- Nothing is owed. -/
  owed : k.owed = []
  /-- The task may still be changed. -/
  free : k.Free

/-- What the books know of a record that was read. -/
structure Track.Knows (pod : PodId) (job : Job) (k : Track) (t : TaskRecord) : Prop where
  /-- It is the record of the task. -/
  id : t.id = job.task
  /-- Whether the task is dispatched under this pod. -/
  attached : k.attached = (t.status = .dispatched && t.isOwnedBy pod : Bool)
  /-- A status that stays. -/
  closed : t.status.isClosed = true → k.closed = true

/-- The books when acquisition is over. -/
structure Track.Acquired (job : Job) (k : Track) (acquired : Agent.Acquired) : Prop where
  /-- No execution is registered. -/
  stage : k.stage = .acquiring
  /-- Nothing is owed. -/
  owed : k.owed = []
  /-- Nothing is decided on the message. -/
  disposed : k.disposed = none
  /-- The message is not settled. -/
  settled : k.settled = false
  /-- The message may be settled as acquisition says. -/
  allows : k.Allows acquired.disposition
  /-- An acquired task is this agent's to execute. -/
  claimed : acquired.outcome = .acquired → ∀ t, acquired.task = some t →
    t.id = job.task ∧ k.attached = true ∧ k.Free

namespace Track

theorem Acquires.read (h : k.Acquires) (answer : Except StoreError (Option TaskRecord)) :
    (k.read pod answer).Acquires := by
  obtain ⟨hs, ho, hd, hr, hm, hl⟩ := h
  rcases answer with cause | _ | record
  all_goals exact ⟨hs, ho, hd, hr, hm, hl⟩

theorem Acquires.lost (h : k.Acquires) {wanted : TaskStatus} (found : LostUpdate)
    (hw : wanted = .cancelled → k.attached = false) : (k.lost wanted found).Acquires := by
  obtain ⟨hs, ho, hd, hr, hm, hl⟩ := h
  refine ⟨hs, ho, ?_, hr, hm, hl⟩
  by_cases e : wanted = .cancelled
  · simp [Track.lost, hd, hw e]
  · simp [Track.lost, hd, e]

theorem Acquires.close (h : k.Acquires) : ({ k with closed := true } : Track).Acquires :=
  ⟨h.stage, h.owed, h.free.doomed, h.free.released, h.free.disposed, h.free.settled⟩

theorem Acquires.reserve (h : k.Acquires) {k' : Track} (hk : SameButReserved k k') :
    k'.Acquires := by
  obtain ⟨reserved, rfl⟩ := hk
  exact ⟨h.stage, h.owed, h.free.doomed, h.free.released, h.free.disposed, h.free.settled⟩

/-- Acquisition is over without an execution. -/
theorem Acquires.refused (h : k.Acquires) {acquired : Agent.Acquired}
    (ha : k.Allows acquired.disposition) (hr : acquired.outcome ≠ .acquired) :
    k.Acquired job acquired :=
  ⟨h.stage, h.owed, h.free.disposed, h.free.settled, ha, fun e => absurd e hr⟩

end Track

/-- The record in a situation is the one that was read, with more options. -/
theorem readSituation_does (hp : s.podId = pod) (h : k.Acquires) :
    Does pod job (readSituation s job.task) k
      (fun situation k' => k'.Acquires ∧ situation.pod = pod ∧
        ∀ t, situation.task = some t → k'.Knows pod job t)
      (fun _ k' => k'.Acquires) := by
  unfold readSituation
  refine followsOr_bind.mpr (followsOr_orFail.mpr ((readTask_does h.owed (.inl h.stage)).mono ?_ ?_))
  · rintro record k₁ ⟨hk₁, hid⟩
    have h₁ : k₁.Acquires := hk₁ ▸ h.read (.ok record)
    have knows : ∀ t, record = some t → k₁.Knows pod job t := by
      rintro t rfl
      refine ⟨hid t rfl, by rw [hk₁]; rfl, fun hc => ?_⟩
      rw [hk₁]
      simp [Track.read, hc]
    rcases record with _ | t
    · refine followsOr_bind.mpr (followsOr_pure.mpr ?_)
      refine (keeps_now h₁.owed).lift fun now => ?_
      refine (keeps_shutdownRequested h₁.owed).lift fun shutdown => ?_
      exact ⟨h₁, hp, fun t ht => by cases ht⟩
    · have hk := knows t rfl
      refine followsOr_bind.mpr (followsOr_orFail.mpr ?_)
      refine (keeps_readSession h₁.owed t.session).followsOr (fun session => ?_) fun _ => h₁
      refine (keeps_now h₁.owed).lift fun now => ?_
      refine (keeps_shutdownRequested h₁.owed).lift fun shutdown => ?_
      refine ⟨h₁, hp, fun t' ht => ?_⟩
      obtain rfl := Option.some.inj ht
      cases session with
      | none => exact hk
      | some session => exact ⟨hk.id, hk.attached, hk.closed⟩
  · rintro cause _ rfl
    exact h

/-- A reached decision was made on the situation, with some answer of the checker. -/
theorem reachDecision_does {situation : Situation} (ho : k.owed = []) (task : TaskId) :
    Does pod job (reachDecision s task situation) k
      (fun d k' => k' = k ∧ ∃ alive, decide { situation with ownerAlive := alive } = .decided d)
      (fun _ k' => k' = k) := by
  unfold reachDecision
  split
  · next d hd =>
    refine ⟨rfl, situation.ownerAlive, hd⟩
  · split
    · rfl
    · next t _ =>
      refine followsOr_bind.mpr (followsOr_orFail.mpr ?_)
      refine (keeps_isAlive ho t _).followsOr (fun alive => ?_) fun _ => rfl
      split
      · next d hd => exact ⟨rfl, some alive, hd⟩
      · rfl

/-- Looking at the successor of a retried task leaves the job free for another round. -/
theorem repairLineage_does {t : TaskRecord} (h : k.Acquires) (hk : k.Knows pod job t)
    (hc : k.closed = true) :
    Does pod job (repairLineage s t) k (fun _ k' => k'.Acquires ∧ k'.closed = true)
      (fun _ k' => k'.Acquires) := by
  have promotes : k.MayPromote := ⟨hc, by rw [h.stage]; rfl⟩
  unfold repairLineage
  refine followsOr_bind.mpr (followsOr_orFail.mpr ?_)
  refine (keeps_findSuccessor h.owed t.id).followsOr (fun found => ?_) fun _ => h
  cases found with
  | none =>
    refine followsOr_bind.mpr ((ensureSuccessor_does h.owed hk.id promotes).mono ?_ ?_)
    · intro _ k₁ hk₁
      obtain ⟨reserved, rfl⟩ := hk₁
      exact ⟨h.reserve ⟨reserved, rfl⟩, hc⟩
    · rintro cause k₁ ⟨-, hk₁⟩
      exact h.reserve hk₁
  | some successor =>
    simp only
    split
    · refine followsOr_bind.mpr ((submitSuccessor_does h.owed promotes successor).mono ?_ ?_)
      · rintro _ _ rfl
        exact ⟨h, hc⟩
      · rintro cause _ ⟨-, rfl⟩
        exact h
    all_goals exact ⟨h, hc⟩

/-- What is known once the change that a decision asks for is made. -/
def AfterTransition (job : Job) (d : Decision) (k k' : Track) : Option TaskRecord → Prop
  | none => k' = k ∧ d.transition = .none
  | some updated => updated.id = job.task ∧ k'.stage = .acquiring ∧ k'.owed = [] ∧
    k'.disposed = none ∧ k'.settled = false ∧ k'.Allows d.disposition ∧
    (d.outcome = .acquired → k'.attached = true ∧ k'.Free)

/-- A change that closes the task, for a decision that does not acquire it. -/
theorem Track.Acquires.afterTransition {k' : Track} (h : k'.Acquires) (k : Track) {d : Decision}
    {updated : TaskRecord} (closed : k'.closed = true) (own : updated.id = job.task)
    (refused : d.outcome ≠ .acquired) : AfterTransition job d k k' (some updated) :=
  ⟨own, h.stage, h.owed, h.free.disposed, h.free.settled, .inr (.inl closed),
    fun e => absurd e refused⟩

/-- An update that fails leaves the job free for another round. -/
theorem Track.Acquires.afterFailure {cause : StoreError} {k' : Track} (h : k.Acquires)
    (change : TaskUpdate) (detached : change.status = .cancelled → k.attached = false)
    (hk : AfterUpdate job k change (.error cause) k') : k'.Acquires := by
  rcases cause with task | found | reason
  · exact hk ▸ h
  · exact hk ▸ h.lost found detached
  · exact hk ▸ h

/-- An attempt that was abandoned is ended, and the task is closed. -/
theorem recover_does {t : TaskRecord} {reason : String} (h : k.Acquires) (own : t.id = job.task) :
    Does pod job (retryTask s t (abandonedExpectation t.owner) reason) k
      (fun updated k' => updated.id = job.task ∧ k'.Acquires ∧ k'.closed = true)
      (fun _ k' => k'.Acquires) := by
  refine (retryTask_does h.owed h.free own
    fun plan now => .recover t.owner plan _ now h.stage).mono ?_ ?_
  · rintro updated k₁ ⟨hid, reserved, rfl⟩
    exact ⟨hid, h.close.reserve ⟨reserved, rfl⟩, rfl⟩
  · rintro cause k₁ (⟨found, plan, -, rfl⟩ | ⟨-, rfl | hk₁⟩)
    · exact h.lost found (by cases plan <;> exact nofun)
    · exact h
    · exact h.close.reserve hk₁

/-- The change that a decision asks for is made, or the job is free for another round. -/
theorem makeTransition_does {t : TaskRecord} {d : Decision} {now : Date} (hp : s.podId = pod)
    (h : k.Acquires) (hk : k.Knows pod job t) (hd : Judged pod t d) :
    Does pod job (makeTransition s t now d.transition) k
      (fun updated k' => AfterTransition job d k k' updated) (fun _ k' => k'.Acquires) := by
  cases hd with
  | stays outcome disposition refused retried settles => exact ⟨rfl, rfl⟩
  | own status owner => exact ⟨rfl, rfl⟩
  | claim status owner =>
    refine followsOr_orFail.mpr (followsOr_map.mpr ?_)
    rw [hk.id, hp]
    refine (updateTask_does h.owed h.free (.claim s.podName now h.stage)).mono ?_ ?_
    · rintro updated _ ⟨hid, rfl⟩
      refine ⟨hid, h.stage, h.owed, h.free.disposed, h.free.settled, .inl rfl, fun _ => ⟨rfl, ?_⟩⟩
      exact ⟨h.free.doomed, h.free.released, h.free.disposed, h.free.settled⟩
    · exact fun cause k₁ hk₁ => h.afterFailure (.dispatch pod s.podName now) nofun hk₁
  | reset owner status held other =>
    have detached : k.attached = false := by
      rw [hk.attached]
      simp [TaskRecord.isOwnedBy, held, other]
    refine followsOr_orFail.mpr (followsOr_map.mpr ?_)
    rw [hk.id]
    refine (updateTask_does h.owed h.free (.reset owner now h.stage detached)).mono ?_ ?_
    · rintro updated _ ⟨hid, rfl⟩
      exact ⟨hid, h.stage, h.owed, h.free.disposed, h.free.settled, .inl rfl, nofun⟩
    · exact fun cause k₁ hk₁ => h.afterFailure (.release now) nofun hk₁
  | recover outcome disposition refused status other =>
    refine followsOr_map.mpr ((recover_does h hk.id).mono ?_ fun _ _ h₁ => h₁)
    rintro updated k₁ ⟨hid, h₁, closed⟩
    exact h₁.afterTransition k closed hid refused
  | bury status =>
    have detached : k.attached = false := by
      rw [hk.attached]
      simp [status]
    refine followsOr_bind.mpr (followsOr_orFail.mpr ?_)
    rw [hk.id]
    refine (updateTask_does h.owed h.free (.bury now h.stage detached)).mono ?_ ?_
    · rintro updated k₁ ⟨hid, hk₁⟩
      replace hk₁ := hk₁.trans (wrote_of_isClosed k _ rfl)
      have h₁ : k₁.Acquires := hk₁ ▸ h.close
      exact abandonResults_then h₁.owed (h₁.afterTransition k (by rw [hk₁]) hid nofun)
    · exact fun cause k₁ hk₁ => h.afterFailure _ (fun _ => detached) hk₁

/-- Carrying a decision out ends acquisition, or the job is free for another round. -/
theorem carryOut_does {t : TaskRecord} {d : Decision} (hp : s.podId = pod) (h : k.Acquires)
    (hk : k.Knows pod job t) (hd : Judged pod t d) :
    Does pod job (carryOut s t d) k (fun acquired k' => k'.Acquired job acquired)
      (fun _ k' => k'.Acquires) := by
  unfold carryOut
  refine (keeps_now h.owed).lift fun now => ?_
  refine followsOr_bind.mpr ((makeTransition_does hp h hk hd).mono ?_ fun _ _ h => h)
  rintro (_ | updated) k₁ h₁
  · obtain ⟨rfl, ht⟩ := h₁
    simp only
    cases hd with
    | stays outcome disposition refused retried settles =>
      have allows : k₁.Allows disposition := settles.imp_right fun hc => .inl (hk.closed hc)
      split
      · next successor ho =>
        have hc : k₁.closed = true := by
          refine hk.closed ?_
          rw [retried successor ho]
          rfl
        refine followsOr_bind.mpr ((repairLineage_does h hk hc).mono ?_ fun _ _ h => h)
        rintro state k₂ ⟨h₂, hc₂⟩
        exact h₂.refused (.inr (.inl hc₂)) nofun
      · exact h.refused allows refused
    | own status owner =>
      refine ⟨h.stage, h.owed, h.free.disposed, h.free.settled, .inl rfl, fun _ t' ht' => ?_⟩
      obtain rfl := Option.some.inj ht'
      refine ⟨hk.id, ?_, h.free⟩
      rw [hk.attached]
      simp [status, TaskRecord.isOwnedBy, owner]
    | _ => cases ht
  · obtain ⟨hid, hs, ho, hm, hl, ha, hc⟩ := h₁
    refine ⟨hs, ho, hm, hl, ha, fun e t' ht' => ?_⟩
    obtain rfl := Option.some.inj ht'
    exact ⟨hid, hc e⟩

/-- A round ends acquisition, or the job is free for another one. -/
theorem acquireOnce_does (hp : s.podId = pod) (h : k.Acquires) :
    Does pod job (acquireOnce s job.task) k
      (fun round k' => match round with
        | .ok acquired => k'.Acquired job acquired
        | .error _ => k'.Acquires)
      (fun _ k' => k'.Acquires) := by
  unfold acquireOnce
  refine followsOr_bind.mpr ((readSituation_does hp h).mono ?_ fun _ _ h => h)
  rintro situation k₁ ⟨h₁, hs₁, hk₁⟩
  refine followsOr_bind.mpr ((reachDecision_does h₁.owed job.task).mono ?_ ?_)
  · rintro d _ ⟨rfl, alive, hd⟩
    split
    · next hn =>
      have missing : d = ⟨.taskNotFound, none, .postponed, .none⟩ := by
        simp only [Acquisition.decide, hn, Verdict.decided.injEq] at hd
        exact hd.symm
      subst missing
      exact h₁.refused (.inl rfl) (by simp [Agent.Acquired.ofDecision])
    · next t ht =>
      have judged := judged_of_decide (s := { situation with ownerAlive := alive }) ht hd
      rw [hs₁] at judged
      refine followsOr_bind.mpr (followsOr_attempt.mpr ?_)
      refine (carryOut_does hp h₁ (hk₁ t ht) judged).mono (fun _ _ h => h) ?_
      rintro (⟨task | found | reason⟩ | _ | _ | _ | _ | _ | _ | _) k₂ h₂
      all_goals exact h₂
  · rintro cause _ rfl
    exact h₁

/-- The last round that is made ends acquisition. -/
theorem acquireWithin_does (hp : s.podId = pod) (left : Nat) (h : k.Acquires) :
    Does pod job (acquireWithin s job.task left) k (fun acquired k' => k'.Acquired job acquired)
      (fun _ k' => k'.Acquires) := by
  induction left generalizing k with
  | zero =>
    refine followsOr_bind.mpr ((acquireOnce_does hp h).mono ?_ fun _ _ h => h)
    rintro (lost | acquired) k₁ h₁
    · exact h₁.refused (.inl rfl) nofun
    · exact h₁
  | succ left ih =>
    refine followsOr_bind.mpr ((acquireOnce_does hp h).mono ?_ fun _ _ h => h)
    rintro (lost | acquired) k₁ h₁
    · exact ih h₁
    · exact h₁

end GridAgent.Cluster
