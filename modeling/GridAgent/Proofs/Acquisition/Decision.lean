import GridAgent.Acquisition.Decision
import GridAgent.Proofs.Status

/-!
# What a decision can be

A decision on a stored task leaves the record as it is, or asks for one of four changes, each in one
status of the task and under one kind of holder. A message that is not to come back is one of a task
whose status stays.
-/

namespace GridAgent.Acquisition

/-- The decisions on a stored task, seen from a pod. -/
inductive Judged (pod : PodId) (t : TaskRecord) : Decision → Prop where
  /-- The record stays, and the task is not this agent's to execute. -/
  | stays (outcome : Outcome) (disposition : Disposition) (refused : outcome ≠ .acquired)
    (retried : ∀ successor, outcome = .taskIsRetried successor → t.status = .retried)
    (settles : disposition.settlement = .release ∨ t.status.isClosed = true) :
    Judged pod t ⟨outcome, some t.status, disposition, .none⟩
  /-- The task is dispatched under this pod already. -/
  | own (status : t.status = .dispatched) (owner : t.owner = some pod) :
    Judged pod t ⟨.acquired, some t.status, .waiting, .none⟩
  /-- The task is submitted and free. -/
  | claim (status : t.status = .submitted) (owner : t.owner = none) :
    Judged pod t ⟨.acquired, some .dispatched, .waiting, .claim⟩
  /-- The task is dispatched under a dead pod. -/
  | reset (owner : PodId) (status : t.status = .dispatched) (held : t.owner = some owner)
    (other : owner ≠ pod) :
    Judged pod t ⟨.dispatchedCrashed, some .submitted, .postponed, .resetToSubmitted owner⟩
  /-- The task is processing without a live owner. -/
  | recover (outcome : Outcome) (disposition : Disposition) (refused : outcome ≠ .acquired)
    (status : t.status = .processing) (other : t.owner ≠ some pod) :
    Judged pod t ⟨outcome, some .retried, disposition, .retryAbandoned t.owner⟩
  /-- The task is marked for cancellation. -/
  | bury (status : t.status = .cancelling) :
    Judged pod t ⟨.taskIsCancelling, some .cancelled, .cancelled, .finishCancellation⟩

/-- The owner of a task that is held so. -/
def Holder.owner? (pod : PodId) : Holder → Option PodId
  | nobody => none
  | thisPod => some pod
  | other owner => some owner

/-- Who holds a task says who owns it. -/
theorem owner_of_holder {t : TaskRecord} {pod : PodId} {who : Holder} (h : holder t pod = who) :
    t.owner = who.owner? pod := by
  subst h
  unfold holder
  cases t.owner with
  | none => rfl
  | some owner =>
    by_cases e : owner = pod
    · simp [e, Holder.owner?]
    · simp [e, Holder.owner?]

/-- Another holder is another pod. -/
theorem ne_of_holder {t : TaskRecord} {pod owner : PodId} (h : holder t pod = .other owner) :
    owner ≠ pod := by
  rintro rfl
  have ho := owner_of_holder h
  simp [holder, ho, Holder.owner?] at h

/-! The decision on a record. -/

/-- The owner of a record contradicts its status: it is ready and held, or held by nobody. -/
def Contradicts (t : TaskRecord) : Prop :=
  (t.status = .submitted ∧ t.owner ≠ none) ∨ (t.status.isOwned = true ∧ t.owner = none)

/-- An outcome for records whose owner contradicts their status. -/
def Outcome.isContradiction : Outcome → Bool
  | processingHere | podIdEmptyAfterAcquisition | taskIsProcessingPodIdEmpty => true
  | _ => false

/-- What is decided on a record, and what the record and its holder are like then. -/
inductive Ruling (s : Situation) (t : TaskRecord) : Verdict → Prop where
  /-- The record stays, and the task is not this agent's to execute. -/
  | stays (outcome : Outcome) (disposition : Disposition) (refused : outcome ≠ .acquired)
    (retried : ∀ successor, outcome = .taskIsRetried successor → t.status = .retried)
    (settles : disposition.settlement = .release ∨ t.status.isClosed = true)
    (contradicts : outcome.isContradiction = true → Contradicts t) :
    Ruling s t (.decided ⟨outcome, some t.status, disposition, .none⟩)
  /-- The task is dispatched under this pod already. -/
  | own (status : t.status = .dispatched) (owner : t.owner = some s.pod) :
    Ruling s t (.decided ⟨.acquired, some t.status, .waiting, .none⟩)
  /-- The task is submitted and free. -/
  | claim (status : t.status = .submitted) (owner : t.owner = none) :
    Ruling s t (.decided ⟨.acquired, some .dispatched, .waiting, .claim⟩)
  /-- The claim of another pod has outlived the timeout, and the pod is dead. -/
  | reset (owner : PodId) (status : t.status = .dispatched) (held : t.owner = some owner)
    (other : owner ≠ s.pod) (outlived : claimOutlived t s.now s.dispatchTimeout = true)
    (dead : s.ownerAlive = some false) : Ruling s t
      (.decided ⟨.dispatchedCrashed, some .submitted, .postponed, .resetToSubmitted owner⟩)
  /-- The task is processing, and nobody holds it. -/
  | unheld (status : t.status = .processing) (owner : t.owner = none) : Ruling s t
      (.decided ⟨.taskIsProcessingPodIdEmpty, some .retried, .cancelled, .retryAbandoned none⟩)
  /-- The task is processing under another pod, which is dead. -/
  | crashed (owner : PodId) (status : t.status = .processing) (held : t.owner = some owner)
    (other : owner ≠ s.pod) (dead : s.ownerAlive = some false) : Ruling s t
      (.decided ⟨.taskIsProcessingButSeemsCrashed, some .retried, .processed,
        .retryAbandoned (some owner)⟩)
  /-- The task is marked for cancellation. -/
  | bury (status : t.status = .cancelling) : Ruling s t
      (.decided ⟨.taskIsCancelling, some .cancelled, .cancelled, .finishCancellation⟩)
  /-- Another pod executes the task, or should have begun to, and was not asked for. -/
  | hangs (owner : PodId) (held : t.owner = some owner) (other : owner ≠ s.pod)
    (stuck : t.status = .processing ∨
      t.status = .dispatched ∧ claimOutlived t s.now s.dispatchTimeout = true)
    (unasked : s.ownerAlive = none) : Ruling s t (.needsLiveness owner)

/-- A claim of another pod stands until it has outlived the timeout and the pod is dead. -/
theorem ruling_of_dispatched {s : Situation} {t : TaskRecord} {owner : PodId}
    (hs : t.status = .dispatched) (hh : holder t s.pod = .other owner) :
    Ruling s t (decideRecord s t) := by
  simp only [decideRecord, hs, hh]
  split
  · next outlived =>
    split
    · next unasked =>
      exact .hangs owner (owner_of_holder hh) (ne_of_holder hh) (.inr ⟨hs, outlived⟩) unasked
    · exact hs ▸ .stays _ _ nofun nofun (.inl rfl) nofun
    · next dead => exact .reset owner hs (owner_of_holder hh) (ne_of_holder hh) outlived dead
  · exact hs ▸ .stays _ _ nofun nofun (.inl rfl) nofun

/-- Another pod executes its task until it is dead. -/
theorem ruling_of_processing {s : Situation} {t : TaskRecord} {owner : PodId}
    (hs : t.status = .processing) (hh : holder t s.pod = .other owner) :
    Ruling s t (decideRecord s t) := by
  simp only [decideRecord, hs, hh]
  split
  · next unasked => exact .hangs owner (owner_of_holder hh) (ne_of_holder hh) (.inl hs) unasked
  · exact hs ▸ .stays _ _ nofun nofun (.inl rfl) nofun
  · next dead => exact .crashed owner hs (owner_of_holder hh) (ne_of_holder hh) dead

/-- Every record is ruled on so, by its status and its holder. -/
theorem ruling_of_decideRecord (s : Situation) (t : TaskRecord) : Ruling s t (decideRecord s t) := by
  -- the record stays where the outcome refuses it and says nothing about its owner
  have stays {outcome : Outcome} {disposition : Disposition} {status : TaskStatus}
      (refused : outcome ≠ .acquired)
      (retried : ∀ successor, outcome = .taskIsRetried successor → t.status = .retried)
      (settles : disposition.settlement = .release ∨ t.status.isClosed = true)
      (contradicts : outcome.isContradiction = true → Contradicts t) (hs : t.status = status) :
      Ruling s t (.decided ⟨outcome, some status, disposition, .none⟩) :=
    hs ▸ .stays outcome disposition refused retried settles contradicts
  cases hs : t.status with
  | submitted =>
    cases hh : holder t s.pod with
    | nobody =>
      simp only [decideRecord, hs, hh]
      exact .claim hs (owner_of_holder hh)
    | thisPod =>
      have held : t.owner = some s.pod := owner_of_holder hh
      simp only [decideRecord, hs, hh]
      exact stays nofun nofun (.inl rfl) (fun _ => .inl ⟨hs, by rw [held]; nofun⟩) hs
    | other owner =>
      simp only [decideRecord, hs, hh]
      exact stays nofun nofun (.inl rfl) nofun hs
  | dispatched =>
    cases hh : holder t s.pod with
    | nobody =>
      simp only [decideRecord, hs, hh]
      exact stays nofun nofun (.inl rfl) (fun _ => .inr ⟨by rw [hs]; rfl, owner_of_holder hh⟩) hs
    | thisPod =>
      simp only [decideRecord, hs, hh]
      exact hs ▸ .own hs (owner_of_holder hh)
    | other owner => exact ruling_of_dispatched hs hh
  | processing =>
    cases hh : holder t s.pod with
    | nobody =>
      simp only [decideRecord, hs, hh]
      exact .unheld hs (owner_of_holder hh)
    | thisPod =>
      simp only [decideRecord, hs, hh]
      exact stays nofun nofun (.inl rfl) nofun hs
    | other owner => exact ruling_of_processing hs hh
  | cancelling =>
    simp only [decideRecord, hs]
    exact .bury hs
  | retried =>
    simp only [decideRecord, hs]
    exact stays nofun (fun _ _ => hs) (.inr (by rw [hs]; rfl)) nofun hs
  | creating | pending =>
    simp only [decideRecord, hs]
    exact stays nofun nofun (.inl rfl) nofun hs
  | completed | error | timeout | cancelled | paused =>
    simp only [decideRecord, hs]
    exact stays nofun nofun (.inr (by rw [hs]; rfl)) nofun hs

/-- A decision on a record in a running session is one of those. -/
theorem judged_of_decideRecord {s : Situation} {t : TaskRecord} {d : Decision}
    (h : decideRecord s t = .decided d) : Judged s.pod t d := by
  have ruling := ruling_of_decideRecord s t
  rw [h] at ruling
  cases ruling with
  | stays outcome disposition refused retried settles contradicts =>
    exact .stays outcome disposition refused retried settles
  | own status owner => exact .own status owner
  | claim status owner => exact .claim status owner
  | reset owner status held other outlived dead => exact .reset owner status held other
  | unheld status owner =>
    rw [← owner]
    exact .recover _ _ nofun status (by rw [owner]; nofun)
  | crashed owner status held other dead =>
    rw [← held]
    exact .recover _ _ nofun status (by rw [held]; exact fun e => other (Option.some.inj e))
  | bury status => exact .bury status

/-- The agent shuts down, or the session keeps it from executing the task: the record is not looked
at, and the message comes back. -/
theorem decide_cases {s : Situation} {t : TaskRecord} {d : Decision} (ht : s.task = some t)
    (h : decide s = .decided d) : decideRecord s t = .decided d ∨
      ∃ outcome ∈ [Outcome.cancelledAfterFirstRead, .sessionNotExecutable, .sessionPaused],
        ∃ disposition : Disposition, disposition.settlement = .release ∧
          d = ⟨outcome, some t.status, disposition, .none⟩ := by
  unfold decide at h
  simp only [ht] at h
  split at h
  · cases h
    exact .inr ⟨_, by simp, _, rfl, rfl⟩
  · split at h
    · cases h
      exact .inr ⟨_, by simp, _, rfl, rfl⟩
    · split at h
      · cases h
        exact .inr ⟨_, by simp, _, rfl, rfl⟩
      · split at h
        · cases h
          exact .inr ⟨_, by simp, _, rfl, rfl⟩
        · exact .inl h

/-- A decision on a stored task is one of those. -/
theorem judged_of_decide {s : Situation} {t : TaskRecord} {d : Decision} (ht : s.task = some t)
    (h : decide s = .decided d) : Judged s.pod t d := by
  rcases decide_cases ht h with h | ⟨outcome, ho, disposition, release, rfl⟩
  · exact judged_of_decideRecord h
  · simp only [List.mem_cons, List.not_mem_nil, or_false] at ho
    rcases ho with rfl | rfl | rfl <;> exact .stays _ _ nofun nofun (.inl release)

/-! What two kinds of decision say about the record. -/

/-- Some outcomes are reached for records only whose owner contradicts their status. -/
theorem contradicts_of_decideRecord {s : Situation} {t : TaskRecord} {d : Decision}
    (h : decideRecord s t = .decided d) (hd : d.outcome.isContradiction = true) :
    Contradicts t := by
  have ruling := ruling_of_decideRecord s t
  rw [h] at ruling
  cases ruling with
  | stays outcome disposition refused retried settles contradicts => exact contradicts hd
  | unheld status owner => exact .inr ⟨by rw [status]; rfl, owner⟩
  | _ => cases hd

theorem contradicts_of_decide {s : Situation} {t : TaskRecord} {d : Decision}
    (ht : s.task = some t) (h : decide s = .decided d) (hd : d.outcome.isContradiction = true) :
    Contradicts t := by
  rcases decide_cases ht h with h | ⟨outcome, ho, disposition, -, rfl⟩
  · exact contradicts_of_decideRecord h hd
  · simp only [List.mem_cons, List.not_mem_nil, or_false] at ho
    rcases ho with rfl | rfl | rfl <;> cases hd

/-- A claim is questioned only once it has outlived the timeout. -/
theorem claimOutlived_of_decideRecord {s : Situation} {t : TaskRecord} {d : Decision}
    {owner : PodId} (h : decideRecord s t = .decided d)
    (hd : d.transition = .resetToSubmitted owner) :
    claimOutlived t s.now s.dispatchTimeout = true := by
  have ruling := ruling_of_decideRecord s t
  rw [h] at ruling
  cases ruling with
  | reset owner status held other outlived dead => exact outlived
  | _ => cases hd

theorem claimOutlived_of_decide {s : Situation} {t : TaskRecord} {d : Decision} {owner : PodId}
    (ht : s.task = some t) (h : decide s = .decided d)
    (hd : d.transition = .resetToSubmitted owner) :
    claimOutlived t s.now s.dispatchTimeout = true := by
  rcases decide_cases ht h with h | ⟨outcome, -, disposition, -, rfl⟩
  · exact claimOutlived_of_decideRecord h hd
  · cases hd

/-! A task for which several agents contend. -/

/-- The task can be claimed. -/
structure IsFree (t : TaskRecord) : Prop where
  /-- It is ready. -/
  status : t.status = .submitted
  /-- Nobody holds it. -/
  owner : t.owner = none

/-- Another pod has claimed the task and not started it. -/
structure IsTaken (pod : PodId) (t : TaskRecord) : Prop where
  /-- It is claimed. -/
  status : t.status = .dispatched
  /-- Another pod holds it. -/
  owner : ∃ owner, t.owner = some owner ∧ owner ≠ pod

/-- Nothing keeps the agent from taking tasks of the session. -/
structure Situation.IsOpen (s : Situation) : Prop where
  /-- The agent is not shutting down. -/
  shutdown : s.shutdown = false
  /-- The session runs. -/
  session : ∃ session, s.session = some session ∧ session.status = .running

/-- In a running session the record decides. -/
theorem decide_of_isOpen {s : Situation} {t : TaskRecord} (h : s.IsOpen) (ht : s.task = some t) :
    decide s = decideRecord s t := by
  obtain ⟨session, hs, running⟩ := h.session
  simp [decide, ht, h.shutdown, hs, running, SessionStatus.isTerminated]

/-- A free task is claimed. -/
theorem decide_of_free {s : Situation} {t : TaskRecord} (h : s.IsOpen) (ht : s.task = some t)
    (free : IsFree t) : decide s = .decided ⟨.acquired, some .dispatched, .waiting, .claim⟩ := by
  rw [decide_of_isOpen h ht]
  simp [decideRecord, holder, free.status, free.owner]

/-- The message of a retried task is rejected for good. -/
theorem decide_of_retried {s : Situation} {t : TaskRecord} (h : s.IsOpen) (ht : s.task = some t)
    (retried : t.status = .retried) :
    decide s = .decided ⟨.taskIsRetried none, some .retried, .poisonous, .none⟩ := by
  rw [decide_of_isOpen h ht]
  simp [decideRecord, retried]

/-- The message of a task that has ended without a successor is done with. -/
theorem decide_of_ended {s : Situation} {t : TaskRecord} (h : s.IsOpen) (ht : s.task = some t)
    (ended : t.status.isTerminal = true) (final : t.status ≠ .retried) :
    ∃ outcome disposition, decide s = .decided ⟨outcome, some t.status, disposition, .none⟩ ∧
      outcome ≠ .acquired ∧ (∀ successor, outcome ≠ .taskIsRetried successor) ∧
        disposition.settlement = .ack := by
  rw [decide_of_isOpen h ht]
  cases status : t.status with
  | completed => exact ⟨.taskIsProcessed, .processed, by simp [decideRecord, status], nofun, nofun, rfl⟩
  | error => exact ⟨.taskIsError, .cancelled, by simp [decideRecord, status], nofun, nofun, rfl⟩
  | timeout => exact ⟨.taskIsTimeout, .processed, by simp [decideRecord, status], nofun, nofun, rfl⟩
  | cancelled =>
    exact ⟨.taskIsCancelled, .cancelled, by simp [decideRecord, status], nofun, nofun, rfl⟩
  | retried => exact absurd status final
  | creating | submitted | dispatched | processing | cancelling | paused | pending =>
    rw [status] at ended
    cases ended

/-- The message is a duplicate, or comes back before the claim of another agent can be questioned. -/
def IsLate (d : Decision) : Prop :=
  (d.outcome = .messageDuplicated ∨ d.outcome = .timeoutNotExceeded) ∧
    d.disposition = .postponed ∧ d.transition = .none

/-- A taken task is left to its owner, unless the decision hangs on whether the owner is alive. -/
theorem decide_of_taken {s : Situation} {t : TaskRecord} (h : s.IsOpen) (ht : s.task = some t)
    (taken : IsTaken s.pod t) (alive : s.ownerAlive ≠ some false) :
    (s.ownerAlive = none ∧ ∃ owner, decide s = .needsLiveness owner) ∨
      ∃ d, decide s = .decided d ∧ IsLate d := by
  obtain ⟨owner, ho, hne⟩ := taken.owner
  rw [decide_of_isOpen h ht]
  have held : holder t s.pod = .other owner := by simp [holder, ho, hne]
  simp only [decideRecord, taken.status, held]
  split
  · split
    · next hs => exact .inl ⟨hs, owner, rfl⟩
    · exact .inr ⟨_, rfl, .inl rfl, rfl, rfl⟩
    · next hs => exact absurd hs alive
  · exact .inr ⟨_, rfl, .inr rfl, rfl, rfl⟩

end GridAgent.Acquisition
