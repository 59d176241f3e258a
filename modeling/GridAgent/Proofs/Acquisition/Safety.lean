import GridAgent.Agent.Acquire
import GridAgent.Proofs.Acquisition.Decision
import GridAgent.Proofs.Store.Records

/-!
# Decisions are safe

A decision asks for a change of a stored task in a running session only, and the update that makes the
change expects the very record that was decided on. What another pod holds is changed only once the
pod was found dead; a claim, only once it has outlived the timeout as well. A decision hangs on the
liveness of another pod alone, and never twice.
-/

namespace GridAgent.Agent

/-- An update as it is asked for. -/
structure UpdateCall where
  /-- The task. -/
  task : TaskId
  /-- What is expected of its record. -/
  expected : Expectation
  /-- The change. -/
  change : TaskUpdate

/-- The update that a program asks for before anything else but the time, which is `clock` at every
reading. -/
def firstUpdate? {α : Type} (clock : Date) : Action α → Option UpdateCall
  | .call .now next => firstUpdate? clock (next clock)
  | .call (.updateTask task expected change) _ => some ⟨task, expected, change⟩
  | _ => none

/-- The first update of a program is that of every sequence it begins. -/
theorem firstUpdate?_bind {α β : Type} {clock : Date} {p : Action α} {f : α → Action β}
    {u : UpdateCall} (h : firstUpdate? clock p = some u) :
    firstUpdate? clock (p.bind f) = some u := by
  induction p with
  | done value => cases h
  | call request next ih =>
    cases request
    case now => exact ih clock h
    case updateTask => exact h
    all_goals cases h

/-- An update of a record asks for it at once. -/
theorem firstUpdate?_updateTask (s : Settings) (clock : Date) (task : TaskId)
    (expected : Expectation) (change : TaskUpdate) :
    firstUpdate? clock (updateTask s task expected change).run = some ⟨task, expected, change⟩ := by
  simp only [updateTask, retrying, RetryPolicy.retrying]
  generalize s.retryPolicy.maxAttempts - 1 = left
  cases left <;> rfl

/-- A failure of one collaborator counts as one of the agent. -/
theorem firstUpdate?_orFail {ε α : Type} {clock : Date} {cause : ε → AgentError} {p : Fallible ε α}
    {u : UpdateCall} (h : firstUpdate? clock p.run = some u) :
    firstUpdate? clock (orFail cause p).run = some u :=
  firstUpdate?_bind h

/-- A program that reads the clock first goes on at that time. -/
theorem firstUpdate?_now {ε α : Type} {clock : Date} {f : Date → Fallible ε α} {u : UpdateCall}
    (h : firstUpdate? clock (f clock).run = some u) :
    firstUpdate? clock ((Call.now : Fallible ε Date) >>= f).run = some u :=
  h

/-- A decision is carried out by its change. -/
theorem firstUpdate?_carryOut {s : Settings} {t : TaskRecord} {d : Acquisition.Decision}
    {clock : Date} {u : UpdateCall}
    (h : firstUpdate? clock (makeTransition s t clock d.transition).run = some u) :
    firstUpdate? clock (carryOut s t d).run = some u :=
  firstUpdate?_now (firstUpdate?_bind h)

end GridAgent.Agent

namespace GridAgent.Acquisition

open Agent

variable {s : Situation} {t : TaskRecord} {d : Decision} {owner : PodId}

/-! Where the record is not looked at. -/

/-- A session that has not ended and is not paused runs. -/
theorem running_of_not {status : SessionStatus} (ended : status.isTerminated = false)
    (paused : status ≠ .paused) : status = .running := by
  cases status <;> first | rfl | exact absurd rfl paused | cases ended

/-- Unless the session is open to the agent the record stays, and the task is not acquired. -/
theorem decide_of_not_isOpen (ht : s.task = some t) (closed : ¬ s.IsOpen) :
    ∃ outcome disposition, outcome ≠ .acquired ∧
      decide s = .decided ⟨outcome, some t.status, disposition, .none⟩ := by
  unfold decide
  simp only [ht]
  split
  · exact ⟨.cancelledAfterFirstRead, _, nofun, rfl⟩
  · next going =>
    split
    · exact ⟨.sessionNotExecutable, _, nofun, rfl⟩
    · next session hs =>
      split
      · exact ⟨.sessionNotExecutable, _, nofun, rfl⟩
      · next alive =>
        split
        · exact ⟨.sessionPaused, _, nofun, rfl⟩
        · next unpaused =>
          have running := running_of_not (by simpa using alive) unpaused
          exact absurd ⟨by simpa using going, session, hs, running⟩ closed

/-- A decision that changes the record, acquires the task or hangs on a pod is made on the record of
an open session. -/
theorem isOpen_of_decide (ht : s.task = some t) (h : ∀ outcome disposition, outcome ≠ .acquired →
    decide s ≠ .decided ⟨outcome, some t.status, disposition, .none⟩) : s.IsOpen := by
  refine Classical.byContradiction fun closed => ?_
  obtain ⟨outcome, disposition, ho, hd⟩ := decide_of_not_isOpen ht closed
  exact h outcome disposition ho hd

/-- Without a record there is one decision. -/
theorem decide_of_missing (ht : s.task = none) :
    decide s = .decided ⟨.taskNotFound, none, .postponed, .none⟩ := by
  simp only [decide, ht]

/-! What hangs on another pod. -/

/-- The task is another pod's: in processing, or claimed for longer than the timeout. -/
structure HangsOn (s : Situation) (t : TaskRecord) (owner : PodId) : Prop where
  /-- The pod holds the task. -/
  held : t.owner = some owner
  /-- It is another pod. -/
  other : owner ≠ s.pod
  /-- It executes the task, or should have begun to. -/
  stuck : t.status = .processing ∨
    t.status = .dispatched ∧ claimOutlived t s.now s.dispatchTimeout = true

/-- The record makes the decision hang on a pod exactly if the pod holds it and was not asked for. -/
theorem decideRecord_eq_needsLiveness :
    decideRecord s t = .needsLiveness owner ↔ HangsOn s t owner ∧ s.ownerAlive = none := by
  constructor
  · intro h
    have ruling := ruling_of_decideRecord s t
    rw [h] at ruling
    cases ruling with
    | hangs owner held other stuck unasked => exact ⟨⟨held, other, stuck⟩, unasked⟩
  · rintro ⟨⟨held, other, stuck⟩, unasked⟩
    rcases stuck with hs | ⟨hs, outlived⟩
    · simp [decideRecord, holder, hs, held, other, unasked]
    · simp [decideRecord, holder, hs, held, other, unasked, outlived]

/-- A decision hangs on a pod exactly if the record makes it, in a session that is open. -/
theorem decide_eq_needsLiveness : decide s = .needsLiveness owner ↔
    s.IsOpen ∧ s.ownerAlive = none ∧ ∃ t, s.task = some t ∧ HangsOn s t owner := by
  constructor
  · intro h
    cases ht : s.task with
    | none => simp [decide_of_missing ht] at h
    | some t =>
      have opened : s.IsOpen := isOpen_of_decide ht (by simp [h])
      rw [decide_of_isOpen opened ht] at h
      obtain ⟨hangs, unasked⟩ := decideRecord_eq_needsLiveness.mp h
      exact ⟨opened, unasked, t, rfl, hangs⟩
  · rintro ⟨opened, unasked, t, ht, hangs⟩
    rw [decide_of_isOpen opened ht]
    exact decideRecord_eq_needsLiveness.mpr ⟨hangs, unasked⟩

/-- What another pod holds is changed only after the pod was found dead, and a claim only once it has
outlived the timeout. -/
theorem dead_of_decideRecord (h : decideRecord s t = .decided d) (changes : d.transition ≠ .none)
    (active : t.status = .dispatched ∨ t.status = .processing) (held : t.owner = some owner)
    (other : owner ≠ s.pod) : HangsOn s t owner ∧ s.ownerAlive = some false := by
  have ruling := ruling_of_decideRecord s t
  rw [h] at ruling
  cases ruling with
  | stays => exact absurd rfl changes
  | own => exact absurd rfl changes
  | claim status free => cases held.symm.trans free
  | reset holder status here _ outlived dead =>
    obtain rfl := Option.some.inj (held.symm.trans here)
    exact ⟨⟨held, other, .inr ⟨status, outlived⟩⟩, dead⟩
  | unheld status free => cases held.symm.trans free
  | crashed holder status here _ dead =>
    obtain rfl := Option.some.inj (held.symm.trans here)
    exact ⟨⟨held, other, .inl status⟩, dead⟩
  | bury status => rcases active with hs | hs <;> cases status.symm.trans hs

/-- The outcomes of decisions that change the record. -/
def Outcome.changing : List Outcome :=
  [.acquired, .dispatchedCrashed, .taskIsProcessingPodIdEmpty, .taskIsProcessingButSeemsCrashed,
    .taskIsCancelling]

/-- A decision that changes the record has one of these outcomes. -/
theorem outcome_of_decideRecord (h : decideRecord s t = .decided d) (changes : d.transition ≠ .none) :
    d.outcome ∈ Outcome.changing := by
  have ruling := ruling_of_decideRecord s t
  rw [h] at ruling
  cases ruling with
  | stays => exact absurd rfl changes
  | own => exact absurd rfl changes
  | _ => simp [Outcome.changing]

theorem outcome_of_decide (ht : s.task = some t) (h : decide s = .decided d)
    (changes : d.transition ≠ .none) : d.outcome ∈ Outcome.changing := by
  rcases decide_cases ht h with h | ⟨outcome, -, disposition, -, rfl⟩
  · exact outcome_of_decideRecord h changes
  · exact absurd rfl changes

/-! What is acquired. -/

/-- The pod has claimed the task and not started it. -/
structure IsClaimed (pod : PodId) (t : TaskRecord) : Prop where
  /-- It is claimed. -/
  status : t.status = .dispatched
  /-- By this pod. -/
  owner : t.owner = some pod

/-- A task is acquired exactly if it is free or claimed by this pod already. -/
theorem decideRecord_acquired :
    (∃ d, decideRecord s t = .decided d ∧ d.outcome = .acquired) ↔
      IsFree t ∨ IsClaimed s.pod t := by
  constructor
  · rintro ⟨d, h, acquired⟩
    cases judged_of_decideRecord h with
    | stays _ _ refused => exact absurd acquired refused
    | own status owner => exact .inr ⟨status, owner⟩
    | claim status owner => exact .inl ⟨status, owner⟩
    | recover _ _ refused => exact absurd acquired refused
    | reset | bury => cases acquired
  · rintro (⟨status, free⟩ | ⟨status, own⟩)
    · exact ⟨⟨.acquired, some .dispatched, .waiting, .claim⟩,
        by simp [decideRecord, holder, status, free], rfl⟩
    · exact ⟨⟨.acquired, some t.status, .waiting, .none⟩,
        by simp [decideRecord, holder, status, own], rfl⟩

/-- The same for the whole decision. -/
theorem decide_acquired : (∃ d, decide s = .decided d ∧ d.outcome = .acquired) ↔
    s.IsOpen ∧ ∃ t, s.task = some t ∧ (IsFree t ∨ IsClaimed s.pod t) := by
  constructor
  · rintro ⟨d, h, acquired⟩
    cases ht : s.task with
    | none =>
      rw [decide_of_missing ht] at h
      cases h
      cases acquired
    | some t =>
      have opened : s.IsOpen := isOpen_of_decide ht fun _ _ refused hd => by
        rw [hd] at h
        cases h
        exact refused acquired
      rw [decide_of_isOpen opened ht] at h
      exact ⟨opened, t, rfl, decideRecord_acquired.mp ⟨d, h, acquired⟩⟩
  · rintro ⟨opened, t, ht, ours⟩
    rw [decide_of_isOpen opened ht]
    exact decideRecord_acquired.mpr ours

/-! What a change asks the store for. -/

/-- The status that carrying a decision out writes: a task that was to be retried ends with an error
once its retries are used up. -/
def Decision.written (d : Decision) (t : TaskRecord) : Option TaskStatus :=
  if d.status = some .retried ∧ t.options.retryLimit ≤ t.ancestors.length then some .error
  else d.status

/-- The first thing that carrying a change out asks of the store is an update of the record decided
on: it is expected as it is, and gets the status that was announced. -/
structure Announces (t : TaskRecord) (d : Decision) (u : UpdateCall) : Prop where
  /-- The update is one of this record. -/
  task : u.task = t.id
  /-- The record is as expected. -/
  expected : u.expected.holds t = true
  /-- The status is the announced one. -/
  status : some (t.apply u.change).status = d.written t

/-- The status that a failed attempt gets. -/
theorem written_recover (outcome : Outcome) (disposition : Disposition) (tr : Transition) :
    some (RetryPlan.ofTask t).failedStatus =
      Decision.written ⟨outcome, some .retried, disposition, tr⟩ t := by
  unfold RetryPlan.ofTask Decision.written
  by_cases exhausted : t.options.retryLimit ≤ t.ancestors.length
  · simp [exhausted, RetryPlan.failedStatus]
  · simp [exhausted, RetryPlan.failedStatus]

/-- Whoever holds an abandoned task is expected to. -/
theorem abandonedExpectation_holds (hs : t.status = .processing) :
    (abandonedExpectation t.owner).holds t = true := by
  cases ho : t.owner <;>
    simp [abandonedExpectation, Expectation.holds, Expectation.unowned, Expectation.ownedBy,
      Expectation.status, OwnerMatch.holds, TaskRecord.isOwnedBy, hs, ho]

/-- A change that a decision asks for is announced as it is made. -/
theorem announces_of_judged (settings : Settings) (clock : Date) (h : Judged s.pod t d)
    (changes : d.transition ≠ .none) :
    ∃ u, firstUpdate? clock (carryOut settings t d).run = some u ∧ Announces t d u := by
  cases h with
  | stays | own => exact absurd rfl changes
  | claim status owner =>
    refine ⟨_, firstUpdate?_carryOut (firstUpdate?_orFail (firstUpdate?_bind
      (firstUpdate?_updateTask ..))), rfl, ?_, ?_⟩
    · simp [Expectation.holds, Expectation.status, Expectation.unowned, OwnerMatch.holds, status,
        owner]
    · simp [Decision.written, TaskRecord.apply_status, TaskUpdate.dispatch]
  | reset owner status held other =>
    refine ⟨_, firstUpdate?_carryOut (firstUpdate?_orFail (firstUpdate?_bind
      (firstUpdate?_updateTask ..))), rfl, ?_, ?_⟩
    · simp [Expectation.holds, Expectation.status, Expectation.ownedBy, OwnerMatch.holds,
        TaskRecord.isOwnedBy, status, held]
    · simp [Decision.written, TaskRecord.apply_status, TaskUpdate.release]
  | recover outcome disposition refused status other =>
    refine ⟨⟨t.id, abandonedExpectation t.owner, _⟩, firstUpdate?_carryOut (firstUpdate?_bind
      (firstUpdate?_now (firstUpdate?_bind (firstUpdate?_orFail (firstUpdate?_updateTask ..))))),
      rfl, abandonedExpectation_holds status, ?_⟩
    rw [TaskRecord.apply_status]
    exact written_recover outcome disposition _
  | bury status =>
    refine ⟨_, firstUpdate?_carryOut (firstUpdate?_bind (firstUpdate?_orFail
      (firstUpdate?_updateTask ..))), rfl, ?_, ?_⟩
    · simp [Expectation.holds, Expectation.status, OwnerMatch.holds, status]
    · simp [Decision.written, TaskRecord.apply_status]

/-! The whole decision. -/

/-- A claim has outlived the timeout if it has no date, or if the time since then is long enough; it
is no time while the date is still to come. -/
theorem claimOutlived_iff {now : Date} {timeout : Span} : claimOutlived t now timeout = true ↔
    ∀ acquired, t.acquired = some acquired →
      (timeout.nanos : Int) ≤ max (now.nanos - acquired.nanos) 0 := by
  unfold claimOutlived
  cases t.acquired with
  | none => simp
  | some acquired =>
    simp only [decide_eq_true_iff, Option.some.injEq, forall_eq']
    simp only [Date.elapsedSince]
    omega

/-- What a decision that changes the record keeps to. -/
structure SafeChange (s : Situation) (t : TaskRecord) (d : Decision) : Prop where
  /-- The agent is not shutting down, and the session runs. -/
  opened : s.IsOpen
  /-- Carrying the decision out begins with the announced update. -/
  announced : ∀ settings clock, ∃ u,
    firstUpdate? clock (carryOut settings t d).run = some u ∧ Announces t d u
  /-- Another pod that has the task was found dead. -/
  dead : ∀ owner, t.status = .dispatched ∨ t.status = .processing → t.owner = some owner →
    owner ≠ s.pod → s.ownerAlive = some false
  /-- Its claim is as old as the timeout, or has no date. A claim from the future has no age. -/
  outlived : ∀ owner, t.status = .dispatched → t.owner = some owner → owner ≠ s.pod →
    ∀ acquired, t.acquired = some acquired →
      (s.dispatchTimeout.nanos : Int) ≤ max (s.now.nanos - acquired.nanos) 0

/-- A decision on a record is safe. -/
theorem safeChange_of_decide (ht : s.task = some t) (h : decide s = .decided d)
    (changes : d.transition ≠ .none) : SafeChange s t d := by
  have judged := judged_of_decide ht h
  have opened : s.IsOpen := isOpen_of_decide ht fun _ _ _ hd => by
    rw [hd] at h
    cases h
    exact changes rfl
  rw [decide_of_isOpen opened ht] at h
  refine ⟨opened, fun settings clock => announces_of_judged settings clock judged changes, ?_, ?_⟩
  · intro owner active held other
    exact (dead_of_decideRecord h changes active held other).2
  · intro owner hs held other
    have hangs := (dead_of_decideRecord h changes (.inl hs) held other).1
    rcases hangs.stuck with processing | ⟨-, outlived⟩
    · rw [hs] at processing
      cases processing
    · exact claimOutlived_iff.mp outlived

/-- A decision that leaves the record tells its status. -/
theorem status_of_decide (h : decide s = .decided d) (stays : d.transition = .none) :
    d.status = s.task.map TaskRecord.status := by
  cases ht : s.task with
  | none =>
    rw [decide_of_missing ht] at h
    cases h
    rfl
  | some t =>
    cases judged_of_decide ht h with
    | stays | own => rfl
    | claim | reset | recover | bury => cases stays

/-- Decisions are safe. The record is changed in an open session only, by an update that expects the
record decided on and writes the announced status; another pod's task, only once the pod was found
dead, and a claim of it only once its age, which is zero for one from the future, reaches the
timeout. A decision that changes nothing tells the current status. The task is acquired exactly if it
is free or this pod's claim already, and the decision hangs on a pod exactly if that pod, another one,
has the task and was not asked for yet. -/
theorem decide_safe (s : Situation) :
    (∀ d, decide s = .decided d → d.transition ≠ .none → ∃ t, s.task = some t ∧ SafeChange s t d) ∧
      (∀ d, decide s = .decided d → d.transition = .none →
        d.status = s.task.map TaskRecord.status) ∧
      ((∃ d, decide s = .decided d ∧ d.outcome = .acquired) ↔
        s.IsOpen ∧ ∃ t, s.task = some t ∧ (IsFree t ∨ IsClaimed s.pod t)) ∧
      ∀ owner, decide s = .needsLiveness owner ↔
        s.IsOpen ∧ s.ownerAlive = none ∧ ∃ t, s.task = some t ∧ HangsOn s t owner := by
  refine ⟨fun d h changes => ?_, fun d h => status_of_decide h, decide_acquired,
    fun owner => decide_eq_needsLiveness⟩
  cases ht : s.task with
  | none =>
    rw [decide_of_missing ht] at h
    cases h
    exact absurd rfl changes
  | some t => exact ⟨t, rfl, safeChange_of_decide ht h changes⟩

/-- A task that another pod claims in the future. -/
def earlyClaim : TaskRecord :=
  { TaskRecord.first (.ofNat 1) (.ofNat 1) (.ofNat 1) {} .epoch with
    status := .dispatched
    owner := some ⟨"agent-b"⟩
    acquired := some { nanos := 1, inCalendar := by decide } }

/-- An agent looks at it, without a timeout, and finds the pod dead. -/
def earlyLook : Situation where
  task := some earlyClaim
  session := some (.running (.ofNat 1))
  pod := ⟨"agent-a"⟩
  now := .epoch
  dispatchTimeout := .zero
  shutdown := false
  ownerAlive := some false

/-- Less time than the timeout may have passed since the date of a claim that is reset: the claim is
from the future, and there is no timeout. -/
theorem early_claim_reset : ∃ d t acquired, decide earlyLook = .decided d ∧
    d.transition = .resetToSubmitted ⟨"agent-b"⟩ ∧ earlyLook.task = some t ∧
    t.status = .dispatched ∧ t.acquired = some acquired ∧
    earlyLook.now.nanos - acquired.nanos < (earlyLook.dispatchTimeout.nanos : Int) :=
  ⟨_, _, _, rfl, rfl, rfl, rfl, rfl, by decide⟩

end GridAgent.Acquisition
