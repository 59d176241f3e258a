import GridAgent.Agent.Acquire
import GridAgent.Proofs.Acquisition.Decision
import GridAgent.Proofs.Cluster.Books

/-!
# Bidding for a task

While nothing fails and nobody else writes, a task that several agents acquire at once is found free
or claimed by another pod, and an update is written or lost. Under these rules acquisition asks for
one kind of update, its claim. It returns the task if the claim was written, and postpones the
message otherwise; it never returns without having won or lost.
-/

namespace GridAgent.Cluster

open Agent Program Acquisition

/-- How a bid for a task stands. -/
inductive Standing where
  /-- The claim is not decided. -/
  | undecided
  /-- Another pod has claimed the task. -/
  | lost
  /-- The claim was written; the record after it. -/
  | won (record : TaskRecord)

/-- The books of a bid. -/
structure Bid where
  /-- The latest reading of the clock. -/
  clock : Option Date := none
  /-- How the bid stands. -/
  standing : Standing := .undecided

namespace Bid

/-- The claim was written. -/
def IsWon (bid : Bid) : Prop := ∃ record, bid.standing = .won record

/-- What may be asked: looks at the task and its claim, until it is won. -/
def May (pod : PodId) (name : String) (task : TaskId) (bid : Bid) : Agent.Request → Prop
  | .readTask other => other = task ∧ ¬ bid.IsWon
  | .updateTask other expected change =>
    other = task ∧ ¬ bid.IsWon ∧ expected = (Expectation.status .submitted).unowned ∧
      ∃ now, bid.clock = some now ∧ change = .dispatch pod name now
  | .now => True
  | .readSession _ => True
  | .isAlive .. => True
  | .shutdownRequested => True
  | _ => False

/-- What is counted on: nothing fails, the task is free or taken, its session runs, owners are alive,
and the agent is not shutting down. -/
def Credible (pod : PodId) (task : TaskId) : (request : Agent.Request) → request.Reply → Prop
  | .readTask _, reply => ∃ t, reply = .ok (some t) ∧ t.id = task ∧ (IsFree t ∨ IsTaken pod t)
  | .updateTask .., reply => (∃ t, reply = .ok t) ∨ ∃ found, reply = .error (.conflict found)
  | .readSession _, reply =>
    ∃ session : SessionRecord, reply = .ok (some session) ∧ session.status = .running
  | .isAlive .., reply => reply = .ok true
  | .shutdownRequested, reply => reply = false
  | _, _ => True

/-- The books after an answer. -/
def note (bid : Bid) : (request : Agent.Request) → request.Reply → Bid
  | .now, date => { bid with clock := some date }
  | .readTask _, .ok (some t) => if t.owner.isSome then { bid with standing := .lost } else bid
  | .updateTask .., .ok record => { bid with standing := .won record }
  | .updateTask .., .error (.conflict _) => { bid with standing := .lost }
  | _, _ => bid

/-- Acquisition returns what the bid came to: the task as it was claimed, with its effective options,
or a message that comes back. -/
def Settles (bid : Bid) (acquired : Acquired) : Prop :=
  match bid.standing with
  | .undecided => False
  | .lost => acquired.outcome ≠ .acquired ∧ acquired.disposition = .postponed
  | .won record => ∃ options, acquired =
      ⟨.acquired, some record.status, .waiting, some { record with options }⟩

end Bid

/-- How a pod bids for a task. -/
def bidding (pod : PodId) (name : String) (task : TaskId) : Conduct collaborators Bid :=
  ⟨Bid.May pod name task, Bid.Credible pod task, Bid.note⟩

section
variable {s : Settings} {task : TaskId} {bid : Bid} {α ε : Type}

/-- A pod bids until it returns a value; it does not fail. -/
abbrev Bids (s : Settings) (task : TaskId) (p : Fallible ε α) (bid : Bid) (Q : α → Bid → Prop)
    (E : ε → Bid → Prop := fun _ _ => False) : Prop :=
  FollowsOr (bidding s.podId s.podName task) p bid Q E

/-- The clock is read and noted. -/
theorem now_bids : Program.Follows (bidding s.podId s.podName task) Call.now bid
    fun date bid' => bid' = { bid with clock := some date } :=
  ⟨trivial, fun _ _ => rfl⟩

/-- What is known of a situation in which a bid is not won. -/
structure Contended (s : Settings) (task : TaskId) (situation : Situation) (t : TaskRecord)
    (bid : Bid) : Prop where
  /-- The task is stored. -/
  stored : situation.task = some t
  /-- It is the one that is bid for. -/
  id : t.id = task
  /-- Nothing keeps the agent from taking it. -/
  isOpen : situation.IsOpen
  /-- This pod decides. -/
  pod : situation.pod = s.podId
  /-- Nobody was asked about an owner. -/
  unasked : situation.ownerAlive = none
  /-- The task is free, or the bid is lost. -/
  found : IsFree t ∨ IsTaken s.podId t ∧ bid.standing = .lost
  /-- The bid is not won. -/
  unwon : ¬ bid.IsWon

/-- Whoever finds the task taken has lost, and reading wins nothing. -/
theorem note_read (task : TaskId) {t : TaskRecord} (found : IsFree t ∨ IsTaken s.podId t)
    (hn : ¬ bid.IsWon) :
    (IsFree t ∨ IsTaken s.podId t ∧
      (bid.note (.readTask task) (.ok (some t))).standing = .lost) ∧
    ¬ (bid.note (.readTask task) (.ok (some t))).IsWon := by
  rcases found with free | taken
  · have same : bid.note (.readTask task) (.ok (some t)) = bid := by simp [Bid.note, free.owner]
    rw [same]
    exact ⟨.inl free, hn⟩
  · obtain ⟨owner, ho, -⟩ := taken.owner
    have lost : (bid.note (.readTask task) (.ok (some t))).standing = .lost := by
      simp [Bid.note, ho]
    exact ⟨.inr ⟨taken, lost⟩, fun ⟨record, hw⟩ => nomatch lost.symm.trans hw⟩

/-- Reading finds the task and its running session. -/
theorem readSituation_bids (hn : ¬ bid.IsWon) :
    Bids s task (readSituation s task) bid fun situation bid' =>
      ∃ t, Contended s task situation t bid' := by
  unfold readSituation
  refine followsOr_bind.mpr (followsOr_orFail.mpr (followsOr_once ⟨⟨rfl, hn⟩, ?_⟩))
  rintro _ ⟨t, rfl, hid, found⟩
  obtain ⟨found, hn⟩ := note_read task found hn
  refine followsOr_bind.mpr (followsOr_orFail.mpr (followsOr_once ⟨trivial, ?_⟩))
  rintro _ ⟨session, rfl, running⟩
  refine followsOr_bind.mpr (followsOr_lift.mpr (now_bids.mono ?_))
  rintro now _ rfl
  refine followsOr_bind.mpr (followsOr_lift.mpr ⟨trivial, ?_⟩)
  rintro _ rfl
  exact ⟨_, rfl, hid, ⟨rfl, session, rfl, running⟩, rfl, rfl,
    found.imp (fun free => ⟨free.1, free.2⟩) fun h => ⟨⟨h.1.1, h.1.2⟩, h.2⟩, hn⟩

/-- A checker that is asked says that the owner is alive. -/
theorem isAlive_bids {t : TaskRecord} {owner : PodId} :
    Bids s task (isAlive s t owner) bid fun alive bid' => alive = true ∧ bid' = bid := by
  refine followsOr_once ⟨trivial, ?_⟩
  rintro _ rfl
  exact ⟨rfl, rfl⟩

/-- What a bid leads to: a claim of a free task, or a late decision once it is lost. -/
def IsDecided (t : TaskRecord) (bid : Bid) (d : Decision) : Prop :=
  IsFree t ∧ d = ⟨.acquired, some .dispatched, .waiting, .claim⟩ ∨
    bid.standing = .lost ∧ IsLate d

/-- A decision is reached. -/
theorem reachDecision_bids {situation : Situation} {t : TaskRecord}
    (h : Contended s task situation t bid) :
    Bids s task (reachDecision s task situation) bid fun d bid' =>
      bid' = bid ∧ IsDecided t bid d := by
  unfold reachDecision
  rcases h.found with free | ⟨taken, lost⟩
  · rw [decide_of_free h.isOpen h.stored free]
    exact ⟨rfl, .inl ⟨free, rfl⟩⟩
  · rw [← h.pod] at taken
    rcases decide_of_taken h.isOpen h.stored taken (by rw [h.unasked]; nofun) with
      ⟨-, owner, hd⟩ | ⟨d, hd, late⟩
    · simp only [hd]
      split
      · next missing => exact nomatch h.stored.symm.trans missing
      · refine followsOr_bind.mpr (followsOr_orFail.mpr (isAlive_bids.mono ?_ fun _ _ h => h))
        rintro _ _ ⟨rfl, rfl⟩
        -- with the answer of the checker the decision cannot hang on it again
        rcases decide_of_taken (s := { situation with ownerAlive := some true })
          ⟨h.isOpen.shutdown, h.isOpen.session⟩ h.stored taken nofun with ⟨ha, -⟩ | ⟨d, hd, late⟩
        · cases ha
        · rw [hd]
          exact ⟨rfl, .inr ⟨lost, late⟩⟩
    · rw [hd]
      exact ⟨rfl, .inr ⟨lost, late⟩⟩

/-- A claim is written and won, or lost. -/
theorem claim_bids {now : Date} (hn : ¬ bid.IsWon) (hc : bid.clock = some now) :
    Bids s task
      (updateTask s task (Expectation.status .submitted).unowned
        (.dispatch s.podId s.podName now)) bid
      (fun record bid' => bid'.standing = .won record)
      (fun cause bid' => (∃ found, cause = .conflict found) ∧ bid'.standing = .lost) := by
  refine followsOr_once ⟨⟨rfl, hn, rfl, now, hc, rfl⟩, ?_⟩
  rintro _ (⟨record, rfl⟩ | ⟨found, rfl⟩)
  · exact rfl
  · exact ⟨⟨⟨found, rfl⟩, rfl⟩, rfl⟩

/-- Carrying the decision out settles the bid, or loses it to another pod. -/
theorem carryOut_bids {t : TaskRecord} {d : Decision} (hid : t.id = task) (hn : ¬ bid.IsWon)
    (hd : IsDecided t bid d) :
    Bids s task (carryOut s t d) bid (fun acquired bid' => bid'.Settles acquired)
      (fun cause bid' => (∃ found, cause = .store (.conflict found)) ∧ bid'.standing = .lost) := by
  unfold carryOut
  refine followsOr_bind.mpr (followsOr_lift.mpr (now_bids.mono ?_))
  rintro now bid₁ hb₁
  have unwon : ¬ bid₁.IsWon := by rw [hb₁]; exact hn
  have clock : bid₁.clock = some now := by rw [hb₁]
  rcases hd with ⟨free, rfl⟩ | ⟨lost, outcome, postponed, stays⟩
  · refine followsOr_bind.mpr (followsOr_orFail.mpr (followsOr_map.mpr ?_))
    rw [hid]
    refine (claim_bids unwon clock).mono ?_ ?_
    · intro record bid₂ won
      show Bid.Settles bid₂ _
      unfold Bid.Settles
      rw [won]
      exact ⟨t.options, rfl⟩
    · rintro cause bid₂ ⟨⟨found, rfl⟩, lost⟩
      exact ⟨⟨found, rfl⟩, lost⟩
  · rw [stays]
    have settled : bid₁.Settles (Acquired.ofDecision d (some t)) := by
      unfold Bid.Settles
      rw [hb₁, lost]
      exact ⟨by rcases outcome with h | h <;> simp [Acquired.ofDecision, h], postponed⟩
    rcases outcome with h | h <;> simp only [makeTransition, h] <;> exact settled

/-- A round settles the bid, or loses it to another pod. -/
theorem acquireOnce_bids (hn : ¬ bid.IsWon) :
    Bids s task (acquireOnce s task) bid fun round bid' =>
      match round with
      | .ok acquired => bid'.Settles acquired
      | .error _ => bid'.standing = .lost := by
  unfold acquireOnce
  refine followsOr_bind.mpr ((readSituation_bids hn).mono ?_ fun _ _ h => h)
  rintro situation bid₁ ⟨t, h₁⟩
  refine followsOr_bind.mpr ((reachDecision_bids h₁).mono ?_ fun _ _ h => h)
  rintro d _ ⟨rfl, hd⟩
  simp only [h₁.stored]
  refine followsOr_bind.mpr (followsOr_attempt.mpr ?_)
  refine (carryOut_bids h₁.id h₁.unwon hd).mono (fun _ _ h => h) ?_
  rintro _ bid₂ ⟨⟨found, rfl⟩, lost⟩
  exact lost

/-- Acquisition settles the bid, however many rounds it may make. -/
theorem acquireWithin_bids (left : Nat) (hn : ¬ bid.IsWon) :
    Bids s task (acquireWithin s task left) bid fun acquired bid' => bid'.Settles acquired := by
  induction left generalizing bid with
  | zero =>
    refine followsOr_bind.mpr ((acquireOnce_bids hn).mono ?_ fun _ _ h => h)
    rintro (found | acquired) bid₁ h₁
    · show Bid.Settles bid₁ (.gaveUp found)
      unfold Bid.Settles
      rw [h₁]
      exact ⟨nofun, rfl⟩
    · exact h₁
  | succ left ih =>
    refine followsOr_bind.mpr ((acquireOnce_bids hn).mono ?_ fun _ _ h => h)
    rintro (found | acquired) bid₁ h₁
    · exact ih fun ⟨record, hw⟩ => nomatch h₁.symm.trans hw
    · exact h₁

/-- What a bid promises of a job that acquires the task. -/
def Bid.Promised : (job : Job) → job.Result → Bid → Prop
  | .acquire _, .ok acquired, bid => bid.Settles acquired
  | _, _, _ => False

/-- Settling results is no part of a bid. -/
theorem bidding_unnoted (pod : PodId) (name : String) (task : TaskId) :
    Unnoted (bidding pod name task) False := ⟨fun _ _ => False.elim, fun _ _ => False.elim⟩

/-- Every job that acquires the task bids for it and settles its bid. -/
theorem acquire_bids (s : Settings) (task : TaskId) :
    (Actor.start s (.acquire task)).Obeys
      (withFinalizers (bidding s.podId s.podName task) False) {} Bid.Promised := by
  refine Actor.obeys_start (follows_withFinalizers (bidding_unnoted ..) ?_)
  refine Follows.mono (acquireWithin_bids (s.maxRounds - 1) ?_) ?_
  · rintro ⟨record, hw⟩
    cases hw
  · rintro (cause | acquired) bid h
    · exact h
    · exact h

end

end GridAgent.Cluster
