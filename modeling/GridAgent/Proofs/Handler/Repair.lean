import GridAgent.Agent.Handler
import GridAgent.Proofs.Acquisition.Decision
import GridAgent.Proofs.Cluster.Books

/-!
# Repairing a lineage

A handler that is given a message about a retried task looks for the successor of the task. Where
nothing fails, the session runs and the agent does not shut down, it does not return before it has
seen the successor out of creation, or has taken it out of creation itself, or has lost that to
someone else.
-/

namespace GridAgent.Cluster

open Agent Program Acquisition

/-- What a handler has seen of the successor of its task. -/
inductive Sighting where
  /-- Nothing yet. -/
  | unseen
  /-- It was in creation. -/
  | creating (heir : TaskId)
  /-- It was out of creation. -/
  | secured (heir : TaskId)

namespace Sighting

/-- A successor is seen. -/
def of (t : TaskRecord) : Sighting := if t.status = .creating then creating t.id else secured t.id

/-- The successor is promoted, by this handler or another one. -/
def promoted : Sighting → Sighting
  | creating heir => secured heir
  | k => k

/-- What may be asked: looks at the task and its successor, and the promotion of one in creation. -/
def May (task : TaskId) (k : Sighting) : Request → Prop
  | .now | .pause _ | .newTaskId | .readSession _ | .shutdownRequested => True
  | .push _ | .dispose .. | .settle _ => True
  | .readTask other => other = task
  | .findSuccessor other => other = task
  | .createSuccessor parent _ => parent.id = task
  | .updateTask other expected change =>
    k = creating other ∧ expected = .status .creating ∧ change.status = .submitted
  | _ => False

/-- What is counted on: the task is retried, its session runs, the agent does not shut down, and
nothing fails. -/
def Credible (task : TaskId) : (request : Request) → request.Reply → Prop
  | .readTask _, reply => ∃ t, reply = .ok (some t) ∧ t.id = task ∧ t.status = .retried
  | .readSession _, reply =>
    ∃ session : SessionRecord, reply = .ok (some session) ∧ session.status = .running
  | .shutdownRequested, reply => reply = false
  | .findSuccessor _, reply => ∃ found, reply = .ok found
  | .createSuccessor .., reply => ∃ t, reply = .ok t
  | .updateTask .., reply => (∃ t, reply = .ok t) ∨ ∃ found, reply = .error (.conflict found)
  | .push _, reply => reply = .ok ()
  | _, _ => True

/-- What has been seen after a reply. -/
def note (k : Sighting) : (request : Request) → request.Reply → Sighting
  | .findSuccessor _, .ok (some t) => of t
  | .createSuccessor .., .ok t => of t
  | .updateTask .., .ok _ => k.promoted
  | .updateTask .., .error (.conflict _) => k.promoted
  | _, _ => k

/-- The successor was seen out of creation. -/
def IsSecured (k : Sighting) : Prop := ∃ heir, k = secured heir

end Sighting

/-- How a lineage is repaired. -/
def repairing (task : TaskId) : Conduct collaborators Sighting :=
  ⟨Sighting.May task, Sighting.Credible task, Sighting.note⟩

section
variable {s : Settings} {task : TaskId} {k : Sighting} {α ε : Type}

/-- A handler repairs the lineage, and does not fail. -/
abbrev Repairs (task : TaskId) (p : Fallible ε α) (k : Sighting) (Q : α → Sighting → Prop) : Prop :=
  FollowsOr (repairing task) p k Q fun _ _ => False

/-- A call that does not fail is made once. -/
theorem repairs_once [Transient ε] {p : Fallible ε α} {Q : α → Sighting → Prop}
    (h : Repairs task p k Q) : Repairs task (retrying s p) k Q :=
  followsOr_once (h.mono (fun _ _ hq => hq) fun _ _ he => he.elim)

/-- A successor in creation is promoted, by this handler or another one, and any other one is left as
it is. -/
theorem submitSuccessor_repairs (t : TaskRecord) :
    Repairs task (submitSuccessor s t) (.of t) fun _ k => k.IsSecured := by
  unfold submitSuccessor Sighting.of
  by_cases creating : t.status = .creating
  · rw [if_neg (fun h => h creating), if_pos creating]
    refine Keeps.lift (s := Sighting.creating t.id) ⟨trivial, fun _ _ => rfl⟩ fun now => ?_
    have promoted : FollowsOr (repairing task)
        (updateTask s t.id (.status .creating) { status := .submitted, submitted := some now })
        (.creating t.id) (fun _ k => k = .secured t.id)
        fun cause k => (∃ found, cause = .conflict found) ∧ k = .secured t.id := by
      refine followsOr_once ⟨⟨rfl, rfl, rfl⟩, ?_⟩
      rintro _ (⟨stored, rfl⟩ | ⟨found, rfl⟩)
      · exact rfl
      · exact ⟨⟨⟨found, rfl⟩, rfl⟩, rfl⟩
    refine followsOr_bind.mpr (followsOr_attempt.mpr (promoted.mono ?_ ?_))
    · rintro stored _ rfl
      have pushed : Repairs task (push s [stored.id]) (.secured t.id) fun _ k => k = .secured t.id := by
        refine repairs_once ⟨trivial, ?_⟩
        rintro _ rfl
        exact rfl
      refine followsOr_bind.mpr (followsOr_orFail.mpr (pushed.mono ?_ fun _ _ he => he))
      rintro _ _ rfl
      exact ⟨t.id, rfl⟩
    · rintro cause _ ⟨⟨found, rfl⟩, rfl⟩
      exact ⟨t.id, rfl⟩
  · rw [if_pos creating, if_neg creating]
    exact ⟨t.id, rfl⟩

/-- A successor that is created or found is seen to. -/
theorem ensureSuccessor_repairs {t : TaskRecord} (ht : t.id = task) :
    Repairs task (ensureSuccessor s t) k fun _ k => k.IsSecured := by
  unfold ensureSuccessor
  refine Keeps.lift (s := k) ⟨trivial, fun _ _ => rfl⟩ fun id => ?_
  refine Keeps.lift (s := k) ⟨trivial, fun _ _ => rfl⟩ fun now => ?_
  have created : Repairs task (createSuccessor s t (t.successor id now)) k
      fun successor k => k = .of successor := by
    refine repairs_once ⟨ht, ?_⟩
    rintro _ ⟨successor, rfl⟩
    exact rfl
  refine followsOr_bind.mpr (followsOr_orFail.mpr (created.mono ?_ fun _ _ he => he))
  rintro successor _ rfl
  exact submitSuccessor_repairs successor

theorem repairLineage_repairs {t : TaskRecord} (ht : t.id = task) :
    Repairs task (repairLineage s t) k fun _ k => k.IsSecured := by
  unfold repairLineage
  have found : Repairs task (findSuccessor s t.id) k fun found k' =>
      (found = none ∧ k' = k) ∨ ∃ successor, found = some successor ∧ k' = .of successor := by
    refine repairs_once ⟨ht, ?_⟩
    rintro _ ⟨found, rfl⟩
    cases found with
    | none => exact .inl ⟨rfl, rfl⟩
    | some successor => exact .inr ⟨successor, rfl, rfl⟩
  refine followsOr_bind.mpr (followsOr_orFail.mpr (found.mono ?_ fun _ _ he => he))
  rintro _ _ (⟨rfl, rfl⟩ | ⟨successor, rfl, rfl⟩)
  · exact followsOr_bind.mpr ((ensureSuccessor_repairs ht).mono (fun _ _ h => h) fun _ _ he => he)
  · have secured (other : successor.status ≠ .creating) : (Sighting.of successor).IsSecured :=
      ⟨successor.id, if_neg other⟩
    simp only
    split
    · exact followsOr_bind.mpr
        ((submitSuccessor_repairs successor).mono (fun _ _ h => h) fun _ _ he => he)
    · next hs => exact secured (by rw [hs]; nofun)
    · next hs => exact secured (by rw [hs]; nofun)
    · next other _ _ => exact secured other

/-- The situation shows the retried task and its running session. -/
theorem readSituation_repairs :
    Repairs task (readSituation s task) k fun situation k' => k' = k ∧ situation.IsOpen ∧
      ∃ t, situation.task = some t ∧ t.id = task ∧ t.status = .retried := by
  unfold readSituation
  refine followsOr_bind.mpr (followsOr_orFail.mpr (repairs_once ⟨rfl, ?_⟩))
  rintro _ ⟨t, rfl, hid, retried⟩
  refine followsOr_bind.mpr (followsOr_orFail.mpr (repairs_once ⟨trivial, ?_⟩))
  rintro _ ⟨session, rfl, running⟩
  refine Keeps.lift (s := k) ⟨trivial, fun _ _ => rfl⟩ fun now => ?_
  refine followsOr_bind.mpr (followsOr_lift.mpr ⟨trivial, ?_⟩)
  rintro _ rfl
  exact ⟨rfl, ⟨rfl, session, rfl, running⟩, _, rfl, hid, retried⟩

/-- A round rejects the message and secures the successor. -/
theorem acquireOnce_repairs :
    Repairs task (acquireOnce s task) k fun round k' =>
      (∃ acquired, round = .ok acquired ∧ acquired.outcome ≠ .acquired) ∧ k'.IsSecured := by
  unfold acquireOnce
  refine followsOr_bind.mpr (readSituation_repairs.mono ?_ fun _ _ he => he)
  rintro situation k' ⟨same, isOpen, t, ht, hid, retried⟩
  rw [same]
  have decided : reachDecision s task situation =
      pure ⟨.taskIsRetried none, some .retried, .poisonous, .none⟩ := by
    unfold reachDecision
    rw [decide_of_retried isOpen ht retried]
  rw [decided]
  refine followsOr_bind.mpr (followsOr_pure.mpr ?_)
  simp only [ht]
  have carried : Repairs task
      (carryOut s t ⟨.taskIsRetried none, some .retried, .poisonous, .none⟩) k
      fun acquired k' => acquired.outcome ≠ .acquired ∧ k'.IsSecured := by
    unfold carryOut makeTransition
    refine Keeps.lift (s := k) ⟨trivial, fun _ _ => rfl⟩ fun now => ?_
    refine followsOr_bind.mpr (followsOr_pure.mpr ?_)
    refine followsOr_bind.mpr ((repairLineage_repairs hid).mono ?_ fun _ _ he => he)
    exact fun state k' secured => ⟨nofun, secured⟩
  refine followsOr_bind.mpr (followsOr_attempt.mpr (carried.mono ?_ fun _ _ he => he.elim))
  exact fun acquired k' h => ⟨⟨acquired, rfl, h.1⟩, h.2⟩

/-- One round is enough. -/
theorem acquireWithin_repairs (left : Nat) :
    Repairs task (acquireWithin s task left) k fun acquired k' =>
      acquired.outcome ≠ .acquired ∧ k'.IsSecured := by
  cases left <;>
  · refine followsOr_bind.mpr (acquireOnce_repairs.mono ?_ fun _ _ he => he)
    rintro _ k' ⟨⟨acquired, rfl, refused⟩, secured⟩
    exact ⟨refused, secured⟩

/-- Whatever becomes of its message, a handler has secured the successor when it returns. -/
theorem handleMessage_repairs (message : DeliveryId) :
    FollowsOr (repairing task) (handleMessage s message task) k (fun _ k' => k'.IsSecured)
      fun _ k' => k'.IsSecured := by
  have processed : FollowsOr (repairing task) (process s message task) k
      (fun _ k' => k'.IsSecured) fun _ k' => k'.IsSecured := by
    unfold process
    refine followsOr_bind.mpr ((acquireWithin_repairs _).mono ?_ fun _ _ he => he.elim)
    rintro acquired k' ⟨refused, secured⟩
    simp only
    split
    · next acquires _ => exact absurd acquires refused
    · have disposed : Keeps (repairing task) (Call.dispose message acquired.disposition).run k' :=
        keeps_call trivial fun _ => rfl
      exact followsOr_bind.mpr (followsOr_orFail.mpr
        (disposed.followsOr (fun _ => secured) fun _ => secured))
  have settled (k' : Sighting) : Keeps (repairing task) (Call.settle message).run k' :=
    keeps_call trivial fun _ => rfl
  unfold handleMessage
  refine followsOr_bind.mpr (followsOr_attempt.mpr (processed.mono ?_ ?_))
  · intro report k' secured
    refine keeps_attempt (settled k') fun outcome => ?_
    refine followsOr_bind.mpr (followsOr_resume_ok.mpr ?_)
    rcases outcome with cause | _ <;> exact secured
  · intro cause k' secured
    refine keeps_attempt (settled k') fun outcome => ?_
    exact followsOr_bind.mpr (followsOr_resume_error.mpr secured)

/-- Every handler repairs the lineage of its task, if the task is retried and nothing fails. -/
theorem handle_repairs (s : Settings) (message : DeliveryId) (task : TaskId) :
    (Actor.start s (.handle message task)).Obeys (withFinalizers (repairing task) False) .unseen
      fun _ _ k => k.IsSecured := by
  have unnoted : Unnoted (repairing task) False :=
    ⟨fun _ _ => False.elim, fun _ _ => False.elim⟩
  refine Actor.obeys_start (follows_withFinalizers unnoted ?_)
  refine Follows.mono (handleMessage_repairs message) ?_
  rintro (cause | report) k secured <;> exact secured

end

end GridAgent.Cluster
