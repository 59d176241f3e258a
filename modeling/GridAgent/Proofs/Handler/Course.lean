import GridAgent.Proofs.Handler.Routine

/-!
# The course of an execution

Once a job has registered its task it pursues the execution until one of its updates ends it. An
update that is lost to a cancellation leads to the cancellation of the attempt and nowhere else, and
the results are given up before the execution is left. A job that has retried its task decides on its
message only when the task has been succeeded; if the succession fails so does the job.
-/

namespace GridAgent.Cluster

open Agent Program

/-- The course of a job. -/
inductive Course where
  /-- No execution is pursued. It matters later whether a call for an execution had failed. -/
  | idle (failed : Bool)
  /-- An execution is registered, and started or not. -/
  | going (started : Bool)
  /-- An update was lost to a cancellation. -/
  | lost
  /-- The attempt is cancelled; some of its results are not given up yet, if they are known. -/
  | cancelled (pending : Option (List DataId))
  /-- The task is retried and not succeeded yet. -/
  | torn (failed : Bool)

/-- How a pursued execution is updated. -/
inductive Pursues (pod : PodId) : Bool → Expectation → TaskUpdate → Prop where
  /-- It starts. -/
  | starts {change : TaskUpdate} (status : change.status = .processing) :
    Pursues pod false (claimedBy pod) change
  /-- It ends, while the pod holds the task. -/
  | ends {started : Bool} {expected : Expectation} {change : TaskUpdate}
    (held : expected = heldBy pod ∨
      expected = if started then executedBy pod else claimedBy pod)
    (status : change.status ∈
      [TaskStatus.submitted, .completed, .timeout, .error, .retried]) :
    Pursues pod started expected change
  /-- It is cancelled. -/
  | cancels {started : Bool} {change : TaskUpdate} (status : change.status = .cancelled) :
    Pursues pod started (.anyOf [.dispatched, .processing, .cancelling]) change

namespace Course

/-- The course after an update that went through. -/
def wrote : Course → TaskStatus → Course
  | idle failed, status => if status = .retried then torn failed else idle failed
  | going _, .processing => going true
  | going _, .cancelled => cancelled none
  | going _, .retried => torn false
  | going _, _ => idle false
  | lost, _ => cancelled none
  | k, _ => k

/-- The course after a lost update. -/
def missed : Course → TaskStatus → LostUpdate → Course
  | going _, wanted, found =>
    if wanted = .cancelled then (if found.status = .cancelled then cancelled none else idle false)
    else if found.status.isCancellation then lost else idle false
  | lost, _, found => if found.status = .cancelled then cancelled none else idle false
  | torn failed, _, _ => idle failed
  | k, _, _ => k

/-- The course after an update that did not reach the store. -/
def failed : Course → Course
  | going _ => idle true
  | lost => idle true
  | k => k

/-- The course after an update of a task that is not stored. -/
def dropped : Course → Course
  | going _ => idle false
  | lost => idle false
  | k => k

/-- The course after a successor was answered. -/
def succeeded : Course → TaskStatus → Course
  | torn failed, status => if status = .creating then torn failed else idle failed
  | k, _ => k

/-- The course after a push. -/
def pushed : Course → Course
  | torn failed => idle failed
  | k => k

/-- The course after results were given up, or were not. -/
def abandoned : Course → Bool → Course
  | cancelled _, true => cancelled (some [])
  | cancelled _, false => idle true
  | k, _ => k

/-- No execution is pursued. -/
def IsIdle (k : Course) : Prop := ∃ failed, k = idle failed

/-- The task is retried and not succeeded yet. -/
def IsTorn (k : Course) : Prop := ∃ failed, k = torn failed

/-- How the task may be updated. -/
def MayUpdate (pod : PodId) (task : TaskId) :
    Course → TaskId → Expectation → TaskUpdate → Prop
  | idle failed, _, _, change => change.status = .processing → failed = true
  | going started, other, expected, change => other = task ∧ Pursues pod started expected change
  | lost, other, expected, change =>
    other = task ∧ expected = .anyOf [.dispatched, .processing, .cancelling] ∧
      change.status = .cancelled
  | cancelled _, _, _, _ => False
  | torn _, _, expected, change => expected = .status .creating ∧ change.status = .submitted

/-- What may be asked. -/
def May (pod : PodId) (task : TaskId) (k : Course) : Request → Prop
  | .register _ => k = idle false
  | .unregister _ => k.IsIdle ∨ k.IsTorn ∨ k = cancelled (some [])
  | .updateTask other expected change => k.MayUpdate pod task other expected change
  | .createSuccessor .. => k.IsIdle ∨ k.IsTorn
  | .finalize _ => k.IsIdle
  | .abandon other => k.IsIdle ∨ (k = cancelled none ∧ other = task)
  | .dispose .. => ¬ k.IsTorn
  | _ => True

/-- The course after a reply. -/
def note (k : Course) : (request : Request) → request.Reply → Course
  | .register _, some _ => going false
  | .updateTask _ _ change, .ok _ => k.wrote change.status
  | .updateTask _ _ change, .error (.conflict found) => k.missed change.status found
  | .updateTask .., .error (.notFound _) => k.dropped
  | .updateTask .., .error (.unavailable _) => k.failed
  | .createSuccessor .., .ok successor => k.succeeded successor.status
  | .push _, .ok _ => k.pushed
  | .abandon _, .ok _ => k.abandoned true
  | .abandon _, .error _ => k.abandoned false
  | _, _ => k

/-- The replies that are counted on. -/
def Credible : (request : Request) → request.Reply → Prop
  | .readTask other, .ok (some t) => t.id = other
  | .updateTask other _ change, .ok t => t.id = other ∧ t.status = change.status
  | .createSuccessor .., .error cause => ∃ reason, cause = .unavailable reason
  | .dispose .., reply => reply = .ok ()
  | .settle _, reply => reply = .ok ()
  | _, _ => True

end Course

/-- The rules of an execution. -/
def courseRules (pod : PodId) (task : TaskId) : Conduct collaborators Course :=
  ⟨Course.May pod task, Course.Credible, Course.note⟩

variable {α β ε : Type} {pod : PodId} {task : TaskId} {s : Settings} {t : TaskRecord} {f : Bool}
  {k : Course}

/-! Out of an execution. -/

/-- A failed succession leaves the task torn. -/
def LeavesTorn (f : Bool) (cause : AgentError) (k : Course) : Prop :=
  k = .torn f ∧ ∀ lost, cause ≠ .store (.conflict lost)

/-- Out of an execution the rules grant an agent its calls. -/
theorem courseRules_grants (pod : PodId) (task : TaskId) (f : Bool) :
    Grants (courseRules pod task) (.idle f) task (fun t => t.id = task) where
  id _ h := h
  plain request hr := by
    cases request <;> first
      | exact ⟨trivial, fun _ => rfl⟩
      | cases hr
    case push tasks => exact ⟨trivial, fun reply => by rcases reply with _ | _ <;> rfl⟩
    case dispose message disposition => exact ⟨fun h => h.elim fun _ h => (nomatch h), fun _ => rfl⟩
  finalize _ _ _ := ⟨⟨f, rfl⟩, fun _ => rfl⟩
  abandon _ := ⟨.inl ⟨f, rfl⟩, fun reply => by rcases reply with _ | _ <;> rfl⟩
  look := ⟨trivial, fun reply => by rcases reply with _ | _ <;> rfl⟩
  seen _ h := h
  merged _ _ h _ := h
  update expected change hp hr := by
    refine ⟨fun h => absurd h hp, fun reply => ?_⟩
    rcases reply with (_ | _ | _) | _
    · rfl
    · rfl
    · rfl
    · exact if_neg hr
  updated _ _ _ h := h
  adopted _ _ _ h := h
  promote t now _ := by
    refine ⟨(fun h => nomatch h), fun reply => ?_⟩
    rcases reply with (_ | _ | _) | _ <;> rfl
  succeed parent id now _ _ :=
    ⟨.inl ⟨f, rfl⟩, fun reply => by rcases reply with _ | _ <;> rfl⟩

/-- An agent works as it likes. -/
theorem courseRules_letsWork : LetsWork (courseRules pod task) k := by
  intro request hr
  cases request <;> first | exact ⟨trivial, fun _ => rfl⟩ | cases hr

/-- Out of an execution results may be settled. -/
theorem finalize_idle : Keeps (courseRules pod task) (Call.finalize task) (.idle f) :=
  keeps_call ⟨f, rfl⟩ fun _ => rfl

theorem abandon_idle : Keeps (courseRules pod task) (Call.abandon task).run (.idle f) :=
  keeps_call (.inl ⟨f, rfl⟩) fun reply => by rcases reply with _ | _ <;> rfl

/-- A call may be tried again where a transient failure leaves the course. -/
theorem followsOr_retrying_course [Transient ε] {p : Fallible ε α} {Q : α → Course → Prop}
    {E : ε → Course → Prop} (hp : FollowsOr (courseRules pod task) p k Q E)
    (ht : ∀ cause k', E cause k' → isTransient cause = true → k' = k) :
    FollowsOr (courseRules pod task) (retrying s p) k Q E := by
  refine followsOr_retrying (J := fun k' => k' = k) (K := fun k' => k' = k) ?_ ?_ rfl
  · rintro _ rfl
    exact hp.mono (fun _ _ hq => hq) fun cause k' he => ⟨he, ht cause k' he⟩
  · rintro _ wait rfl
    exact ⟨trivial, fun _ _ => rfl⟩

/-- The promotion of a successor fails, or is lost to someone who promoted it. -/
theorem promotion_torn (successor : TaskId) (now : Date) :
    FollowsOr (courseRules pod task) (updateTask s successor (.status .creating)
      { status := .submitted, submitted := some now }) (.torn f) (fun _ k => k = .torn f)
      fun cause k => (∃ lost, cause = .conflict lost) ∧ k = .idle f ∨
        (∀ lost, cause ≠ .conflict lost) ∧ k = .torn f := by
  refine followsOr_retrying_course ⟨⟨rfl, rfl⟩, fun reply _ => ?_⟩ ?_
  · rcases reply with (other | found | reason) | t
    · exact .inr ⟨nofun, rfl⟩
    · exact .inl ⟨⟨found, rfl⟩, rfl⟩
    · exact .inr ⟨nofun, rfl⟩
    · exact rfl
  · rintro cause k' (⟨⟨lost, rfl⟩, -⟩ | ⟨-, hk⟩) transient
    · cases transient
    · exact hk

/-- A retried task is torn until its successor is promoted and pushed. -/
theorem submitSuccessor_torn {successor : TaskRecord} (hs : successor.status = .creating) :
    FollowsOr (courseRules pod task) (submitSuccessor s successor) (.torn f)
      (fun _ k => k = .idle f) (LeavesTorn f) := by
  unfold Agent.submitSuccessor
  rw [if_neg (fun h => h hs)]
  refine Keeps.lift (s := (.torn f : Course)) ⟨trivial, fun _ _ => rfl⟩ fun now => ?_
  refine followsOr_bind.mpr (followsOr_attempt.mpr ((promotion_torn successor.id now).mono ?_ ?_))
  · rintro submitted _ rfl
    have pushed : FollowsOr (courseRules pod task) (push s [submitted.id]) (.torn f)
        (fun _ k => k = .idle f) fun _ k => k = .torn f := by
      refine followsOr_retrying_course ⟨trivial, fun reply _ => ?_⟩ fun _ _ hk _ => hk
      rcases reply with _ | _ <;> exact rfl
    refine followsOr_bind.mpr (followsOr_orFail.mpr (pushed.mono ?_ ?_))
    · rintro _ _ rfl
      exact rfl
    · rintro cause _ rfl
      exact ⟨rfl, nofun⟩
  · rintro cause k' (⟨⟨lost, rfl⟩, rfl⟩ | ⟨other, rfl⟩)
    · exact rfl
    · split
      · next e => cases e
      · next e => exact absurd (Except.error.inj e) (other _)
      · next e =>
        refine ⟨rfl, fun lost h => ?_⟩
        rw [← Except.error.inj e] at h
        exact other lost (AgentError.store.inj h)

/-- A retried task is torn until it is succeeded. -/
theorem ensureSuccessor_torn (parent : TaskRecord) :
    FollowsOr (courseRules pod task) (ensureSuccessor s parent) (.torn f)
      (fun _ k => k = .idle f) (LeavesTorn f) := by
  unfold Agent.ensureSuccessor
  refine Keeps.lift (s := (.torn f : Course)) ⟨trivial, fun _ _ => rfl⟩ fun id => ?_
  refine Keeps.lift (s := (.torn f : Course)) ⟨trivial, fun _ _ => rfl⟩ fun now => ?_
  have created : FollowsOr (courseRules pod task)
      (createSuccessor s parent (parent.successor id now)) (.torn f)
      (fun successor k => k = (Course.torn f).succeeded successor.status)
      fun cause k => (∃ reason, cause = .unavailable reason) ∧ k = .torn f := by
    refine followsOr_retrying_course ⟨.inr ⟨f, rfl⟩, fun reply hc => ?_⟩ fun _ _ hk _ => hk.2
    rcases reply with cause | successor
    · exact ⟨hc, rfl⟩
    · exact rfl
  refine followsOr_bind.mpr (followsOr_orFail.mpr (created.mono ?_ ?_))
  · rintro successor _ rfl
    by_cases hs : successor.status = .creating
    · have hk : (Course.torn f).succeeded successor.status = .torn f := if_pos hs
      rw [hk]
      exact submitSuccessor_torn hs
    · have hk : (Course.torn f).succeeded successor.status = .idle f := if_neg hs
      rw [hk]
      unfold Agent.submitSuccessor
      rw [if_pos hs]
      exact rfl
  · rintro cause _ ⟨⟨reason, rfl⟩, rfl⟩
    exact ⟨rfl, nofun⟩

/-- A task that is retried is succeeded, or left torn. -/
theorem retryTask_course {F : Bool → Prop} {E : StoreError → Course → Prop}
    {expected : Expectation} {reason : String} (ht : t.id = task)
    (clock : Keeps (courseRules pod task) Call.now k)
    (updated : ∀ change, change.status = (RetryPlan.ofTask t).failedStatus →
      FollowsOr (courseRules pod task) (updateTask s task expected change) k
        (fun stored k' => stored.id = task ∧ ∃ f, F f ∧ k' = (Course.idle f).wrote change.status)
        E) :
    FollowsOr (courseRules pod task) (retryTask s t expected reason) k
      (fun stored k' => stored.id = task ∧ ∃ f, F f ∧ k' = .idle f)
      fun cause k' => (∃ e, cause = .store e ∧ E e k') ∨ ∃ f, F f ∧ LeavesTorn f cause k' := by
  unfold Agent.retryTask
  refine clock.lift fun now => ?_
  rw [ht]
  refine followsOr_bind.mpr (followsOr_orFail.mpr ((updated _ rfl).mono ?_ ?_))
  · rintro stored _ ⟨hid, f, hf, rfl⟩
    cases hp : RetryPlan.ofTask t with
    | exhausted =>
      have hk : (Course.idle f).wrote (TaskUpdate.finish RetryPlan.exhausted.failedStatus
          (.failure reason) now).status = .idle f := rfl
      rw [hk]
      exact followsOr_bind.mpr (abandon_idle.lift fun _ => ⟨hid, f, hf, rfl⟩)
    | retry =>
      refine followsOr_bind.mpr ((ensureSuccessor_torn _).mono ?_ ?_)
      · rintro _ _ rfl
        exact ⟨hid, f, hf, rfl⟩
      · exact fun cause k' h => .inr ⟨f, hf, h⟩
  · exact fun cause k' h => .inl ⟨cause, rfl, h⟩

/-- Out of an execution a task may be retried. -/
theorem courseRules_retries (pod : PodId) (task : TaskId) (f : Bool) :
    Retries (courseRules pod task) (.idle f) task (fun t => t.id = task) (LeavesTorn f) where
  toGrants := courseRules_grants pod task f
  retry := by
    intro s t expected reason ht
    have updated (change : TaskUpdate) (hc : change.status = (RetryPlan.ofTask t).failedStatus) :
        FollowsOr (courseRules pod task) (updateTask s task expected change) (.idle f)
          (fun stored k' => stored.id = task ∧
            ∃ f', f' = f ∧ k' = (Course.idle f').wrote change.status)
          fun _ k' => k' = .idle f := by
      refine followsOr_retrying_course ⟨fun h => ?_, fun reply hr => ?_⟩ fun _ _ hk _ => hk
      · generalize RetryPlan.ofTask t = plan at hc
        cases plan <;> cases h.symm.trans hc
      · rcases reply with (_ | _ | _) | _
        · exact rfl
        · exact rfl
        · exact rfl
        · exact ⟨hr.1, f, rfl, rfl⟩
    refine (retryTask_course ht ((courseRules_grants pod task f).asks rfl) updated).mono ?_ ?_
    · rintro stored _ ⟨hid, f', rfl, rfl⟩
      exact ⟨rfl, hid⟩
    · rintro cause k' (⟨e, rfl, hk⟩ | ⟨f', rfl, hk⟩)
      · exact .inl hk
      · exact .inr hk
  noLoss lost _ h := h.2 lost rfl
  wayOut cause k' h request hr := by
    obtain rfl := h.1
    cases request <;> first
      | exact ⟨trivial, fun _ => rfl⟩
      | exact ⟨.inr (.inl ⟨f, rfl⟩), fun _ => rfl⟩
      | cases hr

/-! In an execution. -/

/-- An execution is pursued, or an update of it was lost to a cancellation. -/
def Course.IsPending (k : Course) : Prop := (∃ started, k = .going started) ∨ k = .lost

/-- An attempt ends out of the execution, or as cancelled with its results given up. -/
def Settles (r : Resolution) (k : Course) : Prop :=
  k.IsIdle ∨ (k = .cancelled (some []) ∧ r.status = .cancelled ∧ r.disposition = .cancelled)

/-- An attempt fails out of the execution, or leaves the task torn. -/
def Fails (k : Course) : Prop := k.IsIdle ∨ k.IsTorn

/-- The program ends an attempt. -/
abbrev Ends (pod : PodId) (task : TaskId) (k : Course) (p : Fallible AgentError Resolution) : Prop :=
  FollowsOr (courseRules pod task) p k Settles fun _ => Fails

/-- What ends an attempt out of an execution ends it. -/
theorem ends_of_idle {p : Fallible AgentError Resolution} {Q : Resolution → Prop}
    (h : SteadyOr (courseRules pod task) (.idle f) (LeavesTorn f) p Q) :
    Ends pod task (.idle f) p := by
  refine FollowsOr.mono h ?_ ?_
  · rintro _ _ ⟨rfl, -⟩
    exact .inl ⟨f, rfl⟩
  · rintro _ _ (rfl | ⟨rfl, -⟩)
    · exact .inl ⟨f, rfl⟩
    · exact .inr ⟨f, rfl⟩

/-- How an update of an execution ends: as its books say, or out of the execution, since an update
failed before. -/
theorem updateTask_course {expected : Expectation} {change : TaskUpdate} (hk : k.IsPending)
    (hm : k.MayUpdate pod task task expected change) :
    FollowsOr (courseRules pod task) (updateTask s task expected change) k
      (fun stored k' => stored.id = task ∧
        (k' = k.wrote change.status ∨ k' = (Course.idle true).wrote change.status))
      fun cause k' => (∃ lost, cause = .conflict lost ∧ k' = k.missed change.status lost) ∨
        k'.IsIdle := by
  have failed : k.failed = .idle true := by rcases hk with ⟨started, rfl⟩ | rfl <;> rfl
  have dropped : k.dropped = .idle false := by rcases hk with ⟨started, rfl⟩ | rfl <;> rfl
  refine followsOr_retrying (J := fun k' => k' = k ∨ k' = .idle true)
    (K := fun k' => k' = .idle true) ?_ ?_ (.inl rfl)
  · rintro k' (rfl | rfl)
    · refine ⟨hm, fun reply hc => ?_⟩
      rcases reply with (_ | lost | _) | stored
      · exact ⟨.inr ⟨false, dropped⟩, nofun⟩
      · exact ⟨.inl ⟨lost, rfl, rfl⟩, nofun⟩
      · exact ⟨.inr ⟨true, failed⟩, fun _ => failed⟩
      · exact ⟨hc.1, .inl rfl⟩
    · refine ⟨fun _ => rfl, fun reply hc => ?_⟩
      rcases reply with (_ | lost | _) | stored
      · exact ⟨.inr ⟨true, rfl⟩, nofun⟩
      · exact ⟨.inr ⟨true, rfl⟩, nofun⟩
      · exact ⟨.inr ⟨true, rfl⟩, fun _ => rfl⟩
      · exact ⟨hc.1, .inr rfl⟩
  · rintro _ wait rfl
    exact ⟨trivial, fun _ _ => .inr rfl⟩

/-- The same with the loss as an answer. -/
theorem transition_course {expected : Expectation} {change : TaskUpdate} (hk : k.IsPending)
    (hm : k.MayUpdate pod task task expected change) :
    FollowsOr (courseRules pod task) (transition s task expected change) k
      (fun outcome k' => match outcome with
        | .ok stored => stored.id = task ∧
          (k' = k.wrote change.status ∨ k' = (Course.idle true).wrote change.status)
        | .error found => k' = k.missed change.status found ∨ k'.IsIdle)
      fun _ k' => k'.IsIdle := by
  unfold Agent.transition
  refine followsOr_bind.mpr (followsOr_attempt.mpr ((updateTask_course hk hm).mono ?_ ?_))
  · exact fun stored k' h => h
  · rintro (other | found | reason) k' (⟨lost, e, rfl⟩ | idle)
    · cases e
    · exact idle
    · exact .inl (StoreError.conflict.inj e ▸ rfl)
    · exact .inr idle
    · cases e
    · exact idle

/-- The clock tells nothing of an execution. -/
theorem now_course : Keeps (courseRules pod task) Call.now k :=
  courseRules_letsWork.asks rfl

/-- A cancelled attempt gives up its results and ends. -/
theorem giveUp_course (hk : k = .cancelled none ∨ k.IsIdle) :
    Ends pod task k (do
      abandonResults task
      return ⟨.cancelled, .cancelled, none⟩) := by
  have settled : FollowsOr (courseRules pod task) (abandonResults task : Fallible AgentError Unit) k
      (fun _ k' => k' = .cancelled (some []) ∨ k'.IsIdle) fun _ _ => False := by
    unfold Agent.abandonResults
    refine followsOr_bind.mpr (followsOr_lift.mpr ?_)
    rcases hk with rfl | ⟨f, rfl⟩
    · refine ⟨.inr ⟨rfl, rfl⟩, fun reply _ => ?_⟩
      rcases reply with _ | _
      · exact .inr ⟨true, rfl⟩
      · exact .inl rfl
    · refine ⟨.inl ⟨f, rfl⟩, fun reply _ => ?_⟩
      rcases reply with _ | _ <;> exact .inr ⟨f, rfl⟩
  refine followsOr_bind.mpr (settled.mono ?_ fun _ _ h => h.elim)
  rintro _ k' (rfl | idle)
  · exact .inr ⟨rfl, rfl, rfl⟩
  · exact .inl idle

theorem finishCancellation_course (hk : k.IsPending) :
    Ends pod task k (finishCancellation s task) := by
  have may (change : TaskUpdate) (h : change.status = .cancelled) :
      k.MayUpdate pod task task (.anyOf [.dispatched, .processing, .cancelling]) change := by
    rcases hk with ⟨started, rfl⟩ | rfl
    · exact ⟨rfl, .cancels h⟩
    · exact ⟨rfl, rfl, h⟩
  have wrote : k.wrote .cancelled = .cancelled none := by rcases hk with ⟨started, rfl⟩ | rfl <;> rfl
  have missed (found : LostUpdate) : k.missed .cancelled found =
      if found.status = .cancelled then .cancelled none else .idle false := by
    rcases hk with ⟨started, rfl⟩ | rfl <;> rfl
  unfold Agent.finishCancellation
  refine now_course.lift fun now => ?_
  refine followsOr_bind.mpr ((transition_course hk (may _ rfl)).mono ?_ ?_)
  · rintro (found | stored) k' h
    · replace h : k' = k.missed .cancelled found ∨ k'.IsIdle := h
      rw [missed] at h
      simp only
      by_cases hf : found.status = .cancelled
      · rw [if_pos hf] at h ⊢
        exact giveUp_course h
      · rw [if_neg hf] at h ⊢
        exact .inl (h.elim (fun h => ⟨false, h⟩) id)
    · exact giveUp_course (h.2.imp (fun e => e.trans wrote) fun e => ⟨true, e⟩)
  · exact fun _ _ idle => .inl idle

/-- What was lost to a cancellation is cancelled; anything else ends the attempt. -/
theorem onLostUpdate_course {found : LostUpdate}
    (hk : k = (if found.status.isCancellation then .lost else .idle false) ∨ k.IsIdle) :
    Ends pod task k (onLostUpdate s task found) := by
  have idle (h : k.IsIdle) : Ends pod task k (onLostUpdate s task found) := by
    obtain ⟨f, rfl⟩ := h
    exact ends_of_idle ((courseRules_grants pod task f).onLostUpdate found)
  rcases hk with hk | hk
  · by_cases hf : found.status.isCancellation
    · rw [if_pos hf] at hk
      unfold Agent.onLostUpdate
      rw [if_pos hf]
      exact finishCancellation_course (.inr hk)
    · rw [if_neg hf] at hk
      exact idle ⟨false, hk⟩
  · exact idle hk

/-- The update that ends an execution does, or is lost. -/
theorem end_course {started : Bool} {expected : Expectation} {change : TaskUpdate}
    {rest : Except LostUpdate TaskRecord → Fallible AgentError Resolution}
    (held : expected = heldBy pod ∨ expected = if started then executedBy pod else claimedBy pod)
    (status : change.status ∈ [TaskStatus.submitted, .completed, .timeout, .error])
    (ended : ∀ stored f, Ends pod task (.idle f) (rest (.ok stored)))
    (missed : ∀ found k, k = (if found.status.isCancellation then .lost else .idle false) ∨ k.IsIdle →
      Ends pod task k (rest (.error found))) :
    Ends pod task (.going started) (transition s task expected change >>= rest) := by
  have may : (Course.going started).MayUpdate pod task task expected change := by
    refine ⟨rfl, .ends held ?_⟩
    simp only [List.mem_cons, List.not_mem_nil, or_false] at status ⊢
    rcases status with h | h | h | h <;> simp [h]
  refine followsOr_bind.mpr ((transition_course (.inl ⟨started, rfl⟩) may).mono ?_ ?_)
  · rintro (found | stored) k' h
    · refine missed found k' (h.imp_left fun h => ?_)
      rw [h]
      refine if_neg fun hc => ?_
      rw [hc] at status
      simp at status
    · obtain ⟨-, h | h⟩ := h
      · have hk : k' = .idle false := by
          rw [h]
          simp only [List.mem_cons, List.not_mem_nil, or_false] at status
          rcases status with h | h | h | h <;> rw [h] <;> rfl
        rw [hk]
        exact ended stored false
      · have hk : k' = .idle true := by
          rw [h]
          refine if_neg fun hr => ?_
          rw [hr] at status
          simp at status
        rw [hk]
        exact ended stored true
  · exact fun _ _ idle => .inl idle

variable {started : Bool}

theorem release_course {expected : Expectation}
    (held : expected = heldBy pod ∨ expected = if started then executedBy pod else claimedBy pod) :
    Ends pod task (.going started) (release s task expected) := by
  unfold Agent.release
  refine now_course.lift fun now => ?_
  refine end_course held (.head _) (fun stored f => ?_) fun found k hk => onLostUpdate_course hk
  exact .inl ⟨f, rfl⟩

theorem finishWithout_course {expected : Expectation} {status : TaskStatus} (output : Output)
    (held : expected = heldBy pod ∨ expected = if started then executedBy pod else claimedBy pod)
    (hs : status ∈ [TaskStatus.submitted, .completed, .timeout, .error]) :
    Ends pod task (.going started) (finishWithout s task expected status output) := by
  unfold Agent.finishWithout
  refine now_course.lift fun now => ?_
  refine end_course held hs (fun stored f => ?_) fun found k hk => onLostUpdate_course hk
  refine ends_of_idle (Q := fun _ => True) (followsOr_bind.mpr (followsOr_bind.mpr ?_))
  exact abandon_idle.lift fun _ => ⟨rfl, trivial⟩

theorem complete_course (output : Output) :
    Ends s.podId task (.going true) (complete s task output) := by
  unfold Agent.complete
  refine now_course.lift fun now => ?_
  refine end_course (.inr rfl) (.tail _ (.head _)) (fun stored f => ?_)
    fun found k hk => onLostUpdate_course hk
  refine ends_of_idle (Q := fun _ => True) ?_
  refine (steadyOr_of_keeps finalize_idle).attempted ?_
  rintro (cause | _) -
  · exact ⟨rfl, trivial⟩
  · exact ⟨rfl, trivial⟩

theorem retryAttempt_course {expected : Expectation} (ht : t.id = task) (reason : String)
    (disposition : Disposition)
    (held : expected = heldBy pod ∨ expected = if started then executedBy pod else claimedBy pod) :
    Ends pod task (.going started) (retryAttempt s t expected reason disposition) := by
  have updated (change : TaskUpdate) (hc : change.status = (RetryPlan.ofTask t).failedStatus) :
      FollowsOr (courseRules pod task) (updateTask s task expected change) (.going started)
        (fun stored k' => stored.id = task ∧ ∃ f, True ∧ k' = (Course.idle f).wrote change.status)
        fun cause k' => k'.IsIdle ∨ ∃ found, cause = .conflict found ∧
          k' = if found.status.isCancellation then .lost else .idle false := by
    have may : (Course.going started).MayUpdate pod task task expected change := by
      refine ⟨rfl, .ends held ?_⟩
      rw [hc]
      cases RetryPlan.ofTask t <;> decide
    refine (updateTask_course (.inl ⟨started, rfl⟩) may).mono ?_ ?_
    · rintro stored k' ⟨hid, rfl | rfl⟩
      · refine ⟨hid, false, trivial, ?_⟩
        rw [hc]
        cases RetryPlan.ofTask t <;> rfl
      · exact ⟨hid, true, trivial, rfl⟩
    · rintro cause k' (⟨found, rfl, rfl⟩ | idle)
      · refine .inr ⟨found, rfl, if_neg fun h => ?_⟩
        rw [hc] at h
        generalize RetryPlan.ofTask t = plan at h
        cases plan <;> cases h
      · exact .inl idle
  unfold Agent.retryAttempt
  rw [ht]
  refine followsOr_bind.mpr (followsOr_attempt.mpr
    ((retryTask_course ht now_course updated).mono ?_ ?_))
  · rintro stored _ ⟨-, f, -, rfl⟩
    exact .inl ⟨f, rfl⟩
  · rintro cause k' (⟨e, rfl, idle | ⟨found, rfl, hk⟩⟩ | ⟨f, -, rfl, other⟩)
    · split
      · next h => cases h
      · exact onLostUpdate_course (.inr idle)
      · exact .inl idle
    · exact onLostUpdate_course (.inl hk)
    · split
      · next h => cases h
      · next h => exact absurd (Except.error.inj h) (other _)
      · exact .inr ⟨f, rfl⟩

theorem onWorkerFailure_course (ht : t.id = task) (run : RunId) (cause : WorkerError)
    (hk : k = .going started ∨ k.IsIdle) :
    Ends s.podId task k (onWorkerFailure s t run cause) := by
  rcases hk with rfl | ⟨f, rfl⟩
  · have works : LetsWork (courseRules s.podId task) (.going started) := courseRules_letsWork
    have retried : Ends s.podId task (.going started) (do
        let resolution ← retryAttempt s t (heldBy s.podId) cause.message .cancelled
        return resolution.withFault cause.message) := by
      refine followsOr_bind.mpr ((retryAttempt_course ht _ _ (.inl rfl)).mono ?_ fun _ _ h => h)
      exact fun resolution k' h => h
    unfold Agent.onWorkerFailure
    rw [ht]
    refine (works.asks rfl).lift fun stopped => ?_
    split
    · exact finishCancellation_course (.inl ⟨started, rfl⟩)
    · refine (works.asks rfl).lift fun shutdown => ?_
      split
      · refine (works.asks rfl).lift fun health => ?_
        split
        · exact release_course (.inl rfl)
        · exact retried
      · exact retried
  · exact ends_of_idle ((courseRules_retries s.podId task f).onWorkerFailure ht run cause)

theorem recordOutput_course (ht : t.id = task) (run : RunId) (output : Output)
    (hk : k = .going true ∨ k.IsIdle) :
    Ends s.podId task k (recordOutput s t run output) := by
  rcases hk with rfl | ⟨f, rfl⟩
  · unfold Agent.recordOutput
    rw [ht]
    split
    · exact complete_course output
    · exact finishWithout_course output (.inr rfl) (.tail _ (.tail _ (.head _)))
    · refine (courseRules_letsWork.asks rfl).lift fun stopped => ?_
      split
      · exact finishCancellation_course (.inl ⟨true, rfl⟩)
      · exact retryAttempt_course ht _ _ (.inr rfl)
  · exact ends_of_idle ((courseRules_retries s.podId task f).recordOutput ht run output)

/-- An attempt whose outcome is handed on after a call that is not noted. -/
theorem Ends.andResume {p : Fallible AgentError Resolution} {q : Action Unit}
    (h : Ends pod task k p) (hq : ∀ k, Keeps (courseRules pod task) q k) :
    Ends pod task k (do
      let outcome ← attempt p
      liftM q
      resume outcome) := by
  refine followsOr_bind.mpr (followsOr_attempt.mpr (h.mono ?_ ?_))
  · exact fun resolution k' hk => (hq k').lift fun _ => hk
  · exact fun cause k' hk => (hq k').lift fun _ => hk

theorem callWorker_course (ht : t.id = task) (run : RunId) (stream : StreamId)
    (requests : List WorkRequest) :
    Ends s.podId task (.going false) (callWorker s t run stream requests) := by
  have hungUp (k : Course) : Keeps (courseRules s.podId task) (Call.hangUp stream) k :=
    ⟨trivial, fun _ _ => rfl⟩
  unfold Agent.callWorker
  rw [ht]
  refine now_course.lift fun now => ?_
  refine followsOr_bind.mpr (followsOr_attempt.mpr ((transition_course (.inl ⟨false, rfl⟩)
    ⟨rfl, .starts rfl⟩).mono ?_ ?_))
  · rintro (found | stored) k' h
    · -- the loss is dealt with before the stream is closed
      refine Ends.andResume (onLostUpdate_course ?_) hungUp
      exact h
    · obtain ⟨hid, hk⟩ := h
      replace hid : { stored with options := t.options }.id = task := hid
      replace hk : k' = .going true ∨ k'.IsIdle := hk.imp (fun h => h) fun h => ⟨true, h⟩
      have exchanged : SteadyOr (courseRules s.podId task) k' never
          (exchange run stream requests) fun _ => True :=
        courseRules_letsWork.exchange run stream requests
      refine followsOr_bind.mpr (followsOr_attempt.mpr (FollowsOr.mono exchanged ?_ ?_))
      · rintro output _ ⟨rfl, -⟩
        exact (hungUp _).lift fun _ => recordOutput_course hid run output hk
      · rintro cause k₂ (rfl | h)
        · have failed : Ends s.podId task k₂
              (onWorkerFailure s { stored with options := t.options } run cause) :=
            onWorkerFailure_course hid run cause hk
          exact (hungUp _).lift fun _ => failed
        · exact h.elim
  · rintro cause _ idle
    exact (hungUp _).lift fun _ => .inl idle

theorem reachWorker_course (ht : t.id = task) (run : RunId) (requests : List WorkRequest) :
    Ends s.podId task (.going false) (reachWorker s t run requests) := by
  have works : LetsWork (courseRules s.podId task) (.going false) := courseRules_letsWork
  unfold Agent.reachWorker
  refine now_course.lift fun now => ?_
  refine followsOr_bind.mpr ((callDeadline_steady (works.asks rfl)).mono ?_ fun _ _ h => h.elim)
  rintro deadline _ rfl
  refine keeps_attempt (works.asks rfl) fun outcome => ?_
  split
  · exact callWorker_course ht run _ requests
  · refine (works.asks rfl).lift fun stopped => ?_
    split
    · exact onWorkerFailure_course ht run _ (.inl rfl)
    · rw [ht]
      exact release_course (.inr rfl)
  · exact onWorkerFailure_course ht run _ (.inl rfl)

theorem runWorker_course (ht : t.id = task) (run : RunId) (requests : List WorkRequest) :
    Ends s.podId task (.going false) (runWorker s t run requests) := by
  have works : LetsWork (courseRules s.podId task) (.going false) := courseRules_letsWork
  unfold Agent.runWorker
  refine (works.asks rfl).lift fun shutdown => ?_
  refine (works.asks rfl).lift fun stopped => ?_
  split
  · rw [ht]
    exact release_course (.inr rfl)
  · refine (works.asks rfl).lift fun _ => ?_
    exact (reachWorker_course ht run requests).andResume fun _ => ⟨trivial, fun _ _ => rfl⟩

/-- An execution ends out of it, or as cancelled with the results given up. -/
theorem execute_course (ht : t.id = task) (run : RunId) :
    Ends s.podId task (.going false) (execute s t run) := by
  have works : LetsWork (courseRules s.podId task) (.going false) := courseRules_letsWork
  unfold Agent.execute
  refine (works.asks rfl).lift fun shutdown => ?_
  split
  · rw [ht]
    exact release_course (.inr rfl)
  · refine followsOr_bind.mpr (followsOr_attempt.mpr
      (FollowsOr.mono (works.prefetch (E := never) t) ?_ ?_))
    · rintro requests _ ⟨rfl, -⟩
      exact runWorker_course ht run requests
    · rintro cause _ (rfl | h)
      · split
        · next h => cases h
        · rw [ht]
          exact finishWithout_course _ (.inr rfl) (.tail _ (.tail _ (.tail _ (.head _))))
        · next cause _ _ =>
          have retried : Ends s.podId task (.going false)
              (retryAttempt s t (claimedBy s.podId) cause.message .cancelled) :=
            retryAttempt_course ht _ _ (.inr rfl)
          exact followsOr_bind.mpr (retried.mono (fun resolution k' h => h) fun _ _ h => h)
      · exact h.elim

/-! Messages. -/

/-- A message is handled out of an execution, or its task is reported as cancelled. -/
def Reports (report : HandlerReport) (k : Course) : Prop :=
  k.IsIdle ∨
    (k = .cancelled (some []) ∧ report.status = some .cancelled ∧ report.disposition = .cancelled)

/-- The program handles a message. -/
abbrev Handles (pod : PodId) (task : TaskId) (k : Course) (p : Fallible AgentError HandlerReport) :
    Prop :=
  FollowsOr (courseRules pod task) p k Reports fun _ => Fails

/-- Deciding on a message does not fail, and waits for the succession. -/
theorem dispose_course {message : DeliveryId} {disposition : Disposition}
    {rest : Unit → Fallible AgentError HandlerReport} (hk : ¬ k.IsTorn)
    (hr : Handles pod task k (rest ())) :
    Handles pod task k (dispose message disposition >>= rest) := by
  refine followsOr_bind.mpr (followsOr_orFail.mpr ⟨hk, ?_⟩)
  rintro _ rfl
  exact hr

theorem executeRegistered_course (message : DeliveryId) {report : HandlerReport}
    (hr : report.task = task) (ht : t.id = task) :
    Handles s.podId task (.idle false) (executeRegistered s message report t) := by
  have untorn {f : Bool} : ¬ (Course.idle f).IsTorn := fun h => h.elim fun _ h => nomatch h
  unfold Agent.executeRegistered
  rw [hr]
  refine followsOr_bind.mpr (followsOr_lift.mpr ⟨rfl, fun run _ => ?_⟩)
  rcases run with _ | run
  · exact dispose_course untorn (.inl ⟨false, rfl⟩)
  · refine followsOr_bind.mpr (followsOr_attempt.mpr ((execute_course ht run).mono ?_ ?_))
    · intro resolution k hk
      have leaves : (courseRules s.podId task).may k (.unregister run) :=
        hk.elim .inl fun h => .inr (.inr h.1)
      refine Keeps.lift (s := k) ⟨leaves, fun _ _ => rfl⟩ fun _ => ?_
      refine Keeps.lift (s := k) ⟨trivial, fun _ _ => rfl⟩ fun _ => ?_
      refine dispose_course ?_ ?_
      · rcases hk with ⟨f, rfl⟩ | ⟨rfl, -⟩
        · exact untorn
        · exact fun h => h.elim fun _ h => nomatch h
      · exact hk.imp id fun h => ⟨h.1, congrArg some h.2.1, h.2.2⟩
    · intro cause k hk
      have leaves : (courseRules s.podId task).may k (.unregister run) :=
        hk.elim .inl fun h => .inr (.inl h)
      refine Keeps.lift (s := k) ⟨leaves, fun _ _ => rfl⟩ fun _ => ?_
      exact Keeps.lift (s := k) ⟨trivial, fun _ _ => rfl⟩ fun _ => hk

theorem process_course (message : DeliveryId) :
    Handles s.podId task (.idle false) (process s message task) := by
  unfold Agent.process
  refine followsOr_bind.mpr (FollowsOr.mono
    ((courseRules_retries s.podId task false).acquireWithin _) ?_ ?_)
  · rintro acquired _ ⟨rfl, ha⟩
    simp only
    split
    · next t _ ht => exact executeRegistered_course message rfl (ha t ht)
    · exact dispose_course (fun h => h.elim fun _ h => nomatch h) (.inl ⟨false, rfl⟩)
  · rintro cause _ (rfl | ⟨rfl, -⟩)
    · exact .inl ⟨false, rfl⟩
    · exact .inr ⟨false, rfl⟩

/-- A message is handled. -/
theorem handleMessage_course (message : DeliveryId) :
    Handles s.podId task (.idle false) (handleMessage s message task) := by
  unfold Agent.handleMessage
  refine followsOr_bind.mpr (followsOr_attempt.mpr ((process_course message).mono ?_ ?_))
  · intro report k hk
    refine followsOr_bind.mpr (followsOr_attempt.mpr ⟨trivial, ?_⟩)
    rintro _ rfl
    exact hk
  · intro cause k hk
    refine followsOr_bind.mpr (followsOr_attempt.mpr ⟨trivial, ?_⟩)
    rintro _ rfl
    exact hk

end GridAgent.Cluster
