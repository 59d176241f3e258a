import GridAgent.Proofs.Handler.Kinship

/-!
# Who settles results

An agent makes the results of its task available once it has made the task completed, and gives them
up once it has made the task fail or has lost an update to its cancellation. What a finalizer does
for it goes no further: it settles the expected results of such a task, and of those that fail for
data that it gives up. The rules are those of a store to which records come: ends that are seen are
ends there, and a record expects the same results there.
-/

namespace GridAgent

namespace Store

/-- The task is stored with a status as described. -/
def IsStored (s : Store) (P : TaskStatus → Bool) (task : TaskId) : Prop :=
  ∃ t, s.get? task = some t ∧ P t.status = true

/-- The data is an expected output of a task that is stored with a status as described. -/
def Yields (s : Store) (P : TaskStatus → Bool) (data : DataId) : Prop :=
  ∃ task t, s.get? task = some t ∧ P t.status = true ∧ data ∈ t.outputs

/-- If the status is an end, the task is stored with it. -/
def Confirms (s : Store) (task : TaskId) (status : TaskStatus) : Prop :=
  status.isTerminal = true → s.IsStored (· == status) task

/-- The task is stored with the expected outputs. -/
def Expects (s : Store) (task : TaskId) (outputs : List DataId) : Prop :=
  ∃ t, s.get? task = some t ∧ t.outputs = outputs

variable {s : Store} {P : TaskStatus → Bool} {task : TaskId} {status : TaskStatus}

/-- An end that is confirmed is stored. -/
theorem Confirms.isStored (h : s.Confirms task status) (ends : status.isTerminal = true)
    (hp : P status = true) : s.IsStored P task := by
  obtain ⟨t, ht, same⟩ := h ends
  exact ⟨t, ht, beq_iff_eq.mp same ▸ hp⟩

/-- The expected outputs of a stored task are what it yields. -/
theorem IsStored.yields (h : s.IsStored P task) {outputs : List DataId}
    (expects : s.Expects task outputs) : ∀ data ∈ outputs, s.Yields P data := by
  obtain ⟨t, ht, hp⟩ := h
  obtain ⟨t', ht', rfl⟩ := expects
  obtain rfl := Option.some.inj (ht.symm.trans ht')
  exact fun data hm => ⟨task, t, ht, hp, hm⟩

end Store

namespace Cluster

open Agent Program

variable {later : Store} {task : TaskId} {s : Settings} {job : Job}

/-! What finalizers do. -/

/-- The rules of a finalizer. -/
def finalizerRules (later : Store) : Conduct Finalizer.collaborators Unit where
  may
    | _, .resolve data _ => later.Yields TaskStatus.isSuccess data
    | _, .giveUp data _ => later.Yields TaskStatus.isFailure data
    | _, _ => True
  credible
    | .readTask task, reply => ∀ t, reply = .ok (some t) → later.Expects task t.outputs
    | .giveUp _ _, (failed : List TaskId) => ∀ task ∈ failed, later.IsStored TaskStatus.isFailure task
    | _, _ => True
  note _ _ _ := ()

/-- The record that a finalizer reads expects the results that it expects later. -/
theorem finalizer_reads (task : TaskId) :
    FollowsOr (finalizerRules later) (Finalizer.readTask task) ()
      (fun found _ => ∀ t, found = some t → later.Expects task t.outputs) fun _ _ => True := by
  refine followsOr_adapt.mpr ⟨trivial, fun reply hc => ?_⟩
  rcases reply with cause | found
  · trivial
  · rintro t rfl
    exact hc t rfl

theorem resolveAll_yields {outputs : List DataId}
    (h : ∀ data ∈ outputs, later.Yields TaskStatus.isSuccess data) :
    (Finalizer.resolveAll outputs).Follows (finalizerRules later) () fun _ _ => True := by
  induction outputs with
  | nil => trivial
  | cons data rest ih =>
    refine ⟨trivial, fun now _ => ⟨h data List.mem_cons_self, fun (submitted : List TaskId) _ => ?_⟩⟩
    change ((Finalizer.resolveAll rest).bind fun more => .done (submitted ++ more)).Follows _ _ _
    refine follows_bind.mpr ((ih fun other hm => h other (List.mem_cons_of_mem _ hm)).mono ?_)
    exact fun _ _ _ => trivial

/-- What fails for the outputs that are given up is stored as failed. -/
theorem giveUpAll_yields {outputs : List DataId}
    (h : ∀ data ∈ outputs, later.Yields TaskStatus.isFailure data) :
    (Finalizer.giveUpAll outputs).Follows (finalizerRules later) () fun failed _ =>
      ∀ task ∈ failed, later.IsStored TaskStatus.isFailure task := by
  induction outputs with
  | nil => exact fun _ hm => nomatch hm
  | cons data rest ih =>
    refine ⟨trivial, fun now _ => ⟨h data List.mem_cons_self, fun (failed : List TaskId) hf => ?_⟩⟩
    change ((Finalizer.giveUpAll rest).bind fun more => .done (failed ++ more)).Follows _ _ _
    refine follows_bind.mpr ((ih fun other hm => h other (List.mem_cons_of_mem _ hm)).mono ?_)
    exact fun more _ hm task mem => (List.mem_append.mp mem).elim (hf task) (hm task)

/-- The results of a completed task are made available. -/
theorem finalize_yields (completed : later.IsStored TaskStatus.isSuccess task) :
    FollowsOr (finalizerRules later) (Finalizer.finalize task) () (fun _ _ => True)
      fun _ _ => True := by
  refine followsOr_bind.mpr ((finalizer_reads task).mono (fun found _ hf => ?_) fun _ _ h => h)
  cases found with
  | none => trivial
  | some t =>
    refine followsOr_bind.mpr (followsOr_lift.mpr ?_)
    refine (resolveAll_yields (completed.yields (hf t rfl))).mono fun submitted _ _ => ?_
    split
    · trivial
    · exact followsOr_adapt.mpr ⟨trivial, fun reply _ => by cases reply <;> trivial⟩

theorem abandonOne_yields (failed : later.IsStored TaskStatus.isFailure task) :
    FollowsOr (finalizerRules later) (Finalizer.abandonOne task) ()
      (fun failed _ => ∀ task ∈ failed, later.IsStored TaskStatus.isFailure task)
      fun _ _ => True := by
  refine followsOr_bind.mpr ((finalizer_reads task).mono (fun found _ hf => ?_) fun _ _ h => h)
  cases found with
  | none => exact fun _ hm => nomatch hm
  | some t => exact followsOr_lift.mpr (giveUpAll_yields (failed.yields (hf t rfl)))

/-- Whoever is still to give up its results is stored as failed. -/
theorem abandonWithin_yields (rounds : Nat) {pending : List TaskId}
    (h : ∀ task ∈ pending, later.IsStored TaskStatus.isFailure task) :
    FollowsOr (finalizerRules later) (Finalizer.abandonWithin rounds pending) ()
      (fun _ _ => True) fun _ _ => True := by
  induction rounds generalizing pending with
  | zero => trivial
  | succ rounds ih =>
    unfold Finalizer.abandonWithin
    cases last : pending.getLast? with
    | none => trivial
    | some task =>
      have failed := h task (List.mem_of_getLast? last)
      refine followsOr_bind.mpr ((abandonOne_yields failed).mono (fun more _ hm => ?_)
        fun _ _ h => h)
      refine ih fun other mem => (List.mem_append.mp mem).elim (fun old => ?_) (hm other)
      exact h other (pending.dropLast_subset old)

/-- The results of a failed task are given up, and those of all that fail for it. -/
theorem abandon_yields (failed : later.IsStored TaskStatus.isFailure task) :
    FollowsOr (finalizerRules later) (Finalizer.abandon task) () (fun _ _ => True)
      fun _ _ => True := by
  refine followsOr_bind.mpr (followsOr_lift.mpr ⟨trivial, fun tasks _ => ?_⟩)
  exact abandonWithin_yields _ fun other hm => List.mem_singleton.mp hm ▸ failed

/-! What agents do. -/

/-- What is known of a record of the task: an end that it shows is confirmed. -/
structure IsConfirmed (later : Store) (task : TaskId) (t : TaskRecord) : Prop where
  /-- It is a record of the task. -/
  id : t.id = task
  /-- Its end is confirmed. -/
  status : later.Confirms task t.status

/-- The rules of an agent that settles results. -/
def resultRules (later : Store) : Conduct collaborators Unit where
  may
    | _, .finalize task => later.IsStored TaskStatus.isSuccess task
    | _, .abandon task => later.IsStored TaskStatus.isFailure task
    | _, _ => True
  credible
    | .readTask task, reply => ∀ t, reply = .ok (some t) → IsConfirmed later task t
    | .updateTask task _ change, reply =>
      (∀ t, reply = .ok t → IsConfirmed later task t ∧ t.status = change.status) ∧
        ∀ found, reply = .error (.conflict found) → later.Confirms task found.status
    | _, _ => True
  note _ _ _ := ()

/-- A task that was shown to have failed is stored as failed. -/
theorem HasFailed.isStored (h : HasFailed (resultRules later) task (IsConfirmed later task)) :
    later.IsStored TaskStatus.isFailure task := by
  cases h with
  | described t record failed =>
    exact record.status.isStored (TaskStatus.isTerminal_of_isFailure failed) failed
  | lost expected change found shown cancelled =>
    have confirms := shown.2 found rfl
    rw [cancelled] at confirms
    exact confirms.isStored rfl rfl

/-- The rules of settlement grant an agent all its calls. -/
theorem resultRules_executes (later : Store) (task : TaskId) :
    Executes (resultRules later) () task (IsConfirmed later task) never := by
  have grants : Grants (resultRules later) () task (IsConfirmed later task) :=
    { id := fun _ h => h.id
      plain := fun request hr => by
        refine ⟨?_, fun _ => rfl⟩
        cases request <;> first | exact trivial | cases hr
      finalize := fun t ht completed => by
        refine ⟨?_, fun _ => rfl⟩
        exact ht.status.isStored (by rw [completed]; rfl) (by rw [completed]; rfl)
      abandon := fun failed => ⟨failed.isStored, fun _ => rfl⟩
      look := ⟨trivial, fun _ => rfl⟩
      seen := fun t h => h t rfl
      merged := fun _ _ ht _ => ⟨ht.id, ht.status⟩
      update := fun _ _ _ _ => ⟨trivial, fun _ => rfl⟩
      updated := fun _ _ t h => h.1 t rfl
      adopted := fun _ _ _ ht' => ⟨ht'.id, ht'.status⟩
      promote := fun _ _ _ => ⟨trivial, fun _ => rfl⟩
      succeed := fun _ _ _ _ _ => ⟨trivial, fun _ => rfl⟩ }
  refine grants.executes (fun request hr => ?_) (fun _ => trivial) (fun _ _ _ => trivial)
    fun _ _ _ _ _ => trivial
  cases request <;> first | exact trivial | cases hr

/-- The rules of settlement, for an actor. -/
def settlement (later : Store) : Conduct operations Unit where
  may
    | _, .agent request => (resultRules later).may () request
    | _, .finalizer request => (finalizerRules later).may () request
  credible
    | .agent request, reply => (resultRules later).credible request reply
    | .finalizer request, reply => (finalizerRules later).credible request reply
  note _ _ _ := ()

/-- What a finalizer does by its rules an actor may do. -/
theorem follows_settlement {α : Type} {p : Finalizer.Action α} {Q : Except AgentError α → Unit → Prop}
    (h : p.run.Follows (finalizerRules later) () Q) :
    (finalizerCalls p).Follows (settlement later) () Q := by
  refine Follows.expand (C := finalizerRules later) (fun _ request hm => ?_) h
  exact ⟨hm, fun _ hc => ⟨hc, rfl⟩⟩

/-- Every job follows the rules of settlement. -/
theorem settlement_followed (s : Settings) (job : Job) :
    (Actor.start s job).Obeys (settlement later) () fun _ _ _ => True := by
  refine obeys_of_expands (resultRules_executes later job.task) trivial (fun request hm => ?_) s
  cases request with
  | finalize task => exact (follows_settlement (finalize_yields hm)).mono fun _ _ _ => trivial
  | abandon task => exact (follows_settlement (abandon_yields hm)).mono fun _ _ _ => trivial
  | _ => exact ⟨hm, fun _ hc => hc⟩

end Cluster

end GridAgent
