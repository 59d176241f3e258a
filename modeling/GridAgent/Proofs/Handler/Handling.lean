import GridAgent.Proofs.Handler.Acquiring
import GridAgent.Proofs.Handler.Executing

/-!
# The books of whole jobs

A message is decided on once and settled once, in whatever way its handling ends, and settled only
with a disposition that its books allow. Settling results pushes every task that became submitted by
it before anything else is done. So every job follows its books from its first call to its last.
-/

namespace GridAgent.Cluster

open Agent Program Track

variable {pod : PodId} {job : Job} {k : Track} {s : Settings} {message : DeliveryId}

/-- The message may be settled now. -/
structure Track.Settleable (k : Track) : Prop where
  /-- No execution is registered. -/
  outside : k.stage.run? = none
  /-- Nothing is owed. -/
  owed : k.owed = []
  /-- The message is not settled. -/
  settled : k.settled = false
  /-- What was decided may happen to the message. -/
  allows : k.Allows (k.disposed.getD .waiting)

/-- Nothing is left to be done for the message. -/
structure Track.Finished (k : Track) : Prop where
  /-- Nothing is owed. -/
  owed : k.owed = []
  /-- The message is settled. -/
  settled : k.settled = true

/-- A message on which nothing is decided comes back. -/
theorem Track.settleable_of_undecided (hs : k.stage.run? = none) (ho : k.owed = [])
    (hd : k.disposed = none) (hl : k.settled = false) : k.Settleable :=
  ⟨hs, ho, hl, .inl (by rw [hd]; rfl)⟩

theorem Track.Acquires.settleable (h : k.Acquires) : k.Settleable :=
  settleable_of_undecided (by rw [h.stage]; rfl) h.owed h.free.disposed h.free.settled

/-- A decision that the books allow makes the message ready to be settled, and so does a refused
one. -/
theorem dispose_does {disposition : Disposition} (hm : job.message? = some message)
    (hs : k.stage.run? = none) (ho : k.owed = []) (hd : k.disposed = none) (hl : k.settled = false)
    (ha : k.Allows disposition) :
    Does pod job (dispose message disposition) k (fun _ k' => k'.Settleable)
      (fun _ k' => k'.Settleable) := by
  refine followsOr_orFail.mpr ⟨⟨ho, hm, hs, hd, hl⟩, ?_⟩
  rintro (cause | _) _
  · exact settleable_of_undecided hs ho hd hl
  · exact ⟨hs, ho, hl, ha⟩

/-- A registration begins the execution, unless the task is executing here already. -/
theorem register_does (ho : k.owed = []) (hs : k.stage = .acquiring) (ha : k.attached = true)
    (hf : k.Free) (hm : job.message?.isSome) :
    Program.Follows (agentConduct pod job) (Call.register job.task) k fun registered k' =>
      match registered with
      | none => k' = k
      | some run => k' = { k with stage := .executing run } := by
  refine ⟨⟨ho, rfl, hs, ha, hf, hm⟩, ?_⟩
  rintro (_ | run) _
  · rfl
  · rfl

/-- A registered execution ends with its message ready to be settled. -/
theorem executeRegistered_does {report : HandlerReport} {t : TaskRecord} (hp : s.podId = pod)
    (hm : job.message? = some message) (hr : report.task = job.task) (ht : t.id = job.task)
    (hs : k.stage = .acquiring) (ho : k.owed = []) (ha : k.attached = true) (hf : k.Free) :
    Does pod job (executeRegistered s message report t) k (fun _ k' => k'.Settleable)
      (fun _ k' => k'.Settleable) := by
  unfold executeRegistered
  rw [hr]
  have handled : job.message?.isSome := by rw [hm]; rfl
  refine followsOr_bind.mpr (followsOr_lift.mpr ((register_does ho hs ha hf handled).mono ?_))
  rintro (_ | run) k₁ hk₁
  · rw [hk₁]
    have outside : k.stage.run? = none := by rw [hs]; rfl
    refine followsOr_bind.mpr ((dispose_does hm outside ho hf.disposed hf.settled (.inl rfl)).mono
      ?_ fun _ _ h => h)
    exact fun _ _ h => h
  · have h₁ : k₁.Executes run := by
      rw [hk₁]
      exact ⟨.inl rfl, ho, ⟨hf.doomed, hf.released, hf.disposed, hf.settled⟩, ha⟩
    have leave {k₂ : Track} (h₂ : k₂.Over run) :
        Program.Follows (agentConduct pod job) (Call.unregister run) k₂
          fun _ k' => k' = { k₂ with stage := .left } :=
      ⟨⟨h₂.owed, h₂.idle⟩, fun _ _ => rfl⟩
    refine followsOr_bind.mpr (followsOr_attempt.mpr ?_)
    refine (execute_does hp ht h₁ (by rw [hk₁])).mono ?_ ?_
    · rintro resolution k₂ ⟨h₂, ha₂⟩
      refine followsOr_bind.mpr (followsOr_lift.mpr ((leave h₂).mono ?_))
      intro _ k₃ hk₃
      have ho₃ : k₃.owed = [] := by rw [hk₃]; exact h₂.owed
      refine (keeps_clearScratch ho₃ job.task).lift fun _ => ?_
      refine followsOr_bind.mpr (followsOr_resume_ok.mpr ?_)
      refine followsOr_bind.mpr ((dispose_does hm (by rw [hk₃]; rfl) ho₃
        (by rw [hk₃]; exact h₂.disposed) (by rw [hk₃]; exact h₂.settled)
        (by rw [hk₃]; exact ha₂)).mono ?_ fun _ _ h => h)
      exact fun _ _ h => h
    · intro cause k₂ h₂
      refine followsOr_bind.mpr (followsOr_lift.mpr ((leave h₂).mono ?_))
      intro _ k₃ hk₃
      have ho₃ : k₃.owed = [] := by rw [hk₃]; exact h₂.owed
      refine (keeps_clearScratch ho₃ job.task).lift fun _ => ?_
      refine followsOr_bind.mpr (followsOr_resume_error.mpr ?_)
      exact settleable_of_undecided (by rw [hk₃]; rfl) ho₃ (by rw [hk₃]; exact h₂.disposed)
        (by rw [hk₃]; exact h₂.settled)

/-- A handled message is ready to be settled. -/
theorem process_does (hp : s.podId = pod) (hm : job.message? = some message) (hk : k.Acquires) :
    Does pod job (process s message job.task) k (fun _ k' => k'.Settleable)
      (fun _ k' => k'.Settleable) := by
  unfold process acquire
  refine followsOr_bind.mpr ((acquireWithin_does hp _ hk).mono ?_ fun _ _ h => h.settleable)
  intro acquired k₁ h₁
  split
  · next t ho ht =>
    obtain ⟨hid, ha, hf⟩ := h₁.claimed ho t ht
    exact executeRegistered_does hp hm rfl hid h₁.stage h₁.owed ha hf
  · have outside : k₁.stage.run? = none := by rw [h₁.stage]; rfl
    refine followsOr_bind.mpr ((dispose_does hm outside h₁.owed h₁.disposed h₁.settled
      h₁.allows).mono ?_ fun _ _ h => h)
    exact fun _ _ h => h

/-- A handled message is settled. -/
theorem handleMessage_does (hp : s.podId = pod) (hm : job.message? = some message)
    (hk : k.Acquires) :
    Does pod job (handleMessage s message job.task) k (fun _ k' => k'.Finished)
      (fun _ k' => k'.Finished) := by
  have settle {k₁ : Track} (h₁ : k₁.Settleable) :
      Program.Follows (agentConduct pod job) (Call.settle message).run k₁
        fun _ k' => k'.Finished :=
    ⟨⟨h₁.owed, hm, h₁.outside, h₁.settled, h₁.allows⟩, fun _ _ => ⟨h₁.owed, rfl⟩⟩
  unfold handleMessage
  refine followsOr_bind.mpr (followsOr_attempt.mpr ((process_does hp hm hk).mono ?_ ?_))
  · intro report k₁ h₁
    refine followsOr_bind.mpr (followsOr_attempt.mpr (Follows.mono (settle h₁) ?_))
    rintro (cause | _) k₂ h₂
    · exact h₂
    · exact h₂
  · intro cause k₁ h₁
    refine followsOr_bind.mpr (followsOr_attempt.mpr (Follows.mono (settle h₁) ?_))
    rintro (_ | _) k₂ h₂
    · exact h₂
    · exact h₂

/-! Settling results. -/

/-- How a finalizer works for a job. -/
def resultConduct (pod : PodId) (job : Job) : Conduct Finalizer.collaborators Track where
  may k request := k.May pod job (.finalizer request)
  credible request reply := Track.Credible (.finalizer request) reply
  note k request reply := k.noteFinalizer request reply

/-- A program of a finalizer leaves the books of its agent as they are. -/
abbrev KeepsResults {ε α : Type} (pod : PodId) (job : Job) (k : Track)
    (p : ExceptT ε (Program Finalizer.collaborators) α) : Prop :=
  Keeps (I := Finalizer.collaborators) (α := Except ε α) (resultConduct pod job) p k

theorem keeps_readResult (ho : k.owed = []) (task : TaskId) :
    KeepsResults pod job k (Finalizer.readTask task) := by
  refine keeps_of_followsOr (followsOr_adapt.mpr ?_)
  refine ⟨ho, ?_⟩
  rintro (cause | record) _
  · rfl
  · rfl

/-- Tasks that became submitted are owed. -/
theorem resolveAll_follows (hs : k.stage.isStopping = false) (outputs : List DataId) :
    Program.Follows (resultConduct pod job) (Finalizer.resolveAll outputs) k
      fun tasks k' => k' = { k with owed := k.owed ++ tasks } := by
  induction outputs generalizing k with
  | nil =>
    have same : ({ k with owed := k.owed ++ [] } : Track) = k := by rw [List.append_nil]
    exact same.symm
  | cons data rest ih =>
    have clock : Keeps (resultConduct pod job) Finalizer.readClock k :=
      keeps_call trivial fun _ => rfl
    have resolved : ∀ now, Program.Follows (resultConduct pod job) (Finalizer.resolve data now) k
        fun tasks k' => k' = { k with owed := k.owed ++ tasks } :=
      fun now => ⟨hs, fun _ _ => rfl⟩
    refine clock.andThen fun now => follows_bind.mpr ((resolved now).mono ?_)
    intro submitted k₁ hk₁
    have hs₁ : k₁.stage.isStopping = false := by rw [hk₁]; exact hs
    refine follows_bind.mpr ((ih hs₁).mono ?_)
    intro more k₂ hk₂
    have owed : k₂ = { k with owed := k.owed ++ (submitted ++ more) } := by
      rw [hk₂, hk₁, List.append_assoc]
    exact owed

theorem keeps_giveUpAll (ho : k.owed = []) (outputs : List DataId) :
    Keeps (resultConduct pod job) (Finalizer.giveUpAll outputs) k := by
  induction outputs with
  | nil => rfl
  | cons data rest ih =>
    refine ⟨trivial, fun now _ => ⟨ho, fun failed _ => ?_⟩⟩
    exact ih.andThen fun _ => rfl

/-- Making results available pushes what became submitted by it. -/
theorem keeps_makeAvailable (ho : k.owed = []) (hs : k.stage.isStopping = false) (task : TaskId) :
    KeepsResults pod job k (Finalizer.finalize task) := by
  refine keeps_of_followsOr ((keeps_readResult ho task).orFail (fun record => ?_) fun _ => rfl)
  cases record with
  | none => rfl
  | some t =>
    refine followsOr_bind.mpr (followsOr_lift.mpr ((resolveAll_follows hs t.outputs).mono ?_))
    intro submitted k₁ hk₁
    rw [ho, List.nil_append] at hk₁
    have paid : ({ k₁ with owed := [] } : Track) = k := by rw [hk₁, ← ho]
    split
    · next he =>
      rw [List.isEmpty_iff.mp he, ← ho] at hk₁
      exact hk₁
    · refine followsOr_adapt.mpr ⟨?_, ?_⟩
      · rw [hk₁]
        exact fun _ h => h
      · rintro (cause | _) _
        · exact paid
        · exact paid

/-- Giving results up owes nothing. -/
theorem keeps_giveUp (ho : k.owed = []) (task : TaskId) :
    KeepsResults pod job k (Finalizer.abandon task) := by
  have one : ∀ task, KeepsResults pod job k (Finalizer.abandonOne task) := by
    intro task
    refine keeps_of_followsOr ((keeps_readResult ho task).orFail (fun record => ?_) fun _ => rfl)
    cases record with
    | none => rfl
    | some t => exact followsOr_lift.mpr (keeps_giveUpAll ho t.outputs)
  have within : ∀ rounds pending, KeepsResults pod job k (Finalizer.abandonWithin rounds pending) := by
    intro rounds
    induction rounds with
    | zero => exact fun _ => rfl
    | succ rounds ih =>
      intro pending
      unfold Finalizer.abandonWithin
      split
      · rfl
      · refine keeps_of_followsOr ((one _).orFail (fun failed => ?_) fun _ => rfl)
        exact (ih _).followsOr (fun _ => rfl) fun _ => rfl
  have counted : Keeps (resultConduct pod job) Finalizer.countTasks k := keeps_call ho fun _ => rfl
  refine keeps_of_followsOr (counted.lift fun tasks => ?_)
  exact (within _ _).followsOr (fun _ => rfl) fun _ => rfl

/-! Whole jobs, call by call. -/

/-- What keeps the books as a program of a finalizer keeps them call by call. -/
theorem keeps_finalizerCalls {α : Type} {p : Finalizer.Action α} (h : KeepsResults pod job k p) :
    Keeps (conduct pod job) (finalizerCalls p) k := by
  refine Follows.expand (C := resultConduct pod job) (D := conduct pod job) ?_ h
  exact fun k request hm => ⟨hm, fun _ hr => ⟨hr, rfl⟩⟩

/-- What follows the books as a program of an agent follows them call by call. -/
theorem follows_agentCalls {α : Type} {p : Action α} {Q : α → Track → Prop}
    (h : p.Follows (agentConduct pod job) k Q) :
    (agentCalls p).Follows (conduct pod job) k Q := by
  refine Follows.expand (D := conduct pod job) (fun k request hm => ?_) h
  cases request with
  | finalize task =>
    refine (keeps_finalizerCalls (keeps_makeAvailable hm.1 hm.2 task)).mono ?_
    rintro reply _ rfl
    exact ⟨trivial, rfl⟩
  | abandon task =>
    refine (keeps_finalizerCalls (keeps_giveUp hm.1 task)).mono ?_
    rintro reply _ rfl
    exact ⟨trivial, rfl⟩
  | _ => exact ⟨hm, fun _ hr => ⟨hr, rfl⟩⟩

/-- What the books say at the end of a job. -/
def Job.Ends (job : Job) (k : Track) : Prop :=
  k.owed = [] ∧ (job.message?.isSome → k.settled = true)

/-- Every job follows its books to its end. -/
theorem Job.program_follows (hp : s.podId = pod) (job : Job) :
    (job.program s).Follows (conduct pod job) (.start job) fun _ k => job.Ends k := by
  cases job with
  | handle message task =>
    have acquires : (Track.start (.handle message task)).Acquires := ⟨rfl, rfl, rfl, rfl, rfl, rfl⟩
    refine (follows_agentCalls (handleMessage_does hp rfl acquires)).mono ?_
    rintro (cause | report) k h
    · exact ⟨h.owed, fun _ => h.settled⟩
    · exact ⟨h.owed, fun _ => h.settled⟩
  | acquire task =>
    have acquires : (Track.start (.acquire task)).Acquires := ⟨rfl, rfl, rfl, rfl, rfl, rfl⟩
    refine (follows_agentCalls (acquireWithin_does hp _ acquires)).mono ?_
    rintro (cause | acquired) k h
    · exact ⟨h.owed, nofun⟩
    · exact ⟨h.owed, nofun⟩
  | stop run task =>
    have free : (Track.start (.stop run task)).Free := ⟨rfl, rfl, rfl, rfl⟩
    refine (follows_agentCalls (stopExecution_does hp rfl free rfl)).mono ?_
    rintro (cause | first) k h
    · exact ⟨h, nofun⟩
    · exact ⟨h, nofun⟩
  | watch run task =>
    have free : (Track.start (.watch run task)).Free := ⟨rfl, rfl, rfl, rfl⟩
    refine (follows_agentCalls (lookForCancellation_follows hp rfl free rfl)).mono ?_
    exact fun again k h => ⟨h, nofun⟩

end GridAgent.Cluster
