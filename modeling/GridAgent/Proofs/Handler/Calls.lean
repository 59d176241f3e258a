import GridAgent.Agent.Succession
import GridAgent.Proofs.Handler.Track

/-!
# Calls and the books

Most calls leave the books as they are and may be made whenever nothing is owed. The others are an
update, which is noted as written or lost, and the promotion of a task that is being created: it is
owed for as long as its push takes. Trying a call again is as good as making it once.
-/

namespace GridAgent.Cluster

open Agent Program Track

variable {pod : PodId} {job : Job} {k : Track} {s : Settings}

/-- A program of an agent leaves the books as they are. -/
abbrev KeepsBooks {α : Type} (pod : PodId) (job : Job) (k : Track) (p : Action α) : Prop :=
  Keeps (agentConduct pod job) p k

/-- A program of an agent that may fail leaves the books as they are. -/
abbrev KeepsBooksOr {ε α : Type} (pod : PodId) (job : Job) (k : Track) (p : Fallible ε α) : Prop :=
  Keeps (I := collaborators) (α := Except ε α) (agentConduct pod job) p k

/-- A program of an agent follows the books to a value or a failure as promised. -/
abbrev Does {ε α : Type} (pod : PodId) (job : Job) (p : Fallible ε α) (k : Track)
    (Q : α → Track → Prop) (E : ε → Track → Prop) : Prop :=
  FollowsOr (agentConduct pod job) p k Q E

/-! Calls that are not noted. -/

theorem keeps_now (ho : k.owed = []) : KeepsBooks pod job k Call.now :=
  keeps_call ⟨ho, trivial⟩ fun _ => rfl

theorem keeps_pause (ho : k.owed = []) (wait : Span) : KeepsBooks pod job k (Call.pause wait) :=
  keeps_call ⟨ho, trivial⟩ fun _ => rfl

theorem keeps_clearScratch (ho : k.owed = []) (task : TaskId) :
    KeepsBooks pod job k (Call.clearScratch task) :=
  keeps_call ⟨ho, trivial⟩ fun _ => rfl

theorem keeps_shutdownRequested (ho : k.owed = []) : KeepsBooks pod job k Call.shutdownRequested :=
  keeps_call ⟨ho, trivial⟩ fun _ => rfl

theorem keeps_probeLiveness (ho : k.owed = []) : KeepsBooks pod job k Call.probeLiveness :=
  keeps_call ⟨ho, trivial⟩ fun _ => rfl

theorem keeps_cancel (ho : k.owed = []) (run : RunId) : KeepsBooks pod job k (Call.cancel run) :=
  keeps_call ⟨ho, trivial⟩ fun _ => rfl

theorem keeps_beginWatch (ho : k.owed = []) (run : RunId) :
    KeepsBooks pod job k (Call.beginWatch run) :=
  keeps_call ⟨ho, trivial⟩ fun _ => rfl

theorem keeps_endWatch (ho : k.owed = []) (run : RunId) :
    KeepsBooks pod job k (Call.endWatch run) :=
  keeps_call ⟨ho, trivial⟩ fun _ => rfl

theorem keeps_makeScratch (ho : k.owed = []) (task : TaskId) :
    KeepsBooksOr pod job k (Call.makeScratch task) :=
  keeps_call ⟨ho, trivial⟩ fun _ => rfl

theorem keeps_saveScratch (ho : k.owed = []) (task : TaskId) (data : DataId) (bytes : List UInt8) :
    KeepsBooksOr pod job k (Call.saveScratch task data bytes) :=
  keeps_call ⟨ho, trivial⟩ fun _ => rfl

theorem keeps_finalize (ho : k.owed = []) (hs : k.stage.isStopping = false) (task : TaskId) :
    KeepsBooksOr pod job k (Call.finalize task) :=
  keeps_call ⟨ho, hs⟩ fun _ => rfl

/-- Giving results up cannot fail. -/
theorem abandonResults_then {ε α : Type} {task : TaskId} {f : Unit → Fallible ε α}
    {Q : α → Track → Prop} {E : ε → Track → Prop} (ho : k.owed = [])
    (hf : Does pod job (f ()) k Q E) :
    Does pod job (abandonResults task >>= f) k Q E :=
  followsOr_bind.mpr ⟨⟨ho, trivial⟩, fun _ _ => hf⟩

/-- A call that is tried again keeps the books if it keeps them once. -/
theorem keeps_tried {ε α : Type} [Transient ε] {p : Fallible ε α} (ho : k.owed = [])
    (hp : KeepsBooksOr pod job k p) : KeepsBooksOr pod job k (retrying s p) :=
  keeps_retrying hp (keeps_pause ho)

theorem keeps_readSession (ho : k.owed = []) (session : SessionId) :
    KeepsBooksOr pod job k (readSession s session) :=
  keeps_tried ho (keeps_call ⟨ho, trivial⟩ fun _ => rfl)

theorem keeps_findSuccessor (ho : k.owed = []) (task : TaskId) :
    KeepsBooksOr pod job k (findSuccessor s task) :=
  keeps_tried ho (keeps_call ⟨ho, trivial⟩ fun _ => rfl)

theorem keeps_isAlive (ho : k.owed = []) (t : TaskRecord) (owner : PodId) :
    KeepsBooksOr pod job k (isAlive s t owner) :=
  keeps_tried ho (keeps_call ⟨ho, trivial⟩ fun _ => rfl)

theorem keeps_fetch (ho : k.owed = []) (data : DataId) : KeepsBooksOr pod job k (fetch s data) :=
  keeps_tried ho (keeps_call ⟨ho, trivial⟩ fun _ => rfl)

theorem newTaskId_does (ho : k.owed = []) :
    Program.Follows (agentConduct pod job) Call.newTaskId k
      fun id k' => k' = { k with reserved := some id } :=
  ⟨⟨ho, trivial⟩, fun _ _ => rfl⟩

/-! Looks at the task. -/

/-- What is known of the answer to a look at the task. -/
def AfterRead (pod : PodId) (job : Job) (k : Track) (answer : Except StoreError (Option TaskRecord))
    (k' : Track) : Prop :=
  k' = k.read pod answer ∧ ∀ record, answer = .ok (some record) → record.id = job.task

/-- A look at the task is noted. -/
theorem callRead_does (ho : k.owed = [])
    (hs : k.stage = .acquiring ∨ ∃ run, k.stage = .stopping run) :
    Program.Follows (agentConduct pod job) (Call.readTask job.task).run k
      (AfterRead pod job k) := by
  refine ⟨⟨ho, rfl, hs⟩, fun answer hc => ⟨rfl, ?_⟩⟩
  rintro record rfl
  exact hc

/-- A look at the task that is tried again is noted once. -/
theorem readTask_does (ho : k.owed = [])
    (hs : k.stage = .acquiring ∨ ∃ run, k.stage = .stopping run) :
    Does pod job (readTask s job.task) k (fun record k' => AfterRead pod job k (.ok record) k')
      (fun _ k' => k' = k) := by
  refine followsOr_retrying (J := fun k' => k' = k) (K := fun k' => k' = k) ?_ ?_ rfl
  · rintro k' rfl
    refine Follows.mono (callRead_does ho hs) ?_
    rintro (cause | record) k' h
    · exact ⟨h.1, fun _ => h.1⟩
    · exact h
  · rintro k' wait rfl
    exact keeps_pause ho wait

/-! Updates. -/

/-- What is known of the answer to an update of the task. -/
def AfterUpdate (job : Job) (k : Track) (change : TaskUpdate) (answer : Except StoreError TaskRecord)
    (k' : Track) : Prop :=
  match answer with
  | .ok record => record.id = job.task ∧ k' = k.wrote change.status
  | .error (.conflict found) => k' = k.lost change.status found
  | .error _ => k' = k

/-- A task is written while it is acquired, while no worker is being called for its execution, or to
cancel an execution from outside. -/
theorem Write.stage {expected : Expectation} {change : TaskUpdate}
    (hw : Write pod k expected change) : k.stage = .acquiring ∨ k.IsIdle ∨
      (∃ run, k.stage = .stopping run) ∧ change.status = .cancelling := by
  cases hw with
  | claim name now stage => exact .inl stage
  | reset owner now stage detached => exact .inl stage
  | recover owner plan reason now stage => exact .inl stage
  | bury now stage detached => exact .inl stage
  | start run now stage => exact .inr (.inl ⟨run, .inl stage⟩)
  | release expected now held idle => exact .inr (.inl idle)
  | fail expected plan reason now held idle => exact .inr (.inl idle)
  | conclude run status output now outcome stage => exact .inr (.inl ⟨run, .inr stage⟩)
  | cancel now idle cause => exact .inr (.inl idle)
  | stop run stage => exact .inr (.inr ⟨⟨run, stage⟩, rfl⟩)

/-- Whoever stops an execution asks for nothing but the cancellation. -/
theorem Write.not_stopping {expected : Expectation} {change : TaskUpdate}
    (hw : Write pod k expected change) (hc : change.status ≠ .cancelling) :
    k.stage.isStopping = false := by
  rcases hw.stage with stage | ⟨run, stage | stage⟩ | ⟨-, cancelling⟩
  · rw [stage]
    rfl
  · rw [stage]
    rfl
  · rw [stage]
    rfl
  · exact absurd cancelling hc

/-- Every update of the own task finds it submitted, or later. -/
theorem Write.begun {pod : PodId} {k : Track} {expected : Expectation} {change : TaskUpdate}
    (hw : Write pod k expected change) {status : TaskStatus} (hs : status ∈ expected.statuses) :
    status.mayWait = false := by
  have all : expected.statuses.all (fun status => !status.mayWait) = true := by
    cases hw with
    | recover owner plan reason now stage => cases owner <;> rfl
    | release expected now held idle => rcases held with rfl | rfl <;> rfl
    | fail expected plan reason now held idle => rcases held with rfl | rfl | rfl <;> rfl
    | _ => rfl
  exact (Bool.not_eq_true' _).mp (List.all_eq_true.mp all status hs)

/-- No update of the own task finds it in creation. -/
theorem Write.creating_not_mem {pod : PodId} {k : Track} {expected : Expectation}
    {change : TaskUpdate} (hw : Write pod k expected change) : .creating ∉ expected.statuses :=
  fun hs => nomatch hw.begun hs

/-- No update of the own task is mistaken for a promotion. -/
theorem Write.ne_promotion {expected : Expectation} {change : TaskUpdate}
    (hw : Write pod k expected change) : expected ≠ .status .creating := by
  rintro rfl
  exact hw.creating_not_mem List.mem_cons_self

/-- An update of the task is noted as written or lost. -/
theorem callUpdate_does {expected : Expectation} {change : TaskUpdate} (ho : k.owed = [])
    (hf : k.Free) (hw : Write pod k expected change) :
    Does pod job (Call.updateTask job.task expected change) k
      (fun record k' => AfterUpdate job k change (.ok record) k')
      (fun cause k' => AfterUpdate job k change (.error cause) k') := by
  have hne := hw.ne_promotion
  refine ⟨⟨ho, .inl ⟨rfl, hf, hw⟩⟩, ?_⟩
  rintro ((task | found | reason) | record) hc
  · exact rfl
  · exact updated_conflict hne k job.task change found
  · exact rfl
  · exact ⟨hc, updated_ok hne k job.task change record⟩

/-- An update of the task that is tried again is noted as written or lost. -/
theorem updateTask_does {expected : Expectation} {change : TaskUpdate} (ho : k.owed = [])
    (hf : k.Free) (hw : Write pod k expected change) :
    Does pod job (updateTask s job.task expected change) k
      (fun record k' => AfterUpdate job k change (.ok record) k')
      (fun cause k' => AfterUpdate job k change (.error cause) k') := by
  refine followsOr_retrying (J := fun k' => k' = k) (K := fun k' => k' = k) ?_ ?_ rfl
  · rintro k' rfl
    refine (callUpdate_does ho hf hw).mono (fun _ _ h => h) ?_
    rintro (task | found | reason) k' h
    · exact ⟨h, fun ht => Bool.noConfusion ht⟩
    · exact ⟨h, fun ht => Bool.noConfusion ht⟩
    · exact ⟨h, fun _ => h⟩
  · rintro k' wait rfl
    exact keeps_pause ho wait

/-! Promotions. -/

/-- A promotion is owed when it succeeds, and otherwise the books stay. -/
theorem promotion_does {task : TaskId} {now : Date} (ho : k.owed = []) (hc : k.MayPromote) :
    Does pod job
      (updateTask s task (.status .creating) { status := .submitted, submitted := some now }) k
      (fun record k' => record.id = task ∧ k' = { k with owed := [task] })
      (fun _ k' => k' = k) := by
  refine followsOr_retrying (J := fun k' => k' = k) (K := fun k' => k' = k) ?_ ?_ rfl
  · rintro k' rfl
    refine ⟨⟨ho, .inr ⟨hc, rfl, now, rfl⟩⟩, ?_⟩
    rintro (cause | record) hr
    · have hk := updated_promotion_error k' task { status := .submitted, submitted := some now } cause
      exact ⟨hk, fun _ => hk⟩
    · have hk := updated_promotion_ok k' task { status := .submitted, submitted := some now } record
      rw [ho] at hk
      exact ⟨hr, hk⟩
  · rintro k' wait rfl
    exact keeps_pause ho wait

/-- A push pays what is owed, whether it fails or not. -/
theorem push_does {tasks owed : List TaskId} (ho : k.owed = []) (hs : owed ⊆ tasks) :
    Does pod job (push s tasks) { k with owed := owed } (fun _ k' => k' = k)
      (fun _ k' => k' = k) := by
  have paid : ({ k with owed := [] } : Track) = k := by rw [← ho]
  refine followsOr_retrying
    (J := fun k' => k'.owed ⊆ tasks ∧ ({ k' with owed := [] } : Track) = k)
    (K := fun k' => k' = k) ?_ ?_ ⟨hs, paid⟩
  · rintro k' ⟨hs', hk⟩
    refine ⟨hs', ?_⟩
    rintro (cause | _) _
    · exact ⟨hk, fun _ => hk⟩
    · exact hk
  · rintro k' wait rfl
    refine Follows.mono (keeps_pause ho wait) ?_
    rintro _ k' rfl
    exact ⟨ho ▸ List.nil_subset _, paid⟩

end GridAgent.Cluster
