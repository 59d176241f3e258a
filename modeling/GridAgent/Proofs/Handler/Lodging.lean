import GridAgent.Proofs.Cluster.Books
import GridAgent.Proofs.Handler.Course

/-!
# Files of an execution

A job writes into the scratch directory of its task while its execution is registered, and removes the
directory once, after it has ended the registration. In between it names to the worker no file but
those that it has written, each at the path at which it stands.
-/

namespace GridAgent.Cluster

open Agent Program

/-- The files of an execution, with their contents. -/
abbrev Files : Type := Table DataId (List UInt8)

/-- What a job has in the scratch directory of its task. -/
inductive Lodging where
  /-- No execution is registered yet. -/
  | away
  /-- An execution is registered, and the files are written. -/
  | staying (run : RunId) (files : Files)
  /-- The registration has ended, and the files are to be removed. -/
  | leaving (files : Files)
  /-- The files are removed. -/
  | gone

/-- What the worker is told of a file is true: it is written, and it is where it should be. -/
def Names (root : String) (task : TaskId) : WorkRequest → Files → Prop
  | .init .., _ => True
  | .data data path, files =>
    path = Scratch.filePath root task data ∧ (files.get? data).isSome = true

namespace Lodging

/-- The files that are written and not removed. -/
def files : Lodging → Files
  | staying _ files => files
  | leaving files => files
  | _ => .empty

/-- The registered execution. -/
def run? : Lodging → Option RunId
  | staying run _ => some run
  | _ => none

/-- The registration has ended, and the files are to be removed. -/
def isLeaving : Lodging → Bool
  | leaving _ => true
  | _ => false

/-- Files may be written that are still to be removed. -/
def isInside : Lodging → Bool
  | staying .. => true
  | leaving _ => true
  | _ => false

/-- One more file is written. -/
def wrote : Lodging → DataId → List UInt8 → Lodging
  | staying run files, data, bytes => staying run (files.set data bytes)
  | k, _, _ => k

/-- The registration ends. -/
def left : Lodging → Lodging
  | staying _ files => leaving files
  | k => k

/-- The files are removed. -/
def cleared : Lodging → Lodging
  | leaving _ => gone
  | k => k

/-- What may be asked. -/
def May (root : String) (task : TaskId) (k : Lodging) : Request → Prop
  | .register other => other = task ∧ k = away
  | .unregister run => k.run? = some run
  | .saveScratch other _ _ => other = task ∧ k.run?.isSome = true
  | .clearScratch other => other = task ∧ k.isLeaving = true
  | .send _ _ request => k.run?.isSome = true ∧ Names root task request k.files
  | _ => True

/-- What a job has in the directory after a reply. -/
def note (k : Lodging) : (request : Request) → request.Reply → Lodging
  | .register _, some run => staying run .empty
  | .unregister _, _ => k.left
  | .saveScratch _ data bytes, .ok _ => k.wrote data bytes
  | .clearScratch _, _ => k.cleared
  | _, _ => k

end Lodging

/-- The rules of the scratch directories under a root, for an agent that works on the task. -/
def lodgingRules (root : String) (task : TaskId) : Conduct collaborators Lodging :=
  ⟨Lodging.May root task, Course.Credible, Lodging.note⟩

variable {ε : Type} {root : String} {task : TaskId} {s : Settings} {t : TaskRecord} {k : Lodging}
  {run : RunId} {files : Files}

/-! What has nothing to do with files. -/

/-- The rules of the scratch directories grant an agent its calls. -/
theorem lodgingRules_grants (root : String) (task : TaskId) (k : Lodging) :
    Grants (lodgingRules root task) k task (fun t => t.id = task) where
  id _ h := h
  plain request hr := by
    cases request <;> first | exact ⟨trivial, fun _ => rfl⟩ | cases hr
  finalize _ _ _ := ⟨trivial, fun _ => rfl⟩
  abandon _ := ⟨trivial, fun _ => rfl⟩
  look := ⟨trivial, fun _ => rfl⟩
  seen _ h := h
  merged _ _ h _ := h
  update _ _ _ _ := ⟨trivial, fun _ => rfl⟩
  updated _ _ _ h := h
  adopted _ _ _ h := h
  promote _ _ _ := ⟨trivial, fun _ => rfl⟩
  succeed _ _ _ _ _ := ⟨trivial, fun _ => rfl⟩

/-- The task may be started and retried whatever is in the directory. -/
theorem lodgingRules_starts (root : String) (task : TaskId) (k : Lodging) :
    Starts (lodgingRules root task) k task (fun t => t.id = task) never where
  toGrants := lodgingRules_grants root task k
  retry _ _ _ ht := (lodgingRules_grants root task k).retryTask
    (fun _ _ _ _ _ => ⟨trivial, fun _ => rfl⟩) ht
  noLoss _ _ h := h
  wayOut _ _ h := h.elim
  start _ _ _ := ⟨trivial, fun _ => rfl⟩

/-! Prefetching. -/

/-- Every file that was there is there. -/
def Grown (files files' : Files) : Prop :=
  ∀ data, (files.get? data).isSome = true → (files'.get? data).isSome = true

theorem Grown.trans {files files' files'' : Files} (h : Grown files files')
    (h' : Grown files' files'') : Grown files files'' :=
  fun data hd => h' data (h data hd)

/-- One more file leaves the others. -/
theorem grown_set (files : Files) (data : DataId) (bytes : List UInt8) :
    Grown files (files.set data bytes) := by
  intro other ho
  rw [Table.get?_set]
  split
  · rfl
  · exact ho

/-- What was true of a file stays true. -/
theorem Names.grown {files' : Files} {request : WorkRequest} (h : Names root task request files)
    (hg : Grown files files') : Names root task request files' := by
  cases request with
  | init => trivial
  | data data path => exact ⟨h.1, hg data h.2⟩

/-- The program writes files of the execution, and ends with a value as described by them. -/
abbrev Fills (root : String) (task : TaskId) (run : RunId) (files : Files) {ε α : Type}
    (p : Fallible ε α) (Q : α → Files → Prop) : Prop :=
  FollowsOr (lodgingRules root task) p (.staying run files)
    (fun value k => ∃ files', k = .staying run files' ∧ Grown files files' ∧ Q value files')
    fun _ k => ∃ files', k = .staying run files'

/-- An object is written where the worker is told. -/
theorem prefetchObject_fills (data : DataId) :
    Fills s.scratchRoot task run files (prefetchObject s task data) (Names s.scratchRoot task) := by
  have grants := lodgingRules_grants s.scratchRoot task (.staying run files)
  have fetched : SteadyOr (lodgingRules s.scratchRoot task) (.staying run files) never
      (fetch s data) fun _ => True := grants.tries (grants.asks rfl)
  unfold Agent.prefetchObject
  refine followsOr_bind.mpr (FollowsOr.mono fetched ?_ ?_)
  · rintro bytes _ ⟨rfl, -⟩
    refine ⟨⟨rfl, rfl⟩, fun reply _ => ?_⟩
    rcases reply with cause | _
    · exact ⟨files, rfl⟩
    · refine ⟨files.set data bytes, rfl, grown_set files data bytes, rfl, ?_⟩
      rw [Table.get?_set, if_pos rfl]
      rfl
  · rintro cause _ (rfl | h)
    · exact ⟨files, rfl⟩
    · exact h.elim

/-- Every object is written where the worker is told. -/
theorem prefetchAll_fills (needed : List DataId) :
    Fills s.scratchRoot task run files (prefetchAll s task needed)
      fun requests files' => ∀ request ∈ requests, Names s.scratchRoot task request files' := by
  induction needed generalizing files with
  | nil => exact ⟨files, rfl, fun _ h => h, fun _ h => nomatch h⟩
  | cons data rest ih =>
    unfold Agent.prefetchAll
    refine followsOr_bind.mpr ((prefetchObject_fills data).mono ?_ fun _ _ h => h)
    rintro first _ ⟨files₁, rfl, grown₁, named⟩
    refine followsOr_bind.mpr (ih.mono ?_ fun _ _ h => h)
    rintro others _ ⟨files₂, rfl, grown₂, others_named⟩
    refine ⟨files₂, rfl, grown₁.trans grown₂, fun request hr => ?_⟩
    rcases List.mem_cons.mp hr with rfl | hr
    · exact named.grown grown₂
    · exact others_named request hr

/-- What the worker will be sent is true of the files that are written. -/
theorem prefetch_fills (t : TaskRecord) :
    Fills s.scratchRoot t.id run files (prefetch s t)
      fun requests files' => ∀ request ∈ requests, Names s.scratchRoot t.id request files' := by
  have grants := lodgingRules_grants s.scratchRoot t.id (.staying run files)
  have made : SteadyOr (lodgingRules s.scratchRoot t.id) (.staying run files) never
      (Call.makeScratch t.id) fun _ => True := steadyOr_of_keeps (grants.asks rfl)
  unfold Agent.prefetch
  refine followsOr_bind.mpr (FollowsOr.mono made ?_ ?_)
  · rintro _ _ ⟨rfl, -⟩
    refine followsOr_bind.mpr ((prefetchAll_fills (neededData t)).mono ?_ fun _ _ h => h)
    rintro requests _ ⟨files', rfl, grown, named⟩
    refine ⟨files', rfl, grown, fun request hr => ?_⟩
    rcases List.mem_cons.mp hr with rfl | hr
    · exact trivial
    · exact named request hr
  · rintro cause _ (rfl | h)
    · exact ⟨files, rfl⟩
    · exact h.elim

/-! Executions. -/

/-- The program ends while the execution is registered. -/
abbrev Stays (root : String) (task : TaskId) (run : RunId) (k : Lodging) {ε α : Type}
    (p : Fallible ε α) : Prop :=
  FollowsOr (lodgingRules root task) p k (fun _ k => ∃ files, k = .staying run files)
    fun _ k => ∃ files, k = .staying run files

/-- What leaves the files alone ends while the execution is registered. -/
theorem stays_of_steady {α : Type} {Q : α → Prop} {p : Fallible ε α}
    (h : SteadyOr (lodgingRules root task) (.staying run files) never p Q) :
    Stays root task run (.staying run files) p := by
  refine FollowsOr.mono h ?_ ?_
  · rintro _ _ ⟨rfl, -⟩
    exact ⟨files, rfl⟩
  · rintro _ _ (rfl | h)
    · exact ⟨files, rfl⟩
    · exact h.elim

/-- The worker is sent what is true of the files. -/
theorem runWorker_stays (ht : t.id = task) {requests : List WorkRequest}
    (named : ∀ request ∈ requests, Names root task request files) :
    Stays root task run (.staying run files) (runWorker s t run requests) := by
  refine stays_of_steady ((lodgingRules_starts root task _).runWorker ht run ?_)
  exact fun stream request hr => ⟨⟨rfl, named request hr⟩, fun _ _ => rfl⟩

theorem execute_stays (ht : t.id = task) :
    Stays s.scratchRoot task run (.staying run files) (execute s t run) := by
  have starts := lodgingRules_starts s.scratchRoot task
  unfold Agent.execute
  refine ((starts _).asks rfl).lift fun shutdown => ?_
  split
  · rw [ht]
    exact stays_of_steady ((starts _).release _)
  · have filled : Fills s.scratchRoot task run files (prefetch s t) fun requests files' =>
        ∀ request ∈ requests, Names s.scratchRoot task request files' := ht ▸ prefetch_fills t
    refine followsOr_bind.mpr (followsOr_attempt.mpr (filled.mono ?_ ?_))
    · rintro requests _ ⟨files', rfl, -, named⟩
      exact runWorker_stays ht named
    · rintro cause _ ⟨files', rfl⟩
      split
      · next h => cases h
      · rw [ht]
        exact stays_of_steady ((starts _).finishWithout _ rfl _)
      · refine stays_of_steady (Q := fun _ => True) ?_
        exact ((starts _).retryAttempt ht _ _ _).andThen fun _ _ => ⟨rfl, trivial⟩

/-! Messages. -/

/-- The program follows the rules, however it ends. -/
abbrev Lodges (root : String) (task : TaskId) (k : Lodging) {α : Type}
    (p : Fallible AgentError α) : Prop :=
  FollowsOr (lodgingRules root task) p k (fun _ _ => True) fun _ _ => True

theorem lodges_of_steady {α : Type} {Q : α → Prop} {p : Fallible AgentError α}
    (h : SteadyOr (lodgingRules root task) k never p Q) : Lodges root task k p :=
  FollowsOr.mono h (fun _ _ _ => trivial) fun _ _ _ => trivial

/-- The directory is removed once, after the end of the registration. -/
theorem executeRegistered_lodges (message : DeliveryId) {report : HandlerReport}
    (hr : report.task = task) (ht : t.id = task) :
    Lodges s.scratchRoot task .away (executeRegistered s message report t) := by
  subst hr
  have grants := lodgingRules_grants s.scratchRoot report.task
  unfold Agent.executeRegistered
  refine followsOr_bind.mpr (followsOr_lift.mpr ⟨⟨rfl, rfl⟩, fun run _ => ?_⟩)
  rcases run with _ | run
  · refine lodges_of_steady (Q := fun _ => True) ?_
    exact ((grants _).dispose message .postponed).andThen fun _ _ => ⟨rfl, trivial⟩
  · -- the books once the execution is over, whatever its outcome
    have ends (outcome : Except AgentError Resolution) {k : Lodging}
        (hk : ∃ files, k = .staying run files) :
        Lodges s.scratchRoot report.task k (do
          Call.unregister run
          Call.clearScratch report.task
          let resolution ← resume outcome
          Agent.dispose message resolution.disposition
          return { report with
            status := some resolution.status
            disposition := resolution.disposition
            fault := resolution.fault }) := by
      obtain ⟨files, rfl⟩ := hk
      refine followsOr_bind.mpr (followsOr_lift.mpr ⟨rfl, fun _ _ => ?_⟩)
      refine followsOr_bind.mpr (followsOr_lift.mpr ⟨⟨rfl, rfl⟩, fun _ _ => ?_⟩)
      refine lodges_of_steady (Q := fun _ => True) ?_
      refine (steadyOr_resume (Q := fun _ => True) fun _ _ => trivial).andThen fun resolution _ => ?_
      exact ((grants _).dispose message _).andThen fun _ _ => ⟨rfl, trivial⟩
    refine followsOr_bind.mpr (followsOr_attempt.mpr ((execute_stays ht).mono ?_ ?_))
    · exact fun resolution k hk => ends (.ok resolution) hk
    · exact fun cause k hk => ends (.error cause) hk

theorem process_lodges (message : DeliveryId) :
    Lodges s.scratchRoot task .away (process s message task) := by
  have starts := lodgingRules_starts s.scratchRoot task .away
  unfold Agent.process
  refine followsOr_bind.mpr (FollowsOr.mono (starts.acquireWithin _) ?_ fun _ _ _ => trivial)
  rintro acquired _ ⟨rfl, ha⟩
  simp only
  split
  · next t _ ht => exact executeRegistered_lodges message rfl (ha t ht)
  · refine lodges_of_steady (Q := fun _ => True) ?_
    exact (starts.dispose message acquired.disposition).andThen fun _ _ => ⟨rfl, trivial⟩

/-- The settlement has nothing to do with files. -/
theorem settles_lodges (message : DeliveryId) (outcome : Except AgentError HandlerReport)
    (k : Lodging) :
    Lodges s.scratchRoot task k (do
      let settled ← attempt (Call.settle message)
      let report ← resume outcome
      match settled with
      | .ok () => return report
      | .error cause => throw (.queue cause)) := by
  have grants := lodgingRules_grants s.scratchRoot task k
  refine lodges_of_steady (Q := fun _ => True) ?_
  refine (steadyOr_of_keeps (grants.asks rfl)).attempted fun settled _ => ?_
  refine (steadyOr_resume (Q := fun _ => True) fun _ _ => trivial).andThen fun report _ => ?_
  cases settled with
  | ok _ => exact ⟨rfl, trivial⟩
  | error cause => exact .inl rfl

theorem handleMessage_lodges (message : DeliveryId) :
    Lodges s.scratchRoot task .away (handleMessage s message task) := by
  unfold Agent.handleMessage
  refine followsOr_bind.mpr (followsOr_attempt.mpr ((process_lodges message).mono ?_ ?_))
  · exact fun report k _ => settles_lodges message (.ok report) k
  · exact fun cause k _ => settles_lodges message (.error cause) k

/-- Every job follows the rules of the scratch directories of its agent. -/
theorem lodgingRules_followed (s : Settings) (job : Job) :
    (Actor.start s job).Obeys (withFinalizers (lodgingRules s.scratchRoot job.task) True) .away
      fun _ _ _ => True := by
  have starts := lodgingRules_starts s.scratchRoot job.task .away
  have unnoted : Unnoted (lodgingRules s.scratchRoot job.task) True :=
    unnoted_of_ignored (fun _ _ _ => ⟨trivial, rfl⟩) fun _ _ _ => ⟨trivial, rfl⟩
  have call {α : Type} {p : Action α} {Q : α → Lodging → Prop}
      (h : p.Follows (lodgingRules s.scratchRoot job.task) .away Q) :
      (agentCalls p).Follows (withFinalizers (lodgingRules s.scratchRoot job.task) True) .away
        fun _ _ => True :=
    (follows_withFinalizers unnoted h).mono fun _ _ _ => trivial
  refine Actor.obeys_start ?_
  cases job with
  | handle message task => exact call (handleMessage_lodges message)
  | acquire task => exact call (starts.acquireWithin _)
  | stop run task => exact call (starts.stopExecution (E := never) run)
  | watch run task => exact call (starts.lookForCancellation run)

end GridAgent.Cluster
