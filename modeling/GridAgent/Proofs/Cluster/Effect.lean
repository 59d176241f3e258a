import GridAgent.Proofs.Cluster.Run

/-!
# What an answered call does

Each answered call has one of a few effects on what the agents share, and each effect says what was
answered. Most calls have none: their answers tell nothing about the records, the queue or the
executions of a pod.
-/

namespace GridAgent.Cluster

variable {pod : PodId} {s s' : Shared}

namespace Shared

/-- Nothing differs but the failures to come and the scratch areas. -/
def Alike (s s' : Shared) : Prop :=
  ∃ failures scratches, s' = { s with store := { s.store with failures }, scratches }

theorem Alike.refl (s : Shared) : s.Alike s := ⟨s.store.failures, s.scratches, rfl⟩

theorem alike_of_sameContent {store : Store} (h : Store.SameContent s.store store) :
    s.Alike { s with store } := by
  obtain ⟨failures, rfl⟩ := h
  exact ⟨failures, s.scratches, rfl⟩

/-- A registry that stays changes nothing. -/
theorem setRegistry_self (s : Shared) (pod : PodId) : s.setRegistry pod (s.registries pod) = s := by
  unfold setRegistry
  congr 1
  funext p
  split
  · next h => rw [h]
  · rfl

@[simp] theorem registries_setRegistry (s : Shared) (pod p : PodId) (registry : Agent.Registry) :
    (s.setRegistry pod registry).registries p = if p = pod then registry else s.registries p := rfl

end Shared

/-- The answer tells nothing about the records, the queue or the executions, and stands for no
change of them. -/
def Silent : (operation : Operation) → operation.Reply → Prop
  | .agent .newTaskId, _ => False
  | .agent (.readTask _), .ok _ => False
  | .agent (.updateTask ..), .ok _ => False
  | .agent (.updateTask ..), .error (.conflict _) => False
  | .agent (.createSuccessor ..), .ok _ => False
  | .agent (.createSuccessor ..), .error cause => ∃ reason, cause = .unavailable reason
  | .agent (.push _), _ => False
  | .agent (.register _), _ => False
  | .agent (.unregister _), _ => False
  | .agent (.requestStop _), _ => False
  | .agent (.dispose ..), _ => False
  | .agent (.settle _), _ => False
  | .finalizer (.resolve ..), _ => False
  | .finalizer (.giveUp ..), _ => False
  | .finalizer (.push _), _ => False
  | _, _ => True

/-- The effect of a call on a pod, with its answer. -/
inductive Effect (pod : PodId) (s : Shared) :
    (operation : Operation) → operation.Reply → Shared → Prop where
  /-- Nothing happens. -/
  | silent {operation : Operation} {reply : operation.Reply} {s' : Shared}
    (silent : Silent operation reply) (alike : s.Alike s') : Effect pod s operation reply s'
  /-- A new identifier is made up. -/
  | newTaskId (task : TaskId) (new : s.isNew task = true) :
    Effect pod s (.agent .newTaskId) task { s with issued := task :: s.issued }
  /-- A record is read. -/
  | read (task : TaskId) : Effect pod s (.agent (.readTask task)) (.ok (s.store.get? task)) s
  /-- An update is lost. -/
  | lost (task : TaskId) (expected : Expectation) (change : TaskUpdate) (record : TaskRecord)
    (found : s.store.get? task = some record) (unexpected : expected.holds record = false) :
    Effect pod s (.agent (.updateTask task expected change))
      (.error (.conflict ⟨record.status, record.owner⟩)) s
  /-- An update is written. -/
  | written (task : TaskId) (expected : Expectation) (change : TaskUpdate) (record : TaskRecord)
    (found : s.store.get? task = some record) (holds : expected.holds record = true) :
    Effect pod s (.agent (.updateTask task expected change)) (.ok (record.apply change))
      { s with store := { s.store with
          tasks := s.store.tasks.set task (record.apply change)
          log := s.store.log ++ [(task, change.status)] } }
  /-- A task has a successor already. -/
  | existing (parent candidate record : TaskRecord)
    (found : s.store.successor? parent.id = some record) :
    Effect pod s (.agent (.createSuccessor parent candidate)) (.ok record) s
  /-- A successor is stored. -/
  | created (parent candidate : TaskRecord) (missing : s.store.successor? parent.id = none) :
    Effect pod s (.agent (.createSuccessor parent candidate)) (.ok candidate)
      { s with store := { s.store with
          successors := s.store.successors.set parent.id candidate.id }.insert candidate }
  /-- Tasks are pushed. -/
  | pushed (tasks : List TaskId) :
    Effect pod s (.agent (.push tasks)) (.ok ()) { s with queue := s.queue.push tasks }
  /-- A push fails. -/
  | pushFailed (tasks : List TaskId) (cause : QueueError) :
    Effect pod s (.agent (.push tasks)) (.error cause) s
  /-- A finalizer pushes tasks. -/
  | paid (tasks : List TaskId) :
    Effect pod s (.finalizer (.push tasks)) (.ok ()) { s with queue := s.queue.push tasks }
  /-- A push of a finalizer fails. -/
  | payFailed (tasks : List TaskId) (cause : QueueError) :
    Effect pod s (.finalizer (.push tasks)) (.error cause) s
  /-- An execution is registered. -/
  | registered (task : TaskId) (free : (s.registries pod).running.get? task = none) :
    Effect pod s (.agent (.register task)) (some (s.registries pod).count)
      (s.setRegistry pod ((s.registries pod).register task).2)
  /-- The task is executing already. -/
  | refused (task : TaskId) (taken : (s.registries pod).running.get? task ≠ none) :
    Effect pod s (.agent (.register task)) none s
  /-- An execution ends. -/
  | unregistered (run : Agent.RunId) :
    Effect pod s (.agent (.unregister run)) ()
      (s.setRegistry pod ((s.registries pod).unregister run))
  /-- An execution is asked to stop. -/
  | stopAsked (run : Agent.RunId) :
    Effect pod s (.agent (.requestStop run)) ((s.registries pod).requestStop run).1
      (s.setRegistry pod ((s.registries pod).requestStop run).2)
  /-- A message is decided on. -/
  | disposed (message : DeliveryId) (disposition : Disposition) :
    Effect pod s (.agent (.dispose message disposition))
      (s.queue.dispose message disposition).1
      { s with queue := (s.queue.dispose message disposition).2 }
  /-- A message is settled. -/
  | settled (message : DeliveryId) :
    Effect pod s (.agent (.settle message)) (.ok ())
      { s with queue := s.queue.settle message s.time }
  /-- Results become available. Those who become submitted are answered and logged in any order. -/
  | resolved (data : DataId) (now : Date) (woken : List TaskId)
    (same : woken.Perm (s.store.resolveData data now).1) :
    Effect pod s (.finalizer (.resolve data now)) woken
      { s with store := { (s.store.resolveData data now).2 with
          log := s.store.log ++ woken.map fun task => (task, .submitted) } }
  /-- Results are given up. Those who fail are answered and logged in any order. -/
  | gaveUp (data : DataId) (now : Date) (failed : List TaskId)
    (same : failed.Perm (s.store.abortData data now).1) :
    Effect pod s (.finalizer (.giveUp data now)) failed
      { s with store := { (s.store.abortData data now).2 with
          log := s.store.log ++ failed.map fun task => (task, .error) } }

/-- An answer as chosen has no effect. -/
theorem effect_of_map {operation : Operation} {choice : Option operation.Reply}
    {reply : operation.Reply} (h : choice.map (fun reply => (reply, s)) = some (reply, s'))
    (hs : ∀ reply, Silent operation reply) : Effect pod s operation reply s' := by
  obtain ⟨chosen, -, hc⟩ := Option.map_eq_some_iff.mp h
  cases hc
  exact .silent (hs reply) (.refl s)

/-- Reading has no effect, and tells the record unless it fails. -/
theorem effect_of_read {task : TaskId} {reply : Except StoreError (Option TaskRecord)}
    (h : s.onStore (Store.read task) = (reply, s')) :
    Effect pod s (.agent (.readTask task)) reply s' := by
  unfold Shared.onStore at h
  rcases Store.read_cases task s.store with ⟨reason, he, hs⟩ | hr
  · rw [he] at h
    cases h
    exact .silent trivial (Shared.alike_of_sameContent hs)
  · rw [hr] at h
    cases h
    exact .read task

/-- An update is written or lost, or tells nothing. -/
theorem effect_of_update {task : TaskId} {expected : Expectation} {change : TaskUpdate}
    {reply : Except StoreError TaskRecord}
    (h : s.onStore (Store.update task expected change) = (reply, s')) :
    Effect pod s (.agent (.updateTask task expected change)) reply s' := by
  unfold Shared.onStore at h
  rcases Store.update_cases task expected change s.store with
    ⟨reason, he, hs⟩ | ⟨-, hn⟩ | ⟨record, hr, hh, hu⟩ | ⟨record, hr, hh, hu⟩
  · rw [he] at h
    cases h
    exact .silent trivial (Shared.alike_of_sameContent hs)
  · rw [hn] at h
    cases h
    exact .silent trivial (.refl s)
  · rw [hu] at h
    cases h
    exact .lost task expected change record hr hh
  · rw [hu] at h
    cases h
    exact .written task expected change record hr hh

/-- A successor is found or stored, or nothing is told. -/
theorem effect_of_createSuccessor {parent candidate : TaskRecord}
    {reply : Except StoreError TaskRecord}
    (h : s.onStore (Store.createSuccessor parent candidate) = (reply, s')) :
    Effect pod s (.agent (.createSuccessor parent candidate)) reply s' := by
  unfold Shared.onStore at h
  rcases Store.createSuccessor_cases parent candidate s.store with
    ⟨reason, he, hs⟩ | ⟨existing, hf, hu⟩ | ⟨hm, hu⟩
  · rw [he] at h
    cases h
    exact .silent ⟨reason, rfl⟩ (Shared.alike_of_sameContent hs)
  · rw [hu] at h
    cases h
    exact .existing parent candidate existing hf
  · rw [hu] at h
    cases h
    exact .created parent candidate hm

/-- The order of the visits shows in what is answered and logged when data becomes available. -/
theorem Shared.resolve_eq (s : Shared) (visit : Visit) (data : DataId) (now : Date) :
    s.resolve visit data now = (s.store.unblockedIn visit data,
      { s with store := { (s.store.resolveData data now).2 with
          log := s.store.log ++
            (s.store.unblockedIn visit data).map fun task => (task, .submitted) } }) := by
  unfold resolve
  rw [Store.resolveDataIn_eq]

/-- The order of the visits shows in what is answered and logged when data is given up. -/
theorem Shared.giveUp_eq (s : Shared) (visit : Visit) (data : DataId) (now : Date) :
    s.giveUp visit data now = (s.store.failedIn visit data,
      { s with store := { (s.store.abortData data now).2 with
          log := s.store.log ++ (s.store.failedIn visit data).map fun task => (task, .error) } }) := by
  unfold giveUp
  rw [Store.abortDataIn_eq]

theorem effect_of_resolve (visit : Visit) (data : DataId) (now : Date) :
    Effect pod s (.finalizer (.resolve data now)) (s.resolve visit data now).1
      (s.resolve visit data now).2 := by
  rw [Shared.resolve_eq]
  exact .resolved data now _ (s.store.unblockedIn_perm visit data)

theorem effect_of_giveUp (visit : Visit) (data : DataId) (now : Date) :
    Effect pod s (.finalizer (.giveUp data now)) (s.giveUp visit data now).1
      (s.giveUp visit data now).2 := by
  rw [Shared.giveUp_eq]
  exact .gaveUp data now _ (s.store.failedIn_perm visit data)

/-- A registration begins an execution, unless the task is executing. -/
theorem effect_of_register {task : TaskId} :
    Effect pod s (.agent (.register task)) ((s.registries pod).register task).1
      (s.setRegistry pod ((s.registries pod).register task).2) := by
  by_cases ht : (s.registries pod).running.get? task = none
  · have answer : ((s.registries pod).register task).1 = some (s.registries pod).count := by
      simp [Agent.Registry.register, Table.contains, ht]
    rw [answer]
    exact .registered task ht
  · have busy : (s.registries pod).register task = (none, s.registries pod) := by
      have taken : (s.registries pod).running.contains task = true := by
        simp [Table.contains, Option.isSome_iff_ne_none, ht]
      simp [Agent.Registry.register, taken]
    rw [busy, Shared.setRegistry_self]
    exact .refused task ht

/-- Every answered call has one of the effects. -/
theorem effect_of_answer {operation : Operation} {choice : Option operation.Reply}
    {reply : operation.Reply} (h : s.answer pod operation choice = some (reply, s')) :
    Effect pod s operation reply s' := by
  rcases operation with request | request
  · cases request with
    | newTaskId =>
      obtain ⟨task, -, h⟩ := Option.bind_eq_some_iff.mp h
      split at h
      · next hn =>
        cases h
        exact .newTaskId _ hn
      · cases h
    | readTask task => exact effect_of_read (Option.some.inj h)
    | updateTask task expected change => exact effect_of_update (Option.some.inj h)
    | createSuccessor parent candidate => exact effect_of_createSuccessor (Option.some.inj h)
    | findSuccessor task =>
      cases h
      exact .silent trivial (Shared.alike_of_sameContent (Store.findSuccessor_sameContent task _))
    | push tasks =>
      rcases choice with _ | cause | _ <;> cases h
      · exact .pushed tasks
      · exact .pushFailed tasks cause
      · exact .pushed tasks
    | makeScratch task =>
      rcases choice with _ | cause | _ <;> cases h
      all_goals exact .silent trivial ⟨_, _, rfl⟩
    | saveScratch task data bytes =>
      rcases choice with _ | cause | _ <;> cases h
      all_goals exact .silent trivial ⟨_, _, rfl⟩
    | clearScratch task =>
      cases h
      exact .silent trivial ⟨_, _, rfl⟩
    | register task =>
      cases h
      exact effect_of_register
    | unregister run =>
      cases h
      exact .unregistered run
    | stopRequested run =>
      cases h
      exact .silent trivial (.refl s)
    | requestStop run =>
      cases h
      exact .stopAsked run
    | dispose message disposition =>
      cases h
      exact .disposed message disposition
    | settle message =>
      cases h
      exact .settled message
    | finalize task => cases h
    | abandon task => cases h
    | _ => exact effect_of_map h fun _ => trivial
  · cases request with
    | now => exact effect_of_map h fun _ => trivial
    | countTasks =>
      obtain ⟨count, -, h⟩ := Option.bind_eq_some_iff.mp h
      split at h
      · cases h
        exact .silent trivial (.refl s)
      · cases h
    | readTask task =>
      cases h
      exact .silent trivial (Shared.alike_of_sameContent (Store.read_sameContent task s.store))
    | resolve data now =>
      cases h
      exact effect_of_resolve _ data now
    | giveUp data now =>
      cases h
      exact effect_of_giveUp _ data now
    | push tasks =>
      rcases choice with _ | cause | _ <;> cases h
      · exact .paid tasks
      · exact .payFailed tasks cause
      · exact .paid tasks

/-- What is answered of a session is what was chosen. -/
theorem session_of_answer {session : SessionId}
    {choice : Option (Except StoreError (Option SessionRecord))}
    {reply : Except StoreError (Option SessionRecord)}
    (h : s.answer pod (.agent (.readSession session)) choice = some (reply, s')) :
    choice = some reply := by
  obtain ⟨chosen, rfl, same⟩ := Option.map_eq_some_iff.mp h
  exact congrArg some (Prod.mk.inj same).1

/-- A reading that succeeds shows the record and changes nothing. -/
theorem read_of_effect {task : TaskId} {found : Option TaskRecord}
    (h : Effect pod s (.agent (.readTask task)) (.ok found) s') :
    found = s.store.get? task ∧ s' = s := by
  cases h with
  | silent silent => cases silent
  | read => exact ⟨rfl, rfl⟩

/-- A record that is shown is stored. -/
theorem shown_of_effect {task : TaskId} {record : TaskRecord}
    (h : Effect pod s (.agent (.readTask task)) (.ok (some record)) s') :
    s'.store.get? task = some record := by
  obtain ⟨found, rfl⟩ := read_of_effect h
  exact found.symm

/-- An update that succeeds answers the record as it is stored from then on. -/
theorem written_of_effect {task : TaskId} {expected : Expectation} {change : TaskUpdate}
    {record : TaskRecord}
    (h : Effect pod s (.agent (.updateTask task expected change)) (.ok record) s') :
    (∃ found, s.store.get? task = some found ∧ expected.holds found = true ∧
      record = found.apply change) ∧ s'.store.get? task = some record := by
  cases h with
  | silent silent => cases silent
  | written _ _ _ found hf holds =>
    exact ⟨⟨found, hf, holds, rfl⟩, (Table.get?_set _ _ _ _).trans (if_pos rfl)⟩

/-- An update that is lost tells the status and the owner as they are stored. -/
theorem lost_of_effect {task : TaskId} {expected : Expectation} {change : TaskUpdate}
    {found : LostUpdate}
    (h : Effect pod s (.agent (.updateTask task expected change)) (.error (.conflict found)) s') :
    ∃ record, s'.store.get? task = some record ∧ found = ⟨record.status, record.owner⟩ := by
  cases h with
  | silent silent => cases silent
  | lost _ _ _ record hr => exact ⟨record, hr, rfl⟩

/-- Whoever is answered to have failed has ended with an error. -/
theorem failed_of_effect {data : DataId} {now : Date} {failed : List TaskId} {task : TaskId}
    (h : Effect pod s (.finalizer (.giveUp data now)) failed s') (hm : task ∈ failed) :
    ∃ record, s'.store.get? task = some record ∧ record.status = .error := by
  cases h with
  | silent silent => cases silent
  | gaveUp _ _ _ same => exact Store.failed_of_abortData (same.mem_iff.mp hm)

/-! What happens outside the agents. -/

/-- The effect of a move on the store. -/
inductive MoveEffect (s : Shared) : Move → Store → Prop where
  /-- Nothing differs but the failures to come. -/
  | aside {m : Move} {store : Store} (same : Store.SameContent s.store store) : MoveEffect s m store
  /-- A held task is marked for cancellation. -/
  | marked (task : TaskId) (expected : Expectation) (record : TaskRecord)
    (found : s.store.get? task = some record) (held : record.status ∈ heldStatuses) :
    MoveEffect s (.cancel task expected) { s.store with
      tasks := s.store.tasks.set task (record.apply { status := .cancelling })
      log := s.store.log ++ [(task, .cancelling)] }
  /-- A new task is inserted. -/
  | inserted (record : TaskRecord) (new : s.isNew record.id = true)
    (status : record.status ∈ newStatuses) :
    MoveEffect s (.insert record) (s.store.insert record)
  /-- Data becomes available. Those who become submitted are logged in any order. -/
  | resolved (visit : Visit) (data : DataId) (now : Date) (woken : List TaskId) :
    MoveEffect s (.resolve visit data now) { (s.store.resolveData data now).2 with
      log := s.store.log ++ woken.map fun task => (task, .submitted) }
  /-- Data is given up. Those who fail are logged in any order. -/
  | gaveUp (visit : Visit) (data : DataId) (now : Date) (failed : List TaskId) :
    MoveEffect s (.giveUp visit data now) { (s.store.abortData data now).2 with
      log := s.store.log ++ failed.map fun task => (task, .error) }

/-- Every move has one of the effects, and makes no identifier up. -/
theorem effect_of_move {m : Move} (h : s.move m = some s') :
    MoveEffect s m s'.store ∧ s'.issued = s.issued := by
  have same : Store.SameContent s.store s.store := .refl _
  cases m with
  | cancel task expected =>
    simp only [Shared.move] at h
    split at h
    · next held =>
      cases h
      refine ⟨?_, rfl⟩
      simp only [Shared.onStore]
      rcases Store.update_cases task expected { status := .cancelling } s.store with
        ⟨reason, -, failures, hu⟩ | ⟨-, hu⟩ | ⟨found, hf, hh, hu⟩ | ⟨found, hf, hh, hu⟩ <;> rw [hu]
      · exact .aside ⟨failures, rfl⟩
      · exact .aside same
      · exact .aside same
      · exact .marked task expected found hf (held (Expectation.status_mem hh))
    · cases h
  | insert record =>
    simp only [Shared.move] at h
    split at h
    · next hn =>
      cases h
      exact ⟨.inserted record hn.1 hn.2, rfl⟩
    · cases h
  | resolve visit data now =>
    cases h
    rw [Shared.resolve_eq]
    exact ⟨.resolved visit data now _, rfl⟩
  | giveUp visit data now =>
    cases h
    rw [Shared.giveUp_eq]
    exact ⟨.gaveUp visit data now _, rfl⟩
  | failStore calls =>
    cases h
    exact ⟨.aside ⟨calls, rfl⟩, rfl⟩
  | _ =>
    cases h
    exact ⟨.aside same, rfl⟩

/-- Moves leave alone what each pod has of its own. -/
theorem pods_of_move {m : Move} (h : s.move m = some s') :
    s'.registries = s.registries ∧ s'.scratches = s.scratches := by
  cases m with
  | cancel other expected =>
    simp only [Shared.move] at h
    split at h <;> cases h
    exact ⟨rfl, rfl⟩
  | insert new =>
    simp only [Shared.move] at h
    split at h <;> cases h
    exact ⟨rfl, rfl⟩
  | _ =>
    cases h
    exact ⟨rfl, rfl⟩

/-- Only answers change what each pod has of its own. -/
theorem State.pods_of_perform {fleet : Fleet} {c c' : State} {event : Event}
    (h : c.perform fleet event = some c') : (∃ number choice, event = .answer number choice) ∨
      c'.shared.registries = c.shared.registries ∧ c'.shared.scratches = c.shared.scratches := by
  cases event with
  | start pod job =>
    obtain ⟨-, rfl⟩ := State.of_start h
    exact .inr ⟨rfl, rfl⟩
  | answer number choice => exact .inl ⟨number, choice, rfl⟩
  | handBack message =>
    obtain ⟨-, rfl⟩ := State.of_handBack h
    exact .inr ⟨rfl, rfl⟩
  | move m =>
    obtain ⟨shared, hm, rfl⟩ := State.of_move h
    exact .inr (pods_of_move hm)

end GridAgent.Cluster
