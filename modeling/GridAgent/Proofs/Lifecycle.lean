import GridAgent.Proofs.Cluster.Soundness

/-!
# The life of every task

However the calls of any number of agents interleave, a task changes its status only from one status
to one that may come next. What has ended never changes again, and what is marked for cancellation
can only end by it.
-/

namespace GridAgent.Cluster

open Agent Track

variable {fleet : Fleet} {allowed : Event → Prop} {start c c' : State} {task : TaskId}
  {record : TaskRecord}

/-- Every update of its own task that an agent asks for changes the status lawfully. -/
theorem Write.next {pod : PodId} {k : Track} {expected : Expectation} {change : TaskUpdate}
    (hw : Write pod k expected change) {status : TaskStatus} (hs : status ∈ expected.statuses) :
    change.status ∈ status.next := by
  have one (found wanted : TaskStatus) (hf : status ∈ [found]) (hn : wanted ∈ found.next) :
      wanted ∈ status.next := by
    rw [List.mem_singleton.mp hf]
    exact hn
  have held (wanted : TaskStatus) (hf : status ∈ heldStatuses)
      (hn : wanted ∈ TaskStatus.dispatched.next ∧ wanted ∈ TaskStatus.processing.next) :
      wanted ∈ status.next := by
    rcases List.mem_cons.mp hf with rfl | hf
    · exact hn.1
    · exact one .processing wanted hf hn.2
  cases hw with
  | claim name now stage => exact one .submitted .dispatched hs (by decide)
  | reset owner now stage detached => exact one .dispatched .submitted hs (by decide)
  | recover owner plan reason now stage =>
    cases owner <;> cases plan
    · exact one .processing .retried hs (by decide)
    · exact one .processing .error hs (by decide)
    · exact one .processing .retried hs (by decide)
    · exact one .processing .error hs (by decide)
  | bury now stage detached => exact one .cancelling .cancelled hs (by decide)
  | start run now stage => exact one .dispatched .processing hs (by decide)
  | release expected now he idle =>
    rcases he with rfl | rfl
    · exact one .dispatched .submitted hs (by decide)
    · exact held .submitted hs (by decide)
  | fail expected plan reason now he idle =>
    rcases he with rfl | rfl | rfl <;> cases plan
    · exact one .dispatched .retried hs (by decide)
    · exact one .dispatched .error hs (by decide)
    · exact held .retried hs (by decide)
    · exact held .error hs (by decide)
    · exact one .processing .retried hs (by decide)
    · exact one .processing .error hs (by decide)
  | conclude run status output now outcome stage =>
    rcases outcome with ⟨rfl, -⟩ | ⟨rfl, -⟩
    · exact one .processing .completed hs (by decide)
    · exact one .processing .timeout hs (by decide)
  | cancel now idle cause =>
    rcases List.mem_cons.mp hs with hd | hs
    · exact held .cancelled (hd ▸ List.mem_cons_self) (by decide)
    · rcases List.mem_cons.mp hs with hp | hs
      · exact one .processing .cancelled (List.mem_singleton.mpr hp) (by decide)
      · exact one .cancelling .cancelled hs (by decide)
  | stop run stage => exact held .cancelling hs (by decide)

/-- Every update that an agent may ask for changes the status lawfully. -/
theorem next_of_may {pod : PodId} {job : Job} {k : Track} {expected : Expectation}
    {change : TaskUpdate} (hm : k.May pod job (.agent (.updateTask task expected change)))
    (hh : expected.holds record = true) : change.status ∈ record.status.next := by
  have hs := Expectation.status_mem hh
  rcases hm.2 with ⟨-, -, hw⟩ | ⟨-, rfl, now, rfl⟩
  · exact hw.next hs
  · have hc : record.status = .creating := List.mem_singleton.mp hs
    rw [hc]
    exact List.mem_cons_self

/-- One event changes a status lawfully. -/
theorem Sound.status_step (h : Sound c) {event : Event} (hp : c.perform fleet event = some c')
    (hr : c.shared.store.get? task = some record) :
    ∃ record', c'.shared.store.get? task = some record' ∧
      (record'.status = record.status ∨ record'.status ∈ record.status.next) := by
  have goesOn {record' : TaskRecord} (hg : Store.GoesOn record record') :
      record'.status = record.status ∨ record'.status ∈ record.status.next :=
    hg.status.imp_right And.right
  cases event with
  | start pod job =>
    obtain ⟨-, rfl⟩ := State.of_start hp
    exact ⟨record, hr, .inl rfl⟩
  | answer number choice =>
    obtain ⟨a, b, operation, reply, ha, -⟩ := h.answers hp
    rcases record_of_effect ha.effect (h.candidate_new ha) hr with
      ⟨record', hr', hg, -⟩ | ⟨expected, change, ho, hh, hr', -⟩
    · exact ⟨record', hr', goesOn hg⟩
    · have may := ha.may
      subst ho
      refine ⟨_, hr', .inr ?_⟩
      rw [TaskRecord.apply_status]
      exact next_of_may may hh
  | handBack message =>
    obtain ⟨-, rfl⟩ := State.of_handBack hp
    exact ⟨record, hr, .inl rfl⟩
  | move m =>
    obtain ⟨shared, hm, rfl⟩ := State.of_move hp
    rcases record_of_move hm hr with ⟨record', hr', hg, -⟩ | ⟨hs, hr'⟩
    · exact ⟨record', hr', goesOn hg⟩
    · refine ⟨_, hr', .inr ?_⟩
      rw [TaskRecord.apply_status]
      rcases List.mem_cons.mp hs with hs | hs
      · rw [hs]
        decide
      · rw [List.mem_singleton.mp hs]
        decide

/-- A set of statuses that no lawful change leaves is not left by a run. -/
theorem Sound.status_run {stays : TaskStatus → Prop}
    (hs : ∀ status next, stays status → next ∈ status.next → stays next) (h : Sound c)
    (hr : c.shared.store.get? task = some record) (hi : stays record.status)
    (run : Reaches fleet allowed c c') :
    ∃ record', c'.shared.store.get? task = some record' ∧ stays record'.status := by
  refine h.along run ⟨record, hr, hi⟩ fun d d' event _ sound before performed => ?_
  obtain ⟨found, hf, hi⟩ := before
  obtain ⟨record', hr', hn⟩ := sound.status_step performed hf
  refine ⟨record', hr', ?_⟩
  rcases hn with hn | hn
  · rw [hn]
    exact hi
  · exact hs _ _ hi hn

/-- In every reached state every event changes the status of every task lawfully at most, and from
there on a task that has ended keeps its status, and one that is marked for cancellation stays so or
is cancelled. -/
theorem status_changes_lawful (hi : start.Initial) (hr : Reaches fleet anyEvent start c) :
    (∀ event c', c.perform fleet event = some c' →
      ∀ task record, c.shared.store.get? task = some record →
        ∃ record', c'.shared.store.get? task = some record' ∧
          (record'.status = record.status ∨ record'.status ∈ record.status.next)) ∧
    (∀ c', Reaches fleet anyEvent c c' →
      ∀ task record, c.shared.store.get? task = some record →
        ∃ record', c'.shared.store.get? task = some record' ∧
          (record.status.isTerminal = true → record'.status = record.status) ∧
          (record.status = .cancelling →
            record'.status = .cancelling ∨ record'.status = .cancelled)) := by
  have sound := hr.sound hi
  refine ⟨fun event c' hp task record => sound.status_step hp, ?_⟩
  intro c' run task record hs
  by_cases ht : record.status.isTerminal = true
  · have nothing : ∀ status next, status = record.status → next ∈ status.next →
        next = record.status := by
      rintro _ next rfl hn
      rw [TaskStatus.next_of_isTerminal ht] at hn
      cases hn
    obtain ⟨record', hr', he⟩ := sound.status_run nothing hs rfl run
    refine ⟨record', hr', fun _ => he, fun hc => ?_⟩
    rw [hc] at ht
    cases ht
  · by_cases hc : record.status = .cancelling
    · have only : ∀ status next : TaskStatus, (status = .cancelling ∨ status = .cancelled) →
          next ∈ status.next → next = .cancelling ∨ next = .cancelled := by
        rintro _ next (rfl | rfl) hn
        · exact .inr (List.mem_singleton.mp hn)
        · cases hn
      obtain ⟨record', hr', he⟩ := sound.status_run only hs (.inl hc) run
      exact ⟨record', hr', fun h => absurd h ht, fun _ => he⟩
    · have anything : ∀ status next : TaskStatus, True → next ∈ status.next → True :=
        fun _ _ _ _ => trivial
      obtain ⟨record', hr', -⟩ := sound.status_run anything hs trivial run
      exact ⟨record', hr', fun h => absurd h ht, fun h => absurd h hc⟩

/-- A task that was handled without trouble is completed, and stays so whatever happens. -/
theorem status_changes_lawful_plain :
    ∃ c, Reaches plainFleet anyEvent plainStart c ∧
      (∃ record, c.shared.store.get? plainTask.id = some record ∧ record.status = .completed) ∧
      ∀ c', Reaches plainFleet anyEvent c c' →
        ∃ record, c'.shared.store.get? plainTask.id = some record ∧ record.status = .completed := by
  have run := plainCluster_reached 31
  have completed : ((plainCluster 31).shared.store.get? plainTask.id).map TaskRecord.status =
      some .completed := by decide +kernel
  obtain ⟨record, hr, hs⟩ := Option.map_eq_some_iff.mp completed
  refine ⟨_, run, ⟨record, hr, hs⟩, fun c' run' => ?_⟩
  obtain ⟨record', hr', stays, -⟩ :=
    (status_changes_lawful plainStart_initial run).2 c' run' plainTask.id record hr
  exact ⟨record', hr', (stays (by rw [hs]; rfl)).trans hs⟩

end GridAgent.Cluster
