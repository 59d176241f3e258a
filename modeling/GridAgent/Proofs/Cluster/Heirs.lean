import GridAgent.Proofs.Cluster.Succession

/-!
# What becomes of a promoted successor

Whoever promotes a successor owes its push until it is made. So a successor that has left creation
has been pushed, or its push has failed, or it is still owed and pushed next. This holds of the
successor of a task that waits for nothing: nothing but a promotion takes it out of creation.
-/

namespace GridAgent.Cluster

open Agent Program Track

variable {fleet : Fleet} {allowed : Event → Prop} {start c c' : State} {task heir : TaskId}
  {number : Nat} {a b : Actor} {operation : Operation} {reply : operation.Reply}

/-! Pushes. -/

/-- The tasks that an answered call has pushed. -/
def Answered.pushed : Answered → List TaskId
  | ⟨.agent (.push tasks), .ok _⟩ => tasks
  | ⟨.finalizer (.push tasks), .ok _⟩ => tasks
  | _ => []

/-- The tasks that an answered call was to push and has not. -/
def Answered.unpushed : Answered → List TaskId
  | ⟨.agent (.push tasks), .error _⟩ => tasks
  | ⟨.finalizer (.push tasks), .error _⟩ => tasks
  | _ => []

/-- A push goes through or fails. -/
theorem Answered.of_pushed? {tasks : List TaskId} (h : operation.pushed? = some tasks) :
    Answered.pushed ⟨operation, reply⟩ = tasks ∨ Answered.unpushed ⟨operation, reply⟩ = tasks := by
  rcases operation with request | request
  · cases request with
    | push pushed =>
      obtain rfl := Option.some.inj h
      rcases reply with cause | _
      · exact .inr rfl
      · exact .inl rfl
    | _ => cases h
  · cases request with
    | push pushed =>
      obtain rfl := Option.some.inj h
      rcases reply with cause | _
      · exact .inr rfl
      · exact .inl rfl
    | _ => cases h

namespace State

/-- Some actor has pushed the task. -/
def HasPushed (c : State) (task : TaskId) : Prop := ∃ a ∈ c.actors, ∃ x ∈ a.past, task ∈ x.pushed

/-- Some actor was to push the task, and the push failed. -/
def HasFailedToPush (c : State) (task : TaskId) : Prop :=
  ∃ a ∈ c.actors, ∃ x ∈ a.past, task ∈ x.unpushed

/-- The task was pushed, for better or worse, or some actor owes its push. -/
def AccountsFor (c : State) (task : TaskId) : Prop :=
  c.HasPushed task ∨ c.HasFailedToPush task ∨ ∃ a ∈ c.actors, task ∈ a.track.owed

end State

/-- What was answered stays so. -/
theorem Answers.past_mem (ha : Answers c number a b operation reply c') {x : Actor} {y : Answered}
    (hx : x ∈ c.actors) (hy : y ∈ x.past) : ∃ x' ∈ c'.actors, y ∈ x'.past := by
  rcases ha.mem_stays_cases hx with rfl | stays
  · exact ⟨b, List.mem_of_getElem? ha.self, ha.past ▸ List.mem_cons_of_mem _ hy⟩
  · exact ⟨x, stays, hy⟩

/-- What is accounted for stays so when an actor is answered: the push that is owed is made. -/
theorem State.AccountsFor.answered (h : c.AccountsFor task)
    (ha : Answers c number a b operation reply c') : c'.AccountsFor task := by
  have self : b ∈ c'.actors := List.mem_of_getElem? ha.self
  have latest : (⟨operation, reply⟩ : Answered) ∈ b.past := ha.past ▸ List.mem_cons_self
  rcases h with ⟨x, hx, y, hy, ht⟩ | ⟨x, hx, y, hy, ht⟩ | ⟨x, hx, ht⟩
  · obtain ⟨x', hx', hy'⟩ := ha.past_mem hx hy
    exact .inl ⟨x', hx', y, hy', ht⟩
  · obtain ⟨x', hx', hy'⟩ := ha.past_mem hx hy
    exact .inr (.inl ⟨x', hx', y, hy', ht⟩)
  · rcases ha.mem_stays_cases hx with rfl | stays
    · rcases ha.owed with ⟨same, -⟩ | ⟨-, tasks, pushes, paid⟩ | ⟨-, -, more, -⟩
      · exact .inr (.inr ⟨b, self, same ▸ ht⟩)
      · have made : Answered.pushed ⟨operation, reply⟩ = tasks ∨
            Answered.unpushed ⟨operation, reply⟩ = tasks := Answered.of_pushed? pushes
        rcases made with pushed | unpushed
        · exact .inl ⟨b, self, _, latest, pushed ▸ paid ht⟩
        · exact .inr (.inl ⟨b, self, _, latest, unpushed ▸ paid ht⟩)
      · exact .inr (.inr ⟨b, self, more ht⟩)
    · exact .inr (.inr ⟨x, stays, ht⟩)

/-- What is accounted for stays so when a job begins. -/
theorem State.AccountsFor.started {shared : Shared} {actors : List Actor}
    (h : (⟨shared, actors⟩ : State).AccountsFor task) (x : Actor) :
    (⟨shared, actors ++ [x]⟩ : State).AccountsFor task := by
  have stays {y : Actor} (hy : y ∈ actors) : y ∈ actors ++ [x] := List.mem_append_left _ hy
  rcases h with ⟨y, hy, h⟩ | ⟨y, hy, h⟩ | ⟨y, hy, h⟩
  · exact .inl ⟨y, stays hy, h⟩
  · exact .inr (.inl ⟨y, stays hy, h⟩)
  · exact .inr (.inr ⟨y, stays hy, h⟩)

/-- What is accounted for stays so. -/
theorem State.AccountsFor.perform (h : c.AccountsFor task) (hs : Sound c) {event : Event}
    (hp : c.perform fleet event = some c') : c'.AccountsFor task := by
  cases event with
  | start pod job =>
    obtain ⟨-, rfl⟩ := State.of_start hp
    exact State.AccountsFor.started h _
  | answer number choice =>
    obtain ⟨a, b, operation, reply, ha, -⟩ := hs.answers hp
    exact h.answered ha
  | handBack message =>
    obtain ⟨-, rfl⟩ := State.of_handBack hp
    exact h
  | move m =>
    obtain ⟨shared, -, rfl⟩ := State.of_move hp
    exact h

/-! Heirs. -/

/-- The task is stored and waits for nothing, and it is in creation or its push is accounted for. -/
def State.Provides (c : State) (task : TaskId) : Prop :=
  ∃ t, c.shared.store.get? task = some t ∧ t.remaining = .empty ∧
    (t.status = .creating ∨ c.AccountsFor task)

/-- Whoever takes a task out of creation owes its push. -/
theorem Answers.promotes (ha : Answers c number a b operation reply c') {t : TaskRecord}
    {expected : Expectation} {change : TaskUpdate}
    (updates : operation = .agent (.updateTask task expected change))
    (noted : ∀ k : Track, k.note a.pod operation reply =
      k.updated task expected change (.ok (t.apply change)))
    (holds : expected.holds t = true) (creating : t.status = .creating) : task ∈ b.track.owed := by
  have may := ha.may
  have status := Expectation.status_mem holds
  rw [creating] at status
  subst updates
  rcases may.2 with ⟨-, -, hw⟩ | ⟨-, rfl, -⟩
  · exact absurd status hw.creating_not_mem
  · have owed := ha.track.trans (noted a.track)
    rw [updated_promotion_ok] at owed
    rw [owed]
    exact List.mem_cons_self

/-- A task that is provided for stays so. -/
theorem State.Provides.perform (h : c.Provides task) (hs : Sound c)
    (hx : c.shared.store.Indexed) {event : Event} (hp : c.perform fleet event = some c') :
    c'.Provides task := by
  obtain ⟨t, ht, ready, cases⟩ := h
  have cases : t.status = .creating ∨ c'.AccountsFor task :=
    cases.imp_right fun accounted => accounted.perform hs hp
  rcases hs.store_cases hp with same | ⟨number, a, b, operation, reply, ha⟩ | ⟨m, -, hm⟩
  · exact ⟨t, same ▸ ht, ready, cases⟩
  · rcases ready_of_effect ha.effect (hs.candidate_new ha) hx ht ready with
      ht' | ⟨expected, change, updates, holds, ht', noted⟩
    · exact ⟨t, ht', ready, cases⟩
    · refine ⟨_, ht', (TaskRecord.apply_remaining t change).trans ready, .inr ?_⟩
      refine cases.elim (fun creating => .inr (.inr ⟨b, List.mem_of_getElem? ha.self, ?_⟩)) id
      exact ha.promotes updates noted holds creating
  · rcases ready_of_move hm hx ht ready with ht' | ⟨held, ht'⟩
    · exact ⟨t, ht', ready, cases⟩
    · refine ⟨_, ht', (TaskRecord.apply_remaining t _).trans ready, .inr ?_⟩
      refine cases.elim (fun creating => ?_) id
      rw [creating] at held
      simp [heldStatuses] at held

/-- While it is retried the task waits for nothing. -/
def State.HasReadyParent (c : State) (task : TaskId) : Prop :=
  ∀ t, c.shared.store.get? task = some t → t.status = .retried → t.remaining = .empty

/-- On a run on which a retried task waits for nothing, its successors wait for nothing either. -/
theorem Passes.candidate_ready (hr : Passes fleet allowed (State.HasReadyParent · task) start c)
    (hi : start.Initial) {parent candidate : TaskRecord}
    {reply : (Operation.agent (.createSuccessor parent candidate)).Reply}
    (ha : Answers c number a b (.agent (.createSuccessor parent candidate)) reply c')
    (own : parent.id = task) : candidate.remaining = .empty := by
  have obeys : ∀ x ∈ c.actors, x.job.task = task →
      x.Obeys (parentRules x.job (· = .empty)) () fun _ _ _ => True := by
    intro x hx ht
    refine hr.obey hi (fun _ job _ => parentRules job (· = .empty)) (fun _ job _ => job.task = task)
      (fun pod job _ => successionRules_followed _ job) (fun _ _ _ _ ht => ht) ?_ x hx () ht
    intro c c' number choice a b operation reply hr parent _ ha _ _ own
    refine parentRules_credible (hr.sound hi) ha ?_
    rw [own]
    exact parent
  obtain ⟨next, asks⟩ := ha.asks
  have mine : parent.id = a.job.task := ha.may.2.1
  exact ((obeys a (List.mem_of_getElem? ha.actor) (mine.symm.trans own)).may asks).2

/-- On a run on which a retried task waits for nothing, and which begins before the task has a
successor, its successor is provided for. -/
theorem Passes.provides
    (hr : Passes fleet insertsFirst (State.HasReadyParent · task) start c) (hi : start.Initial)
    (h : Successions start.shared.store)
    (unborn : start.shared.store.successors.get? task = none) :
    ∀ heir, c.shared.store.successors.get? task = some heir → c.Provides heir := by
  induction hr with
  | refl => exact fun heir hs => nomatch unborn.symm.trans hs
  | step event before permitted performed here ih =>
    rename_i c c'
    have run := before.reaches
    have sound := run.sound hi
    have indexed := (run.successions hi h).indexed
    intro heir hs
    have old (hs : c.shared.store.successors.get? task = some heir) : c'.Provides heir :=
      (ih heir hs).perform sound indexed performed
    rcases sound.store_cases performed with same | ⟨number, a, b, operation, reply, ha⟩ | ⟨m, -, hm⟩
    · exact old (same ▸ hs)
    · rcases successors_of_effect ha.effect with ⟨same, -⟩ |
        ⟨parent, candidate, rfl, free, recorded, stored⟩
      · exact old (same ▸ hs)
      · rw [recorded, Table.get?_set] at hs
        split at hs
        · next e =>
          obtain rfl := Option.some.inj hs
          have ready : candidate.remaining = .empty := before.candidate_ready hi ha e.symm
          obtain ⟨now, hc⟩ := ha.may.2.2.2.2
          refine ⟨c.shared.store.withoutAvailable candidate, (stored _).trans (if_pos rfl),
            Store.remaining_withoutAvailable ready, .inl ?_⟩
          rw [hc]
          rfl
        · exact old hs
    · exact old (successors_of_move hm ▸ hs)

end GridAgent.Cluster
