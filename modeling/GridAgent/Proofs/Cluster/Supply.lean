import GridAgent.Proofs.Cluster.Heirs
import GridAgent.Proofs.Cluster.Holding
import GridAgent.Proofs.Store.Supply

/-!
# Executed tasks have their data

Clients submit only tasks that have their data, and data that becomes available submits a task only
when it was the last that the task waited for. Agents promote nothing but successors, and the parent
of a successor was submitted itself. So every task that has been submitted has its data, and so has
every successor.
-/

namespace GridAgent.Cluster

open Agent Track

variable {fleet : Fleet} {allowed : Event → Prop} {start c c' : State} {pod : PodId}
  {s s' : Shared} {task heir : TaskId}
  {number : Nat} {a b : Actor} {operation : Operation} {reply : operation.Reply}

/-! Promotions. -/

/-- The rules of a promotion, for an actor. -/
def heirRules (job : Job) (H : TaskId → Prop) : Conduct operations Unit :=
  withFinalizers (promotionRules job.task H) True

/-- Besides its own task an actor updates recorded successors only. -/
theorem Reaches.updates_recorded (hr : Reaches fleet allowed start c) (hi : start.Initial)
    (h : HeirsStored start.shared.store) {expected : Expectation} {change : TaskUpdate}
    {reply : (Operation.agent (.updateTask heir expected change)).Reply}
    (ha : Answers c number a b (.agent (.updateTask heir expected change)) reply c')
    (other : heir ≠ a.job.task) :
    ∃ parent, c.shared.store.successors.get? parent = some heir := by
  -- what is recorded now is all that was ever shown
  have obeys : a.Obeys (heirRules a.job fun task =>
      ∃ parent, c.shared.store.successors.get? parent = some task) () fun _ _ _ => True := by
    refine hr.obey hi (fun _ job H => heirRules job H)
      (fun s _ H => ∀ parent task, s.store.successors.get? parent = some task → H task)
      (fun pod job H => promotionRules_followed _ job) ?_ ?_ a (List.mem_of_getElem? ha.actor) _
      fun parent task recorded => ⟨parent, recorded⟩
    · intro c c' event hr hp job H hf parent task recorded
      exact hf parent task ((hr.heirsStored hi h).recorded_step (hr.sound hi) hp recorded)
    · intro c c' number choice a b operation reply hr _ ha answered H hf
      have shown (parent : TaskId) (t : TaskRecord)
          (found : c.shared.store.successor? parent = some t) : H t.id :=
        hf parent t.id
          ((hr.heirsStored hi h).recorded_answered ha ((hr.sound hi).of_successor? found).1)
      have credible := ha.credible
      rcases operation with request | request
      · cases request with
        | readTask other =>
          rintro t rfl
          exact credible
        | updateTask other expected change =>
          rintro t rfl
          obtain ⟨⟨found, -, -, rfl⟩, -⟩ := written_of_effect ha.effect
          exact ⟨credible, TaskRecord.apply_status found change⟩
        | findSuccessor other =>
          rintro t rfl
          exact shown other t (successor_of_answer answered)
        | createSuccessor parent candidate =>
          rintro t rfl
          have effect := ha.effect
          generalize c'.shared = s' at effect hf
          cases effect with
          | silent silent => cases silent
          | existing _ _ _ found => exact shown parent.id t found
          | created _ _ missing =>
            exact hf parent.id _ ((Table.get?_set ..).trans (if_pos rfl))
        | _ => exact trivial
      · exact trivial
  obtain ⟨next, asks⟩ := ha.asks
  exact (obeys.may asks).elim (fun own => absurd own other) id

/-! Data. -/

/-- Every task that has been submitted has its data, and so has every recorded successor. -/
structure Provisions (s : Store) : Prop where
  /-- Tasks have the data they need, or are known to wait for it. -/
  supplied : s.Supplied
  /-- Successors wait for nothing. -/
  heirs : ∀ parent heir, s.successors.get? parent = some heir →
    ∃ t, s.get? heir = some t ∧ t.remaining = .empty

/-- Recorded successors that wait for nothing are stored. -/
theorem Provisions.heirsStored {s : Store} (h : Provisions s) : HeirsStored s := by
  intro parent heir recorded
  obtain ⟨t, ht, -⟩ := h.heirs parent heir recorded
  exact ⟨t, ht⟩

/-- A retried task waits for nothing. -/
theorem Provisions.readyParent (h : Provisions c.shared.store) (task : TaskId) :
    c.HasReadyParent task :=
  fun t ht retried => h.supplied.ready task t ht (by rw [retried]; rfl)

/-- A call leaves everybody with the data they need, if updates change tasks only that have it. -/
theorem supplied_of_effect (h : Effect pod s operation reply s') (hs : s.store.Supplied)
    (created : ∀ parent candidate, operation = .agent (.createSuccessor parent candidate) →
      candidate.status = .creating)
    (updated : ∀ task expected change t, operation = .agent (.updateTask task expected change) →
      s.store.get? task = some t → expected.holds t = true →
        change.status ≠ .creating ∧ t.remaining = .empty) : s'.store.Supplied := by
  cases h with
  | silent silent alike =>
    obtain ⟨failures, scratches, rfl⟩ := alike
    exact ⟨hs.listed, hs.ready⟩
  | written task expected change t found holds =>
    obtain ⟨left, ready⟩ := updated task expected change t rfl found holds
    exact hs.written task change _ left ready
  | created parent candidate missing =>
    have recorded : Store.Supplied
        { s.store with successors := s.store.successors.set parent.id candidate.id } :=
      ⟨hs.listed, hs.ready⟩
    refine recorded.inserted fun begun => ?_
    rw [created parent candidate rfl] at begun
    cases begun
  | resolved data now => exact (hs.resolved data now).logged _
  | gaveUp data now => exact (hs.aborted data now).logged _
  | _ => exact hs

/-- Outside the agents everybody keeps the data they need. -/
theorem supplied_of_move {m : Move} (h : s.move m = some s') (hs : s.store.Supplied)
    (inserted : ∀ t, m = .insert t → t.status = .submitted →
      (s.store.withoutAvailable t).remaining = .empty) : s'.store.Supplied := by
  obtain ⟨effect, -⟩ := effect_of_move h
  generalize s'.store = store at effect ⊢
  cases effect with
  | aside same =>
    obtain ⟨failures, rfl⟩ := same
    exact ⟨hs.listed, hs.ready⟩
  | marked task expected t found held =>
    have begun : t.status.mayWait = false := by
      rcases List.mem_cons.mp held with e | held
      · rw [e]; rfl
      · rw [List.mem_singleton.mp held]; rfl
    exact hs.written task _ _ nofun (hs.ready task t found begun)
  | inserted record new status =>
    refine hs.inserted fun begun => inserted record rfl ?_
    simp only [newStatuses, List.mem_cons, List.not_mem_nil, or_false] at status
    rcases status with e | e | e
    · rw [e] at begun; cases begun
    · rw [e] at begun; cases begun
    · exact e
  | resolved visit data now => exact (hs.resolved data now).logged _
  | gaveUp visit data now => exact (hs.aborted data now).logged _

/-- Whoever is updated waits for nothing, and stays out of creation. -/
theorem Provisions.updates (h : Provisions c.shared.store) (hr : Reaches fleet allowed start c)
    (hi : start.Initial) (hs : HeirsStored start.shared.store) {expected : Expectation}
    {change : TaskUpdate} {reply : (Operation.agent (.updateTask task expected change)).Reply}
    (ha : Answers c number a b (.agent (.updateTask task expected change)) reply c') {t : TaskRecord}
    (ht : c.shared.store.get? task = some t) (holds : expected.holds t = true) :
    change.status ≠ .creating ∧ t.remaining = .empty := by
  have next := next_of_may ha.may holds
  refine ⟨fun e => TaskStatus.creating_not_mem_next _ (e ▸ next), ?_⟩
  have status := Expectation.status_mem holds
  rcases ha.may.2 with ⟨-, -, hw⟩ | ⟨⟨closed, -⟩, rfl, -⟩
  · exact h.supplied.ready task t ht (hw.begun status)
  · by_cases own : task = a.job.task
    · -- the own task is closed, and not in creation
      subst own
      obtain ⟨found, hf, hc⟩ := (hr.truthful hi a (List.mem_of_getElem? ha.actor)).closed closed
      obtain rfl := Option.some.inj (ht.symm.trans hf)
      rw [List.mem_singleton.mp status] at hc
      cases hc
    · obtain ⟨parent, recorded⟩ := hr.updates_recorded hi hs ha own
      obtain ⟨found, hf, ready⟩ := h.heirs parent task recorded
      obtain rfl := Option.some.inj (ht.symm.trans hf)
      exact ready

/-- A successor that is stored waits for nothing, if submitted tasks have waited for nothing so far. -/
theorem Passes.heir_ready (hr : Passes fleet allowed (fun d => Provisions d.shared.store) start c)
    (hi : start.Initial) {parent candidate : TaskRecord}
    {reply : (Operation.agent (.createSuccessor parent candidate)).Reply}
    (ha : Answers c number a b (.agent (.createSuccessor parent candidate)) reply c') :
    candidate.remaining = .empty :=
  (hr.mono fun _ here => here.readyParent parent.id).candidate_ready hi ha rfl

/-- Every task that has been submitted goes on having its data, if clients submit only tasks that have
theirs. -/
theorem Passes.provisions_step
    (hr : Passes fleet allowed (fun d => Provisions d.shared.store) start c) (hi : start.Initial)
    (indexed : c.shared.store.Indexed) {event : Event}
    (inserted : ∀ t, event = .move (.insert t) → t.status = .submitted →
      (c.shared.store.withoutAvailable t).remaining = .empty)
    (hp : c.perform fleet event = some c') : Provisions c'.shared.store := by
  have run := hr.reaches
  have hs := hr.first.heirsStored
  have sound := run.sound hi
  have here := hr.here
  have old {parent heir : TaskId} (recorded : c.shared.store.successors.get? parent = some heir) :
      ∃ t, c'.shared.store.get? heir = some t ∧ t.remaining = .empty :=
    sound.ready_step indexed hp (here.heirs parent heir recorded)
  rcases sound.store_cases hp with same | ⟨number, a, b, operation, reply, ha⟩ | ⟨m, rfl, hm⟩
  · exact same ▸ here
  · constructor
    · refine supplied_of_effect ha.effect here.supplied ?_ ?_
      · rintro parent candidate rfl
        obtain ⟨now, hc⟩ := ha.may.2.2.2.2
        rw [hc]
        rfl
      · rintro task expected change t rfl ht holds
        exact here.updates run hi hs ha ht holds
    · intro parent heir recorded
      rcases successors_of_effect ha.effect with ⟨same, -⟩ |
        ⟨parent', candidate, rfl, -, set, stored⟩
      · exact old (same ▸ recorded)
      · rw [set, Table.get?_set] at recorded
        split at recorded
        · obtain rfl := Option.some.inj recorded
          exact ⟨_, (stored _).trans (if_pos rfl),
            Store.remaining_withoutAvailable (hr.heir_ready hi ha)⟩
        · exact old recorded
  · have stays : c'.shared.store.Supplied :=
      supplied_of_move hm here.supplied fun t e => inserted t (congrArg Event.move e)
    refine ⟨stays, fun parent heir recorded => ?_⟩
    exact old (successors_of_move hm ▸ recorded)

/-- In every state that is reached, every task that has been submitted has its data. -/
theorem Reaches.provisions (hr : Reaches fleet insertsFirst start c) (hi : start.Initial)
    (hs : Successions start.shared.store) (h : Provisions start.shared.store) :
    Passes fleet insertsFirst (fun d => Provisions d.shared.store) start c := by
  induction hr with
  | refl => exact .refl h
  | step event before permitted performed ih =>
    refine .step event ih permitted performed (ih.provisions_step hi ?_ ?_ performed)
    · exact before.indexed hi hs.indexed
    · rintro t rfl submitted
      exact Store.remaining_withoutAvailable (permitted.2 submitted)

end GridAgent.Cluster
