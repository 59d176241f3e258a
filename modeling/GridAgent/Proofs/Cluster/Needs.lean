import GridAgent.Proofs.Cluster.Supply
import GridAgent.Proofs.Store.Needs

/-!
# The needs of tasks along a run

No event changes what a task needs, and none lets a task wait for more. Data that has become available
stays so, and only data that has become available leaves a record. A successor needs what its parent
needs, and the parent has it all. So where clients insert tasks that wait for all they need, or submit
tasks that have it, every task has what it does not wait for.
-/

namespace GridAgent.Cluster

open Agent Program

variable {fleet : Fleet} {allowed : Event → Prop} {start c c' : State} {pod : PodId} {s s' : Shared}
  {task : TaskId} {t : TaskRecord} {data : DataId} {number : Nat} {a b : Actor}
  {operation : Operation} {reply : operation.Reply}

/-! Records that go on. -/

/-- A call lets every record wait on. Successors are expected to be new. -/
theorem waitsOn_of_effect {operation : Operation} {reply : operation.Reply}
    (h : Effect pod s operation reply s')
    (hn : ∀ parent candidate, operation = .agent (.createSuccessor parent candidate) →
      s.store.get? candidate.id = none)
    (ht : s.store.get? task = some t) :
    ∃ t', s'.store.get? task = some t' ∧ Store.WaitsOn s'.store t t' := by
  have effect := h.onRecord hn ht
  generalize s'.store = store at effect ⊢
  cases effect with
  | stays same => exact ⟨t, same, .refl ..⟩
  | written expected change holds updated =>
    exact ⟨_, updated, (Store.WaitsOn.refl _ t).applied change⟩
  | resolved data now =>
    obtain ⟨t', ht', waits⟩ := Store.waitsOn_resolveData data now ht
    exact ⟨t', ht', waits.logged _⟩
  | gaveUp data now =>
    obtain ⟨t', ht', waits⟩ := Store.waitsOn_abortData data now ht
    exact ⟨t', ht', waits.logged _⟩

/-- A move lets every record wait on. -/
theorem waitsOn_of_move {m : Move} (h : s.move m = some s') (ht : s.store.get? task = some t) :
    ∃ t', s'.store.get? task = some t' ∧ Store.WaitsOn s'.store t t' := by
  have effect := (effect_of_move h).1.onRecord ht
  generalize s'.store = store at effect ⊢
  cases effect with
  | stays same => exact ⟨t, same, .refl ..⟩
  | marked expected held updated => exact ⟨_, updated, (Store.WaitsOn.refl _ t).applied _⟩
  | resolved visit data now =>
    obtain ⟨t', ht', waits⟩ := Store.waitsOn_resolveData data now ht
    exact ⟨t', ht', waits.logged _⟩
  | gaveUp visit data now =>
    obtain ⟨t', ht', waits⟩ := Store.waitsOn_abortData data now ht
    exact ⟨t', ht', waits.logged _⟩

/-- An event lets every record wait on. -/
theorem Sound.waitsOn_step (h : Sound c) {event : Event} (hp : c.perform fleet event = some c')
    (ht : c.shared.store.get? task = some t) :
    ∃ t', c'.shared.store.get? task = some t' ∧ Store.WaitsOn c'.shared.store t t' := by
  rcases h.store_cases hp with same | ⟨number, a, b, operation, reply, ha⟩ | ⟨m, -, hm⟩
  · exact ⟨t, same ▸ ht, .refl ..⟩
  · exact waitsOn_of_effect ha.effect (h.candidate_new ha) ht
  · exact waitsOn_of_move hm ht

/-- Over a run a record waits for less and less. -/
theorem Sound.shrinks_run (h : Sound c) (ht : c.shared.store.get? task = some t)
    (run : Reaches fleet allowed c c') :
    ∃ t', c'.shared.store.get? task = some t' ∧ ∀ data ∈ t'.remaining, data ∈ t.remaining := by
  refine h.along run ⟨t, ht, fun _ hd => hd⟩ fun d d' event _ sound before performed => ?_
  obtain ⟨found, hf, less⟩ := before
  obtain ⟨t', ht', waits⟩ := sound.waitsOn_step performed hf
  exact ⟨t', ht', fun data hd => less data (waits.shrinks data hd)⟩

/-! Successors. -/

/-- Whoever creates a successor gives it the needs of the stored parent. -/
theorem Reaches.candidate_needs (hr : Reaches fleet allowed start c) (hi : start.Initial)
    {parent candidate : TaskRecord}
    {reply : (Operation.agent (.createSuccessor parent candidate)).Reply}
    (ha : Answers c number a b (.agent (.createSuccessor parent candidate)) reply c') {p : TaskRecord}
    (hp : c.shared.store.get? parent.id = some p) : candidate.dependencies = p.dependencies := by
  have obeys : a.Obeys (withFinalizers (needRules a.job.task p.dependencies) True) ()
      fun _ _ _ => True := by
    refine hr.obey hi (fun _ job needs => withFinalizers (needRules job.task needs) True)
      (fun s job needs => ∀ t, s.store.get? job.task = some t → t.dependencies = needs)
      (fun pod job needs => needRules_followed _ job) ?_ ?_ a (List.mem_of_getElem? ha.actor) _ ?_
    · intro c c' event hr hp job needs hf t ht
      obtain ⟨t', ht', same, -⟩ := (hr.sound hi).record_step hp ht
      exact (congrArg Heritage.dependencies same).symm.trans (hf t' ht')
    · intro c c' number choice a b operation reply hr _ ha _ needs hf
      have effect := ha.effect
      have known {t : TaskRecord} (ht : c'.shared.store.get? a.job.task = some t) :
          t.id = a.job.task ∧ t.dependencies = needs :=
        ⟨(hr.sound hi).keyed_of_answers ha _ t ht, hf t ht⟩
      rcases operation with request | request
      · cases request with
        | readTask other =>
          rintro rfl t rfl
          exact known (shown_of_effect effect)
        | updateTask other expected change =>
          rintro rfl t rfl
          obtain ⟨⟨record, -, -, rfl⟩, stored⟩ := written_of_effect effect
          exact ⟨known stored, TaskRecord.apply_status record change⟩
        | _ => exact trivial
      · exact trivial
    · intro t ht
      have own : parent.id = a.job.task := ha.may.2.1
      rw [own] at hp
      obtain rfl := Option.some.inj (ht.symm.trans hp)
      rfl
  obtain ⟨next, asks⟩ := ha.asks
  exact (obeys.may asks).2

/-! Runs. -/

/-- Clients insert tasks that wait for all they need, or submit tasks that have it: what such a task
needs, and what its record still lists as missing, is available. -/
def insertsStocked (c : State) : Event → Prop
  | .move (.insert t) =>
    t.status = .creating ∧ t.remaining = t.dependencies ∨
    t.status = .submitted ∧ (∀ data ∈ t.dependencies, data ∈ c.shared.store.available) ∧
      ∀ data ∈ t.remaining, data ∈ c.shared.store.available
  | _ => True

/-- Every task that has been submitted has its data, and every other task has what it does not wait
for. -/
structure Equipped (s : Store) : Prop where
  /-- Who was submitted waits for nothing. -/
  provisions : Provisions s
  /-- The index names only tasks that wait. -/
  indexed : s.Indexed
  /-- What is needed is waited for or available. -/
  stocked : s.Stocked

/-- An empty store has no tasks that lack anything. -/
theorem equipped_empty : Equipped {} := by
  have missing (task : TaskId) : ({} : Store).get? task = none := rfl
  have unrecorded (task : TaskId) : ({} : Store).successors.get? task = none := rfl
  have unnamed (data : DataId) : ({} : Store).dependencies.waitingFor data = [] := rfl
  constructor
  · constructor
    · constructor
      · intro task t ht
        cases (missing task).symm.trans ht
      · intro task t ht
        cases (missing task).symm.trans ht
    · intro parent heir recorded
      cases (unrecorded parent).symm.trans recorded
  · intro data task waits
    rw [unnamed data] at waits
    cases waits
  · intro task t ht
    cases (missing task).symm.trans ht

/-- A task that was submitted has all its data. -/
theorem Equipped.has {s : Store} (h : Equipped s) (ht : s.get? task = some t)
    (begun : t.status.mayWait = false) :
    t.remaining = .empty ∧ ∀ data ∈ t.dependencies, data ∈ s.available := by
  have ready := h.provisions.supplied.ready task t ht begun
  refine ⟨ready, fun data needed => ?_⟩
  rcases h.stocked task t ht data needed with waits | here
  · rw [ready] at waits
    exact absurd waits IdSet.not_mem_empty
  · exact here

/-- A task that is stored has what it does not wait for after every event that keeps its record. -/
theorem Equipped.kept (h : Equipped c.shared.store) (hs : Sound c) {event : Event}
    (hp : c.perform fleet event = some c') (ht : c.shared.store.get? task = some t) {t' : TaskRecord}
    (ht' : c'.shared.store.get? task = some t') :
    ∀ data ∈ t'.dependencies, data ∈ t'.remaining ∨ data ∈ c'.shared.store.available := by
  obtain ⟨found, hf, waits⟩ := hs.waitsOn_step hp ht
  obtain rfl := Option.some.inj (hf.symm.trans ht')
  exact waits.stocked (h.stocked task t ht) (hs.keepsSettled hp).available

/-- A successor has what it does not wait for: its parent has been submitted. -/
theorem Equipped.created (h : Equipped c.shared.store) (hr : Reaches fleet allowed start c)
    (hi : start.Initial) {parent candidate : TaskRecord}
    {reply : (Operation.agent (.createSuccessor parent candidate)).Reply}
    (ha : Answers c number a b (.agent (.createSuccessor parent candidate)) reply c') :
    ∀ data ∈ candidate.dependencies, data ∈ c.shared.store.available := by
  intro data needed
  obtain ⟨p, hp, retried⟩ := hr.parent_retried hi ha
  have begun : p.status.mayWait = false := by rw [retried]; rfl
  rw [hr.candidate_needs hi ha hp] at needed
  exact (h.has hp begun).2 data needed

/-- Every task has what it does not wait for after every event that is allowed. -/
theorem Passes.equipped_step
    (hr : Passes fleet anyEvent (fun d => Equipped d.shared.store) start c) (hi : start.Initial)
    {event : Event} (permitted : insertsStocked c event) (hp : c.perform fleet event = some c') :
    Equipped c'.shared.store := by
  have run := hr.reaches
  have sound := run.sound hi
  have here := hr.here
  have run' : Reaches fleet anyEvent start c' := .step event run trivial hp
  constructor
  · refine (hr.mono fun _ h => h.provisions).provisions_step hi here.indexed ?_ hp
    rintro t rfl submitted
    apply Store.remaining_withoutAvailable_of_available
    intro data waits
    rcases permitted with ⟨creating, -⟩ | ⟨-, -, available⟩
    · rw [creating] at submitted
      cases submitted
    · exact available data waits
  · exact run'.indexed hi hr.first.indexed
  · intro task t' ht'
    cases ht : c.shared.store.get? task with
    | some t => exact here.kept sound hp ht ht'
    | none =>
      -- a task that is new is a successor or was inserted
      rcases sound.store_cases hp with same | ⟨number, a, b, operation, reply, ha⟩ | ⟨m, rfl, hm⟩
      · rw [same, ht] at ht'
        cases ht'
      · rcases missing_of_effect ha.effect ht with still | ⟨parent, candidate, rfl, -, stored⟩
        · cases still.symm.trans ht'
        · obtain rfl := Option.some.inj (stored.symm.trans ht')
          intro data needed
          exact .inr ((sound.keepsSettled hp).available data (here.created run hi ha data needed))
      · rcases missing_of_move hm ht with still | ⟨new, rfl, -, -, -, stored⟩
        · cases still.symm.trans ht'
        · obtain rfl := Option.some.inj (stored.symm.trans ht')
          have known : ∀ data ∈ new.dependencies,
              data ∈ new.remaining ∨ data ∈ c.shared.store.available := by
            intro data needed
            rcases permitted with ⟨-, all⟩ | ⟨-, available, -⟩
            · left
              rwa [all]
            · exact .inr (available data needed)
          intro data needed
          exact (Store.stocked_withoutAvailable known data needed).imp_right
            ((sound.keepsSettled hp).available data)

/-- In every state that a run passes, every task has what it does not wait for. -/
theorem Proceeds.equipped (hr : Proceeds fleet insertsStocked start c) (hi : start.Initial)
    (h : Equipped start.shared.store) :
    Passes fleet anyEvent (fun d => Equipped d.shared.store) start c := by
  induction hr with
  | refl => exact .refl h
  | step event before permitted performed ih =>
    exact .step event ih trivial performed (ih.equipped_step hi permitted performed)

end GridAgent.Cluster
