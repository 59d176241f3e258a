import GridAgent.Proofs.Lifecycle

/-!
# What a record keeps for life

Updates change the status, the owner, dates and the output of a record, and data that is settled
changes what it waits for. What the task is about, where it stands in its lineage and the options it
was stored with stay. Data that is settled stays so. The successors of tasks are recorded when they are
created and at no other time.
-/

namespace GridAgent

/-- What a task is about, where it stands in its lineage, and the options it was stored with. -/
structure Heritage where
  /-- Its session. -/
  session : SessionId
  /-- Root of the lineage. -/
  initial : TaskId
  /-- Ancestors in the lineage, oldest first. -/
  ancestors : List TaskId
  /-- The object that the worker is given. -/
  payload : DataId
  /-- Data the task needs. -/
  dependencies : IdSet .data
  /-- Results the task is expected to produce. -/
  outputs : List DataId
  /-- Execution options. -/
  options : Options

/-- What the record keeps for life. -/
def TaskRecord.heritage (t : TaskRecord) : Heritage :=
  { t with }

@[simp] theorem TaskRecord.heritage_apply (t : TaskRecord) (u : TaskUpdate) :
    (t.apply u).heritage = t.heritage := by
  unfold apply changeOwner
  cases u.owner <;> cases u.ended <;> rfl

namespace Store

variable {s s' : Store} {task : TaskId} {record : TaskRecord}

/-- Where records go on and others come in, a stored record is one or the other. -/
theorem origin {goesOn : TaskRecord → TaskRecord → Prop} {isNew : TaskId → TaskRecord → Prop}
    (records : ∀ task t, s.get? task = some t → ∃ t', s'.get? task = some t' ∧ goesOn t t')
    (new : ∀ task t', s.get? task = none → s'.get? task = some t' → isNew task t')
    (h : s'.get? task = some record) :
    (∃ t, s.get? task = some t ∧ goesOn t record) ∨ isNew task record := by
  cases ht : s.get? task with
  | none => exact .inr (new task record ht h)
  | some t =>
    obtain ⟨found, hf, goes⟩ := records task t ht
    obtain rfl := Option.some.inj (hf.symm.trans h)
    exact .inl ⟨t, rfl, goes⟩

section
variable {id : TaskId} {next : TaskRecord}
  (records : ∀ task, s'.get? task = if task = id then some next else s.get? task)
include records

/-- What is stored stays when a record comes in under a new identifier. -/
theorem get?_of_added (new : s.get? id = none) (h : s.get? task = some record) :
    s'.get? task = some record := by
  have other : task ≠ id := by
    rintro rfl
    cases new.symm.trans h
  rw [records, if_neg other]
  exact h

/-- What is stored then is the record that came in, or was stored before. -/
theorem of_added (h : s'.get? task = some record) :
    (task = id ∧ record = next) ∨ s.get? task = some record := by
  rw [records] at h
  split at h
  · next here => exact .inl ⟨here, (Option.some.inj h).symm⟩
  · exact .inr h

end

/-- A record that is written to some tasks keeps its heritage. -/
theorem heritage_writeAll {tasks : List TaskId} (hn : tasks.Nodup) (change : TaskUpdate)
    (h : s.get? task = some record) :
    ∃ record', (s.writeAll tasks change).get? task = some record' ∧
      record'.heritage = record.heritage := by
  rw [get?_writeAll hn, h]
  split
  · exact ⟨_, rfl, TaskRecord.heritage_apply record change⟩
  · exact ⟨record, rfl, rfl⟩

theorem heritage_resolveData (data : DataId) (now : Date) (h : s.get? task = some record) :
    ∃ record', (s.resolveData data now).2.get? task = some record' ∧
      record'.heritage = record.heritage := by
  rw [resolveData_eq]
  rcases s.get?_satisfy_cases data task with ⟨hn, -⟩ | ⟨found, remaining, hr, hr'⟩
  · rw [h] at hn
    cases hn
  · obtain rfl := Option.some.inj (h.symm.trans hr)
    obtain ⟨record', hw, same⟩ := heritage_writeAll (s.nodup_unblockedBy data)
      { status := .submitted, submitted := some now } hr'
    exact ⟨record', hw, same⟩

theorem heritage_abortData (data : DataId) (now : Date) (h : s.get? task = some record) :
    ∃ record', (s.abortData data now).2.get? task = some record' ∧
      record'.heritage = record.heritage := by
  rw [abortData_eq]
  exact heritage_writeAll (s.nodup_failedBy data) _ h

end Store

namespace Cluster

variable {fleet : Fleet} {c c' : State} {pod : PodId} {s s' : Shared} {task : TaskId}
  {record : TaskRecord}

/-- A call lets every record keep its heritage. Successors are expected to be new. -/
theorem heritage_of_effect {operation : Operation} {reply : operation.Reply}
    (h : Effect pod s operation reply s')
    (hn : ∀ parent candidate, operation = .agent (.createSuccessor parent candidate) →
      s.store.get? candidate.id = none)
    (hr : s.store.get? task = some record) :
    ∃ record', s'.store.get? task = some record' ∧ record'.heritage = record.heritage := by
  have effect := h.onRecord hn hr
  generalize s'.store = store at effect ⊢
  cases effect with
  | stays same => exact ⟨record, same, rfl⟩
  | written expected change holds updated =>
    exact ⟨_, updated, TaskRecord.heritage_apply record change⟩
  | resolved data now => exact Store.heritage_resolveData data now hr
  | gaveUp data now => exact Store.heritage_abortData data now hr

/-- A move lets every record keep its heritage. -/
theorem heritage_of_move {m : Move} (h : s.move m = some s')
    (hr : s.store.get? task = some record) :
    ∃ record', s'.store.get? task = some record' ∧ record'.heritage = record.heritage := by
  have effect := (effect_of_move h).1.onRecord hr
  generalize s'.store = store at effect ⊢
  cases effect with
  | stays same => exact ⟨record, same, rfl⟩
  | marked expected held updated => exact ⟨_, updated, TaskRecord.heritage_apply record _⟩
  | resolved visit data now => exact Store.heritage_resolveData data now hr
  | gaveUp visit data now => exact Store.heritage_abortData data now hr

/-- An event lets every record keep its heritage, and changes its status lawfully at most. -/
theorem Sound.record_step (h : Sound c) {event : Event} (hp : c.perform fleet event = some c')
    (hr : c.shared.store.get? task = some record) :
    ∃ record', c'.shared.store.get? task = some record' ∧ record'.heritage = record.heritage ∧
      (record'.status = record.status ∨ record'.status ∈ record.status.next) := by
  obtain ⟨record', hr', hs⟩ := h.status_step hp hr
  obtain ⟨found, hf, same⟩ : ∃ found, c'.shared.store.get? task = some found ∧
      found.heritage = record.heritage := by
    rcases h.store_cases hp with same | ⟨number, a, b, operation, reply, ha⟩ | ⟨m, -, hm⟩
    · exact ⟨record, same ▸ hr, rfl⟩
    · exact heritage_of_effect ha.effect (h.candidate_new ha) hr
    · exact heritage_of_move hm hr
  obtain rfl := Option.some.inj (hf.symm.trans hr')
  exact ⟨found, hr', same, hs⟩

/-- A task that is retried stays so. -/
theorem retried_of_next {t t' : TaskRecord}
    (h : t'.status = t.status ∨ t'.status ∈ t.status.next) (hs : t.status = .retried) :
    t'.status = .retried := by
  rw [hs] at h
  exact h.elim id fun hn => nomatch hn

/-- Data that was available stays so, and so does data that was given up. -/
structure KeepsSettled (s s' : Store) : Prop where
  /-- Available data stays available. -/
  available : ∀ data ∈ s.available, data ∈ s'.available
  /-- Data that was given up stays so. -/
  aborted : ∀ data ∈ s.aborted, data ∈ s'.aborted

theorem KeepsSettled.refl (s : Store) : KeepsSettled s s := ⟨fun _ hd => hd, fun _ hd => hd⟩

theorem keepsSettled_resolveData (s : Store) (data : DataId) (now : Date)
    (log : List (TaskId × TaskStatus)) : KeepsSettled s { (s.resolveData data now).2 with log } where
  available _ hd := IdSet.mem_insert.mpr (.inr hd)
  aborted _ hd := hd

theorem keepsSettled_abortData (s : Store) (data : DataId) (now : Date)
    (log : List (TaskId × TaskStatus)) : KeepsSettled s { (s.abortData data now).2 with log } where
  available _ hd := hd
  aborted _ hd := IdSet.mem_insert.mpr (.inr hd)

/-- In no event is data settled otherwise than it was. -/
theorem Sound.keepsSettled (h : Sound c) {event : Event} (hp : c.perform fleet event = some c') :
    KeepsSettled c.shared.store c'.shared.store := by
  rcases h.store_cases hp with same | ⟨number, a, b, operation, reply, ha⟩ | ⟨m, -, hm⟩
  · exact same ▸ .refl _
  · have effect := ha.effect
    generalize c'.shared = s' at effect
    cases effect with
    | silent silent alike =>
      obtain ⟨failures, scratches, rfl⟩ := alike
      exact ⟨fun _ hd => hd, fun _ hd => hd⟩
    | resolved data now => exact keepsSettled_resolveData _ data now _
    | gaveUp data now => exact keepsSettled_abortData _ data now _
    | _ => exact ⟨fun _ hd => hd, fun _ hd => hd⟩
  · obtain ⟨effect, -⟩ := effect_of_move hm
    generalize c'.shared.store = store at effect ⊢
    cases effect with
    | aside same =>
      obtain ⟨failures, rfl⟩ := same
      exact ⟨fun _ hd => hd, fun _ hd => hd⟩
    | resolved visit data now => exact keepsSettled_resolveData _ data now _
    | gaveUp visit data now => exact keepsSettled_abortData _ data now _
    | _ => exact ⟨fun _ hd => hd, fun _ hd => hd⟩

/-- Over a run a record keeps its heritage, and one that is retried stays so. -/
theorem Sound.record_run {allowed : Event → Prop} (h : Sound c)
    (hr : c.shared.store.get? task = some record) (run : Reaches fleet allowed c c') :
    ∃ record', c'.shared.store.get? task = some record' ∧ record'.heritage = record.heritage ∧
      (record.status = .retried → record'.status = .retried) := by
  refine h.along run ⟨record, hr, rfl, id⟩ fun d d' event _ sound before performed => ?_
  obtain ⟨found, hf, same, stays⟩ := before
  obtain ⟨record', hr', same', next⟩ := sound.record_step performed hf
  exact ⟨record', hr', same'.trans same, fun retried => retried_of_next next (stays retried)⟩

/-- A call stores and records a successor, or it stores nothing new and records nothing. -/
theorem successors_of_effect {operation : Operation} {reply : operation.Reply}
    (h : Effect pod s operation reply s') :
    (s'.store.successors = s.store.successors ∧
      ∀ task, s.store.get? task = none → s'.store.get? task = none) ∨
    ∃ parent candidate, operation = .agent (.createSuccessor parent candidate) ∧
      s.store.successor? parent.id = none ∧
      s'.store.successors = s.store.successors.set parent.id candidate.id ∧
      ∀ task, s'.store.get? task =
        if task = candidate.id then some (s.store.withoutAvailable candidate)
        else s.store.get? task := by
  have stores (hn : ∀ parent candidate, operation ≠ .agent (.createSuccessor parent candidate)) :
      ∀ task, s.store.get? task = none → s'.store.get? task = none := by
    intro task hr
    rcases missing_of_effect h hr with hr' | ⟨parent, candidate, ho, -⟩
    · exact hr'
    · exact absurd ho (hn parent candidate)
  cases h with
  | silent silent alike =>
    refine .inl ⟨?_, fun task hr => (alike.get? task).trans hr⟩
    obtain ⟨failures, scratches, rfl⟩ := alike
    rfl
  | existing parent candidate record found => exact .inl ⟨rfl, fun _ hr => hr⟩
  | created parent candidate missing =>
    exact .inr ⟨parent, candidate, rfl, missing, rfl, get?_created s.store parent candidate⟩
  | _ => exact .inl ⟨rfl, stores fun _ _ e => nomatch e⟩

/-- Moves record no successor. -/
theorem successors_of_move {m : Move} (h : s.move m = some s') :
    s'.store.successors = s.store.successors := by
  obtain ⟨effect, -⟩ := effect_of_move h
  generalize s'.store = store at effect ⊢
  cases effect with
  | aside same =>
    obtain ⟨failures, rfl⟩ := same
    rfl
  | _ => rfl

end Cluster

end GridAgent
