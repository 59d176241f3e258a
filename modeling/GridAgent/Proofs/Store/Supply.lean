import GridAgent.Proofs.Status
import GridAgent.Proofs.Store.Waiting

/-!
# Tasks that have their data

A task in creation is named in the index under all data it waits for, so it is submitted only when all
of it is available. From then on it waits for nothing.
-/

namespace GridAgent

namespace Dependencies

variable {g : Dependencies} {task other : TaskId} {data x : DataId}

/-- A task waits for the data that is added. -/
theorem mem_awaitedBy_add :
    x ∈ (g.add task data).awaitedBy other ↔ (other = task ∧ x = data) ∨ x ∈ g.awaitedBy other := by
  unfold add awaitedBy link
  simp only [Table.get?_set]
  by_cases e : other = task
  · rw [if_pos e, e]
    exact IdSet.mem_insert.trans (or_congr_left (and_iff_right rfl).symm)
  · rw [if_neg e]
    exact ⟨.inr, fun h => h.elim (fun h => absurd h.1 e) id⟩

/-- The same for several data objects. -/
theorem mem_awaitedBy_addAll {needed : List DataId} :
    x ∈ (needed.foldl (fun g data => g.add task data) g).awaitedBy other ↔
      (other = task ∧ x ∈ needed) ∨ x ∈ g.awaitedBy other := by
  induction needed generalizing g with
  | nil => exact ⟨.inr, fun h => h.elim (fun h => nomatch h.2) id⟩
  | cons first rest ih =>
    rw [List.foldl_cons, ih, mem_awaitedBy_add, List.mem_cons, and_or_left, or_assoc,
      or_left_comm]

/-- Whoever waits for data that is available waits on for everything else. -/
theorem mem_awaitedBy_resolve :
    x ∈ (g.resolve data).2.awaitedBy task ↔
      x ∈ g.awaitedBy task ∧ (task ∈ g.waitingFor data → x ≠ data) := by
  unfold resolve awaitedBy
  generalize g.waitingFor data = tasks
  suffices all : ∀ awaited : Table TaskId (IdSet .data),
      x ∈ ((tasks.foldl (fun awaited task => unlink task data awaited) awaited).get? task).getD
          .empty ↔
        x ∈ (awaited.get? task).getD .empty ∧ (task ∈ tasks → x ≠ data) from all g.awaited
  induction tasks with
  | nil => exact fun _ => (and_iff_left fun h => nomatch h).symm
  | cons first rest ih =>
    intro awaited
    rw [List.foldl_cons, ih, mem_unlink, and_assoc, ← or_imp, List.mem_cons]

/-- A task that leaves the index waits for nothing, and everybody else waits on. -/
theorem mem_awaitedBy_leave :
    x ∈ (g.leave task).awaitedBy other ↔ x ∈ g.awaitedBy other ∧ other ≠ task := by
  unfold leave awaitedBy
  rw [Table.get?_erase]
  split
  · next e => exact iff_of_false IdSet.not_mem_empty fun h => h.2 e
  · next e => exact (and_iff_left e).symm

/-- Whoever waits for data that is given up waits for nothing any more, and everybody else waits on. -/
theorem mem_awaitedBy_abort :
    x ∈ (g.abort data).2.awaitedBy task ↔ x ∈ g.awaitedBy task ∧ task ∉ g.waitingFor data := by
  unfold abort
  generalize g.waitingFor data = tasks
  suffices all : ∀ g' : Dependencies, x ∈ (tasks.foldl leave g').awaitedBy task ↔
      x ∈ g'.awaitedBy task ∧ task ∉ tasks from all _
  induction tasks with
  | nil => exact fun _ => (and_iff_left List.not_mem_nil).symm
  | cons first rest ih =>
    intro g'
    rw [List.foldl_cons, ih, mem_awaitedBy_leave, and_assoc, List.mem_cons, not_or]

end Dependencies

namespace Store

variable {s : Store} {task : TaskId} {t : TaskRecord} {data : DataId} {now : Date}

/-- Tasks have the data they need, or the index knows what they wait for. -/
structure Supplied (s : Store) : Prop where
  /-- A task in creation is in the index with all that it waits for. -/
  listed : ∀ task t, s.get? task = some t → t.status = .creating →
    ∀ data ∈ t.remaining, data ∈ s.dependencies.awaitedBy task
  /-- A task that has been submitted waits for nothing. -/
  ready : ∀ task t, s.get? task = some t → t.status.mayWait = false → t.remaining = .empty

/-- The log does not matter. -/
theorem Supplied.logged (h : s.Supplied) (log : List (TaskId × TaskStatus)) :
    Supplied { s with log } := ⟨h.listed, h.ready⟩

/-- A new record is in the index; one that is submitted has to have its data. -/
theorem Supplied.inserted (h : s.Supplied)
    (ready : t.status.mayWait = false → (s.withoutAvailable t).remaining = .empty) :
    (s.insert t).Supplied := by
  refine ⟨fun task t' ht' creating x hx => ?_, fun task t' ht' begun => ?_⟩ <;>
    rw [get?_insert] at ht'
  · refine Dependencies.mem_awaitedBy_addAll.mpr ?_
    split at ht'
    · next e =>
      obtain rfl := Option.some.inj ht'
      exact .inl ⟨e, hx⟩
    · exact .inr (h.listed task t' ht' creating x hx)
  · split at ht'
    · obtain rfl := Option.some.inj ht'
      exact ready begun
    · exact h.ready task t' ht' begun

/-- An update may take a task out of creation that waits for nothing. -/
theorem Supplied.written (h : s.Supplied) (task : TaskId) (change : TaskUpdate)
    (log : List (TaskId × TaskStatus)) (left : change.status ≠ .creating)
    (ready : t.remaining = .empty) :
    Supplied { s with tasks := s.tasks.set task (t.apply change), log } := by
  have hg (other : TaskId) := Table.get?_set s.tasks task other (t.apply change)
  refine ⟨fun other t' ht' creating => ?_, fun other t' ht' begun => ?_⟩ <;>
    replace ht' := (hg other).symm.trans ht' <;> split at ht'
  · obtain rfl := Option.some.inj ht'
    rw [TaskRecord.apply_status] at creating
    exact absurd creating left
  · exact h.listed other t' ht' creating
  · obtain rfl := Option.some.inj ht'
    exact (TaskRecord.apply_remaining t change).trans ready
  · exact h.ready other t' ht' begun

/-- A task becomes submitted if it is in creation and waited for the data and for nothing else. -/
theorem mem_unblockedBy :
    task ∈ s.unblockedBy data ↔ task ∈ s.dependencies.waitingFor data ∧
      ((s.dependencies.awaitedBy task).erase data).isEmpty = true ∧
        (s.satisfy data).hasStatus task [.creating] = true := by
  unfold unblockedBy Dependencies.resolve
  simp only [List.mem_map, List.mem_filter, Bool.and_eq_true]
  constructor
  · rintro ⟨w, ⟨⟨found, waits, rfl⟩, empty, creating⟩, rfl⟩
    exact ⟨waits, empty, creating⟩
  · rintro ⟨waits, empty, creating⟩
    exact ⟨_, ⟨⟨task, waits, rfl⟩, empty, creating⟩, rfl⟩

/-- Available data leaves everybody with the data they need. -/
theorem Supplied.resolved (h : s.Supplied) (data : DataId) (now : Date) :
    (s.resolveData data now).2.Supplied := by
  have satisfied (task : TaskId) (t' : TaskRecord) (ht' : (s.satisfy data).get? task = some t') :
      ∃ t, s.get? task = some t ∧ t'.status = t.status ∧
        (∀ x ∈ t'.remaining, x ∈ t.remaining ∧
          (task ∉ s.dependencies.waitingFor data ∨ x ≠ data)) := by
    rw [get?_satisfy] at ht'
    split at ht'
    · obtain ⟨t, ht, rfl⟩ := Option.map_eq_some_iff.mp ht'
      refine ⟨t, ht, rfl, fun x hx => ?_⟩
      exact ⟨(IdSet.mem_erase.mp hx).1, .inr (IdSet.mem_erase.mp hx).2⟩
    · next waits => exact ⟨t', ht', rfl, fun x hx => ⟨hx, .inl waits⟩⟩
  refine ⟨fun task t' ht' creating x hx => ?_, fun task t' ht' begun => ?_⟩ <;>
    rw [get?_resolveData] at ht' <;> split at ht'
  · obtain ⟨t, -, rfl⟩ := Option.map_eq_some_iff.mp ht'
    rw [TaskRecord.apply_status] at creating
    cases creating
  · obtain ⟨t, ht, same, waits⟩ := satisfied task t' ht'
    obtain ⟨old, other⟩ := waits x hx
    have known := h.listed task t ht (same.symm.trans creating) x old
    exact Dependencies.mem_awaitedBy_resolve.mpr
      ⟨known, fun waited => other.resolve_left (absurd waited)⟩
  · -- the index knew all that the task waited for
    next unblocked =>
    obtain ⟨u, hu, rfl⟩ := Option.map_eq_some_iff.mp ht'
    obtain ⟨t, ht, -, waits⟩ := satisfied task u hu
    obtain ⟨found, hf, creating⟩ := creating_of_unblockedBy unblocked
    obtain rfl := Option.some.inj (ht.symm.trans hf)
    obtain ⟨waited, none, -⟩ := mem_unblockedBy.mp unblocked
    rw [TaskRecord.apply_remaining]
    refine IdSet.eq_empty_of_forall_not_mem fun x hx => ?_
    obtain ⟨old, other⟩ := waits x hx
    have left : x ∈ (s.dependencies.awaitedBy task).erase data := IdSet.mem_erase.mpr
      ⟨h.listed task t ht creating x old, other.elim (fun out => absurd waited out) id⟩
    exact absurd left (IdSet.not_mem_of_isEmpty none)
  · obtain ⟨t, ht, same, waits⟩ := satisfied task t' ht'
    refine IdSet.eq_empty_of_forall_not_mem fun x hx => ?_
    have old := (waits x hx).1
    rw [h.ready task t ht (same ▸ begun)] at old
    exact IdSet.not_mem_empty old

/-- Data that is given up leaves those in creation alone who do not wait for it. -/
theorem Supplied.aborted (h : s.Supplied) (data : DataId) (now : Date) :
    (s.abortData data now).2.Supplied := by
  refine ⟨fun task t' ht' creating x hx => ?_, fun task t' ht' begun => ?_⟩ <;>
    rw [get?_abortData] at ht' <;> split at ht'
  · obtain ⟨t, -, rfl⟩ := Option.map_eq_some_iff.mp ht'
    rw [TaskRecord.apply_status] at creating
    cases creating
  · next spared =>
    have out : task ∉ s.dependencies.waitingFor data := fun waits => spared
      (List.mem_filter.mpr ⟨waits, hasStatus_iff.mpr ⟨t', ht', by rw [creating]; decide⟩⟩)
    exact Dependencies.mem_awaitedBy_abort.mpr ⟨h.listed task t' ht' creating x hx, out⟩
  · obtain ⟨t, -, rfl⟩ := Option.map_eq_some_iff.mp ht'
    rw [TaskRecord.apply_status] at begun
    cases begun
  · exact h.ready task t' ht' begun

end Store

end GridAgent
