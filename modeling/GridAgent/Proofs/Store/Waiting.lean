import GridAgent.Proofs.Store.Records

/-!
# Who waits for data

The index names a task under a data object only while the record of the task waits for the object.
So data that is settled, for better or worse, leaves every task alone whose record waits for nothing.
-/

namespace GridAgent

namespace Dependencies

variable {g : Dependencies} {task other : TaskId} {data x : DataId}

/-- An edge that is added is the only new one. -/
theorem mem_waitingFor_add :
    other ∈ (g.add task data).waitingFor x ↔ (other = task ∧ x = data) ∨ other ∈ g.waitingFor x := by
  unfold add waitingFor link
  simp only [Table.get?_set]
  by_cases e : x = data
  · rw [if_pos e, e]
    exact IdSet.mem_insert.trans (or_congr_left (and_iff_left rfl).symm)
  · rw [if_neg e]
    exact ⟨.inr, fun h => h.elim (fun h => absurd h.2 e) id⟩

/-- The same for the edges of one task to several data objects. -/
theorem mem_waitingFor_addAll {needed : List DataId} :
    other ∈ (needed.foldl (fun g data => g.add task data) g).waitingFor x ↔
      (other = task ∧ x ∈ needed) ∨ other ∈ g.waitingFor x := by
  induction needed generalizing g with
  | nil => exact ⟨.inr, fun h => h.elim (fun h => nomatch h.2) id⟩
  | cons first rest ih =>
    rw [List.foldl_cons, ih, mem_waitingFor_add, List.mem_cons, and_or_left, or_assoc,
      or_left_comm]

/-- Removing an edge leaves the others. -/
theorem mem_unlink {a b : IdKind} {near k : Id a} {far y : Id b} {t : Table (Id a) (IdSet b)} :
    y ∈ ((unlink near far t).get? k).getD .empty ↔
      y ∈ (t.get? k).getD .empty ∧ (k = near → y ≠ far) := by
  unfold unlink
  split
  · next missing =>
    refine (and_iff_left_of_imp ?_).symm
    rintro member rfl
    rw [missing] at member
    exact absurd member IdSet.not_mem_empty
  · next others found =>
    have here (e : k = near) :
        y ∈ others.erase far ↔ y ∈ (t.get? k).getD .empty ∧ (k = near → y ≠ far) := by
      rw [e, found, IdSet.mem_erase]
      exact and_congr_right fun _ => ⟨fun other _ => other, fun other => other rfl⟩
    have there (e : k ≠ near) :
        y ∈ (t.get? k).getD .empty ↔ y ∈ (t.get? k).getD .empty ∧ (k = near → y ≠ far) :=
      (and_iff_left fun same => absurd same e).symm
    dsimp only
    split
    · next none =>
      rw [Table.get?_erase]
      split
      · next e =>
        rw [← here e]
        exact iff_of_false IdSet.not_mem_empty (IdSet.not_mem_of_isEmpty none)
      · next e => exact there e
    · rw [Table.get?_set]
      split
      · next e => exact here e
      · next e => exact there e

/-- A task that leaves the index takes the edges with it that it knows of. -/
theorem mem_waitingFor_leave :
    other ∈ (g.leave task).waitingFor x ↔
      other ∈ g.waitingFor x ∧ (x ∈ g.awaitedBy task → other ≠ task) := by
  suffices h : ∀ (needed : List DataId) (waiting : Table DataId (IdSet .task)),
      other ∈ ((needed.foldl (fun waiting data => unlink data task waiting) waiting).get? x).getD
          .empty ↔
        other ∈ (waiting.get? x).getD .empty ∧ (x ∈ needed → other ≠ task) from
    h (g.awaitedBy task).toList g.waiting
  intro needed
  induction needed with
  | nil => exact fun _ => (and_iff_left fun h => nomatch h).symm
  | cons first rest ih =>
    intro waiting
    rw [List.foldl_cons, ih, mem_unlink, and_assoc, ← or_imp, List.mem_cons]

/-- A task that leaves the index adds no edges. -/
theorem waitingFor_leave (g : Dependencies) (task : TaskId) (x : DataId) :
    (g.leave task).waitingFor x ⊆ g.waitingFor x :=
  fun _ h => (mem_waitingFor_leave.mp h).1

/-- Nobody waits for data that is available, and whoever waits for other data waits on. -/
theorem mem_waitingFor_resolve :
    other ∈ (g.resolve data).2.waitingFor x ↔ x ≠ data ∧ other ∈ g.waitingFor x := by
  unfold resolve waitingFor
  simp only [Table.get?_erase]
  split
  · next e => exact iff_of_false List.not_mem_nil fun h => h.1 e
  · next e => exact (and_iff_right e).symm

/-- Nobody begins to wait when data is given up. -/
theorem waitingFor_abort (g : Dependencies) (data x : DataId) :
    (g.abort data).2.waitingFor x ⊆ g.waitingFor x := by
  have left : ∀ (tasks : List TaskId) (g : Dependencies),
      (tasks.foldl leave g).waitingFor x ⊆ g.waitingFor x := by
    intro tasks
    induction tasks with
    | nil => exact fun g => List.Subset.refl _
    | cons first rest ih => exact fun g => List.Subset.trans (ih _) (g.waitingFor_leave first x)
  have erased : ({ g with waiting := g.waiting.erase data } : Dependencies).waitingFor x ⊆
      g.waitingFor x := by
    intro other h
    unfold waitingFor at h
    rw [Table.get?_erase] at h
    split at h
    · exact absurd h List.not_mem_nil
    · exact h
  exact List.Subset.trans (left _ _) erased

end Dependencies

/-- An update leaves a record waiting for what it waited for. -/
@[simp] theorem TaskRecord.apply_remaining (t : TaskRecord) (u : TaskUpdate) :
    (t.apply u).remaining = t.remaining := by
  unfold apply changeOwner
  cases u.owner <;> cases u.ended <;> rfl

namespace Store

variable {s s' : Store} {task : TaskId} {data : DataId} {now : Date}

/-- The index names only tasks whose records wait for the data. -/
def Indexed (s : Store) : Prop :=
  ∀ data task, task ∈ s.dependencies.waitingFor data →
    ∃ t, s.get? task = some t ∧ data ∈ t.remaining

/-- The index is kept where it names nobody new and records go on waiting. -/
theorem Indexed.kept (h : s.Indexed)
    (named : ∀ data, s'.dependencies.waitingFor data ⊆ s.dependencies.waitingFor data)
    (records : ∀ data task t, task ∈ s'.dependencies.waitingFor data → s.get? task = some t →
      data ∈ t.remaining → ∃ t', s'.get? task = some t' ∧ data ∈ t'.remaining) : s'.Indexed := by
  intro data task hw
  obtain ⟨t, ht, hd⟩ := h data task (named data hw)
  exact records data task t hw ht hd

/-- A new record is named under what it waits for. -/
theorem Indexed.inserted (h : s.Indexed) {record : TaskRecord} (new : s.get? record.id = none) :
    (s.insert record).Indexed := by
  intro data task hw
  rw [get?_insert]
  rcases Dependencies.mem_waitingFor_addAll.mp hw with ⟨rfl, hd⟩ | hw
  · exact ⟨_, if_pos rfl, hd⟩
  · obtain ⟨t, ht, hd⟩ := h data task hw
    refine ⟨t, ?_, hd⟩
    rw [if_neg ?_]
    · exact ht
    · rintro rfl
      cases new.symm.trans ht

/-- Written updates leave the index as it is. -/
theorem Indexed.written (h : s.Indexed) {record : TaskRecord} (hr : s.get? task = some record)
    (change : TaskUpdate) (log : List (TaskId × TaskStatus)) :
    Indexed { s with tasks := s.tasks.set task (record.apply change), log } := by
  refine h.kept (fun _ => List.Subset.refl _) fun data other t _ ht hd => ?_
  have hg := Table.get?_set s.tasks task other (record.apply change)
  by_cases e : other = task
  · subst e
    obtain rfl := Option.some.inj (ht.symm.trans hr)
    exact ⟨_, hg.trans (if_pos rfl), (TaskRecord.apply_remaining t change).symm ▸ hd⟩
  · exact ⟨t, (hg.trans (if_neg e)).trans ht, hd⟩

/-- Updates of several records let all of them wait on. -/
theorem remaining_writeAll {tasks : List TaskId} (hn : tasks.Nodup) (change : TaskUpdate)
    {t : TaskRecord} (ht : s.get? task = some t) :
    ∃ t', (s.writeAll tasks change).get? task = some t' ∧ t'.remaining = t.remaining := by
  rw [get?_writeAll hn, ht]
  split
  · exact ⟨_, rfl, TaskRecord.apply_remaining t change⟩
  · exact ⟨t, rfl, rfl⟩

/-- Available data leaves the index. -/
theorem Indexed.resolved (h : s.Indexed) (data : DataId) (now : Date) :
    (s.resolveData data now).2.Indexed := by
  refine h.kept (fun x _ hw => (Dependencies.mem_waitingFor_resolve.mp hw).2) ?_
  intro x task t hw ht hd
  have other := (Dependencies.mem_waitingFor_resolve.mp hw).1
  obtain ⟨t', ht', hd'⟩ : ∃ t', (s.satisfy data).get? task = some t' ∧ x ∈ t'.remaining := by
    rw [get?_satisfy, ht]
    split
    · exact ⟨_, rfl, IdSet.mem_erase.mpr ⟨hd, other⟩⟩
    · exact ⟨t, rfl, hd⟩
  obtain ⟨t'', ht'', same⟩ := remaining_writeAll (s.nodup_unblockedBy data)
    { status := .submitted, submitted := some now } ht'
  exact ⟨t'', ht'', same ▸ hd'⟩

/-- Data that is given up leaves the index with everyone waiting for it. -/
theorem Indexed.aborted (h : s.Indexed) (data : DataId) (now : Date) :
    (s.abortData data now).2.Indexed := by
  refine h.kept (fun x => s.dependencies.waitingFor_abort data x) fun x task t _ ht hd => ?_
  have left : ({ s with
      aborted := s.aborted.insert data
      dependencies := (s.dependencies.abort data).2 } : Store).get? task = some t := ht
  obtain ⟨t', ht', same⟩ := remaining_writeAll (s.nodup_failedBy data)
    (TaskUpdate.finish .error (abortedInput data) now) left
  exact ⟨t', ht', same ▸ hd⟩

/-- Whoever waits for nothing is not in the index. -/
theorem Indexed.not_mem (h : s.Indexed) {t : TaskRecord} (ht : s.get? task = some t)
    (ready : t.remaining = .empty) (data : DataId) : task ∉ s.dependencies.waitingFor data := by
  intro hw
  obtain ⟨found, hf, hd⟩ := h data task hw
  obtain rfl := Option.some.inj (ht.symm.trans hf)
  rw [ready] at hd
  exact IdSet.not_mem_empty hd

/-- Available data leaves those alone who do not wait for it. -/
theorem get?_resolveData_of_not_mem (h : task ∉ s.dependencies.waitingFor data) :
    (s.resolveData data now).2.get? task = s.get? task := by
  have blocked : task ∉ s.unblockedBy data := fun hu => by
    refine h ?_
    rw [← map_fst_resolve]
    exact (List.filter_sublist.map Prod.fst).subset hu
  rw [get?_resolveData, if_neg blocked, get?_satisfy, if_neg h]

/-- Data that is given up leaves those alone who do not wait for it. -/
theorem get?_abortData_of_not_mem (h : task ∉ s.dependencies.waitingFor data) :
    (s.abortData data now).2.get? task = s.get? task := by
  have spared : task ∉ s.failedBy data := fun hf => h (List.mem_filter.mp hf).1
  rw [get?_abortData, if_neg spared]

end Store

end GridAgent
