import GridAgent.Proofs.Store.Supply

/-!
# What tasks need

A record names the data that its task needs, and apart from it the data that it still waits for. The
first never changes. The second only shrinks, and what leaves it is available from then on. So the
two together tell which data a task has.
-/

namespace GridAgent

/-- An update leaves a record needing what it needed. -/
@[simp] theorem TaskRecord.apply_dependencies (t : TaskRecord) (u : TaskUpdate) :
    (t.apply u).dependencies = t.dependencies := by
  unfold apply changeOwner
  cases u.owner <;> cases u.ended <;> rfl

namespace Store

variable {s later : Store} {task : TaskId} {t t' : TaskRecord} {data : DataId} {now : Date}

/-- A record goes on in a later store: it needs the same and waits for nothing new, and what it does
not wait for any more is available there. -/
structure WaitsOn (later : Store) (t t' : TaskRecord) : Prop where
  /-- The same is needed. -/
  needs : t'.dependencies = t.dependencies
  /-- Nothing new is waited for. -/
  shrinks : ∀ data ∈ t'.remaining, data ∈ t.remaining
  /-- What was waited for is waited for still, or is available. -/
  met : ∀ data ∈ t.remaining, data ∈ t'.remaining ∨ data ∈ later.available

theorem WaitsOn.refl (later : Store) (t : TaskRecord) : WaitsOn later t t :=
  ⟨rfl, fun _ waits => waits, fun _ waits => .inl waits⟩

/-- The log does not matter. -/
theorem WaitsOn.logged (h : WaitsOn later t t') (log : List (TaskId × TaskStatus)) :
    WaitsOn { later with log } t t' := ⟨h.needs, h.shrinks, h.met⟩

/-- An update lets a record wait on. -/
theorem WaitsOn.applied (h : WaitsOn later t t') (change : TaskUpdate) :
    WaitsOn later t (t'.apply change) := by
  constructor
  · rw [TaskRecord.apply_dependencies]
    exact h.needs
  · rw [TaskRecord.apply_remaining]
    exact h.shrinks
  · rw [TaskRecord.apply_remaining]
    exact h.met

/-- An update that is written to several records lets each of them wait on. -/
theorem WaitsOn.writeAll {tasks : List TaskId} (h : WaitsOn later t t') (hn : tasks.Nodup)
    (change : TaskUpdate) (ht' : s.get? task = some t') :
    ∃ u, (s.writeAll tasks change).get? task = some u ∧ WaitsOn later t u := by
  rw [get?_writeAll hn, ht']
  split
  · exact ⟨_, rfl, h.applied change⟩
  · exact ⟨t', rfl, h⟩

/-- What every task needs is available, as far as the task does not wait for it. -/
def Stocked (s : Store) : Prop :=
  ∀ task t, s.get? task = some t → ∀ data ∈ t.dependencies,
    data ∈ t.remaining ∨ data ∈ s.available

/-- A record is put in without the data that is available: what it needs is still accounted for. -/
theorem stocked_withoutAvailable
    (known : ∀ data ∈ t.dependencies, data ∈ t.remaining ∨ data ∈ s.available) :
    ∀ data ∈ (s.withoutAvailable t).dependencies,
      data ∈ (s.withoutAvailable t).remaining ∨ data ∈ s.available := by
  intro data needed
  by_cases here : data ∈ s.available
  · exact .inr here
  · left
    have waits : data ∈ t.remaining := (known data needed).resolve_right here
    have missing : (!s.available.contains data) = true := by
      rw [Bool.not_eq_true', IdSet.contains, List.contains_eq_mem]
      exact decide_eq_false here
    exact IdSet.mem_filter.mpr ⟨waits, missing⟩

/-- A record all of whose data is available waits for nothing once it is put in. -/
theorem remaining_withoutAvailable_of_available (here : ∀ data ∈ t.remaining, data ∈ s.available) :
    (s.withoutAvailable t).remaining = .empty := by
  apply IdSet.eq_empty_of_forall_not_mem
  intro data waits
  obtain ⟨old, missing⟩ := IdSet.mem_filter.mp waits
  have present : s.available.contains data = true := List.contains_iff_mem.mpr (here data old)
  rw [present] at missing
  cases missing

/-- The data that is available once more is. -/
theorem available_resolveData (s : Store) (data : DataId) (now : Date) :
    (s.resolveData data now).2.available = s.available.insert data := by
  rw [resolveData_eq]
  rfl

/-- Available data lets every record wait on: it takes itself from what is waited for. -/
theorem waitsOn_resolveData (data : DataId) (now : Date) (ht : s.get? task = some t) :
    ∃ t', (s.resolveData data now).2.get? task = some t' ∧
      WaitsOn (s.resolveData data now).2 t t' := by
  have satisfied : ∃ u, (s.satisfy data).get? task = some u ∧
      WaitsOn (s.resolveData data now).2 t u := by
    rw [get?_satisfy, ht]
    split
    · refine ⟨_, rfl, rfl, ?_, ?_⟩
      · intro x waits
        exact (IdSet.mem_erase.mp waits).1
      · intro x waits
        rw [available_resolveData]
        by_cases e : x = data
        · exact .inr (IdSet.mem_insert.mpr (.inl e))
        · exact .inl (IdSet.mem_erase.mpr ⟨waits, e⟩)
    · exact ⟨t, rfl, .refl _ t⟩
  obtain ⟨u, hu, waits⟩ := satisfied
  exact waits.writeAll (s.nodup_unblockedBy data) { status := .submitted, submitted := some now } hu

/-- Data that is given up lets every record wait on. -/
theorem waitsOn_abortData (data : DataId) (now : Date) (ht : s.get? task = some t) :
    ∃ t', (s.abortData data now).2.get? task = some t' ∧
      WaitsOn (s.abortData data now).2 t t' := by
  have left : ({ s with
      aborted := s.aborted.insert data
      dependencies := (s.dependencies.abort data).2 } : Store).get? task = some t := ht
  exact (WaitsOn.refl _ t).writeAll (s.nodup_failedBy data)
    (TaskUpdate.finish .error (abortedInput data) now) left

/-- A record that goes on has what it does not wait for. -/
theorem WaitsOn.stocked (h : WaitsOn later t t')
    (known : ∀ data ∈ t.dependencies, data ∈ t.remaining ∨ data ∈ s.available)
    (available : ∀ data ∈ s.available, data ∈ later.available) :
    ∀ data ∈ t'.dependencies, data ∈ t'.remaining ∨ data ∈ later.available := by
  intro data needed
  rw [h.needs] at needed
  rcases known data needed with waits | here
  · exact h.met data waits
  · exact .inr (available data here)

end Store

end GridAgent
