import GridAgent.Proofs.Cluster.Run
import GridAgent.Proofs.Store.Settling
import GridAgent.Proofs.Store.Visits

/-!
# Who waits is woken up

Tasks in creation are moved only when data is settled, and only those that the index names at that
moment. A record that comes in time is always named. One that comes late is not: putting it in moves
nothing, looks at the data that is available and not at the data that was given up, and leaves the
edges of the version before in the index.
-/

namespace GridAgent.Store

variable {admits : Store → TaskRecord → Prop} {s : Store} {task : TaskId} {t : TaskRecord}

/-- Stores that come about, from the empty one, as records of one kind are put in and data is settled,
in any order. -/
inductive Arises (admits : Store → TaskRecord → Prop) : Store → Prop where
  /-- Nothing is stored. -/
  | empty : Arises admits {}
  /-- A record is put in, new or in place of the one before. -/
  | inserted {s : Store} (before : Arises admits s) (t : TaskRecord) (admitted : admits s t) :
    Arises admits (s.insert t)
  /-- Data becomes available, and those who wait for it are visited in an order. -/
  | resolved {s : Store} (before : Arises admits s) (visit : Visit) (data : DataId) (now : Date) :
    Arises admits (s.resolveDataIn visit data now).2
  /-- Data is given up, and those who wait for it are visited in an order. -/
  | aborted {s : Store} (before : Arises admits s) (visit : Visit) (data : DataId) (now : Date) :
    Arises admits (s.abortDataIn visit data now).2

/-- Nobody is forgotten in the empty store. -/
theorem attended_empty : Attended {} := by
  have missing (task : TaskId) : ({} : Store).get? task = none := rfl
  have unlisted (task : TaskId) : ({} : Store).dependencies.awaitedBy task = .empty := rfl
  have unnamed (data : DataId) : ({} : Store).dependencies.waitingFor data = [] := rfl
  have none (task : TaskId) (data : DataId) :
      data ∉ ({} : Store).dependencies.awaitedBy task := by
    rw [unlisted]
    exact IdSet.not_mem_empty
  constructor
  · intro task data
    rw [unnamed]
    exact iff_of_false List.not_mem_nil (none task data)
  · intro task data waits
    exact absurd waits (none task data)
  · intro task data waits
    exact absurd waits (none task data)
  · intro task t ht
    cases (missing task).symm.trans ht
  · intro task t ht
    cases (missing task).symm.trans ht
  · intro task t ht
    cases (missing task).symm.trans ht

/-- Nobody is forgotten where records come in time. -/
theorem Arises.attended (h : Arises IsTimely s) : s.Attended := by
  induction h with
  | empty => exact attended_empty
  | inserted _ t timely ih => exact ih.inserted timely
  | resolved _ visit data now ih =>
    rw [resolveDataIn_eq]
    exact (ih.resolved data now).logged _
  | aborted _ visit data now ih =>
    rw [abortDataIn_eq]
    exact (ih.aborted data now).logged _

/-- Records that come in time, and data that is settled, in any order. Then every task in creation
waits for data that is neither available nor given up, and is in the index under it. A task all of
whose data is settled has left creation: it is submitted, with all of its data, or it has failed for
data that was given up. -/
theorem waiting_tasks_woken (h : Arises IsTimely s) (ht : s.get? task = some t) :
    (t.status = .creating → ∃ data ∈ t.remaining, data ∉ s.available ∧ data ∉ s.aborted ∧
      task ∈ s.dependencies.waitingFor data) ∧
    ((∀ data ∈ t.dependencies, data ∈ s.available ∨ data ∈ s.aborted) →
      t.status = .submitted ∧ (∀ data ∈ t.dependencies, data ∈ s.available) ∨
      t.status = .error ∧ ∃ data ∈ t.dependencies, data ∈ s.aborted) := by
  have attended := h.attended
  have unsettled (creating : t.status = .creating) : ∃ data ∈ t.remaining,
      data ∉ s.available ∧ data ∉ s.aborted ∧ task ∈ s.dependencies.waitingFor data := by
    cases attended.stands task t ht with
    | creating _ indexed waits =>
      obtain ⟨data, waits⟩ := waits
      have listed := (indexed data).mp waits
      obtain ⟨missing, hopeful⟩ := attended.unsettled task data listed
      exact ⟨data, waits, missing, hopeful, (attended.mirrored task data).mpr listed⟩
    | submitted status =>
      rw [status] at creating
      cases creating
    | failed status =>
      rw [status] at creating
      cases creating
  refine ⟨unsettled, fun settled => ?_⟩
  cases attended.stands task t ht with
  | creating status =>
    obtain ⟨data, waits, missing, hopeful, -⟩ := unsettled status
    exact ((settled data (attended.needed task t ht data waits)).elim missing hopeful).elim
  | submitted status _ has => exact .inl ⟨status, has⟩
  | failed status _ lost => exact .inr ⟨status, lost⟩

/-- A record in creation that needs one data object. -/
def needing (task data : Nat) : TaskRecord :=
  { TaskRecord.first (.ofNat task) (.ofNat 1) (.ofNat 1) {} Cluster.morning with
    dependencies := .ofList [.ofNat data]
    remaining := .ofList [.ofNat data] }

theorem mem_needing {task data : Nat} {x : DataId} :
    x ∈ (needing task data).dependencies ↔ x = .ofNat data :=
  IdSet.mem_ofList.trans List.mem_singleton

/-- Such a record may be put in anywhere. -/
theorem needing_isGiven (s : Store) (task data : Nat) : s.IsGiven (needing task data) :=
  ⟨rfl, ⟨.ofNat data, mem_needing.mpr rfl⟩, fun _ waits => waits, fun _ needed => .inl needed⟩

/-- It comes in time if the data is open and the task is new. -/
theorem needing_isTimely {task data : Nat} (missing : .ofNat data ∉ s.available.toList)
    (hopeful : .ofNat data ∉ s.aborted.toList) (new : s.get? (.ofNat task) = none) :
    s.IsTimely (needing task data) := by
  refine ⟨needing_isGiven s task data, ⟨_, mem_needing.mpr rfl, missing⟩, ?_, ?_⟩
  · intro x needed
    rw [mem_needing.mp needed]
    exact .inr hopeful
  · intro earlier found
    cases new.symm.trans found

/-- Two tasks are put in, what the first one needs becomes available and what the second one needs is
given up; then a third one is put in. -/
def threeTasks : Store :=
  ((((({} : Store).insert (needing 1 5)).insert (needing 2 6)).resolveDataIn .descending (.ofNat 5)
    Cluster.morning).2.abortDataIn .descending (.ofNat 6) Cluster.morning).2.insert (needing 3 7)

/-- The first task is submitted, the second one has failed, and the third one waits. -/
theorem waiting_tasks_woken_three :
    ∃ s t₁ t₂ t₃, Arises IsTimely s ∧
      s.get? (.ofNat 1) = some t₁ ∧ t₁.status = .submitted ∧
      s.get? (.ofNat 2) = some t₂ ∧ t₂.status = .error ∧
      s.get? (.ofNat 3) = some t₃ ∧ t₃.status = .creating ∧
      ∃ data ∈ t₃.remaining, data ∉ s.available ∧ data ∉ s.aborted := by
  have run : Arises IsTimely threeTasks := by
    refine .inserted (.aborted (.resolved (.inserted (.inserted .empty _ ?_) _ ?_) _ _ _) _ _ _) _ ?_
    · exact needing_isTimely (by decide) (by decide) rfl
    · exact needing_isTimely (by decide) (by decide) rfl
    · exact needing_isTimely (by decide +kernel) (by decide +kernel) rfl
  have facts : (threeTasks.get? (.ofNat 1)).map (·.dependencies.toList) = some [.ofNat 5] ∧
      (threeTasks.get? (.ofNat 2)).map (·.dependencies.toList) = some [.ofNat 6] ∧
      (threeTasks.get? (.ofNat 3)).map (·.status) = some .creating ∧
      .ofNat 5 ∈ threeTasks.available.toList ∧ .ofNat 5 ∉ threeTasks.aborted.toList ∧
      .ofNat 6 ∈ threeTasks.aborted.toList ∧ .ofNat 6 ∉ threeTasks.available.toList := by
    decide +kernel
  obtain ⟨first, second, third, here, kept, given, missing⟩ := facts
  obtain ⟨t₁, h₁, needs₁⟩ := Option.map_eq_some_iff.mp first
  obtain ⟨t₂, h₂, needs₂⟩ := Option.map_eq_some_iff.mp second
  obtain ⟨t₃, h₃, creating⟩ := Option.map_eq_some_iff.mp third
  have only₁ {x : DataId} (needed : x ∈ t₁.dependencies) : x = .ofNat 5 := by
    have listed : x ∈ t₁.dependencies.toList := needed
    rw [needs₁] at listed
    exact List.mem_singleton.mp listed
  have only₂ {x : DataId} (needed : x ∈ t₂.dependencies) : x = .ofNat 6 := by
    have listed : x ∈ t₂.dependencies.toList := needed
    rw [needs₂] at listed
    exact List.mem_singleton.mp listed
  refine ⟨threeTasks, t₁, t₂, t₃, run, h₁, ?_, h₂, ?_, h₃, creating, ?_⟩
  · have settled := (waiting_tasks_woken run h₁).2 fun x needed => .inl (only₁ needed ▸ here)
    rcases settled with ⟨submitted, -⟩ | ⟨-, x, needed, lost⟩
    · exact submitted
    · exact absurd (only₁ needed ▸ lost) kept
  · have settled := (waiting_tasks_woken run h₂).2 fun x needed => .inr (only₂ needed ▸ given)
    rcases settled with ⟨-, has⟩ | ⟨failed, -⟩
    · have needed : .ofNat 6 ∈ t₂.dependencies.toList := by
        rw [needs₂]
        exact List.mem_cons_self
      exact absurd (has _ needed) missing
    · exact failed
  · obtain ⟨x, waits, missing, hopeful, -⟩ := (waiting_tasks_woken run h₃).1 creating
    exact ⟨x, waits, missing, hopeful⟩

/-- The task is in creation while all that it needs is settled. -/
def Forgets (s : Store) (task : TaskId) : Prop :=
  ∃ t, s.get? task = some t ∧ t.status = .creating ∧
    ∀ data ∈ t.dependencies, data ∈ s.available ∨ data ∈ s.aborted

/-- A task is put in once its data is available. -/
def lateStore : Store :=
  (({} : Store).resolveDataIn .ascending (.ofNat 5) Cluster.morning).2.insert (needing 1 5)

/-- A task is put in once its data has been given up. -/
def hopelessStore : Store :=
  (({} : Store).abortDataIn .ascending (.ofNat 6) Cluster.morning).2.insert (needing 2 6)

/-- A task is put in again with other needs, and what it needs now becomes available. -/
def replacedStore : Store :=
  (((({} : Store).insert (needing 3 7)).insert (needing 3 8)).resolveDataIn .ascending (.ofNat 8)
    Cluster.morning).2

/-- A record that needs one data object is forgotten if it is in creation when that is settled. -/
theorem forgets_of (data : DataId)
    (found : (s.get? task).map (fun t => (t.status, t.dependencies.toList)) = some (.creating, [data]))
    (settled : data ∈ s.available.toList ∨ data ∈ s.aborted.toList) :
    s.Forgets task := by
  obtain ⟨t, ht, facts⟩ := Option.map_eq_some_iff.mp found
  obtain ⟨creating, needs⟩ := Prod.mk.inj facts
  refine ⟨t, ht, creating, fun x needed => ?_⟩
  have listed : x ∈ t.dependencies.toList := needed
  rw [needs] at listed
  rw [List.mem_singleton.mp listed]
  exact settled

/-- Tasks are forgotten that are put in after their data was settled, for better or worse, and a task
that is put in again while the version before it waits for something else. -/
theorem not_always_woken :
    (Arises IsGiven lateStore ∧ lateStore.Forgets (.ofNat 1)) ∧
    (Arises IsGiven hopelessStore ∧ hopelessStore.Forgets (.ofNat 2)) ∧
    (Arises IsGiven replacedStore ∧ replacedStore.Forgets (.ofNat 3)) := by
  refine ⟨⟨?_, ?_⟩, ⟨?_, ?_⟩, ⟨?_, ?_⟩⟩
  · exact .inserted (.resolved .empty _ _ _) _ (needing_isGiven _ 1 5)
  · exact forgets_of (.ofNat 5) (by decide +kernel) (.inl (by decide +kernel))
  · exact .inserted (.aborted .empty _ _ _) _ (needing_isGiven _ 2 6)
  · exact forgets_of (.ofNat 6) (by decide +kernel) (.inr (by decide +kernel))
  · have first : Arises IsGiven (({} : Store).insert (needing 3 7)) :=
      .inserted .empty _ (needing_isGiven _ 3 7)
    exact .resolved (.inserted first _ (needing_isGiven _ 3 8)) _ _ _
  · exact forgets_of (.ofNat 8) (by decide +kernel) (.inl (by decide +kernel))

end GridAgent.Store
