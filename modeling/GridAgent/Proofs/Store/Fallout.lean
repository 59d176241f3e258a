import GridAgent.Proofs.Store.Settling
import GridAgent.Proofs.Store.Visits

/-!
# What follows when results are given up

Whoever waits for a result that will never be there fails, if it is in creation or held back, and its
own results will never be there either. Giving up one such result after the other moves tasks that
fail for it and no others, each of them once. The edges that go with it lead to results that were given
up, or belong to tasks that have failed or could not wait.
-/

namespace GridAgent.Store

variable {s s' : Store} {t : TaskRecord} {x : TaskId} {data : DataId} {moved : List TaskId}
  {given : List DataId}

/-- Statuses out of which a task fails for its inputs. -/
def waitingStatuses : List TaskStatus := [.creating, .pending]

/-- The tasks that fail when the outputs of a task are given up: those that are in creation or held
back, and wait for one of the outputs or for one of somebody else who fails. -/
inductive FailsFor (s : Store) (t : TaskRecord) : TaskId → Prop where
  /-- It waits for an output of the task. -/
  | first {x : TaskId} {data : DataId} (output : data ∈ t.outputs)
    (waits : x ∈ s.dependencies.waitingFor data) (status : s.hasStatus x waitingStatuses = true) :
    FailsFor s t x
  /-- It waits for an output of a task that fails. -/
  | next {x y : TaskId} {r : TaskRecord} {data : DataId} (fails : FailsFor s t y)
    (stored : s.get? y = some r) (output : data ∈ r.outputs)
    (waits : x ∈ s.dependencies.waitingFor data) (status : s.hasStatus x waitingStatuses = true) :
    FailsFor s t x

/-- The data will never be there when the outputs of a task are given up. -/
def LostWith (s : Store) (t : TaskRecord) (data : DataId) : Prop :=
  data ∈ t.outputs ∨ ∃ y r, s.FailsFor t y ∧ s.get? y = some r ∧ data ∈ r.outputs

/-- Whoever waits for lost data fails. -/
theorem FailsFor.of_lost (lost : s.LostWith t data) (waits : x ∈ s.dependencies.waitingFor data)
    (status : s.hasStatus x waitingStatuses = true) : s.FailsFor t x := by
  rcases lost with output | ⟨y, r, fails, stored, output⟩
  · exact .first output waits status
  · exact .next fails stored output waits status

/-- Some lost data has been given up, and some of the tasks that fail for it have been moved. -/
structure Fallout (s : Store) (t : TaskRecord) (moved : List TaskId) (given : List DataId)
    (s' : Store) : Prop where
  /-- Each is moved once. -/
  once : moved.Nodup
  /-- Nobody is moved who does not fail. -/
  due : ∀ x ∈ moved, s.FailsFor t x
  /-- Whoever is moved has ended with an error. -/
  failed : ∀ x ∈ moved, ∃ r data now, s.get? x = some r ∧ s.LostWith t data ∧
    x ∈ s.dependencies.waitingFor data ∧
      s'.get? x = some (r.apply (TaskUpdate.finish .error (abortedInput data) now))
  /-- Everybody else is as before. -/
  others : ∀ x, x ∉ moved → s'.get? x = s.get? x
  /-- That is what is written. -/
  log : s'.log = s.log ++ moved.map fun x => (x, .error)
  /-- Nothing is given up that is not lost. -/
  lost : ∀ data ∈ given, s.LostWith t data
  /-- Data that is given up is recorded so. -/
  aborted : ∀ data, data ∈ s'.aborted ↔ data ∈ s.aborted ∨ data ∈ given
  /-- Both sides of the index hold the same edges. -/
  mirrored : s'.dependencies.Mirrored
  /-- No edge is new. -/
  sheds : ∀ data, s'.dependencies.waitingFor data ⊆ s.dependencies.waitingFor data
  /-- Edges go with whoever is moved, and with those that could not fail. -/
  keeps : ∀ data, ∀ x ∈ s.dependencies.waitingFor data, x ∉ moved →
    s.hasStatus x waitingStatuses = true → x ∈ s'.dependencies.waitingFor data
  /-- Nobody waits for data that is given up. -/
  closed : ∀ data ∈ given, s'.dependencies.waitingFor data = []
  /-- Nothing else has changed. -/
  rest : s' = { s with
    tasks := s'.tasks, dependencies := s'.dependencies, aborted := s'.aborted, log := s'.log }

/-- Nothing has been given up. -/
theorem Fallout.begin (mirrored : s.dependencies.Mirrored) (t : TaskRecord) :
    Fallout s t [] [] s where
  once := .nil
  due := nofun
  failed := nofun
  others _ _ := rfl
  log := (List.append_nil _).symm
  lost := nofun
  aborted data := by simp
  mirrored := mirrored
  sheds _ := List.Subset.refl _
  keeps _ _ waits _ _ := waits
  closed := nofun
  rest := rfl

/-- Whoever is moved could fail no more. -/
theorem Fallout.not_waiting (h : Fallout s t moved given s') (hx : x ∈ moved) :
    s'.hasStatus x waitingStatuses = false := by
  obtain ⟨r, data, now, -, -, -, ended⟩ := h.failed x hx
  unfold hasStatus
  rw [ended]
  show waitingStatuses.contains (r.apply _).status = false
  rw [TaskRecord.apply_status]
  rfl

/-- Whoever has not been moved has the status it had. -/
theorem Fallout.hasStatus (h : Fallout s t moved given s') (hx : x ∉ moved)
    (statuses : List TaskStatus) : s'.hasStatus x statuses = s.hasStatus x statuses := by
  unfold Store.hasStatus
  rw [h.others x hx]

/-- Whoever fails for data that is given up next has not been moved, and was going to fail. -/
theorem Fallout.fails_next (h : Fallout s t moved given s') (lost : s.LostWith t data)
    (hx : x ∈ s'.failedBy data) :
    x ∉ moved ∧ x ∈ s.dependencies.waitingFor data ∧ s.FailsFor t x := by
  obtain ⟨waits, status⟩ := List.mem_filter.mp hx
  have stays : x ∉ moved := fun hm => by
    have ended := h.not_waiting hm
    exact Bool.false_ne_true (ended.symm.trans status)
  have waited := h.sheds data waits
  have before : s.hasStatus x waitingStatuses = true := (h.hasStatus stays _).symm.trans status
  exact ⟨stays, waited, .of_lost lost waited before⟩

/-- Edges to other data stay with whoever does not fail. -/
theorem Fallout.keeps_next (h : Fallout s t moved given s') {other : DataId}
    (waits : x ∈ s.dependencies.waitingFor other) (stays : x ∉ moved)
    (status : s.hasStatus x waitingStatuses = true) (spared : x ∉ s'.failedBy data) :
    x ∈ (s'.dependencies.abort data).2.waitingFor other := by
  have kept := h.keeps other x waits stays status
  have now : s'.hasStatus x waitingStatuses = true := (h.hasStatus stays _).trans status
  have elsewhere : x ∉ s'.dependencies.waitingFor data :=
    fun here => spared (List.mem_filter.mpr ⟨here, now⟩)
  have needs : other ∈ s'.dependencies.awaitedBy x := (h.mirrored x other).mp kept
  rw [h.mirrored.abort data x other, Dependencies.mem_awaitedBy_abort]
  exact ⟨needs, elsewhere⟩

/-- Nobody waits for the data that is given up last. -/
theorem waitingFor_abort_self {g : Dependencies} (mirrored : g.Mirrored) (data : DataId) :
    (g.abort data).2.waitingFor data = [] := by
  refine List.eq_nil_iff_forall_not_mem.mpr fun x waits => ?_
  have needs := (mirrored.abort data x data).mp waits
  rw [Dependencies.mem_awaitedBy_abort, ← mirrored x data] at needs
  exact needs.2 needs.1

/-- Giving up one more piece of lost data moves those that fail for it. -/
theorem Fallout.giveUp (h : Fallout s t moved given s') (lost : s.LostWith t data) (visit : Visit)
    (now : Date) : Fallout s t (moved ++ (s'.abortDataIn visit data now).1) (data :: given)
      (s'.abortDataIn visit data now).2 := by
  have visited := s'.failedIn_perm visit data
  have records (x : TaskId) : (s'.abortDataIn visit data now).2.get? x =
      if x ∈ s'.failedBy data then
        (s'.get? x).map (·.apply (TaskUpdate.finish .error (abortedInput data) now))
      else s'.get? x := by
    rw [records_abortDataIn, get?_abortData]
  rw [abortDataIn_eq] at records ⊢
  have answer {x : TaskId} : x ∈ s'.failedIn visit data ↔ x ∈ s'.failedBy data := visited.mem_iff
  constructor
  · have fresh := visited.nodup_iff.mpr (s'.nodup_failedBy data)
    refine List.nodup_append.mpr ⟨h.once, fresh, ?_⟩
    rintro x hx _ hx' rfl
    exact (h.fails_next lost (answer.mp hx')).1 hx
  · intro x hx
    rcases List.mem_append.mp hx with hx | hx
    · exact h.due x hx
    · exact (h.fails_next lost (answer.mp hx)).2.2
  · intro x hx
    rcases List.mem_append.mp hx with hx | hx
    · have spared : x ∉ s'.failedBy data := fun hx' => (h.fails_next lost hx').1 hx
      rw [records, if_neg spared]
      exact h.failed x hx
    · have fails := answer.mp hx
      obtain ⟨stays, waited, -⟩ := h.fails_next lost fails
      obtain ⟨r, stored, -⟩ := waiting_of_failedBy fails
      refine ⟨r, data, now, (h.others x stays).symm.trans stored, lost, waited, ?_⟩
      rw [records, if_pos fails, stored]
      rfl
  · intro x hx
    rw [List.mem_append, not_or, answer] at hx
    rw [records, if_neg hx.2]
    exact h.others x hx.1
  · rw [List.map_append, ← List.append_assoc, ← h.log]
  · exact List.forall_mem_cons.mpr ⟨lost, h.lost⟩
  · intro other
    show other ∈ s'.aborted.insert data ↔ _
    rw [IdSet.mem_insert, h.aborted, List.mem_cons, or_left_comm]
  · exact h.mirrored.abort data
  · intro other
    exact List.Subset.trans (s'.dependencies.waitingFor_abort data other) (h.sheds other)
  · intro other x waits stays status
    rw [List.mem_append, not_or, answer] at stays
    exact h.keeps_next waits stays.1 status stays.2
  · refine List.forall_mem_cons.mpr ⟨waitingFor_abort_self h.mirrored data, fun other before => ?_⟩
    have shed := s'.dependencies.waitingFor_abort data other
    rw [h.closed other before] at shed
    exact List.subset_nil.mp shed
  · rw [h.rest]
    rfl

/-- Where the outputs of the task and of everybody who was moved have been given up, all that fail
have been moved. -/
theorem Fallout.complete (h : Fallout s t moved given s') (own : t.outputs ⊆ given)
    (theirs : ∀ x ∈ moved, ∀ r, s.get? x = some r → r.outputs ⊆ given) :
    (∀ x, x ∈ moved ↔ s.FailsFor t x) ∧ ∀ data, data ∈ given ↔ s.LostWith t data := by
  have moves {x : TaskId} {data : DataId} (settled : data ∈ given)
      (waits : x ∈ s.dependencies.waitingFor data)
      (status : s.hasStatus x waitingStatuses = true) : x ∈ moved := by
    by_contra stays
    have kept := h.keeps data x waits stays status
    rw [h.closed data settled] at kept
    cases kept
  have all : ∀ x, s.FailsFor t x → x ∈ moved := by
    intro x fails
    induction fails with
    | first output waits status => exact moves (own output) waits status
    | next _ stored output waits status ih => exact moves (theirs _ ih _ stored output) waits status
  refine ⟨fun x => ⟨h.due x, all x⟩, fun data => ⟨h.lost data, ?_⟩⟩
  rintro (output | ⟨y, r, fails, stored, output⟩)
  · exact own output
  · exact theirs y (all y fails) r stored output

end GridAgent.Store
