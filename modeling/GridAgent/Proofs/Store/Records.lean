import GridAgent.Proofs.Status
import GridAgent.Store

/-!
# What calls do to the records

A call that fails changes only the number of failures to come. An update changes one record that is
as expected, a successor is stored under its own identifier, and data that is settled moves the
tasks that wait for it: each of them once, and only out of creation or from being held back. No call
removes a record or stores it under another identifier.
-/

namespace GridAgent

/-- The members of a set come once. -/
theorem IdSet.nodup {kind : IdKind} (s : IdSet kind) : s.toList.Nodup := by
  refine s.ascending.imp ?_
  rintro a b hab rfl
  exact absurd hab (BitVec.lt_irrefl _)

theorem IdSet.not_mem_of_isEmpty {kind : IdKind} {s : IdSet kind} (h : s.isEmpty = true) {x : Id kind} :
    ¬ x ∈ s := by
  intro hx
  have members : x ∈ s.toList := hx
  rw [List.isEmpty_iff.mp h] at members
  cases members

theorem IdSet.eq_empty_of_forall_not_mem {kind : IdKind} {s : IdSet kind} (h : ∀ x, ¬ x ∈ s) :
    s = .empty := by
  obtain ⟨members, ascending⟩ := s
  obtain rfl : members = [] := List.eq_nil_iff_forall_not_mem.mpr h
  rfl

namespace TaskRecord

@[simp] theorem apply_id (t : TaskRecord) (u : TaskUpdate) : (t.apply u).id = t.id := by
  unfold apply changeOwner
  cases u.owner <;> cases u.ended <;> rfl

@[simp] theorem apply_status (t : TaskRecord) (u : TaskUpdate) : (t.apply u).status = u.status := by
  unfold apply changeOwner
  cases u.owner <;> cases u.ended <;> rfl

/-- The owner after an update. -/
theorem apply_owner (t : TaskRecord) (u : TaskUpdate) :
    (t.apply u).owner = match u.owner with
      | .keep => t.owner
      | .assign pod _ => some pod
      | .clear => none := by
  unfold apply changeOwner
  cases u.owner <;> cases u.ended <;> rfl

end TaskRecord

namespace Expectation

/-- The record has one of the expected statuses. -/
theorem status_mem {e : Expectation} {t : TaskRecord} (h : e.holds t = true) :
    t.status ∈ e.statuses := by
  simp only [holds, Bool.and_eq_true, List.contains_iff_mem] at h
  exact h.2

/-- The record has the expected owner. -/
theorem owner_of_holds {e : Expectation} {t : TaskRecord} {pod : PodId} (h : e.holds t = true)
    (ho : e.owner = .is pod) : t.owner = some pod := by
  simp only [holds, ho, OwnerMatch.holds, TaskRecord.isOwnedBy, Bool.and_eq_true,
    decide_eq_true_eq] at h
  exact h.1

end Expectation

namespace Store

variable {s s' : Store} {task : TaskId}

/-- Nothing but the number of failures to come differs. -/
def SameContent (s s' : Store) : Prop := ∃ failures, s' = { s with failures }

theorem SameContent.refl (s : Store) : SameContent s s := ⟨s.failures, rfl⟩

/-- A call fails for now, or is what it is. -/
theorem fallible_cases {α : Type} (call : Call α) (s : Store) :
    (∃ reason, (call.fallible s).1 = .error (.unavailable reason) ∧
      SameContent s (call.fallible s).2) ∨ call.fallible s = call s := by
  unfold Call.fallible
  split
  · exact .inl ⟨_, rfl, _, rfl⟩
  · exact .inr rfl

/-- A call does not fail while no failures are left. -/
theorem fallible_of_healthy {α : Type} (call : Call α) (h : s.failures = 0) :
    call.fallible s = call s := by
  simp [Call.fallible, h]

/-- A call leaves no more failures to come than there were. -/
theorem failures_fallible_le {α : Type} {call : Call α} (h : (call s).2.failures = s.failures) :
    (call.fallible s).2.failures ≤ s.failures := by
  unfold Call.fallible
  split
  · exact Nat.sub_le _ _
  · exact Nat.le_of_eq h

/-- What reading does: it fails for now, or answers the record. -/
theorem read_cases (task : TaskId) (s : Store) :
    (∃ reason, (read task s).1 = .error (.unavailable reason) ∧ SameContent s (read task s).2) ∨
    read task s = (.ok (s.get? task), s) :=
  fallible_cases _ s

/-- Reading changes nothing. -/
theorem read_sameContent (task : TaskId) (s : Store) : SameContent s (read task s).2 := by
  rcases read_cases task s with ⟨_, -, same⟩ | answered
  · exact same
  · exact answered ▸ .refl s

/-- What finding a successor does: it fails for now, or changes nothing. -/
theorem findSuccessor_sameContent (task : TaskId) (s : Store) :
    SameContent s (findSuccessor task s).2 := by
  rcases fallible_cases (fun s => (.ok (s.successor? task), s)) s with ⟨reason, -, hs⟩ | h
  · exact hs
  · exact (congrArg (SameContent s ·.2) h).mpr (.refl s)

/-- What an update does: it fails for now, finds nothing, is lost, or is written. -/
theorem update_cases (task : TaskId) (expected : Expectation) (change : TaskUpdate) (s : Store) :
    (∃ reason, (update task expected change s).1 = .error (.unavailable reason) ∧
      SameContent s (update task expected change s).2) ∨
    (s.get? task = none ∧ update task expected change s = (.error (.notFound task), s)) ∨
    (∃ record, s.get? task = some record ∧ expected.holds record = false ∧
      update task expected change s = (.error (.conflict ⟨record.status, record.owner⟩), s)) ∨
    (∃ record, s.get? task = some record ∧ expected.holds record = true ∧
      update task expected change s = (.ok (record.apply change),
        { s with
          tasks := s.tasks.set task (record.apply change)
          log := s.log ++ [(task, change.status)] })) := by
  unfold update
  refine (fallible_cases _ s).imp_right fun h => ?_
  rw [h]
  cases hr : s.get? task with
  | none => exact .inl ⟨rfl, rfl⟩
  | some record =>
    right
    by_cases he : expected.holds record = true
    · exact .inr ⟨record, rfl, he, by simp [he]⟩
    · exact .inl ⟨record, rfl, by simpa using he, by simp [he]⟩

/-- What an update of a stored record does while no failures are left: it is lost, or written. -/
theorem update_of_healthy {expected : Expectation} {record : TaskRecord} (h : s.failures = 0)
    (hr : s.get? task = some record) (change : TaskUpdate) :
    update task expected change s =
      if expected.holds record then
        (.ok (record.apply change),
          { s with
            tasks := s.tasks.set task (record.apply change)
            log := s.log ++ [(task, change.status)] })
      else (.error (.conflict ⟨record.status, record.owner⟩), s) := by
  unfold update
  rw [fallible_of_healthy _ h]
  simp [hr]

/-- An update reaches the store while no failures are left. -/
theorem update_ne_unavailable (h : s.failures = 0) (expected : Expectation) (change : TaskUpdate)
    (reason : String) : (update task expected change s).1 ≠ .error (.unavailable reason) := by
  unfold update
  rw [fallible_of_healthy _ h]
  split
  · nofun
  · split <;> nofun

theorem failures_update_le (task : TaskId) (expected : Expectation) (change : TaskUpdate)
    (s : Store) : (update task expected change s).2.failures ≤ s.failures := by
  refine failures_fallible_le ?_
  split
  · rfl
  · split <;> rfl

theorem failures_createSuccessor_le (parent candidate : TaskRecord) (s : Store) :
    (createSuccessor parent candidate s).2.failures ≤ s.failures := by
  refine failures_fallible_le ?_
  split <;> rfl

/-- What the creation of a successor does: it fails for now, finds one, or stores the candidate. -/
theorem createSuccessor_cases (parent candidate : TaskRecord) (s : Store) :
    (∃ reason, (createSuccessor parent candidate s).1 = .error (.unavailable reason) ∧
      SameContent s (createSuccessor parent candidate s).2) ∨
    (∃ existing, s.successor? parent.id = some existing ∧
      createSuccessor parent candidate s = (.ok existing, s)) ∨
    (s.successor? parent.id = none ∧
      createSuccessor parent candidate s = (.ok candidate,
        { s with successors := s.successors.set parent.id candidate.id }.insert candidate)) := by
  unfold createSuccessor
  refine (fallible_cases _ s).imp_right fun h => ?_
  rw [h]
  cases hs : s.successor? parent.id with
  | some existing => exact .inl ⟨existing, rfl, rfl⟩
  | none => exact .inr ⟨rfl, rfl⟩

/-- The records after one is put in. -/
theorem get?_insert (s : Store) (record : TaskRecord) (task : TaskId) :
    (s.insert record).get? task =
      if task = record.id then some (s.withoutAvailable record) else s.get? task :=
  Table.get?_set s.tasks record.id task (s.withoutAvailable record)

/-- A record that waits for nothing is stored as one that waits for nothing. -/
theorem remaining_withoutAvailable {record : TaskRecord} (ready : record.remaining = .empty) :
    (s.withoutAvailable record).remaining = .empty := by
  unfold withoutAvailable
  rw [ready]
  rfl

/-- A parent whose recorded successor would be stored has none recorded if none is found. -/
theorem unrecorded {parent : TaskId}
    (stored : ∀ heir, s.successors.get? parent = some heir → ∃ t, s.get? heir = some t)
    (missing : s.successor? parent = none) : s.successors.get? parent = none := by
  cases hs : s.successors.get? parent with
  | none => rfl
  | some heir =>
    obtain ⟨t, ht⟩ := stored heir hs
    have found : s.successor? parent = some t := by
      unfold successor?
      rw [hs]
      exact ht
    cases missing.symm.trans found

/-- The records after some of them are changed, each once. -/
theorem get?_modifyAll {tasks : List TaskId} (hn : tasks.Nodup) (f : TaskRecord → TaskRecord)
    (s : Store) (task : TaskId) :
    (s.modifyAll tasks f).get? task = if task ∈ tasks then (s.get? task).map f else s.get? task := by
  suffices h : ∀ records : Table TaskId TaskRecord,
      (tasks.foldl (fun records task => records.modify task f) records).get? task =
        if task ∈ tasks then (records.get? task).map f else records.get? task from h s.tasks
  induction tasks with
  | nil => simp
  | cons first rest ih =>
    obtain ⟨hf, hr⟩ := List.nodup_cons.mp hn
    intro records
    rw [List.foldl_cons, ih hr, Table.get?_modify]
    by_cases e : task = first
    · simp [e, hf]
    · simp [e]

/-- The records after an update is written to some of them. -/
theorem get?_writeAll {tasks : List TaskId} (hn : tasks.Nodup) (change : TaskUpdate) (s : Store)
    (task : TaskId) :
    (s.writeAll tasks change).get? task =
      if task ∈ tasks then (s.get? task).map (·.apply change) else s.get? task :=
  get?_modifyAll hn _ s task

/-- A stored status is that of a stored record. -/
theorem hasStatus_iff {statuses : List TaskStatus} :
    s.hasStatus task statuses = true ↔ ∃ record, s.get? task = some record ∧
      record.status ∈ statuses := by
  unfold hasStatus
  cases s.get? task <;> simp

/-- Nobody is listed twice as waiting for data. -/
theorem nodup_waitingFor (s : Store) (data : DataId) : (s.dependencies.waitingFor data).Nodup :=
  IdSet.nodup _

theorem map_fst_resolve (s : Store) (data : DataId) :
    (s.dependencies.resolve data).1.map Prod.fst = s.dependencies.waitingFor data := by
  simp [Dependencies.resolve, Function.comp_def]

/-- The store once data is available and nobody waits for it any more. -/
def satisfy (s : Store) (data : DataId) : Store :=
  { s with
    available := s.available.insert data
    dependencies := (s.dependencies.resolve data).2 }.modifyAll
      ((s.dependencies.resolve data).1.map Prod.fst)
      fun t => { t with remaining := t.remaining.erase data }

/-- The tasks that become submitted once data is available. -/
def unblockedBy (s : Store) (data : DataId) : List TaskId :=
  ((s.dependencies.resolve data).1.filter fun w =>
    w.2 && (s.satisfy data).hasStatus w.1 [.creating]).map Prod.fst

/-- The tasks that fail once data is given up. -/
def failedBy (s : Store) (data : DataId) : List TaskId :=
  (s.dependencies.waitingFor data).filter fun task => s.hasStatus task [.creating, .pending]

theorem resolveData_eq (s : Store) (data : DataId) (now : Date) :
    s.resolveData data now = (s.unblockedBy data,
      (s.satisfy data).writeAll (s.unblockedBy data)
        { status := .submitted, submitted := some now }) := rfl

/-- The output of a task whose input was given up. -/
def abortedInput (data : DataId) : Output :=
  .failure ("input data " ++ data.toString ++ " was aborted")

theorem abortData_eq (s : Store) (data : DataId) (now : Date) :
    s.abortData data now = (s.failedBy data,
      { s with
        aborted := s.aborted.insert data
        dependencies := (s.dependencies.abort data).2 }.writeAll (s.failedBy data)
          (TaskUpdate.finish .error (abortedInput data) now)) := rfl

theorem nodup_unblockedBy (s : Store) (data : DataId) : (s.unblockedBy data).Nodup := by
  have hn : ((s.dependencies.resolve data).1.map Prod.fst).Nodup := by
    rw [map_fst_resolve]
    exact s.nodup_waitingFor data
  exact hn.sublist (List.filter_sublist.map Prod.fst)

theorem nodup_failedBy (s : Store) (data : DataId) : (s.failedBy data).Nodup :=
  (s.nodup_waitingFor data).filter _

/-- Available data leaves the records as they are, but for what they wait for. -/
theorem get?_satisfy (s : Store) (data : DataId) (task : TaskId) :
    (s.satisfy data).get? task =
      if task ∈ s.dependencies.waitingFor data then
        (s.get? task).map fun t => { t with remaining := t.remaining.erase data }
      else s.get? task := by
  unfold satisfy
  rw [map_fst_resolve]
  exact get?_modifyAll (s.nodup_waitingFor data) _ _ task

/-- Available data changes no status and no owner. -/
theorem get?_satisfy_cases (s : Store) (data : DataId) (task : TaskId) :
    (s.get? task = none ∧ (s.satisfy data).get? task = none) ∨
    ∃ record remaining, s.get? task = some record ∧
      (s.satisfy data).get? task = some { record with remaining } := by
  rw [get?_satisfy]
  cases s.get? task with
  | none => exact .inl ⟨rfl, by split <;> rfl⟩
  | some record =>
    right
    split
    · exact ⟨record, _, rfl, rfl⟩
    · exact ⟨record, record.remaining, rfl, rfl⟩

theorem hasStatus_satisfy (s : Store) (data : DataId) (task : TaskId) (statuses : List TaskStatus) :
    (s.satisfy data).hasStatus task statuses = s.hasStatus task statuses := by
  unfold hasStatus
  rcases s.get?_satisfy_cases data task with ⟨missing, satisfied⟩ | ⟨_, _, found, satisfied⟩
  · rw [missing, satisfied]
  · rw [found, satisfied]

/-- The records after data becomes available: those that wait for nothing any more are submitted. -/
theorem get?_resolveData (s : Store) (data : DataId) (now : Date) (task : TaskId) :
    (s.resolveData data now).2.get? task =
      if task ∈ s.unblockedBy data then
        ((s.satisfy data).get? task).map (·.apply { status := .submitted, submitted := some now })
      else (s.satisfy data).get? task :=
  get?_writeAll (s.nodup_unblockedBy data) _ _ task

/-- The records after data is given up: those that wait for it fail. -/
theorem get?_abortData (s : Store) (data : DataId) (now : Date) (task : TaskId) :
    (s.abortData data now).2.get? task =
      if task ∈ s.failedBy data then
        (s.get? task).map (·.apply (TaskUpdate.finish .error (abortedInput data) now))
      else s.get? task :=
  get?_writeAll (s.nodup_failedBy data) _ _ task

/-- Only tasks in creation become submitted. -/
theorem creating_of_unblockedBy {data : DataId} (h : task ∈ s.unblockedBy data) :
    ∃ record, s.get? task = some record ∧ record.status = .creating := by
  obtain ⟨w, hw, rfl⟩ := List.mem_map.mp h
  obtain ⟨-, hw⟩ := List.mem_filter.mp hw
  obtain ⟨record', hr', hs⟩ := hasStatus_iff.mp (Bool.and_eq_true_iff.mp hw).2
  rcases s.get?_satisfy_cases data w.1 with ⟨-, hn⟩ | ⟨record, remaining, hr, hr''⟩
  · rw [hn] at hr'
    cases hr'
  · rw [hr''] at hr'
    cases hr'
    exact ⟨record, hr, List.mem_singleton.mp hs⟩

/-- Only tasks in creation and those held back fail. -/
theorem waiting_of_failedBy {data : DataId} (h : task ∈ s.failedBy data) :
    ∃ record, s.get? task = some record ∧
      (record.status = .creating ∨ record.status = .pending) := by
  obtain ⟨-, hw⟩ := List.mem_filter.mp h
  obtain ⟨record, hr, hs⟩ := hasStatus_iff.mp hw
  simp only [List.mem_cons, List.not_mem_nil, or_false] at hs
  exact ⟨record, hr, hs⟩

/-- A record that goes on: it keeps its status and its owner, or it leaves creation or being held
back. -/
structure GoesOn (record record' : TaskRecord) : Prop where
  /-- The identifier stays. -/
  id : record'.id = record.id
  /-- The owner stays. -/
  owner : record'.owner = record.owner
  /-- The status stays, or it is one that comes next after waiting. -/
  status : record'.status = record.status ∨
    ((record.status = .creating ∨ record.status = .pending) ∧
      record'.status ∈ record.status.next)

theorem GoesOn.refl (record : TaskRecord) : GoesOn record record := ⟨rfl, rfl, .inl rfl⟩

/-- Produced data lets every record go on. -/
theorem resolveData_goesOn {data : DataId} {now : Date} {record : TaskRecord}
    (h : s.get? task = some record) :
    ∃ record', (s.resolveData data now).2.get? task = some record' ∧ GoesOn record record' ∧
      (record'.status = record.status ∨ task ∈ (s.resolveData data now).1) := by
  rw [get?_resolveData]
  rcases s.get?_satisfy_cases data task with ⟨hn, -⟩ | ⟨record, remaining, hr, hr'⟩
  · rw [h] at hn
    cases hn
  · obtain rfl := Option.some.inj (h.symm.trans hr)
    rw [hr']
    split
    · next hu =>
      obtain ⟨found, hf, hc⟩ := creating_of_unblockedBy hu
      obtain rfl := Option.some.inj (hf.symm.trans h)
      refine ⟨_, rfl, ⟨?_, ?_, .inr ⟨.inl hc, ?_⟩⟩, .inr hu⟩
      · exact TaskRecord.apply_id _ _
      · exact TaskRecord.apply_owner _ _
      · rw [TaskRecord.apply_status, hc]
        simp [TaskStatus.next]
    · exact ⟨_, rfl, ⟨rfl, rfl, .inl rfl⟩, .inl rfl⟩

/-- Data that is given up lets every record go on, and makes nothing submitted. -/
theorem abortData_goesOn {data : DataId} {now : Date} {record : TaskRecord}
    (h : s.get? task = some record) :
    ∃ record', (s.abortData data now).2.get? task = some record' ∧ GoesOn record record' ∧
      (record'.status = record.status ∨ record'.status = .error) := by
  rw [get?_abortData, h]
  split
  · next failed =>
    obtain ⟨found, hf, hw⟩ := waiting_of_failedBy failed
    obtain rfl := Option.some.inj (hf.symm.trans h)
    refine ⟨_, rfl, ⟨?_, ?_, .inr ⟨hw, ?_⟩⟩, .inr (TaskRecord.apply_status _ _)⟩
    · exact TaskRecord.apply_id _ _
    · exact TaskRecord.apply_owner _ _
    · rw [TaskRecord.apply_status]
      rcases hw with hw | hw <;> rw [hw] <;> simp [TaskStatus.next, TaskUpdate.finish]
  · exact ⟨record, rfl, .refl record, .inl rfl⟩

/-- Settled data stores nothing new. -/
theorem get?_resolveData_none {data : DataId} {now : Date} (h : s.get? task = none) :
    (s.resolveData data now).2.get? task = none := by
  rw [get?_resolveData]
  rcases s.get?_satisfy_cases data task with ⟨-, hn⟩ | ⟨record, remaining, hr, -⟩
  · rw [hn]
    split <;> rfl
  · rw [h] at hr
    cases hr

theorem get?_abortData_none {data : DataId} {now : Date} (h : s.get? task = none) :
    (s.abortData data now).2.get? task = none := by
  rw [get?_abortData, h]
  split <;> rfl

/-- Whoever fails for data that is given up has ended with an error. -/
theorem failed_of_abortData {data : DataId} {now : Date} (h : task ∈ (s.abortData data now).1) :
    ∃ record, (s.abortData data now).2.get? task = some record ∧ record.status = .error := by
  have failed : task ∈ s.failedBy data := h
  obtain ⟨record, hr, -⟩ := waiting_of_failedBy failed
  rw [get?_abortData, if_pos failed, hr]
  exact ⟨_, rfl, TaskRecord.apply_status _ _⟩

/-- What produced data logs. -/
theorem log_resolveData (s : Store) (data : DataId) (now : Date) :
    (s.resolveData data now).2.log =
      s.log ++ (s.resolveData data now).1.map fun task => (task, .submitted) := rfl

end Store

end GridAgent
