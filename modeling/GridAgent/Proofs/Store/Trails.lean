import GridAgent.Proofs.Store.Settling
import GridAgent.Proofs.Store.Visits

/-!
# Trails of an attempt in the store

An attempt leaves a trail: the statuses that it has written to one record, while all other records
stay as they are. Results that are produced or given up leave the trail alone; they move only tasks
that are in creation or held back.
-/

namespace GridAgent

namespace TaskRecord

/-- What a task is about, without what has happened to it. -/
def essence (t : TaskRecord) : TaskRecord :=
  { t with
    status := .creating, owner := none, ownerName := none, acquired := none, submitted := none
    started := none, ended := none, creationToEnd := none, processingToEnd := none, output := none }

/-- Updates do not touch what a task is about. -/
@[simp] theorem apply_essence (t : TaskRecord) (u : TaskUpdate) :
    (t.apply u).essence = t.essence := by
  unfold apply changeOwner
  cases u.owner <;> cases u.ended <;> rfl

/-- Records about the same agree in whatever does not depend on what has happened. -/
theorem eq_of_essence {α : Type} {t t' : TaskRecord} (f : TaskRecord → α)
    (same : t.essence = t'.essence) (about : ∀ t, f t.essence = f t) : f t = f t' := by
  rw [← about t, same, about]

/-- The task is in creation or held back. -/
def IsWaiting (t : TaskRecord) : Prop := t.status = .creating ∨ t.status = .pending

end TaskRecord

namespace Store

variable {first s s' s'' : Store} {task x : TaskId} {t r : TaskRecord} {statuses : List TaskStatus}
  {data : DataId} {now : Date} {outputs outputs' : List DataId} {woken woken' : List TaskId}

/-- The statuses written for a task after more entries in the log. -/
theorem transitionsOf_of_log {entries : List (TaskId × TaskStatus)} (h : s'.log = s.log ++ entries)
    (task : TaskId) : s'.transitionsOf task =
      s.transitionsOf task ++ (entries.filter fun e => e.1 = task).map Prod.snd := by
  unfold transitionsOf
  rw [h, List.filter_append, List.map_append]

/-- Entries for other tasks are none for this one. -/
theorem transitionsOf_of_others {tasks : List TaskId} {status : TaskStatus}
    (h : s'.log = s.log ++ tasks.map fun x => (x, status)) (other : task ∉ tasks) :
    s'.transitionsOf task = s.transitionsOf task := by
  rw [transitionsOf_of_log h, List.filter_eq_nil_iff.mpr, List.map_nil, List.append_nil]
  intro e he
  obtain ⟨x, hx, rfl⟩ := List.mem_map.mp he
  exact fun same => other (of_decide_eq_true same ▸ hx)

/-! One record is written. -/

/-- The store with another version of a record. -/
def write (s : Store) (task : TaskId) (r : TaskRecord) : Store :=
  { s with tasks := s.tasks.set task r, log := s.log ++ [(task, r.status)] }

theorem get?_write (s : Store) (task : TaskId) (r : TaskRecord) (x : TaskId) :
    (s.write task r).get? x = if x = task then some r else s.get? x :=
  Table.get?_set ..

@[simp] theorem get?_write_self (s : Store) (task : TaskId) (r : TaskRecord) :
    (s.write task r).get? task = some r :=
  (get?_write ..).trans (if_pos rfl)

/-- What is stored is not what is not. -/
theorem ne_of_unknown (missing : s.get? x = none) (stored : s.get? task = some t) : x ≠ task := by
  rintro rfl
  cases missing.symm.trans stored

/-- What is not stored is not stored with another version of a task. -/
theorem unknown_write (stored : s.get? task = some t) {r : TaskRecord} (missing : s.get? x = none) :
    (s.write task r).get? x = none :=
  (get?_write ..).trans ((if_neg (ne_of_unknown missing stored)).trans missing)

/-- No task appears with another version of one. -/
theorem keys_write (stored : s.get? task = some t) (r : TaskRecord) :
    (s.write task r).tasks.keys = s.tasks.keys := by
  have here : task ∈ s.tasks.keys := Table.mem_keys.mpr (Option.isSome_iff_exists.mpr ⟨t, stored⟩)
  exact (Table.keys_setIn ..).trans (if_pos here)

/-- No successor appears with another version of a task. -/
theorem successor?_write (stored : s.get? task = some t) (r : TaskRecord)
    (missing : s.successor? x = none) : (s.write task r).successor? x = none := by
  unfold successor? at *
  show (s.successors.get? x).bind (s.write task r).get? = none
  cases hx : s.successors.get? x with
  | none => rfl
  | some heir =>
    rw [hx] at missing
    exact unknown_write stored missing

/-- An update that is expected is written. -/
theorem update_of_holds {expected : Expectation} (healthy : s.failures = 0)
    (stored : s.get? task = some r) (holds : expected.holds r = true) (change : TaskUpdate) :
    update task expected change s = (.ok (r.apply change), s.write task (r.apply change)) := by
  rw [update_of_healthy healthy stored, if_pos holds, write, TaskRecord.apply_status]

/-- The record of a task has gone through statuses since the start, and nothing else has changed. -/
structure Trail (first : Store) (t : TaskRecord) (statuses : List TaskStatus) (s : Store)
    (r : TaskRecord) : Prop where
  /-- The record is stored. -/
  stored : s.get? t.id = some r
  /-- It is one of the same task. -/
  same : r.essence = t.essence
  /-- The statuses were written for it. -/
  transitions : s.transitionsOf t.id = first.transitionsOf t.id ++ statuses
  /-- Other records are as they were. -/
  others : ∀ x, x ≠ t.id → s.get? x = first.get? x
  /-- The same tasks are stored. -/
  ids : s.tasks.keys = first.tasks.keys
  /-- Nothing else has changed. -/
  rest : s = { first with tasks := s.tasks, log := s.log }

theorem Trail.begin (stored : first.get? t.id = some t) : Trail first t [] first t :=
  ⟨stored, rfl, (List.append_nil _).symm, fun _ _ => rfl, rfl, rfl⟩

/-- Another version of the record goes on with the trail. -/
theorem Trail.write (h : Trail first t statuses s r) (change : TaskUpdate) :
    Trail first t (statuses ++ [change.status]) (s.write t.id (r.apply change)) (r.apply change) where
  stored := get?_write_self ..
  same := (TaskRecord.apply_essence r change).trans h.same
  transitions := by
    have log : (s.write t.id (r.apply change)).log = s.log ++ [(t.id, (r.apply change).status)] := rfl
    rw [transitionsOf_of_log log, h.transitions, List.append_assoc, TaskRecord.apply_status]
    simp
  others x other := ((get?_write ..).trans (if_neg other)).trans (h.others x other)
  ids := (keys_write h.stored _).trans h.ids
  rest := by
    rw [h.rest]
    rfl

/-- The store fails as it did at the start. -/
theorem Trail.failures (h : Trail first t statuses s r) : s.failures = first.failures := by
  rw [h.rest]

/-- Successors are what they were. -/
theorem Trail.successors (h : Trail first t statuses s r) : s.successors = first.successors := by
  rw [h.rest]

/-- What was not stored is not. -/
theorem Trail.unknown (h : Trail first t statuses s r) (missing : first.get? x = none) :
    s.get? x = none := by
  have absent : x ∉ first.tasks.keys := fun hx => by
    obtain ⟨found, hf⟩ := Option.isSome_iff_exists.mp (Table.mem_keys.mp hx)
    cases missing.symm.trans hf
  rw [← h.ids, Table.mem_keys] at absent
  exact Option.not_isSome_iff_eq_none.mp absent

/-- Without a successor at the start there is none. -/
theorem Trail.lone (h : Trail first t statuses s r) (missing : first.successor? x = none) :
    s.successor? x = none := by
  unfold successor? at *
  rw [h.successors]
  cases hx : first.successors.get? x with
  | none => rfl
  | some heir =>
    rw [hx] at missing
    exact h.unknown missing

/-! Results that are given up. -/

/-- Data was given up: whoever waited may have failed, and nobody else has moved. -/
structure GaveUp (s s' : Store) : Prop where
  /-- Records stay, but for those of tasks that waited and have failed. -/
  records : ∀ x r, s.get? x = some r → s'.get? x = some r ∨
    r.IsWaiting ∧ ∃ r', s'.get? x = some r' ∧ r'.status = .error ∧ r'.essence = r.essence
  /-- No task appears. -/
  unknown : ∀ x, s.get? x = none → s'.get? x = none
  /-- Nothing is written for tasks that do not wait. -/
  log : ∀ x, (∀ r, s.get? x = some r → ¬ r.IsWaiting) → s'.transitionsOf x = s.transitionsOf x
  /-- What was given up stays so. -/
  grows : ∀ data ∈ s.aborted, data ∈ s'.aborted
  /-- Successors stay. -/
  successors : s'.successors = s.successors
  /-- Available data stays. -/
  available : s'.available = s.available
  /-- The store fails as it did. -/
  failures : s'.failures = s.failures

theorem GaveUp.refl (s : Store) : GaveUp s s :=
  ⟨fun _ _ h => .inl h, fun _ h => h, fun _ _ => rfl, fun _ h => h, rfl, rfl, rfl⟩

theorem GaveUp.trans (h : GaveUp s s') (h' : GaveUp s' s'') : GaveUp s s'' where
  records x r hr := by
    rcases h.records x r hr with same | ⟨waiting, r', hr', failed, about⟩
    · exact h'.records x r same
    · rcases h'.records x r' hr' with same | ⟨waiting', -⟩
      · exact .inr ⟨waiting, r', same, failed, about⟩
      · rw [TaskRecord.IsWaiting, failed] at waiting'
        rcases waiting' with e | e <;> cases e
  unknown x hx := h'.unknown x (h.unknown x hx)
  log x settled := by
    refine (h'.log x fun r' hr' => ?_).trans (h.log x settled)
    cases hx : s.get? x with
    | none => cases (h.unknown x hx).symm.trans hr'
    | some r =>
      rcases h.records x r hx with same | ⟨waiting, -⟩
      · obtain rfl := Option.some.inj (same.symm.trans hr')
        exact settled r hx
      · exact absurd waiting (settled r hx)
  grows data hd := h'.grows data (h.grows data hd)
  successors := h'.successors.trans h.successors
  available := h'.available.trans h.available
  failures := h'.failures.trans h.failures

/-- Data is given up, whatever the order of the visits. -/
theorem gaveUp_abortDataIn (visit : Visit) (s : Store) (data : DataId) (now : Date) :
    GaveUp s (s.abortDataIn visit data now).2 where
  records x r hr := by
    rw [records_abortDataIn, get?_abortData, hr]
    split
    · next failed =>
      obtain ⟨found, hf, waiting⟩ := waiting_of_failedBy failed
      obtain rfl := Option.some.inj (hf.symm.trans hr)
      exact .inr ⟨waiting, _, rfl, TaskRecord.apply_status _ _, TaskRecord.apply_essence _ _⟩
    · exact .inl rfl
  unknown x missing := (records_abortDataIn visit s data now x).trans (get?_abortData_none missing)
  log x settled := by
    have log : (s.abortDataIn visit data now).2.log =
        s.log ++ (s.failedIn visit data).map fun task => (task, .error) := by rw [abortDataIn_eq]
    refine transitionsOf_of_others log fun failed => ?_
    obtain ⟨r, hr, waiting⟩ := waiting_of_failedBy ((s.failedIn_perm visit data).mem_iff.mp failed)
    exact settled r hr waiting
  grows _ hd := IdSet.mem_insert.mpr (.inr hd)
  successors := rfl
  available := rfl
  failures := rfl

/-- What a task that does not wait is stored as stays. -/
theorem GaveUp.kept (h : GaveUp s s') (stored : s.get? x = some r) (settled : ¬ r.IsWaiting) :
    s'.get? x = some r :=
  (h.records x r stored).resolve_right fun waiting => settled waiting.1

/-- Outputs were given up, and nobody is pushed. -/
structure LeftWithout (outputs : List DataId) (s s' : Store) (pushed : List TaskId) : Prop
    extends GaveUp s s' where
  /-- None of the outputs will be there. -/
  outputs : ∀ data ∈ outputs, data ∈ s'.aborted
  /-- Nobody is pushed. -/
  nobody : pushed = []

/-! Results that are produced. -/

/-- Outputs have become available: some tasks in creation are submitted, and otherwise records
change in what they wait for only. -/
structure Produced (s : Store) (outputs : List DataId) (woken : List TaskId) (s' : Store) : Prop where
  /-- Tasks in creation are submitted. -/
  moved : ∀ x ∈ woken, ∃ r r', s.get? x = some r ∧ r.status = .creating ∧ s'.get? x = some r' ∧
    r'.status = .submitted
  /-- Everybody else stays, and waits for less at most. -/
  stays : ∀ x, x ∉ woken → ∀ r, s.get? x = some r → ∃ remaining, s'.get? x = some { r with remaining }
  /-- No task appears. -/
  unknown : ∀ x, s.get? x = none → s'.get? x = none
  /-- Each is submitted once. -/
  once : woken.Nodup
  /-- That is what is written. -/
  log : s'.log = s.log ++ woken.map fun x => (x, .submitted)
  /-- The outputs are available, and so is what was. -/
  available : ∀ data, data ∈ s'.available ↔ data ∈ outputs ∨ data ∈ s.available
  /-- Successors stay. -/
  successors : s'.successors = s.successors
  /-- What was given up stays. -/
  aborted : s'.aborted = s.aborted
  /-- The store fails as it did. -/
  failures : s'.failures = s.failures
  /-- Both sides of the index go on to hold the same edges, without those to the outputs. -/
  mirrored : s.dependencies.Mirrored → s'.dependencies.Mirrored ∧ ∀ x data,
    data ∈ s'.dependencies.awaitedBy x ↔ data ∈ s.dependencies.awaitedBy x ∧ data ∉ outputs
  /-- Then those are submitted that were in creation and waited for outputs alone. -/
  exactly : s.dependencies.Mirrored → ∀ x, x ∈ woken ↔ s.hasStatus x [.creating] = true ∧
    (∃ data, data ∈ s.dependencies.awaitedBy x) ∧
      ∀ data ∈ s.dependencies.awaitedBy x, data ∈ outputs

theorem Produced.refl (s : Store) : Produced s [] [] s where
  moved x hx := nomatch hx
  stays x _ r hr := ⟨r.remaining, hr⟩
  unknown _ h := h
  once := .nil
  log := (List.append_nil _).symm
  available data := by simp
  successors := rfl
  aborted := rfl
  failures := rfl
  mirrored h := ⟨h, fun _ _ => by simp⟩
  exactly _ x := by
    refine iff_of_false List.not_mem_nil ?_
    rintro ⟨-, ⟨data, hd⟩, only⟩
    exact absurd (only data hd) List.not_mem_nil

/-- Whoever stays keeps the status. -/
theorem Produced.hasStatus (h : Produced s outputs woken s') {statuses : List TaskStatus}
    (stays : x ∉ woken) : s'.hasStatus x statuses = s.hasStatus x statuses := by
  unfold Store.hasStatus
  cases hx : s.get? x with
  | none => rw [h.unknown x hx]
  | some r =>
    obtain ⟨remaining, hr⟩ := h.stays x stays r hx
    rw [hr]

/-- Nobody who is submitted is still in creation. -/
theorem Produced.not_creating (h : Produced s outputs woken s') (hx : x ∈ woken) :
    ¬ s'.hasStatus x [.creating] = true := by
  obtain ⟨-, r', -, -, hr', submitted⟩ := h.moved x hx
  rw [hasStatus_iff]
  rintro ⟨found, hf, creating⟩
  obtain rfl := Option.some.inj (hf.symm.trans hr')
  rw [submitted] at creating
  simp at creating

theorem Produced.creating (h : Produced s outputs woken s') (hx : x ∈ woken) :
    s.hasStatus x [.creating] = true := by
  obtain ⟨r, -, hr, creating, -⟩ := h.moved x hx
  exact hasStatus_iff.mpr ⟨r, hr, List.mem_singleton.mpr creating⟩

/-- Whoever is submitted after both outputs was in creation before. -/
theorem Produced.moved_later (h : Produced s outputs woken s')
    (h' : Produced s' outputs' woken' s'') (hx : x ∈ woken') :
    ∃ r r', s.get? x = some r ∧ r.status = .creating ∧ s''.get? x = some r' ∧
      r'.status = .submitted := by
  obtain ⟨r', r'', hr', creating, hr'', submitted⟩ := h'.moved x hx
  have stays : x ∉ woken := fun early => h.not_creating early (h'.creating hx)
  cases hr : s.get? x with
  | none => cases (h.unknown x hr).symm.trans hr'
  | some r =>
    obtain ⟨remaining, same⟩ := h.stays x stays r hr
    obtain rfl := Option.some.inj (same.symm.trans hr')
    exact ⟨r, r'', rfl, creating, hr'', submitted⟩

/-- After both outputs those are submitted that were in creation and waited for these alone. -/
theorem Produced.exactly_both (h : Produced s outputs woken s')
    (h' : Produced s' outputs' woken' s'') (mirrored : s.dependencies.Mirrored) (x : TaskId) :
    x ∈ woken ++ woken' ↔ s.hasStatus x [.creating] = true ∧
      (∃ data, data ∈ s.dependencies.awaitedBy x) ∧
        ∀ data ∈ s.dependencies.awaitedBy x, data ∈ outputs ++ outputs' := by
  obtain ⟨mirrored', edges⟩ := h.mirrored mirrored
  rw [List.mem_append, h.exactly mirrored, h'.exactly mirrored']
  constructor
  · rintro (⟨creating, some', only⟩ | ⟨creating', ⟨data, hd⟩, only⟩)
    · exact ⟨creating, some', fun data hd => List.mem_append_left _ (only data hd)⟩
    · have stays : x ∉ woken := fun hx => h.not_creating hx creating'
      refine ⟨h.hasStatus stays ▸ creating', ⟨data, ((edges x data).mp hd).1⟩, fun d hd => ?_⟩
      by_cases early : d ∈ outputs
      · exact List.mem_append_left _ early
      · exact List.mem_append_right _ (only d ((edges x d).mpr ⟨hd, early⟩))
  · rintro ⟨creating, ⟨data, hd⟩, only⟩
    by_cases early : ∀ d ∈ s.dependencies.awaitedBy x, d ∈ outputs
    · exact .inl ⟨creating, ⟨data, hd⟩, early⟩
    · -- something is still waited for after the first outputs
      right
      have stays : x ∉ woken := fun hx => early ((h.exactly mirrored x).mp hx).2.2
      obtain ⟨d, late⟩ := Classical.not_forall.mp early
      obtain ⟨waits, later⟩ := Classical.not_imp.mp late
      refine ⟨(h.hasStatus stays).trans creating, ⟨d, (edges x d).mpr ⟨waits, later⟩⟩, ?_⟩
      intro d hd
      obtain ⟨waits, later⟩ := (edges x d).mp hd
      exact (List.mem_append.mp (only d waits)).resolve_left later

theorem Produced.trans (h : Produced s outputs woken s') (h' : Produced s' outputs' woken' s'') :
    Produced s (outputs ++ outputs') (woken ++ woken') s'' where
  moved x hx := by
    rcases List.mem_append.mp hx with early | late
    · obtain ⟨r, r', hr, creating, hr', submitted⟩ := h.moved x early
      have stays : x ∉ woken' := fun late => h.not_creating early (h'.creating late)
      obtain ⟨remaining, hr''⟩ := h'.stays x stays r' hr'
      exact ⟨r, _, hr, creating, hr'', submitted⟩
    · exact h.moved_later h' late
  stays x hx r hr := by
    obtain ⟨stays, stays'⟩ := not_or.mp (mt List.mem_append.mpr hx)
    obtain ⟨remaining, hr'⟩ := h.stays x stays r hr
    obtain ⟨remaining', hr''⟩ := h'.stays x stays' _ hr'
    exact ⟨remaining', hr''⟩
  unknown x hx := h'.unknown x (h.unknown x hx)
  once := by
    refine List.nodup_append.mpr ⟨h.once, h'.once, ?_⟩
    rintro x early _ late rfl
    exact h.not_creating early (h'.creating late)
  log := by rw [h'.log, h.log, List.map_append, List.append_assoc]
  available data := by
    rw [h'.available, h.available, List.mem_append, or_left_comm, or_assoc]
  successors := h'.successors.trans h.successors
  aborted := h'.aborted.trans h.aborted
  failures := h'.failures.trans h.failures
  mirrored mirrored := by
    obtain ⟨mirrored', edges⟩ := h.mirrored mirrored
    obtain ⟨mirrored'', edges'⟩ := h'.mirrored mirrored'
    refine ⟨mirrored'', fun x data => ?_⟩
    rw [edges', edges, List.mem_append, not_or, and_assoc]
  exactly mirrored x := h.exactly_both h' mirrored x

/-- One piece of data submits those that are in creation and wait for it alone. -/
theorem mem_unblockedBy_iff_alone (mirrored : s.dependencies.Mirrored) (data : DataId) (x : TaskId) :
    x ∈ s.unblockedBy data ↔ s.hasStatus x [.creating] = true ∧
      (∃ other, other ∈ s.dependencies.awaitedBy x) ∧
        ∀ other ∈ s.dependencies.awaitedBy x, other ∈ [data] := by
  rw [mem_unblockedBy, mirrored x data, hasStatus_satisfy]
  constructor
  · rintro ⟨waits, last, creating⟩
    refine ⟨creating, ⟨data, waits⟩, fun d hd => ?_⟩
    refine List.mem_singleton.mpr (Classical.byContradiction fun other => ?_)
    exact IdSet.not_mem_of_isEmpty last (IdSet.mem_erase.mpr ⟨hd, other⟩)
  · rintro ⟨creating, ⟨d, hd⟩, only⟩
    obtain rfl := List.mem_singleton.mp (only d hd)
    refine ⟨hd, ?_, creating⟩
    refine List.isEmpty_iff.mpr (List.eq_nil_iff_forall_not_mem.mpr fun x hx => ?_)
    obtain ⟨waits, other⟩ := IdSet.mem_erase.mp hx
    exact other (List.mem_singleton.mp (only x waits))

theorem produced_resolveData (s : Store) (data : DataId) (now : Date) :
    Produced s [data] (s.resolveData data now).1 (s.resolveData data now).2 where
  moved x hx := by
    have unblocked : x ∈ s.unblockedBy data := hx
    obtain ⟨r, hr, creating⟩ := creating_of_unblockedBy unblocked
    rcases s.get?_satisfy_cases data x with ⟨missing, -⟩ | ⟨found, remaining, -, satisfied⟩
    · cases missing.symm.trans hr
    · have submitted : (s.resolveData data now).2.get? x =
          some (TaskRecord.apply { found with remaining }
            { status := .submitted, submitted := some now }) := by
        rw [get?_resolveData, if_pos unblocked, satisfied]
        rfl
      exact ⟨r, _, hr, creating, submitted, TaskRecord.apply_status _ _⟩
  stays x hx r hr := by
    have blocked : x ∉ s.unblockedBy data := hx
    rw [get?_resolveData, if_neg blocked]
    rcases s.get?_satisfy_cases data x with ⟨missing, -⟩ | ⟨found, remaining, hf, satisfied⟩
    · cases missing.symm.trans hr
    · obtain rfl := Option.some.inj (hf.symm.trans hr)
      exact ⟨remaining, satisfied⟩
  unknown _ := get?_resolveData_none
  once := s.nodup_unblockedBy data
  log := s.log_resolveData data now
  available d := by rw [available_resolveData, IdSet.mem_insert, List.mem_singleton]
  successors := rfl
  aborted := rfl
  failures := rfl
  mirrored mirrored := by
    refine ⟨mirrored.resolve data, fun x d => ?_⟩
    rw [List.mem_singleton]
    exact mirrored.mem_resolve
  exactly mirrored x := mem_unblockedBy_iff_alone mirrored data x

/-- Those who are submitted may be listed in another order. -/
theorem Produced.reordered (h : Produced s outputs woken s') (same : woken'.Perm woken) :
    Produced s outputs woken'
      { s' with log := s.log ++ woken'.map fun x => (x, .submitted) } where
  moved x hx := h.moved x (same.mem_iff.mp hx)
  stays x hx := h.stays x (mt same.mem_iff.mpr hx)
  unknown := h.unknown
  once := same.nodup_iff.mpr h.once
  log := rfl
  available := h.available
  successors := h.successors
  aborted := h.aborted
  failures := h.failures
  mirrored := h.mirrored
  exactly mirrored x := same.mem_iff.trans (h.exactly mirrored x)

/-- One result becomes available, whatever the order of the visits. -/
theorem produced_resolveDataIn (visit : Visit) (s : Store) (data : DataId) (now : Date) :
    Produced s [data] (s.resolveDataIn visit data now).1 (s.resolveDataIn visit data now).2 := by
  rw [resolveDataIn_eq]
  exact (produced_resolveData s data now).reordered (s.unblockedIn_perm visit data)

/-! A lineage goes on. -/

/-- The record is that of the next attempt after a failed one, ready to be taken. -/
structure IsNextAttempt (parent heir : TaskRecord) : Prop where
  /-- It is submitted. -/
  status : heir.status = .submitted
  /-- Nobody holds it. -/
  owner : heir.owner = none
  /-- The options pass on. -/
  options : heir.options = parent.options
  /-- The failed attempt is its latest ancestor. -/
  ancestors : heir.ancestors = parent.ancestors ++ [parent.id]
  /-- It is about the same, and may wait for less. -/
  about : ∃ now,
    heir.essence = { parent.successor heir.id now with remaining := heir.remaining }.essence

/-- What the next attempt has from the failed one. -/
theorem IsNextAttempt.inherits {parent heir : TaskRecord} (h : IsNextAttempt parent heir) :
    heir.session = parent.session ∧ heir.initial = parent.initial ∧ heir.payload = parent.payload ∧
      heir.dependencies = parent.dependencies ∧ heir.outputs = parent.outputs := by
  obtain ⟨now, about⟩ := h.about
  exact ⟨(TaskRecord.eq_of_essence TaskRecord.session about fun _ => rfl :),
    (TaskRecord.eq_of_essence TaskRecord.initial about fun _ => rfl :),
    (TaskRecord.eq_of_essence TaskRecord.payload about fun _ => rfl :),
    (TaskRecord.eq_of_essence TaskRecord.dependencies about fun _ => rfl :),
    (TaskRecord.eq_of_essence TaskRecord.outputs about fun _ => rfl :)⟩

/-- A failed task has got a successor, and nothing else has happened. -/
structure PassedOn (parent : TaskRecord) (id : TaskId) (s s' : Store) : Prop where
  /-- Nothing was stored under the identifier. -/
  new : s.get? id = none
  /-- The next attempt is. -/
  heir : ∃ heir, s'.get? id = some heir ∧ heir.id = id ∧ IsNextAttempt parent heir
  /-- It is the successor of the task. -/
  successors : s'.successors = s.successors.set parent.id id
  /-- Other records stay. -/
  others : ∀ x, x ≠ id → s'.get? x = s.get? x
  /-- The successor was created and submitted. -/
  log : s'.log = s.log ++ [(id, .creating), (id, .submitted)]
  /-- Available data stays. -/
  available : s'.available = s.available
  /-- What was given up stays. -/
  aborted : s'.aborted = s.aborted
  /-- The store fails as it did. -/
  failures : s'.failures = s.failures

/-- The store with a successor for a task, still in creation. -/
def succeed (s : Store) (parent candidate : TaskRecord) : Store :=
  { s with successors := s.successors.set parent.id candidate.id }.insert candidate

theorem get?_succeed (s : Store) (parent candidate : TaskRecord) (x : TaskId) :
    (s.succeed parent candidate).get? x =
      if x = candidate.id then some (s.withoutAvailable candidate) else s.get? x :=
  get?_insert ..

/-- Creating a successor and submitting it passes a lineage on. -/
theorem passedOn {parent : TaskRecord} {id : TaskId} (new : s.get? id = none) (now later : Date) :
    PassedOn parent id s ((s.succeed parent (parent.successor id now)).write id
      ((s.withoutAvailable (parent.successor id now)).apply
        { status := .submitted, submitted := some later })) where
  new := new
  heir := by
    refine ⟨_, get?_write_self .., rfl, ?_⟩
    exact ⟨rfl, rfl, rfl, rfl, now, rfl⟩
  successors := rfl
  others x other := (get?_write ..).trans
    ((if_neg other).trans ((get?_succeed ..).trans (if_neg other)))
  log := List.append_assoc ..
  available := rfl
  aborted := rfl
  failures := rfl

/-- Attempts that are about the same are followed by the same. -/
theorem PassedOn.of_essence {parent parent' : TaskRecord} {id : TaskId} (h : PassedOn parent id s s')
    (same : parent.essence = parent'.essence) : PassedOn parent' id s s' := by
  have options := TaskRecord.eq_of_essence TaskRecord.options same fun _ => rfl
  have ancestors := TaskRecord.eq_of_essence TaskRecord.ancestors same fun _ => rfl
  have ids := TaskRecord.eq_of_essence TaskRecord.id same fun _ => rfl
  have next (id : TaskId) (now : Date) : parent.successor id now = parent'.successor id now :=
    TaskRecord.eq_of_essence (fun t => t.successor id now) same fun _ => rfl
  obtain ⟨heir, hh, hi, next'⟩ := h.heir
  refine { h with heir := ⟨heir, hh, hi, ?_⟩, successors := ids ▸ h.successors }
  obtain ⟨now, about⟩ := next'.about
  exact ⟨next'.status, next'.owner, next'.options.trans options,
    by rw [next'.ancestors, ancestors, ids], now, next heir.id now ▸ about⟩

/-- What follows a failed attempt: the next one, which is pushed, or nothing, and its outputs are
given up. -/
def FollowsUp (failed : TaskRecord) (s s' : Store) (pushed : List TaskId) : Prop :=
  match RetryPlan.ofTask failed with
  | .exhausted => LeftWithout failed.outputs s s' pushed
  | .retry => ∃ id, pushed = [id] ∧ PassedOn failed id s s'

theorem FollowsUp.of_essence {failed failed' : TaskRecord} {pushed : List TaskId}
    (h : FollowsUp failed s s' pushed) (same : failed.essence = failed'.essence) :
    FollowsUp failed' s s' pushed := by
  unfold FollowsUp at *
  rw [← TaskRecord.eq_of_essence RetryPlan.ofTask same fun _ => rfl]
  cases hp : RetryPlan.ofTask failed with
  | exhausted =>
    rw [hp] at h
    exact TaskRecord.eq_of_essence TaskRecord.outputs same (fun _ => rfl) ▸ h
  | retry =>
    rw [hp] at h
    obtain ⟨id, rfl, passedOn⟩ := h
    exact ⟨id, rfl, passedOn.of_essence same⟩

/-! Whom none of this concerns. -/

/-- The task has been left alone, though it may wait for less. -/
structure Spares (s s' : Store) (task : TaskId) (r : TaskRecord) : Prop where
  /-- Its record. -/
  stored : ∃ remaining, s'.get? task = some { r with remaining }
  /-- Its statuses. -/
  transitions : s'.transitionsOf task = s.transitionsOf task

theorem GaveUp.spares (h : GaveUp s s') (stored : s.get? task = some r) (settled : ¬ r.IsWaiting) :
    Spares s s' task r where
  stored := ⟨r.remaining, h.kept stored settled⟩
  transitions := h.log task fun _ found => Option.some.inj (stored.symm.trans found) ▸ settled

theorem Produced.spares (h : Produced s outputs woken s') (stored : s.get? task = some r)
    (settled : ¬ r.IsWaiting) : Spares s s' task r := by
  have stays : task ∉ woken := fun moves => by
    obtain ⟨found, -, hf, creating, -⟩ := h.moved task moves
    exact settled (Option.some.inj (hf.symm.trans stored) ▸ .inl creating)
  exact ⟨h.stays task stays r stored, transitionsOf_of_others h.log stays⟩

theorem PassedOn.spares {parent : TaskRecord} {id : TaskId} (h : PassedOn parent id s s')
    (stored : s.get? task = some r) : Spares s s' task r := by
  have other : task ≠ id := (ne_of_unknown h.new stored).symm
  refine ⟨⟨r.remaining, (h.others task other).trans stored⟩, ?_⟩
  rw [transitionsOf_of_log h.log]
  simp [Ne.symm other]

/-- Nobody gets a successor where data is given up. -/
theorem GaveUp.lone (h : GaveUp s s') (missing : s.successor? x = none) : s'.successor? x = none := by
  unfold successor? at *
  rw [h.successors]
  cases hx : s.successors.get? x with
  | none => rfl
  | some heir =>
    rw [hx] at missing
    exact h.unknown heir missing

end Store

end GridAgent
