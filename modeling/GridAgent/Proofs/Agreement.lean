import GridAgent.Proofs.Store.Trails
import GridAgent.Proofs.Successor
import GridAgent.Proofs.Wakeup

/-!
# The index and the records

The index says what tasks wait for, and so do their records. As long as identifiers are used once and
no update puts a task back into creation or holds it back, the two agree on every task that may still
be woken up, and the index never says more than the record of any other. Data that is given up takes
the edges of all who wait for it out of the index and leaves their records as they are, which is as well
because those who could be woken up fail in the same step.
-/

namespace GridAgent.Store

variable {s : Store} {task : TaskId} {data : DataId}

/-- The index says what the records say. -/
structure Agrees (s : Store) : Prop where
  /-- Both sides of the index hold the same edges. -/
  mirrored : s.dependencies.Mirrored
  /-- Of a task that may be woken up the index says what its record says. -/
  waiting : ∀ task t, s.get? task = some t → t.IsWaiting →
    ∀ data, data ∈ s.dependencies.awaitedBy task ↔ data ∈ t.remaining
  /-- Of every other task it says no more than the record. -/
  others : ∀ task t, s.get? task = some t →
    ∀ data ∈ s.dependencies.awaitedBy task, data ∈ t.remaining
  /-- Only tasks that are stored wait. -/
  stored : ∀ task, s.get? task = none → ∀ data, data ∉ s.dependencies.awaitedBy task
  /-- What is available is not waited for. -/
  missing : ∀ task data, data ∈ s.dependencies.awaitedBy task → data ∉ s.available

theorem agrees_empty : Agrees {} where
  mirrored _ _ := iff_of_false List.not_mem_nil IdSet.not_mem_empty
  waiting _ _ found := nomatch found
  others _ _ found := nomatch found
  stored _ _ _ := IdSet.not_mem_empty
  missing _ _ waits := absurd waits IdSet.not_mem_empty

/-- A new record waits for what it needs and is not available, whatever its status is. -/
theorem Agrees.inserted (h : s.Agrees) {record : TaskRecord} (new : s.get? record.id = none) :
    (s.insert record).Agrees := by
  have own (x : DataId) : x ∈ (s.insert record).dependencies.awaitedBy record.id ↔
      x ∈ (s.withoutAvailable record).remaining := by
    rw [mem_awaitedBy_insert]
    exact ⟨fun waits => waits.elim And.right fun old => absurd old (h.stored record.id new x),
      fun waits => .inl ⟨rfl, waits⟩⟩
  have other {task : TaskId} (e : task ≠ record.id) (x : DataId) :
      x ∈ (s.insert record).dependencies.awaitedBy task ↔ x ∈ s.dependencies.awaitedBy task := by
    rw [mem_awaitedBy_insert]
    exact or_iff_right fun same => e same.1
  have found_cases {task : TaskId} {t : TaskRecord} (found : (s.insert record).get? task = some t) :
      (task = record.id ∧ t = s.withoutAvailable record) ∨
        (task ≠ record.id ∧ s.get? task = some t) := by
    rw [get?_insert] at found
    split at found
    · next e => exact .inl ⟨e, (Option.some.inj found).symm⟩
    · next e => exact .inr ⟨e, found⟩
  refine ⟨h.mirrored.addAll _, fun task t found waiting x => ?_, fun task t found x waits => ?_,
    fun task gone x => ?_, fun task x waits => ?_⟩
  · rcases found_cases found with ⟨rfl, rfl⟩ | ⟨e, found⟩
    · exact own x
    · exact (other e x).trans (h.waiting task t found waiting x)
  · rcases found_cases found with ⟨rfl, rfl⟩ | ⟨e, found⟩
    · exact (own x).mp waits
    · exact h.others task t found x ((other e x).mp waits)
  · rw [get?_insert] at gone
    split at gone
    · cases gone
    · next e => exact fun waits => h.stored task gone x ((other e x).mp waits)
  · rcases mem_awaitedBy_insert.mp waits with ⟨-, waits⟩ | waits
    · exact (mem_withoutAvailable.mp waits).2
    · exact h.missing task x waits

/-- A record that leaves creation, or is not held back any more, waits on in the index. -/
theorem Agrees.written (h : s.Agrees) {record : TaskRecord} (found : s.get? task = some record)
    {change : TaskUpdate} (left : ¬ (record.apply change).IsWaiting)
    (log : List (TaskId × TaskStatus)) :
    Agrees { s with tasks := s.tasks.set task (record.apply change), log } := by
  have looked (x : TaskId) := Table.get?_set s.tasks task x (record.apply change)
  have found_cases {x : TaskId} {t : TaskRecord}
      (here : (s.tasks.set task (record.apply change)).get? x = some t) :
      (x = task ∧ t = record.apply change) ∨ (x ≠ task ∧ s.get? x = some t) := by
    rw [looked] at here
    split at here
    · next e => exact .inl ⟨e, (Option.some.inj here).symm⟩
    · next e => exact .inr ⟨e, here⟩
  refine ⟨h.mirrored, fun x t here waiting => ?_, fun x t here data waits => ?_,
    fun x gone => ?_, h.missing⟩
  · rcases found_cases here with ⟨-, rfl⟩ | ⟨-, here⟩
    · exact absurd waiting left
    · exact h.waiting x t here waiting
  · rcases found_cases here with ⟨rfl, rfl⟩ | ⟨-, here⟩
    · rw [TaskRecord.apply_remaining]
      exact h.others x record found data waits
    · exact h.others x t here data waits
  · have gone' := (looked x).symm.trans gone
    split at gone'
    · cases gone'
    · exact h.stored x gone'

/-- Records after data became available: those that waited for it wait for the rest, and those that
may still be woken up kept their status. -/
theorem resolved_cases {now : Date} {t' : TaskRecord}
    (found : (s.resolveData data now).2.get? task = some t') :
    ∃ t, s.get? task = some t ∧ (t'.IsWaiting → t.IsWaiting) ∧
      t'.remaining =
        if task ∈ s.dependencies.waitingFor data then t.remaining.erase data else t.remaining := by
  have satisfied {u : TaskRecord} (found : (s.satisfy data).get? task = some u) :
      ∃ t, s.get? task = some t ∧ u.status = t.status ∧ u.remaining =
        if task ∈ s.dependencies.waitingFor data then t.remaining.erase data else t.remaining := by
    rw [get?_satisfy] at found
    split at found
    · next waits =>
      obtain ⟨t, before, rfl⟩ := Option.map_eq_some_iff.mp found
      exact ⟨t, before, rfl, (if_pos waits).symm⟩
    · next waits => exact ⟨u, found, rfl, (if_neg waits).symm⟩
  rw [get?_resolveData] at found
  split at found
  · obtain ⟨u, between, rfl⟩ := Option.map_eq_some_iff.mp found
    obtain ⟨t, before, -, remaining⟩ := satisfied between
    refine ⟨t, before, fun waiting => ?_, (TaskRecord.apply_remaining u _).trans remaining⟩
    rw [TaskRecord.IsWaiting, TaskRecord.apply_status] at waiting
    rcases waiting with status | status <;> cases status
  · obtain ⟨t, found, status, remaining⟩ := satisfied found
    refine ⟨t, found, fun waiting => ?_, remaining⟩
    rwa [TaskRecord.IsWaiting, ← status]

/-- Available data leaves the index, and the records of those that wait for it. -/
theorem Agrees.resolved (h : s.Agrees) (data : DataId) (now : Date) :
    (s.resolveData data now).2.Agrees := by
  have edges (task : TaskId) (x : DataId) :
      x ∈ (s.resolveData data now).2.dependencies.awaitedBy task ↔
        x ∈ s.dependencies.awaitedBy task ∧ x ≠ data := h.mirrored.mem_resolve
  have remains {task : TaskId} {t t' : TaskRecord} {x : DataId} (waits : x ∈ t.remaining)
      (other : x ≠ data) (remaining : t'.remaining =
        if task ∈ s.dependencies.waitingFor data then t.remaining.erase data else t.remaining) :
      x ∈ t'.remaining := by
    rw [remaining]
    split
    · exact IdSet.mem_erase.mpr ⟨waits, other⟩
    · exact waits
  refine ⟨h.mirrored.resolve data, fun task t' found waiting x => ?_, fun task t' found x waits => ?_,
    fun task gone x waits => ?_, fun task x waits => ?_⟩
  · obtain ⟨t, found, waiting', remaining⟩ := resolved_cases found
    have same := h.waiting task t found (waiting' waiting)
    rw [edges, same]
    refine ⟨fun ⟨waits, other⟩ => remains waits other remaining, fun waits => ?_⟩
    rw [remaining] at waits
    split at waits
    · exact IdSet.mem_erase.mp waits
    · next unnamed =>
      refine ⟨waits, ?_⟩
      rintro rfl
      exact unnamed ((h.mirrored task x).mpr ((same x).mpr waits))
  · obtain ⟨t, found, -, remaining⟩ := resolved_cases found
    obtain ⟨waits, other⟩ := (edges task x).mp waits
    exact remains (h.others task t found x waits) other remaining
  · refine h.stored task (Option.eq_none_iff_forall_ne_some.mpr fun t found => ?_) x
      ((edges task x).mp waits).1
    obtain ⟨t', found', -⟩ := @resolveData_goesOn s task data now t found
    cases gone.symm.trans found'
  · obtain ⟨waits, other⟩ := (edges task x).mp waits
    have available : (s.resolveData data now).2.available = s.available.insert data := rfl
    rw [available]
    exact fun known => (IdSet.mem_insert.mp known).elim other (h.missing task x waits)

/-- Data that is given up leaves the index with everybody who waits for it, and those of them who could
be woken up have failed. -/
theorem Agrees.aborted (h : s.Agrees) (data : DataId) (now : Date) :
    (s.abortData data now).2.Agrees := by
  have edges (task : TaskId) (x : DataId) :
      x ∈ (s.abortData data now).2.dependencies.awaitedBy task ↔
        x ∈ s.dependencies.awaitedBy task ∧ task ∉ s.dependencies.waitingFor data :=
    Dependencies.mem_awaitedBy_abort
  have found_cases {task : TaskId} {t' : TaskRecord}
      (found : (s.abortData data now).2.get? task = some t') :
      ∃ t, s.get? task = some t ∧ t'.remaining = t.remaining ∧
        (t'.IsWaiting → t' = t ∧ task ∉ s.failedBy data) := by
    rw [get?_abortData] at found
    split at found
    · obtain ⟨t, before, rfl⟩ := Option.map_eq_some_iff.mp found
      refine ⟨t, before, TaskRecord.apply_remaining t _, fun waiting => ?_⟩
      rw [TaskRecord.IsWaiting, TaskRecord.apply_status] at waiting
      rcases waiting with status | status <;> cases status
    · next spared => exact ⟨t', found, rfl, fun _ => ⟨rfl, spared⟩⟩
  refine ⟨h.mirrored.abort data, fun task t' found waiting x => ?_, fun task t' found x waits => ?_,
    fun task gone x waits => ?_, fun task x waits => ?_⟩
  · obtain ⟨t, found, -, same⟩ := found_cases found
    obtain ⟨rfl, spared⟩ := same waiting
    have stays : task ∉ s.dependencies.waitingFor data := fun named => spared
      (List.mem_filter.mpr ⟨named, hasStatus_iff.mpr
        ⟨t', found, by simpa [TaskRecord.IsWaiting] using waiting⟩⟩)
    rw [edges, and_iff_left stays]
    exact h.waiting task t' found waiting x
  · obtain ⟨t, found, remaining, -⟩ := found_cases found
    rw [remaining]
    exact h.others task t found x ((edges task x).mp waits).1
  · refine h.stored task (Option.eq_none_iff_forall_ne_some.mpr fun t found => ?_) x
      ((edges task x).mp waits).1
    obtain ⟨t', found', -⟩ := @abortData_goesOn s task data now t found
    cases gone.symm.trans found'
  · exact h.missing task x ((edges task x).mp waits).1

/-! ### Requests -/

/-- Identifiers of records that are put in are new, and updates do not write a status that waits. -/
def Fits (s : Store) : Request → Prop
  | .insert record => s.get? record.id = none
  | .createSuccessor _ candidate => s.get? candidate.id = none
  | .update _ _ change => change.status ≠ .creating ∧ change.status ≠ .pending
  | _ => True

/-- Several requests fit, each of them the store that the ones before it leave. -/
def FitsAll (s : Store) : List Request → Prop
  | [] => True
  | request :: rest => s.Fits request ∧ (s.asked request).FitsAll rest

theorem FitsAll.append {s : Store} {first rest : List Request} (h : s.FitsAll (first ++ rest)) :
    s.FitsAll first ∧ (first.foldl asked s).FitsAll rest := by
  induction first generalizing s with
  | nil => exact ⟨trivial, h⟩
  | cons request first ih => exact ⟨⟨h.1, (ih h.2).1⟩, (ih h.2).2⟩

/-- Nothing but what the index and the records do not hold changes. -/
theorem Agrees.same (h : s.Agrees) {s' : Store} (tasks : s'.tasks = s.tasks)
    (dependencies : s'.dependencies = s.dependencies) (available : s'.available = s.available) :
    s'.Agrees := by
  have records (task : TaskId) : s'.get? task = s.get? task := by
    rw [get?, get?, tasks]
  constructor
  · rw [dependencies]
    exact h.mirrored
  · rw [dependencies]
    exact fun task t found => h.waiting task t (records task ▸ found)
  · rw [dependencies]
    exact fun task t found => h.others task t (records task ▸ found)
  · rw [dependencies]
    exact fun task gone => h.stored task (records task ▸ gone)
  · rw [dependencies, available]
    exact h.missing

theorem Agrees.sameContent (h : s.Agrees) {s' : Store} (same : SameContent s s') : s'.Agrees := by
  obtain ⟨failures, rfl⟩ := same
  exact h.same rfl rfl rfl

/-- Whatever fits keeps index and records in agreement. -/
theorem Agrees.asked (h : s.Agrees) {request : Request} (fits : s.Fits request) :
    (s.asked request).Agrees := by
  cases request with
  | insert record => exact h.inserted fits
  | read task => exact h.sameContent (read_sameContent task s)
  | update task expected change =>
    rw [Store.asked]
    rcases update_cases task expected change s with
      ⟨_, -, same⟩ | ⟨-, missing⟩ | ⟨_, -, -, lost⟩ | ⟨record, found, -, written⟩
    · exact h.sameContent same
    · rw [missing]
      exact h
    · rw [lost]
      exact h
    · have left : ¬ (record.apply change).IsWaiting := by
        rw [TaskRecord.IsWaiting, TaskRecord.apply_status]
        exact fun waiting => waiting.elim fits.1 fits.2
      rw [written]
      exact h.written found left _
  | createSuccessor parent candidate =>
    rw [Store.asked]
    rcases createSuccessor_cases parent candidate s with
      ⟨_, -, same⟩ | ⟨_, -, kept⟩ | ⟨-, stored⟩
    · exact h.sameContent same
    · rw [kept]
      exact h
    · have noted : Agrees { s with successors := s.successors.set parent.id candidate.id } :=
        h.same rfl rfl rfl
      rw [stored]
      exact noted.inserted fits
  | findSuccessor task => exact h.sameContent (findSuccessor_sameContent task s)
  | resolve visit data now =>
    rw [Store.asked, resolveDataIn_eq]
    exact (h.resolved data now).same rfl rfl rfl
  | abort visit data now =>
    rw [Store.asked, abortDataIn_eq]
    exact (h.aborted data now).same rfl rfl rfl
  | failNext calls => exact h.same rfl rfl rfl
  | setHealth health => exact h.same rfl rfl rfl

/-- The same for several requests. -/
theorem Agrees.askedAll (h : s.Agrees) {requests : List Request} (fits : s.FitsAll requests) :
    (requests.foldl Store.asked s).Agrees := by
  induction requests generalizing s with
  | nil => exact h
  | cons request rest ih => exact ih (h.asked fits.1) fits.2

/-! ### Data that was given up -/

/-- Whoever is stored stays so, and begins to wait for nothing. -/
structure Shrinks (s s' : Store) : Prop where
  /-- Records stay. -/
  stored : ∀ task, (s.get? task).isSome → (s'.get? task).isSome
  /-- The index does not get more edges of a task that is stored. -/
  edges : ∀ task, (s.get? task).isSome →
    ∀ data ∈ s'.dependencies.awaitedBy task, data ∈ s.dependencies.awaitedBy task

theorem Shrinks.refl (s : Store) : Shrinks s s := ⟨fun _ => id, fun _ _ _ => id⟩

theorem Shrinks.trans {s' s'' : Store} (h : Shrinks s s') (h' : Shrinks s' s'') : Shrinks s s'' where
  stored task here := h'.stored task (h.stored task here)
  edges task here data waits := h.edges task here data (h'.edges task (h.stored task here) data waits)

theorem Shrinks.sameContent {s' : Store} (same : SameContent s s') : Shrinks s s' := by
  obtain ⟨failures, rfl⟩ := same
  exact ⟨fun _ => id, fun _ _ _ => id⟩

theorem shrinks_insert {record : TaskRecord} (new : s.get? record.id = none) :
    Shrinks s (s.insert record) := by
  have other {task : TaskId} (here : (s.get? task).isSome) : task ≠ record.id := by
    rintro rfl
    rw [new] at here
    cases here
  refine ⟨fun task here => ?_, fun task here data waits => ?_⟩
  · rw [get?_insert, if_neg (other here)]
    exact here
  · exact (mem_awaitedBy_insert.mp waits).resolve_left fun same => other here same.1

/-- A record that is written in the place of another. -/
theorem shrinks_set (s : Store) (task : TaskId) (record : TaskRecord)
    (log : List (TaskId × TaskStatus)) :
    Shrinks s { s with tasks := s.tasks.set task record, log } := by
  refine ⟨fun x here => ?_, fun _ _ _ => id⟩
  rw [get?, Table.get?_set]
  split
  · rfl
  · exact here

theorem shrinks_resolveData (s : Store) (data : DataId) (now : Date) :
    Shrinks s (s.resolveData data now).2 := by
  refine ⟨fun task here => ?_, fun task _ x waits => (Dependencies.mem_awaitedBy_resolve.mp waits).1⟩
  obtain ⟨t, found⟩ := Option.isSome_iff_exists.mp here
  obtain ⟨t', found', -⟩ := @resolveData_goesOn s task data now t found
  exact Option.isSome_iff_exists.mpr ⟨t', found'⟩

theorem shrinks_abortData (s : Store) (data : DataId) (now : Date) :
    Shrinks s (s.abortData data now).2 := by
  refine ⟨fun task here => ?_, fun task _ x waits => (Dependencies.mem_awaitedBy_abort.mp waits).1⟩
  obtain ⟨t, found⟩ := Option.isSome_iff_exists.mp here
  obtain ⟨t', found', -⟩ := @abortData_goesOn s task data now t found
  exact Option.isSome_iff_exists.mpr ⟨t', found'⟩

theorem shrinks_asked {request : Request} (fits : s.Fits request) : Shrinks s (s.asked request) := by
  cases request with
  | insert record => exact shrinks_insert fits
  | read task => exact .sameContent (read_sameContent task s)
  | update task expected change =>
    rw [Store.asked]
    rcases update_cases task expected change s with
      ⟨_, -, same⟩ | ⟨-, missing⟩ | ⟨_, -, -, lost⟩ | ⟨record, -, -, written⟩
    · exact .sameContent same
    · rw [missing]
      exact .refl s
    · rw [lost]
      exact .refl s
    · rw [written]
      exact shrinks_set s task _ _
  | createSuccessor parent candidate =>
    rw [Store.asked]
    rcases createSuccessor_cases parent candidate s with
      ⟨_, -, same⟩ | ⟨_, -, kept⟩ | ⟨-, stored⟩
    · exact .sameContent same
    · rw [kept]
      exact .refl s
    · have noted : Shrinks s { s with successors := s.successors.set parent.id candidate.id } :=
        ⟨fun _ => id, fun _ _ _ => id⟩
      rw [stored]
      exact noted.trans (shrinks_insert fits)
  | findSuccessor task => exact .sameContent (findSuccessor_sameContent task s)
  | resolve visit data now =>
    have resolved := shrinks_resolveData s data now
    rw [Store.asked, resolveDataIn_eq]
    exact ⟨resolved.stored, resolved.edges⟩
  | abort visit data now =>
    have aborted := shrinks_abortData s data now
    rw [Store.asked, abortDataIn_eq]
    exact ⟨aborted.stored, aborted.edges⟩
  | failNext calls => exact ⟨fun _ => id, fun _ _ _ => id⟩
  | setHealth health => exact ⟨fun _ => id, fun _ _ _ => id⟩

theorem shrinks_askedAll {requests : List Request} (fits : s.FitsAll requests) :
    Shrinks s (requests.foldl Store.asked s) := by
  induction requests generalizing s with
  | nil => exact .refl s
  | cons request rest ih => exact (shrinks_asked fits.1).trans (ih fits.2)

/-- Nobody waits for data that has just been given up. -/
theorem Agrees.given_up (h : s.Agrees) (visit : Visit) (data : DataId) (now : Date) (task : TaskId) :
    data ∉ (s.asked (.abort visit data now)).dependencies.awaitedBy task := by
  rw [Store.asked, abortDataIn_eq]
  intro waits
  obtain ⟨waits, unnamed⟩ := Dependencies.mem_awaitedBy_abort.mp waits
  exact unnamed ((h.mirrored task data).mpr waits)

/-- Whatever was asked of a new store, with identifiers that were new and updates that wrote no status
that waits: the index says the same from both sides; of a task in creation or held back it says exactly
what the record says, of every other that is stored no more than that, and of those that are not stored
nothing. Nobody waits for data that is available, or that was given up after the task was stored. -/
theorem index_agrees (requests : List Request) (fits : ({} : Store).FitsAll requests) :
    (requests.foldl asked {}).dependencies.Mirrored ∧
    (∀ task t, (requests.foldl asked {}).get? task = some t →
      t.status = .creating ∨ t.status = .pending →
        (requests.foldl asked {}).dependencies.awaitedBy task = t.remaining) ∧
    (∀ task t, (requests.foldl asked {}).get? task = some t →
      ∀ data ∈ (requests.foldl asked {}).dependencies.awaitedBy task, data ∈ t.remaining) ∧
    (∀ task, (requests.foldl asked {}).get? task = none →
      ∀ data, data ∉ (requests.foldl asked {}).dependencies.awaitedBy task) ∧
    (∀ data ∈ (requests.foldl asked {}).available, ∀ task,
      data ∉ (requests.foldl asked {}).dependencies.awaitedBy task) ∧
    ∀ before visit data now after, requests = before ++ .abort visit data now :: after →
      ∀ task t, (before.foldl asked {}).get? task = some t →
        data ∉ (requests.foldl asked {}).dependencies.awaitedBy task := by
  have agrees := agrees_empty.askedAll fits
  refine ⟨agrees.mirrored, fun task t found waiting => ?_, agrees.others, agrees.stored,
    fun data available task waits => agrees.missing task data waits available, ?_⟩
  · exact IdSet.eq_of_mem_iff fun data => agrees.waiting task t found waiting data
  · rintro before visit data now after rfl task t found waits
    obtain ⟨first, given, rest⟩ := fits.append
    have agreed := agrees_empty.askedAll first
    have stored := (shrinks_asked given).stored task (Option.isSome_iff_exists.mpr ⟨t, found⟩)
    rw [List.foldl_append, List.foldl_cons] at waits
    exact agreed.given_up visit data now task ((shrinks_askedAll rest).edges task stored data waits)

/-- Three tasks of which one is submitted, one fails with its record still waiting, and one waits. -/
def settlingRequests : List Request :=
  [.insert (needing 1 5), .insert (needing 2 6), .resolve .ascending (.ofNat 5) Cluster.morning,
    .abort .descending (.ofNat 6) Cluster.morning, .createSuccessor (needing 2 6) (needing 3 7)]

theorem settlingRequests_fit : ({} : Store).FitsAll settlingRequests := by
  refine ⟨rfl, ?_, trivial, trivial, ?_, trivial⟩
  · show Store.get? _ _ = none
    decide +kernel
  · show Store.get? _ _ = none
    decide +kernel

/-- The second task does not wait any more though its record does, and the third one waits as its
record says. -/
theorem index_agrees_settling :
    ({} : Store).FitsAll settlingRequests ∧
      (∃ t, (settlingRequests.foldl asked {}).get? (.ofNat 2) = some t ∧ t.status = .error ∧
        .ofNat 6 ∈ t.remaining ∧
        .ofNat 6 ∉ (settlingRequests.foldl asked {}).dependencies.awaitedBy (.ofNat 2)) ∧
      ∃ t, (settlingRequests.foldl asked {}).get? (.ofNat 3) = some t ∧
        (settlingRequests.foldl asked {}).dependencies.awaitedBy (.ofNat 3) = t.remaining := by
  obtain ⟨-, waiting, -, -, -, given⟩ := index_agrees settlingRequests settlingRequests_fit
  refine ⟨settlingRequests_fit, ?_, ?_⟩
  · have second : ((settlingRequests.foldl asked {}).get? (.ofNat 2)).map
        (fun t => (t.status, t.remaining.toList)) = some (.error, [.ofNat 6]) := by decide +kernel
    obtain ⟨t, found, facts⟩ := Option.map_eq_some_iff.mp second
    obtain ⟨status, remaining⟩ := Prod.mk.inj facts
    have waits : .ofNat 6 ∈ t.remaining.toList := remaining ▸ List.mem_singleton_self _
    have before : ∃ t, (([.insert (needing 1 5), .insert (needing 2 6),
        .resolve .ascending (.ofNat 5) Cluster.morning] : List Request).foldl asked {}).get?
          (.ofNat 2) = some t := Option.isSome_iff_exists.mp (by decide +kernel)
    obtain ⟨u, stored⟩ := before
    exact ⟨t, found, status, waits, given _ _ _ _ _ rfl (.ofNat 2) u stored⟩
  · have third : ((settlingRequests.foldl asked {}).get? (.ofNat 3)).map (·.status) =
        some .creating := by decide +kernel
    obtain ⟨t, found, status⟩ := Option.map_eq_some_iff.mp third
    exact ⟨t, found, waiting _ t found (.inl status)⟩

end GridAgent.Store
