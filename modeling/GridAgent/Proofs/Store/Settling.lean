import GridAgent.Proofs.Store.Needs

/-!
# Tasks that are woken up

A task in creation is moved by nothing but the data that it waits for, so it has to be in the index
with exactly that data, and the data has to be open: neither available nor given up. Data that is
settled keeps this. A record that is put in begins with it if some of what it needs is open, none of
the rest is given up, and it waits for all that an earlier version in creation waited for.
-/

namespace GridAgent

namespace Dependencies

variable {g : Dependencies} {task other : TaskId} {data x : DataId}

/-- Both sides of the index hold the same edges. -/
def Mirrored (g : Dependencies) : Prop :=
  ∀ task data, task ∈ g.waitingFor data ↔ data ∈ g.awaitedBy task

/-- Edges are added on both sides. -/
theorem Mirrored.addAll (h : g.Mirrored) (needed : List DataId) :
    (needed.foldl (fun g data => g.add task data) g).Mirrored := by
  intro other data
  rw [mem_waitingFor_addAll, mem_awaitedBy_addAll, h other data]

/-- Available data leaves exactly its own edges out. -/
theorem Mirrored.mem_resolve (h : g.Mirrored) :
    x ∈ (g.resolve data).2.awaitedBy task ↔ x ∈ g.awaitedBy task ∧ x ≠ data := by
  rw [mem_awaitedBy_resolve]
  refine and_congr_right fun waits => ⟨fun other e => ?_, fun other _ => other⟩
  subst e
  exact other ((h task x).mpr waits) rfl

/-- Available data leaves the index on both sides. -/
theorem Mirrored.resolve (h : g.Mirrored) (data : DataId) : (g.resolve data).2.Mirrored := by
  intro task x
  rw [mem_waitingFor_resolve, h.mem_resolve, h task x]
  exact and_comm

/-- Whoever is waited for by data knows of it. -/
def Known (g : Dependencies) : Prop := ∀ task data, task ∈ g.waitingFor data → data ∈ g.awaitedBy task

/-- A task that knows all its edges takes them all with it. -/
theorem Known.mem_leave (h : g.Known) :
    other ∈ (g.leave task).waitingFor x ↔ other ∈ g.waitingFor x ∧ other ≠ task := by
  rw [mem_waitingFor_leave]
  refine and_congr_right fun waits => ⟨fun left e => ?_, fun left _ => left⟩
  subst e
  exact left (h other x waits) rfl

/-- Whoever stays knows its edges. -/
theorem Known.leave (h : g.Known) (task : TaskId) : (g.leave task).Known := by
  intro other x waits
  obtain ⟨old, stays⟩ := h.mem_leave.mp waits
  exact mem_awaitedBy_leave.mpr ⟨h other x old, stays⟩

/-- Tasks that know all their edges take them all with them. -/
theorem Known.mem_leaveAll (h : g.Known) {tasks : List TaskId} :
    other ∈ (tasks.foldl Dependencies.leave g).waitingFor x ↔
      other ∈ g.waitingFor x ∧ other ∉ tasks := by
  induction tasks generalizing g with
  | nil => exact (and_iff_left List.not_mem_nil).symm
  | cons first rest ih =>
    rw [List.foldl_cons, ih (h.leave first), h.mem_leave, and_assoc, List.mem_cons, not_or]

/-- Data that is given up leaves with everybody who waits for it, on both sides. -/
theorem Mirrored.abort (h : g.Mirrored) (data : DataId) : (g.abort data).2.Mirrored := by
  intro task x
  have erased (other : TaskId) (y : DataId) :
      other ∈ ({ g with waiting := g.waiting.erase data } : Dependencies).waitingFor y ↔
        y ≠ data ∧ other ∈ g.waitingFor y := by
    have hg := Table.get?_erase g.waiting data y
    unfold waitingFor
    dsimp only
    rw [hg]
    split
    · next e => exact iff_of_false List.not_mem_nil fun h => h.1 e
    · next e => exact (and_iff_right e).symm
  have known : ({ g with waiting := g.waiting.erase data } : Dependencies).Known := by
    intro other y waits
    exact (h other y).mp ((erased other y).mp waits).2
  rw [mem_awaitedBy_abort, ← h task x]
  unfold Dependencies.abort
  rw [known.mem_leaveAll, erased]
  -- whoever stays does not wait for the data
  refine and_congr_left fun stays => and_iff_right_of_imp ?_
  rintro waits rfl
  exact stays waits

end Dependencies

namespace Store

variable {s : Store} {task : TaskId} {t : TaskRecord} {data : DataId} {now : Date}

/-- Where a record stands that was put in while it was in creation. -/
inductive Stands (s : Store) (task : TaskId) (t : TaskRecord) : Prop where
  /-- It is in creation, and the index knows what it waits for. -/
  | creating (status : t.status = .creating)
    (indexed : ∀ data, data ∈ t.remaining ↔ data ∈ s.dependencies.awaitedBy task)
    (waits : ∃ data, data ∈ t.remaining)
  /-- It has been submitted, with all its data. -/
  | submitted (status : t.status = .submitted)
    (left : ∀ data, data ∉ s.dependencies.awaitedBy task)
    (has : ∀ data ∈ t.dependencies, data ∈ s.available)
  /-- It has failed, for data that was given up. -/
  | failed (status : t.status = .error)
    (left : ∀ data, data ∉ s.dependencies.awaitedBy task)
    (lost : ∃ data ∈ t.dependencies, data ∈ s.aborted)

/-- Every task in creation will be woken up. -/
structure Attended (s : Store) : Prop where
  /-- Both sides of the index hold the same edges. -/
  mirrored : s.dependencies.Mirrored
  /-- What somebody waits for is not settled. -/
  unsettled : ∀ task data, data ∈ s.dependencies.awaitedBy task →
    data ∉ s.available ∧ data ∉ s.aborted
  /-- Whoever waits is stored. -/
  stored : ∀ task data, data ∈ s.dependencies.awaitedBy task → ∃ t, s.get? task = some t
  /-- What is waited for is needed. -/
  needed : ∀ task t, s.get? task = some t → ∀ data ∈ t.remaining, data ∈ t.dependencies
  /-- What is needed is waited for or available. -/
  stocked : s.Stocked
  /-- Every record stands somewhere. -/
  stands : ∀ task t, s.get? task = some t → s.Stands task t

/-- Whoever waits is in creation, and waits for what the index says. -/
theorem Stands.waiting (h : s.Stands task t) (waits : data ∈ s.dependencies.awaitedBy task) :
    t.status = .creating ∧ ∀ data, data ∈ t.remaining ↔ data ∈ s.dependencies.awaitedBy task := by
  cases h with
  | creating status indexed _ => exact ⟨status, indexed⟩
  | submitted _ left _ => exact absurd waits (left data)
  | failed _ left _ => exact absurd waits (left data)

/-- A record that nothing happened to stands where it stood. -/
theorem Stands.kept {later : Store} (h : s.Stands task t)
    (index : ∀ data, data ∈ later.dependencies.awaitedBy task ↔ data ∈ s.dependencies.awaitedBy task)
    (available : ∀ data ∈ s.available, data ∈ later.available)
    (aborted : ∀ data ∈ s.aborted, data ∈ later.aborted) : later.Stands task t := by
  cases h with
  | creating status indexed waits =>
    exact .creating status (fun data => (indexed data).trans (index data).symm) waits
  | submitted status left has =>
    refine .submitted status (fun data waits => left data ((index data).mp waits)) ?_
    exact fun data hd => available data (has data hd)
  | failed status left lost =>
    refine .failed status (fun data waits => left data ((index data).mp waits)) ?_
    obtain ⟨data, hd, given⟩ := lost
    exact ⟨data, hd, aborted data given⟩

/-- The log does not matter. -/
theorem Attended.logged (h : s.Attended) (log : List (TaskId × TaskStatus)) :
    Attended { s with log } where
  mirrored := h.mirrored
  unsettled := h.unsettled
  stored := h.stored
  needed := h.needed
  stocked := h.stocked
  stands task t ht := (h.stands task t ht).kept (fun _ => .rfl) (fun _ hd => hd) fun _ hd => hd

/-! Records that are put in. -/

/-- A record in creation that needs data: it waits for all of it that is not available. -/
structure IsGiven (s : Store) (t : TaskRecord) : Prop where
  /-- It is in creation. -/
  creating : t.status = .creating
  /-- It needs data. -/
  needs : ∃ data, data ∈ t.dependencies
  /-- It waits for what it needs. -/
  needed : ∀ data ∈ t.remaining, data ∈ t.dependencies
  /-- It waits for everything that it needs and that is not available. -/
  waits : ∀ data ∈ t.dependencies, data ∈ t.remaining ∨ data ∈ s.available

/-- A record that comes in time: data will wake it up. -/
structure IsTimely (s : Store) (t : TaskRecord) : Prop extends IsGiven s t where
  /-- Something that it needs is not available. -/
  missing : ∃ data ∈ t.dependencies, data ∉ s.available
  /-- Nothing that is missing has been given up. -/
  hopeful : ∀ data ∈ t.dependencies, data ∈ s.available ∨ data ∉ s.aborted
  /-- It waits for all that the version before it waits for. -/
  covers : ∀ earlier, s.get? t.id = some earlier → earlier.status = .creating →
    ∀ data ∈ earlier.remaining, data ∈ t.remaining

/-- The edges after a record is put in. -/
theorem mem_awaitedBy_insert {other : TaskId} :
    data ∈ (s.insert t).dependencies.awaitedBy other ↔
      (other = t.id ∧ data ∈ (s.withoutAvailable t).remaining) ∨
        data ∈ s.dependencies.awaitedBy other :=
  Dependencies.mem_awaitedBy_addAll

/-- A record is put in without the data that is available. -/
theorem mem_withoutAvailable :
    data ∈ (s.withoutAvailable t).remaining ↔ data ∈ t.remaining ∧ data ∉ s.available := by
  have missing : (!s.available.contains data) = true ↔ data ∉ s.available := by
    rw [Bool.not_eq_true', IdSet.contains, List.contains_eq_mem]
    exact decide_eq_false_iff_not
  exact IdSet.mem_filter.trans (and_congr_right fun _ => missing)

/-- The index knows of a record that comes in time exactly what it waits for. -/
theorem Attended.own_edges (h : s.Attended) (timely : s.IsTimely t) :
    data ∈ (s.insert t).dependencies.awaitedBy t.id ↔ data ∈ (s.withoutAvailable t).remaining := by
  rw [mem_awaitedBy_insert]
  refine ⟨?_, fun waits => .inl ⟨rfl, waits⟩⟩
  rintro (⟨-, waits⟩ | old)
  · exact waits
  · -- an edge of the version before
    obtain ⟨earlier, found⟩ := h.stored t.id data old
    obtain ⟨creating, indexed⟩ := (h.stands t.id earlier found).waiting old
    have covered := timely.covers earlier found creating data ((indexed data).mpr old)
    exact mem_withoutAvailable.mpr ⟨covered, (h.unsettled t.id data old).1⟩

/-- A record that comes in time will be woken up, and nobody else is forgotten. -/
theorem Attended.inserted (h : s.Attended) (timely : s.IsTimely t) : (s.insert t).Attended := by
  have own {data : DataId} : data ∈ (s.insert t).dependencies.awaitedBy t.id ↔
      data ∈ (s.withoutAvailable t).remaining := h.own_edges timely
  have others {other : TaskId} {data : DataId} (hne : other ≠ t.id) :
      data ∈ (s.insert t).dependencies.awaitedBy other ↔ data ∈ s.dependencies.awaitedBy other := by
    rw [mem_awaitedBy_insert]
    exact or_iff_right fun h => hne h.1
  constructor
  · exact h.mirrored.addAll _
  · intro other data waits
    rcases mem_awaitedBy_insert.mp waits with ⟨-, new⟩ | old
    · obtain ⟨waits, missing⟩ := mem_withoutAvailable.mp new
      have hopeful := timely.hopeful data (timely.needed data waits)
      exact ⟨missing, hopeful.resolve_left missing⟩
    · exact h.unsettled other data old
  · intro other data waits
    rw [get?_insert]
    by_cases e : other = t.id
    · exact ⟨_, if_pos e⟩
    · rw [if_neg e]
      exact h.stored other data ((others e).mp waits)
  · intro other found hf
    rw [get?_insert] at hf
    split at hf
    · obtain rfl := Option.some.inj hf
      intro data waits
      exact timely.needed data (mem_withoutAvailable.mp waits).1
    · exact h.needed other found hf
  · intro other found hf
    rw [get?_insert] at hf
    split at hf
    · obtain rfl := Option.some.inj hf
      exact stocked_withoutAvailable timely.waits
    · exact h.stocked other found hf
  · intro other found hf
    rw [get?_insert] at hf
    split at hf
    · next e =>
      obtain rfl := Option.some.inj hf
      subst e
      refine .creating timely.creating (fun data => own.symm) ?_
      obtain ⟨data, needed, missing⟩ := timely.missing
      have waits := (timely.waits data needed).resolve_right missing
      exact ⟨data, mem_withoutAvailable.mpr ⟨waits, missing⟩⟩
    · next e =>
      exact (h.stands other found hf).kept (fun _ => others e) (fun _ hd => hd) fun _ hd => hd

/-! Data that is settled. -/

/-- A later store with the same tasks, each of which waits on, and with no new edges. -/
structure Settles (s later : Store) : Prop where
  /-- No task appears. -/
  unknown : ∀ task, s.get? task = none → later.get? task = none
  /-- Every task waits on. -/
  goesOn : ∀ task t, s.get? task = some t → ∃ t', later.get? task = some t' ∧ WaitsOn later t t'
  /-- Available data stays available. -/
  grows : ∀ data ∈ s.available, data ∈ later.available
  /-- No edge is new. -/
  sheds : ∀ task data, data ∈ later.dependencies.awaitedBy task →
    data ∈ s.dependencies.awaitedBy task

/-- A record of the later store goes on from one of the store before. -/
theorem Settles.before {later : Store} (h : s.Settles later) {t' : TaskRecord}
    (ht' : later.get? task = some t') : ∃ t, s.get? task = some t ∧ WaitsOn later t t' := by
  cases ht : s.get? task with
  | none => cases (h.unknown task ht).symm.trans ht'
  | some t =>
    obtain ⟨found, hf, waits⟩ := h.goesOn task t ht
    obtain rfl := Option.some.inj (hf.symm.trans ht')
    exact ⟨t, rfl, waits⟩

/-- Tasks that wait on are attended if both sides of the index agree, nothing in it is settled, and
every record stands somewhere. -/
theorem Attended.settled {later : Store} (h : s.Attended) (settles : s.Settles later)
    (mirrored : later.dependencies.Mirrored)
    (unsettled : ∀ task data, data ∈ later.dependencies.awaitedBy task →
      data ∉ later.available ∧ data ∉ later.aborted)
    (stands : ∀ task t, later.get? task = some t → later.Stands task t) : later.Attended := by
  refine ⟨mirrored, unsettled, ?_, ?_, ?_, stands⟩
  · intro task data waits
    obtain ⟨t, ht⟩ := h.stored task data (settles.sheds task data waits)
    obtain ⟨t', ht', -⟩ := settles.goesOn task t ht
    exact ⟨t', ht'⟩
  · intro task t' ht' data waited
    obtain ⟨t, ht, waits⟩ := settles.before ht'
    rw [waits.needs]
    exact h.needed task t ht data (waits.shrinks data waited)
  · intro task t' ht'
    obtain ⟨t, ht, waits⟩ := settles.before ht'
    exact waits.stocked (h.stocked task t ht) settles.grows

/-- A task that waits for data that becomes available waits for one thing less, or is submitted. -/
theorem Attended.stands_resolved (h : s.Attended) (waits : data ∈ s.dependencies.awaitedBy task)
    {t' : TaskRecord} (ht' : (s.resolveData data now).2.get? task = some t') :
    (s.resolveData data now).2.Stands task t' := by
  obtain ⟨t, ht⟩ := h.stored task data waits
  obtain ⟨creating, indexed⟩ := (h.stands task t ht).waiting waits
  have listed : task ∈ s.dependencies.waitingFor data := (h.mirrored task data).mpr waits
  have edges (x : DataId) : x ∈ (s.resolveData data now).2.dependencies.awaitedBy task ↔
      x ∈ s.dependencies.awaitedBy task ∧ x ≠ data := h.mirrored.mem_resolve
  have satisfied : (s.satisfy data).get? task =
      some { t with remaining := t.remaining.erase data } := by
    rw [get?_satisfy, if_pos listed, ht]
    rfl
  rw [get?_resolveData, satisfied] at ht'
  split at ht'
  · -- nothing else was waited for
    next unblocked =>
    obtain rfl := Option.some.inj ht'
    obtain ⟨-, last, -⟩ := mem_unblockedBy.mp unblocked
    have none (x : DataId) : ¬ (x ∈ s.dependencies.awaitedBy task ∧ x ≠ data) :=
      fun waits => IdSet.not_mem_of_isEmpty last (IdSet.mem_erase.mpr waits)
    refine .submitted (TaskRecord.apply_status _ _) (fun x waits => none x ((edges x).mp waits)) ?_
    intro x needed
    rw [TaskRecord.apply_dependencies] at needed
    rw [available_resolveData, IdSet.mem_insert]
    rcases h.stocked task t ht x needed with waited | here
    · by_cases e : x = data
      · exact .inl e
      · exact absurd ⟨(indexed x).mp waited, e⟩ (none x)
    · exact .inr here
  · next blocked =>
    obtain rfl := Option.some.inj ht'
    refine .creating creating (fun x => ?_) ?_
    · rw [IdSet.mem_erase, edges, indexed x]
    · refine Classical.byContradiction fun none => blocked (mem_unblockedBy.mpr ⟨listed, ?_, ?_⟩)
      · refine List.isEmpty_iff.mpr (List.eq_nil_iff_forall_not_mem.mpr fun x hx => none ⟨x, ?_⟩)
        obtain ⟨waited, other⟩ := IdSet.mem_erase.mp hx
        exact IdSet.mem_erase.mpr ⟨(indexed x).mpr waited, other⟩
      · exact hasStatus_iff.mpr ⟨_, satisfied, List.mem_singleton.mpr creating⟩

/-- Available data forgets nobody. -/
theorem Attended.resolved (h : s.Attended) (data : DataId) (now : Date) :
    (s.resolveData data now).2.Attended := by
  have edges {task : TaskId} {x : DataId} :
      x ∈ (s.resolveData data now).2.dependencies.awaitedBy task ↔
        x ∈ s.dependencies.awaitedBy task ∧ x ≠ data := h.mirrored.mem_resolve
  have settles : s.Settles (s.resolveData data now).2 := by
    refine ⟨fun _ => get?_resolveData_none, fun _ _ => waitsOn_resolveData data now, ?_, ?_⟩
    · intro x here
      rw [available_resolveData]
      exact IdSet.mem_insert.mpr (.inr here)
    · exact fun _ _ waits => (edges.mp waits).1
  refine h.settled settles (h.mirrored.resolve data) ?_ ?_
  · intro task x waits
    obtain ⟨waits, other⟩ := edges.mp waits
    obtain ⟨missing, hopeful⟩ := h.unsettled task x waits
    refine ⟨fun here => ?_, hopeful⟩
    rw [available_resolveData, IdSet.mem_insert] at here
    exact here.elim other missing
  · intro task t' ht'
    by_cases waits : data ∈ s.dependencies.awaitedBy task
    · exact h.stands_resolved waits ht'
    · have spared : task ∉ s.dependencies.waitingFor data :=
        fun listed => waits ((h.mirrored task data).mp listed)
      rw [get?_resolveData_of_not_mem spared] at ht'
      refine (h.stands task t' ht').kept (fun x => ?_) settles.grows fun _ hd => hd
      rw [edges]
      refine and_iff_left_of_imp ?_
      rintro waited rfl
      exact waits waited

/-- A task that waits for data that is given up fails. -/
theorem Attended.stands_aborted (h : s.Attended) (waits : data ∈ s.dependencies.awaitedBy task)
    {t' : TaskRecord} (ht' : (s.abortData data now).2.get? task = some t') :
    (s.abortData data now).2.Stands task t' := by
  obtain ⟨t, ht⟩ := h.stored task data waits
  obtain ⟨creating, indexed⟩ := (h.stands task t ht).waiting waits
  have listed : task ∈ s.dependencies.waitingFor data := (h.mirrored task data).mpr waits
  have fails : task ∈ s.failedBy data := by
    refine List.mem_filter.mpr ⟨listed, hasStatus_iff.mpr ⟨t, ht, ?_⟩⟩
    rw [creating]
    exact List.mem_cons_self
  rw [get?_abortData, if_pos fails, ht] at ht'
  obtain rfl := Option.some.inj ht'
  refine .failed (TaskRecord.apply_status _ _) (fun x waits => ?_) ⟨data, ?_, ?_⟩
  · exact (Dependencies.mem_awaitedBy_abort.mp waits).2 listed
  · rw [TaskRecord.apply_dependencies]
    exact h.needed task t ht data ((indexed data).mpr waits)
  · exact IdSet.mem_insert.mpr (.inl rfl)

/-- Data that is given up forgets nobody. -/
theorem Attended.aborted (h : s.Attended) (data : DataId) (now : Date) :
    (s.abortData data now).2.Attended := by
  have edges {task : TaskId} {x : DataId} :
      x ∈ (s.abortData data now).2.dependencies.awaitedBy task ↔
        x ∈ s.dependencies.awaitedBy task ∧ task ∉ s.dependencies.waitingFor data :=
    Dependencies.mem_awaitedBy_abort
  have settles : s.Settles (s.abortData data now).2 :=
    ⟨fun _ => get?_abortData_none, fun _ _ => waitsOn_abortData data now, fun _ here => here,
      fun _ _ waits => (edges.mp waits).1⟩
  refine h.settled settles (h.mirrored.abort data) ?_ ?_
  · intro task x waits
    obtain ⟨waited, spared⟩ := edges.mp waits
    obtain ⟨missing, hopeful⟩ := h.unsettled task x waited
    refine ⟨missing, fun given => ?_⟩
    rcases IdSet.mem_insert.mp given with e | given
    · subst e
      exact spared ((h.mirrored task x).mpr waited)
    · exact hopeful given
  · intro task t' ht'
    by_cases waits : data ∈ s.dependencies.awaitedBy task
    · exact h.stands_aborted waits ht'
    · have spared : task ∉ s.dependencies.waitingFor data :=
        fun listed => waits ((h.mirrored task data).mp listed)
      rw [get?_abortData_of_not_mem spared] at ht'
      refine (h.stands task t' ht').kept (fun x => ?_) settles.grows fun x given => ?_
      · rw [edges]
        exact and_iff_left spared
      · exact IdSet.mem_insert.mpr (.inr given)

end Store

end GridAgent
