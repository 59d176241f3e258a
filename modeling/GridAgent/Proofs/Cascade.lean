import GridAgent.Proofs.Finalizer.Desk
import GridAgent.Proofs.Store.Fallout
import GridAgent.Proofs.Store.Trails

/-!
# The cascade of results that are given up

A finalizer gives up the results of a task, and then those of everybody who failed for it. Tasks may
wait for each other in circles or for their own results, and a result may be listed more than once:
whoever has failed waits for nothing any more, so no task fails twice and the rounds come to an end.
Then those have failed who had to, and nobody else has changed.
-/

namespace GridAgent.Finalizer

open Store

variable {c : Circumstances} {d d' : Desk} {s : Store} {task : TaskId} {t : TaskRecord}
  {moved pending : List TaskId} {given : List DataId}

/-- The rounds of a finalizer that gives results up, without a bound on their number: the last task
that is pending comes next, and whoever fails for it becomes pending. -/
inductive Abandons (c : Circumstances) : Desk → List TaskId → Desk → Prop where
  /-- Nobody is pending. -/
  | done {d : Desk} : Abandons c d [] d
  /-- The outputs of a task are given up. -/
  | next {d d' d'' : Desk} {pending failed : List TaskId} {task : TaskId}
    (last : pending.getLast? = some task) (round : c.does (abandonOne task) d = (.ok failed, d'))
    (rest : Abandons c d' (pending.dropLast ++ failed) d'') : Abandons c d pending d''

/-- Nothing but the store has been worked on. -/
def Desk.SameQueue (d d' : Desk) : Prop := d'.queue = d.queue ∧ d'.handed = d.handed

/-- The outputs of a task are given up one by one. -/
theorem Circumstances.run_giveUpAll {outputs : List DataId}
    (h : Fallout s t moved given d.store) (lost : ∀ data ∈ outputs, s.LostWith t data) :
    ∃ failed given' d', c.run (giveUpAll outputs) d = (failed, d') ∧ d.SameQueue d' ∧
      Fallout s t (moved ++ failed) given' d'.store ∧ given ⊆ given' ∧ outputs ⊆ given' := by
  induction outputs generalizing d moved given with
  | nil =>
    rw [← List.append_nil moved] at h
    exact ⟨[], given, d, rfl, ⟨rfl, rfl⟩, h, List.Subset.refl _, nofun⟩
  | cons data rest ih =>
    obtain ⟨here, later⟩ := List.forall_mem_cons.mp lost
    have first : Fallout s t (moved ++ (d.giveUp c data).1) (data :: given) (d.giveUp c data).2.store :=
      h.giveUp here _ _
    obtain ⟨failed, given', d', run, same, fallout, old, new⟩ := ih first later
    obtain ⟨known, old⟩ := List.cons_subset.mp old
    refine ⟨(d.giveUp c data).1 ++ failed, given', d', ?_, same, ?_, old, ?_⟩
    · rw [run_giveUpAll_cons, run]
    · rw [← List.append_assoc]
      exact fallout
    · exact List.cons_subset.mpr ⟨known, new⟩

/-- A finalizer is between two rounds: whoever has failed is pending, or its outputs have been given
up. -/
structure BetweenRounds (s : Store) (task : TaskId) (t : TaskRecord) (moved pending : List TaskId)
    (given : List DataId) (s' : Store) : Prop extends Fallout s t moved given s' where
  /-- Nobody is pending who did not fail, but for the task itself. -/
  known : pending ⊆ task :: moved
  /-- The outputs of all others have been given up. -/
  handled : ∀ x ∈ task :: moved, x ∉ pending → ∀ r, s.get? x = some r → r.outputs ⊆ given

/-- Whoever is pending is stored, with the outputs that it had. -/
theorem BetweenRounds.stored {s' : Store} (h : BetweenRounds s task t moved pending given s')
    (first : s.get? task = some t) {x : TaskId} (hx : x ∈ pending) :
    ∃ r r', s.get? x = some r ∧ s'.get? x = some r' ∧ r'.outputs = r.outputs ∧
      ∀ data ∈ r.outputs, s.LostWith t data := by
  have listed := h.known hx
  by_cases fell : x ∈ moved
  · obtain ⟨r, data, now, stored, -, -, ended⟩ := h.failed x fell
    have outputs := TaskRecord.eq_of_essence TaskRecord.outputs
      (r.apply_essence (TaskUpdate.finish .error (abortedInput data) now)) fun _ => rfl
    exact ⟨r, _, stored, ended, outputs, fun data output => .inr ⟨x, r, h.due x fell, stored, output⟩⟩
  · obtain rfl := (List.mem_cons.mp listed).resolve_right fell
    exact ⟨t, t, first, (h.others x fell).trans first, rfl, fun data output => .inl output⟩

/-- No more tasks fail than are stored. -/
theorem length_of_fallout {s' : Store} (h : Fallout s t moved given s') :
    moved.length ≤ s.tasks.keys.length := by
  have stored : moved ⊆ s.tasks.keys := by
    intro x fell
    obtain ⟨r, data, now, stored, -⟩ := h.failed x fell
    exact Table.mem_keys.mpr (Option.isSome_iff_exists.mpr ⟨r, stored⟩)
  exact (List.subperm_of_subset h.once stored).length_le

/-- A round handles the last task that is pending. -/
theorem BetweenRounds.round (h : BetweenRounds s task t moved pending given d.store)
    (healthy : s.failures = 0) (first : s.get? task = some t) {x : TaskId}
    (last : pending.getLast? = some x) :
    ∃ failed given' d', c.does (abandonOne x) d = (.ok failed, d') ∧ d.SameQueue d' ∧
      BetweenRounds s task t (moved ++ failed) (pending.dropLast ++ failed) given' d'.store := by
  have split : pending = pending.dropLast ++ [x] :=
    (List.dropLast_append_getLast? x last).symm
  have hx : x ∈ pending := List.mem_of_getLast? last
  obtain ⟨r, r', stored, stored', outputs, lost⟩ := h.stored first hx
  have healthy' : d.store.failures = 0 := by
    rw [h.rest]
    exact healthy
  have begun : Fallout s t moved given ({ d with turn := d.turn + 1 } : Desk).store := h.toFallout
  obtain ⟨failed, given', d', run, same, fallout, old, new⟩ :=
    Circumstances.run_giveUpAll (c := c) begun lost
  refine ⟨failed, given', d', ?_, same, fallout, ?_, ?_⟩
  · have read : c.does (readTask x) d = (.ok (some r'), { d with turn := d.turn + 1 }) :=
      (Circumstances.does_readTask healthy').trans (by rw [stored'])
    have work : c.does (abandonOne x) d = _ := Circumstances.does_bind read
    rw [work]
    show c.run (Program.bind (giveUpAll r'.outputs) _) _ = _
    rw [outputs, Circumstances.run_bind, run]
    rfl
  · intro y hy
    rcases List.mem_append.mp hy with hy | hy
    · have before := h.known (List.dropLast_subset pending hy)
      exact List.mem_append_left failed before
    · exact List.mem_cons_of_mem task (List.mem_append_right moved hy)
  · intro y hy out ry stored_y
    obtain ⟨other, fresh⟩ := not_or.mp (mt List.mem_append.mpr out)
    have before : y ∈ task :: moved := (List.mem_append.mp hy).resolve_right fresh
    by_cases e : y = x
    · subst e
      obtain rfl := Option.some.inj (stored.symm.trans stored_y)
      exact new
    · have settled : y ∉ pending := by
        rw [split, List.mem_append, List.mem_singleton]
        exact not_or.mpr ⟨other, e⟩
      exact List.Subset.trans (h.handled y before settled ry stored_y) old

/-- The rounds come to an end within the bound, since nobody fails twice. -/
theorem BetweenRounds.finish (h : BetweenRounds s task t moved pending given d.store)
    (healthy : s.failures = 0) (first : s.get? task = some t) {rounds : Nat}
    (enough : pending.length + s.tasks.keys.length ≤ rounds + moved.length) :
    ∃ moved' given' d', Abandons c d pending d' ∧
      c.does (abandonWithin rounds pending) d = (.ok (), d') ∧ d.SameQueue d' ∧
        BetweenRounds s task t moved' [] given' d'.store := by
  induction rounds generalizing d moved pending given with
  | zero =>
    have few := length_of_fallout h.toFallout
    obtain rfl : pending = [] := List.eq_nil_of_length_eq_zero (by omega)
    exact ⟨moved, given, d, .done, rfl, ⟨rfl, rfl⟩, h⟩
  | succ rounds ih =>
    cases last : pending.getLast? with
    | none =>
      obtain rfl := List.getLast?_eq_none_iff.mp last
      exact ⟨moved, given, d, .done, rfl, ⟨rfl, rfl⟩, h⟩
    | some x =>
      obtain ⟨failed, given₁, d₁, work, same, later⟩ := h.round (c := c) healthy first last
      have shorter : pending.dropLast.length + 1 = pending.length := by
        have some_pending : pending ≠ [] := by
          rintro rfl
          cases last
        have long := List.length_pos_of_ne_nil some_pending
        rw [List.length_dropLast]
        omega
      have enough' : (pending.dropLast ++ failed).length + s.tasks.keys.length ≤
          rounds + (moved ++ failed).length := by
        rw [List.length_append, List.length_append]
        omega
      obtain ⟨moved', given', d', loop, run, same', ended⟩ := ih later enough'
      refine ⟨moved', given', d', .next last work loop, ?_, ?_, ended⟩
      · unfold abandonWithin
        rw [last]
        exact (Circumstances.does_bind work).trans run
      · exact ⟨same'.1.trans same.1, same'.2.trans same.2⟩

/-- What becomes of a store when the results of a task are given up. -/
structure Cascade (s : Store) (t : TaskRecord) (moved : List TaskId) (s' : Store) : Prop where
  /-- Those are moved that fail for the task. -/
  exactly : ∀ x, x ∈ moved ↔ s.FailsFor t x
  /-- Each of them is moved once, and that is all that is written. -/
  once : moved.Nodup
  log : s'.log = s.log ++ moved.map fun x => (x, .error)
  /-- It has ended with an error, for data that it waited for. -/
  failed : ∀ x ∈ moved, ∃ r data now, s.get? x = some r ∧ s.LostWith t data ∧
    x ∈ s.dependencies.waitingFor data ∧
      s'.get? x = some (r.apply (TaskUpdate.finish .error (abortedInput data) now))
  /-- All other records are as before. -/
  others : ∀ x, x ∉ moved → s'.get? x = s.get? x
  /-- The outputs of the task and of all that were moved are given up, and nothing else. -/
  aborted : ∀ data, data ∈ s'.aborted ↔ data ∈ s.aborted ∨ s.LostWith t data
  /-- Nothing else has changed but the index, which goes on to hold the same edges on both sides. -/
  mirrored : s'.dependencies.Mirrored
  rest : s' = { s with
    tasks := s'.tasks, dependencies := s'.dependencies, aborted := s'.aborted, log := s'.log }

/-- Whatever the dependencies are and in whichever order waiting tasks are visited, a finalizer that
gives up the results of a task comes to an end, and the rounds would without a bound. Those fail that
were going to, each once, and nothing is pushed. -/
theorem abandon_cascades (c : Circumstances) (d : Desk) (healthy : d.store.failures = 0)
    (mirrored : d.store.dependencies.Mirrored) (stored : d.store.get? task = some t) :
    ∃ moved d', Abandons c d [task] d' ∧ c.does (abandon task) d = (.ok (), d') ∧
      Cascade d.store t moved d'.store ∧ d'.queue = d.queue ∧ d'.handed = d.handed := by
  have begun : BetweenRounds d.store task t [] [task] [] d.store := by
    refine ⟨.begin mirrored t, List.Subset.refl _, ?_⟩
    intro x hx out
    exact absurd hx out
  have count : d.store.taskIds.length = d.store.tasks.keys.length := List.length_mergeSort _
  have enough : [task].length + d.store.tasks.keys.length ≤
      d.store.taskIds.length + 1 + ([] : List TaskId).length := by
    rw [count, List.length_singleton, List.length_nil]
    omega
  obtain ⟨moved, given, d', loop, run, same, ended⟩ := begun.finish (c := c) healthy stored enough
  have own : t.outputs ⊆ given := ended.handled task List.mem_cons_self List.not_mem_nil t stored
  have theirs : ∀ x ∈ moved, ∀ r, d.store.get? x = some r → r.outputs ⊆ given :=
    fun x fell => ended.handled x (List.mem_cons_of_mem task fell) List.not_mem_nil
  obtain ⟨exactly, lost⟩ := ended.complete own theirs
  refine ⟨moved, d', loop, ?_, ?_, same⟩
  · exact Circumstances.does_lift.trans run
  · exact {
      exactly, once := ended.once, log := ended.log, failed := ended.failed, others := ended.others
      aborted := fun data => (ended.aborted data).trans (or_congr_right (lost data))
      mirrored := ended.mirrored, rest := ended.rest }

/-- A failed task lists its output twice. Two tasks wait for each other and one of them for that
output, another one waits for its own output, and one has been dispatched too early. -/
def knot : Store :=
  ((((({} : Store).insert (sketch 1 .error [] [100, 100])).insert
    (sketch 2 .creating [100, 103] [102])).insert (sketch 3 .pending [102] [103])).insert
      (sketch 4 .creating [104] [104])).insert (sketch 5 .dispatched [102] [])

theorem knot_mirrored : knot.dependencies.Mirrored :=
  ((((mirrored_empty.addAll _).addAll _).addAll _).addAll _).addAll _

/-- The first task of the knot is given up, with visits in descending order: the two tasks in the
circle fail, and the others stay. -/
theorem knot_abandoned : ∃ moved d',
    Circumstances.descending.does (abandon (.ofNat 1)) ⟨knot, {}, 0, []⟩ = (.ok (), d') ∧
    Cascade knot (sketch 1 .error [] [100, 100]) moved d'.store ∧
    .ofNat 2 ∈ moved ∧ .ofNat 3 ∈ moved ∧ d'.queue.ready = [] := by
  have stored : knot.get? (.ofNat 1) = some (sketch 1 .error [] [100, 100]) := by decide +kernel
  obtain ⟨moved, d', -, run, cascade, queue, -⟩ := abandon_cascades
    .descending ⟨knot, {}, 0, []⟩ rfl knot_mirrored stored
  have output : (.ofNat 100 : DataId) ∈ (sketch 1 .error [] [100, 100]).outputs := by decide
  have second : knot.FailsFor (sketch 1 .error [] [100, 100]) (.ofNat 2) :=
    .first output (by decide +kernel) (by decide +kernel)
  have stored : knot.get? (.ofNat 2) = some (sketch 2 .creating [100, 103] [102]) := by
    decide +kernel
  have output : (.ofNat 102 : DataId) ∈ (sketch 2 .creating [100, 103] [102]).outputs := by decide
  have third : knot.FailsFor (sketch 1 .error [] [100, 100]) (.ofNat 3) :=
    .next second stored output (by decide +kernel) (by decide +kernel)
  exact ⟨moved, d', run, cascade, (cascade.exactly _).mpr second, (cascade.exactly _).mpr third,
    congrArg Queue.ready queue⟩

end GridAgent.Finalizer
