import GridAgent.Proofs.Cluster.Needs

/-!
# No task begins before its inputs exist

Two things take a task out of creation: data that becomes available, which trusts the index, and
agents that promote successors, who do not look at data at all. Both are right. The index knows all
that a task in creation waits for, and a successor continues a task that had its data itself.
-/

namespace GridAgent.Cluster

open Agent

variable {fleet : Fleet} {start c : State} {task : TaskId} {t : TaskRecord}

/-- Agents and clients start from an empty store, clients insert tasks that wait for all they need or
submit tasks that have it, and anything else happens in any order. Then every task that has been
submitted waits for nothing and has its data. Whatever happens to a record, it waits for less and
less. -/
theorem begun_tasks_have_inputs (hi : start.Initial) (empty : start.shared.store = {})
    (hr : Proceeds fleet insertsStocked start c) (ht : c.shared.store.get? task = some t) :
    (t.status ∈ [.submitted, .dispatched, .processing, .completed, .timeout, .retried] →
      t.remaining = .empty ∧ ∀ data ∈ t.dependencies, data ∈ c.shared.store.available) ∧
    ∀ c', Reaches fleet anyEvent c c' → ∃ t', c'.shared.store.get? task = some t' ∧
      ∀ data ∈ t'.remaining, data ∈ t.remaining := by
  constructor
  · intro begun
    have equipped : Equipped c.shared.store := by
      refine (hr.equipped hi ?_).here
      rw [empty]
      exact equipped_empty
    have left : t.status.mayWait = false := by
      simp only [List.mem_cons, List.not_mem_nil, or_false] at begun
      rcases begun with e | e | e | e | e | e <;> rw [e] <;> rfl
    exact equipped.has ht left
  · intro c' later
    exact (hr.reaches.sound hi).shrinks_run ht later

/-- Nothing is stored, and nobody has begun. -/
def emptyStart : State := { shared := {} }

/-- A task in creation that needs one data object and produces another one. -/
def firstOfChain : TaskRecord :=
  { TaskRecord.first (.ofNat 1) (.ofNat 1) (.ofNat 1) {} morning with
    dependencies := .ofList [.ofNat 7]
    remaining := .ofList [.ofNat 7]
    outputs := [.ofNat 5] }

/-- A task in creation that needs what the first one produces. -/
def secondOfChain : TaskRecord :=
  { TaskRecord.first (.ofNat 2) (.ofNat 1) (.ofNat 1) {} morning with
    dependencies := .ofList [.ofNat 5]
    remaining := .ofList [.ofNat 5] }

/-- Both tasks are inserted, a client produces what the first one needs, and an agent handles it. -/
def chainEvents : List Event :=
  [.move (.insert firstOfChain), .move (.insert secondOfChain),
    .move (.resolve .ascending (.ofNat 7) morning), .move (.push [firstOfChain.id]), .move (.pull 1),
    .start ⟨"first"⟩ (.handle 1 firstOfChain.id)] ++ List.replicate 37 (.answer 0 (plainly morning))

/-- The first task has been executed. -/
def chainCluster : State := (emptyStart.play plainFleet chainEvents).getD emptyStart

theorem emptyStart_initial : emptyStart.Initial := by
  refine ⟨rfl, fun _ => rfl, ?_, nofun, nofun⟩
  intro task record hr
  have missing : emptyStart.shared.store.get? task = none := rfl
  cases missing.symm.trans hr

theorem chainEvents_stocked : ∀ event ∈ chainEvents, ∀ d, insertsStocked d event := by
  intro event he d
  rcases List.mem_append.mp he with he | he
  · simp only [List.mem_cons, List.not_mem_nil, or_false] at he
    rcases he with rfl | rfl | rfl | rfl | rfl | rfl
    · exact .inl ⟨rfl, rfl⟩
    · exact .inl ⟨rfl, rfl⟩
    all_goals trivial
  · rw [List.eq_of_mem_replicate he]
    trivial

/-- The first task of a chain is completed with the data that it needs there, and the second one is
submitted once the first one's result is. -/
theorem begun_tasks_have_inputs_chain :
    ∃ c t t', Proceeds plainFleet insertsStocked emptyStart c ∧
      c.shared.store.get? firstOfChain.id = some t ∧ t.status = .completed ∧
      c.shared.store.get? secondOfChain.id = some t' ∧ t'.status = .submitted ∧
      .ofNat 7 ∈ c.shared.store.available ∧ .ofNat 5 ∈ c.shared.store.available ∧
      t'.remaining = .empty := by
  have run : Proceeds plainFleet insertsStocked emptyStart chainCluster :=
    Proceeds.refl.of_play chainEvents_stocked rfl
  have first : (chainCluster.shared.store.get? firstOfChain.id).map
      (fun t => (t.status, t.dependencies)) = some (.completed, .ofList [.ofNat 7]) := by
    decide +kernel
  have second : (chainCluster.shared.store.get? secondOfChain.id).map
      (fun t => (t.status, t.dependencies)) = some (.submitted, .ofList [.ofNat 5]) := by
    decide +kernel
  obtain ⟨t, ht, facts⟩ := Option.map_eq_some_iff.mp first
  obtain ⟨t', ht', facts'⟩ := Option.map_eq_some_iff.mp second
  obtain ⟨completed, needs⟩ := Prod.mk.inj facts
  obtain ⟨submitted, needs'⟩ := Prod.mk.inj facts'
  have has := (begun_tasks_have_inputs emptyStart_initial rfl run ht).1 (by rw [completed]; decide)
  have has' :=
    (begun_tasks_have_inputs emptyStart_initial rfl run ht').1 (by rw [submitted]; decide)
  refine ⟨chainCluster, t, t', run, ht, completed, ht', submitted, has.2 _ ?_, has'.2 _ ?_, has'.1⟩
  · rw [needs]
    exact IdSet.mem_ofList.mpr List.mem_cons_self
  · rw [needs']
    exact IdSet.mem_ofList.mpr List.mem_cons_self

end GridAgent.Cluster
