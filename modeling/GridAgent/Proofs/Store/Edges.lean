import Mathlib.Data.Set.Insert
import GridAgent.Proofs.Store.Settling
import GridAgent.Proofs.Store.Visits

/-!
# The index as a set of edges

The two tables of the index hold one set of edges, from both sides, and neither of them holds an empty
set. An edge that is added, data that becomes available and data that is given up each keep this: with
an edge more, without the edges to the data, and without any edge of those who had one to the data.
-/

namespace GridAgent.Dependencies

/-- No entry of a table is an empty set. -/
def Filled {a b : IdKind} (t : Table (Id a) (IdSet b)) : Prop :=
  ∀ near others, t.get? near = some others → others.isEmpty = false

namespace Filled

variable {a b : IdKind} {t : Table (Id a) (IdSet b)}

theorem empty : Filled (.empty : Table (Id a) (IdSet b)) := fun _ _ found => nomatch found

theorem link (h : Filled t) (near : Id a) (far : Id b) : Filled (link near far t) := by
  intro k others found
  rw [Dependencies.link, Table.get?_set] at found
  split at found
  · obtain rfl := Option.some.inj found
    refine Bool.eq_false_iff.mpr fun none => ?_
    exact IdSet.not_mem_of_isEmpty none (IdSet.mem_insert.mpr (.inl rfl))
  · exact h k others found

theorem erase (h : Filled t) (near : Id a) : Filled (t.erase near) := by
  intro k others found
  rw [Table.get?_erase] at found
  split at found
  · cases found
  · exact h k others found

theorem unlink (h : Filled t) (near : Id a) (far : Id b) : Filled (unlink near far t) := by
  intro k others found
  rw [get?_unlink] at found
  split at found
  · obtain ⟨before, -, left⟩ := Option.bind_eq_some_iff.mp found
    split at left
    · cases left
    · next some =>
      obtain rfl := Option.some.inj left
      exact Bool.eq_false_iff.mpr some
  · exact h k others found

/-- Edges are removed one after the other. -/
theorem foldl_unlink {α : Type} (near : α → Id a) (far : α → Id b) (l : List α) (h : Filled t) :
    Filled (l.foldl (fun t x => Dependencies.unlink (near x) (far x) t) t) := by
  induction l generalizing t with
  | nil => exact h
  | cons x rest ih => exact ih (h.unlink (near x) (far x))

end Filled

/-- An index with exactly these edges, on both sides, and with no empty set. -/
structure Holds (g : Dependencies) (edges : Set (TaskId × DataId)) : Prop where
  /-- What a task waits for. -/
  awaited : ∀ task data, data ∈ g.awaitedBy task ↔ (task, data) ∈ edges
  /-- Who waits for data. -/
  waiting : ∀ task data, task ∈ g.waitingFor data ↔ (task, data) ∈ edges
  awaited_filled : Filled g.awaited
  waiting_filled : Filled g.waiting

variable {g : Dependencies} {edges : Set (TaskId × DataId)}

theorem Holds.empty : Holds {} ∅ where
  awaited _ _ := iff_of_false IdSet.not_mem_empty (Set.notMem_empty _)
  waiting _ _ := iff_of_false List.not_mem_nil (Set.notMem_empty _)
  awaited_filled := .empty
  waiting_filled := .empty

theorem Holds.mirrored (h : Holds g edges) : g.Mirrored := fun task data =>
  (h.waiting task data).trans (h.awaited task data).symm

/-- An edge is added on both sides. -/
theorem Holds.add (h : Holds g edges) (task : TaskId) (data : DataId) :
    Holds (g.add task data) (insert (task, data) edges) where
  awaited other x := by
    rw [mem_awaitedBy_add, h.awaited, Set.mem_insert_iff, Prod.mk.injEq]
  waiting other x := by
    rw [mem_waitingFor_add, h.waiting, Set.mem_insert_iff, Prod.mk.injEq]
  awaited_filled := h.awaited_filled.link task data
  waiting_filled := h.waiting_filled.link data task

/-- Data becomes available, and its edges go. -/
theorem Holds.resolve (h : Holds g edges) (data : DataId) :
    Holds (g.resolve data).2 {e ∈ edges | e.2 ≠ data} where
  awaited task x := by
    rw [h.mirrored.mem_resolve, h.awaited]
    exact Iff.rfl
  waiting task x := by
    rw [mem_waitingFor_resolve, h.waiting]
    exact and_comm
  awaited_filled := h.awaited_filled.foldl_unlink id (fun _ => data) _
  waiting_filled := h.waiting_filled.erase data

/-- Whoever leaves the index leaves no empty set behind. -/
theorem filled_leaveAll (tasks : List TaskId) (h : Filled g.awaited ∧ Filled g.waiting) :
    Filled (tasks.foldl leave g).awaited ∧ Filled (tasks.foldl leave g).waiting := by
  induction tasks generalizing g with
  | nil => exact h
  | cons task rest ih =>
    exact ih ⟨h.1.erase task, h.2.foldl_unlink id (fun _ => task) (g.awaitedBy task).toList⟩

/-- Data is given up, and everyone with an edge to it leaves with all edges. -/
theorem Holds.abort (h : Holds g edges) (data : DataId) :
    Holds (g.abort data).2 {e ∈ edges | (e.1, data) ∉ edges} := by
  have awaited (task : TaskId) (x : DataId) : x ∈ (g.abort data).2.awaitedBy task ↔
      (task, x) ∈ edges ∧ (task, data) ∉ edges := by
    rw [mem_awaitedBy_abort, h.awaited, h.waiting]
  have filled := filled_leaveAll (g := { g with waiting := g.waiting.erase data })
    (g.waitingFor data) ⟨h.awaited_filled, h.waiting_filled.erase data⟩
  exact
    { awaited
      waiting := fun task x => (h.mirrored.abort data task x).trans (awaited task x)
      awaited_filled := filled.1
      waiting_filled := filled.2 }

/-- A call that changes an index. Those who wait for data that is settled are visited in an order of
choice. -/
inductive Edit where
  /-- The task waits for the data. -/
  | add (task : TaskId) (data : DataId)
  /-- The data is available. -/
  | resolve (visit : Visit) (data : DataId)
  /-- The data will never exist. -/
  | abort (visit : Visit) (data : DataId)

/-- The index after a call. -/
def edited (g : Dependencies) : Edit → Dependencies
  | .add task data => g.add task data
  | .resolve visit data => (g.resolveIn visit data).2
  | .abort visit data => (g.abortIn visit data).2

/-- The edges after a call. -/
def Edit.on (edges : Set (TaskId × DataId)) : Edit → Set (TaskId × DataId)
  | .add task data => insert (task, data) edges
  | .resolve _ data => {e ∈ edges | e.2 ≠ data}
  | .abort _ data => {e ∈ edges | (e.1, data) ∉ edges}

theorem Holds.edited (h : Holds g edges) (edit : Edit) : Holds (g.edited edit) (edit.on edges) := by
  cases edit with
  | add task data => exact h.add task data
  | resolve visit data =>
    show Holds (g.resolveIn visit data).2 _
    rw [resolveIn_index]
    exact h.resolve data
  | abort visit data =>
    show Holds (g.abortIn visit data).2 _
    rw [abortIn_index]
    exact h.abort data

/-- An empty index after some calls. -/
def after (edits : List Edit) : Dependencies := edits.foldl Dependencies.edited {}

/-- The edges after the same calls. -/
def edgesAfter (edits : List Edit) : Set (TaskId × DataId) := edits.foldl Edit.on ∅

/-- Whatever the calls, the index holds the edges. -/
theorem after_holds (edits : List Edit) : Holds (after edits) (edgesAfter edits) := by
  suffices h : ∀ (g : Dependencies) (edges : Set (TaskId × DataId)), Holds g edges →
      Holds (edits.foldl Dependencies.edited g) (edits.foldl Edit.on edges) from h _ _ .empty
  induction edits with
  | nil => exact fun g edges h => h
  | cons edit rest ih => exact fun g edges h => ih _ _ (h.edited edit)

/-- A set is empty exactly if it has no members. -/
theorem isEmpty_iff {kind : IdKind} (s : IdSet kind) : s.isEmpty = true ↔ ∀ x, ¬ x ∈ s := by
  refine ⟨fun none x => IdSet.not_mem_of_isEmpty none, fun none => ?_⟩
  rw [IdSet.eq_empty_of_forall_not_mem none]
  rfl

/-- A task waits for something exactly if it has an edge. -/
theorem Holds.isWaiting_iff (h : Holds g edges) (task : TaskId) :
    g.isWaiting task = true ↔ ∃ data, (task, data) ∈ edges := by
  rw [isWaiting, Bool.not_eq_true', ← Bool.not_eq_true, isEmpty_iff, not_forall]
  exact exists_congr fun data => not_not.trans (h.awaited task data)

/-- Those with an edge to data are visited once each. -/
theorem Holds.visited (h : Holds g edges) (visit : Visit) (data : DataId) :
    (visit.order (g.waitingFor data)).Nodup ∧
      ∀ task, task ∈ visit.order (g.waitingFor data) ↔ (task, data) ∈ edges := by
  have same := visit.perm (g.waitingFor data)
  exact ⟨same.nodup_iff.mpr (IdSet.nodup _), fun task => same.mem_iff.trans (h.waiting task data)⟩

/-- Data that becomes available answers for each task with an edge to it whether the task has no edge
left. -/
theorem Holds.mem_resolved (h : Holds g edges) (visit : Visit) (data : DataId) (task : TaskId)
    (free : Bool) :
    (task, free) ∈ (g.resolveIn visit data).1 ↔
      (task, data) ∈ edges ∧
        (free = true ↔ ∀ other, (task, other) ∉ {e ∈ edges | e.2 ≠ data}) := by
  have left : ((g.awaitedBy task).erase data).isEmpty = true ↔
      ∀ other, (task, other) ∉ {e ∈ edges | e.2 ≠ data} := by
    rw [isEmpty_iff]
    refine forall_congr' fun other => not_congr ?_
    rw [IdSet.mem_erase, h.awaited]
    exact Iff.rfl
  rw [← left, Bool.coe_iff_coe, ← (h.visited visit data).2 task]
  constructor
  · intro mem
    obtain ⟨_, visited, e⟩ := List.mem_map.mp mem
    cases e
    exact ⟨visited, rfl⟩
  · rintro ⟨visited, rfl⟩
    exact List.mem_map.mpr ⟨task, visited, rfl⟩

/-- The index behaves as this set of edges. -/
structure Refines (g : Dependencies) (edges : Set (TaskId × DataId)) : Prop where
  /-- Both tables hold these edges and no empty set. -/
  holds : Holds g edges
  /-- Whether a task waits is whether it has an edge. -/
  isWaiting : ∀ task, g.isWaiting task = true ↔ ∃ data, (task, data) ∈ edges
  /-- Those who wait for data are those with an edge to it, once each. -/
  waitingFor : ∀ data, (g.waitingFor data).Nodup ∧
    ∀ task, task ∈ g.waitingFor data ↔ (task, data) ∈ edges
  /-- One edge is added. -/
  add : ∀ task data, Holds (g.add task data) (insert (task, data) edges)
  /-- Data that becomes available takes exactly the edges to it away. -/
  resolve : ∀ visit data, Holds (g.resolveIn visit data).2 {e ∈ edges | e.2 ≠ data}
  /-- The tasks with an edge to it are answered, once each, with whether they have no edge left. -/
  resolved : ∀ visit data, ((g.resolveIn visit data).1.map Prod.fst).Nodup ∧
    ∀ task free, (task, free) ∈ (g.resolveIn visit data).1 ↔
      (task, data) ∈ edges ∧
        (free = true ↔ ∀ other, (task, other) ∉ {e ∈ edges | e.2 ≠ data})
  /-- Data that is given up takes every edge of every task away that had an edge to it. -/
  abort : ∀ visit data, Holds (g.abortIn visit data).2 {e ∈ edges | (e.1, data) ∉ edges}
  /-- Exactly these tasks are answered, once each. -/
  aborted : ∀ visit data, (g.abortIn visit data).1.Nodup ∧
    ∀ task, task ∈ (g.abortIn visit data).1 ↔ (task, data) ∈ edges

theorem Holds.refines (h : Holds g edges) : Refines g edges where
  holds := h
  isWaiting := h.isWaiting_iff
  waitingFor data := ⟨IdSet.nodup _, fun task => h.waiting task data⟩
  add := h.add
  resolve visit data := h.edited (.resolve visit data)
  resolved visit data := by
    refine ⟨?_, h.mem_resolved visit data⟩
    rw [resolveIn, List.map_map]
    exact (List.map_id _).symm ▸ (h.visited visit data).1
  abort visit data := h.edited (.abort visit data)
  aborted := h.visited

/-- After every sequence of calls on an empty index, in whatever order those who wait are visited, the
index behaves as the set of edges after the same calls. -/
theorem index_refines_edges (edits : List Edit) : Refines (after edits) (edgesAfter edits) :=
  (after_holds edits).refines

/-- Two tasks wait for two data objects, and data is given up that only one of them waits for: the other
one waits on. -/
example :
    let g := after [.add (.ofNat 1) (.ofNat 5), .add (.ofNat 1) (.ofNat 6),
      .add (.ofNat 2) (.ofNat 6), .abort .descending (.ofNat 5)]
    g.isWaiting (.ofNat 1) = false ∧ g.waitingFor (.ofNat 6) = [.ofNat 2] ∧
      (g.resolve (.ofNat 6)).1 = [(.ofNat 2, true)] := by decide

end GridAgent.Dependencies
