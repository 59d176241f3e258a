import GridAgent.Proofs.Cluster.Lineages
import Mathlib.Data.List.Induction
import Mathlib.Data.List.Nodup

/-!
# Lineages are lines

Whoever creates successors, and in whatever order, the attempts of a lineage stand one behind the
other: each but the last is retried and has one successor, and there are no more of them than the
root may be retried. Everything follows from how an attempt hangs on its parent, by going up its
ancestors.
-/

namespace GridAgent.Cluster

open Agent

variable {fleet : Fleet} {start c : State} {defaults : SessionId → Options} {s : Store}
  {task task' : TaskId} {t t' : TaskRecord}

namespace Lineages

/-- An ancestor is stored and retried, has the ancestors before it, and passed on the same. -/
theorem ancestor (h : Lineages defaults s) {front back : List TaskId} {parent : TaskId}
    (ht : s.get? task = some t) (ha : t.ancestors = front ++ parent :: back) :
    ∃ p, s.get? parent = some p ∧ p.status = .retried ∧ p.ancestors = front ∧
      p.line defaults = { t.line defaults with ancestors := front } := by
  induction back using List.reverseRecOn generalizing task t with
  | nil =>
    obtain ⟨p, hp, retried, pa, line, -⟩ := h.child task t front parent ht ha
    refine ⟨p, hp, retried, pa, ?_⟩
    rw [line, ← pa]
    rfl
  | append_singleton back last ih =>
    -- the last ancestor is the parent, and the others are the ancestors of the parent
    rw [← List.cons_append, ← List.append_assoc] at ha
    obtain ⟨q, hq, -, qa, line, -⟩ := h.child task t _ last ht ha
    obtain ⟨p, hp, retried, pa, same⟩ := ih hq qa
    refine ⟨p, hp, retried, pa, ?_⟩
    rw [same, line]

/-- No task is its own ancestor. -/
theorem not_mem_ancestors (h : Lineages defaults s) (ht : s.get? task = some t) :
    task ∉ t.ancestors := by
  intro hm
  obtain ⟨front, back, ha⟩ := List.append_of_mem hm
  obtain ⟨p, hp, -, pa, -⟩ := h.ancestor ht ha
  obtain rfl := Option.some.inj (hp.symm.trans ht)
  have lengths := congrArg List.length (pa.symm.trans ha)
  simp at lengths

/-- No ancestor comes twice. -/
theorem nodup_ancestors (h : Lineages defaults s) (ht : s.get? task = some t) :
    t.ancestors.Nodup := by
  induction ha : t.ancestors using List.reverseRecOn generalizing task t with
  | nil => exact List.nodup_nil
  | append_singleton front parent ih =>
    obtain ⟨p, hp, -, pa, -⟩ := h.child task t front parent ht ha
    rw [← List.concat_eq_append]
    refine List.Nodup.concat ?_ (ih hp pa)
    rw [← pa]
    exact h.not_mem_ancestors hp

/-- The root of a lineage is stored, has no ancestors, and passed on the same. -/
theorem root_stored (h : Lineages defaults s) (ht : s.get? task = some t) :
    t.initial = t.ancestors.headD task ∧ ∃ r, s.get? t.initial = some r ∧ r.ancestors = [] ∧
      r.line defaults = { t.line defaults with ancestors := [] } := by
  cases ha : t.ancestors with
  | nil =>
    have here : t.initial = task := h.root task t ht ha
    refine ⟨here, t, ?_, ha, ?_⟩
    · rw [here]
      exact ht
    · rw [← ha]
      rfl
  | cons first back =>
    have split : t.ancestors = [] ++ first :: back := ha
    obtain ⟨r, hr, -, ra, line⟩ := h.ancestor ht split
    have there : r.initial = t.initial := congrArg Line.initial line
    have here : t.initial = first := there.symm.trans (h.root first r hr ra)
    exact ⟨here, r, here ▸ hr, ra, line⟩

/-- Two attempts of one lineage with as many ancestors are the same. -/
theorem eq_of_length (h : Lineages defaults s) (ht : s.get? task = some t)
    (ht' : s.get? task' = some t') (same : t.initial = t'.initial)
    (length : t.ancestors.length = t'.ancestors.length) : task = task' := by
  induction ha : t.ancestors using List.reverseRecOn generalizing task t task' t' with
  | nil =>
    have none : t'.ancestors = [] := by
      rw [← List.length_eq_zero_iff, ← length, ha]
      rfl
    exact (h.root task t ht ha).symm.trans (same.trans (h.root task' t' ht' none))
  | append_singleton front parent ih =>
    rcases List.eq_nil_or_concat' t'.ancestors with none | ⟨front', parent', ha'⟩
    · rw [ha, none] at length
      simp at length
    · obtain ⟨p, hp, -, pa, line, succeeded⟩ := h.child task t front parent ht ha
      obtain ⟨p', hp', -, pa', line', succeeded'⟩ := h.child task' t' front' parent' ht' ha'
      -- the parents are the same, and a task has one recorded successor
      have initial : p.initial = p'.initial :=
        (congrArg Line.initial line).symm.trans (same.trans (congrArg Line.initial line'))
      have shorter : p.ancestors.length = p'.ancestors.length := by
        rw [pa, pa']
        rw [ha, ha'] at length
        simpa using length
      obtain rfl := ih hp hp' initial shorter pa
      exact Option.some.inj (succeeded.symm.trans succeeded')

/-- An attempt is an ancestor of those of its lineage that have more ancestors. -/
theorem ancestors_of_length_lt (h : Lineages defaults s) (ht : s.get? task = some t)
    (ht' : s.get? task' = some t') (same : t.initial = t'.initial)
    (shorter : t.ancestors.length < t'.ancestors.length) :
    ∃ front back, t'.ancestors = front ++ task :: back := by
  -- the ancestor of the other one that has as many ancestors is the attempt itself
  have split : t'.ancestors = t'.ancestors.take t.ancestors.length ++
      t'.ancestors[t.ancestors.length] :: t'.ancestors.drop (t.ancestors.length + 1) := by
    rw [← List.drop_eq_getElem_cons shorter, List.take_append_drop]
  obtain ⟨p, hp, -, pa, line⟩ := h.ancestor ht' split
  have initial : p.initial = t.initial := (congrArg Line.initial line).trans same.symm
  have length : p.ancestors.length = t.ancestors.length := by
    rw [pa, List.length_take, Nat.min_eq_left (Nat.le_of_lt shorter)]
  have here := h.eq_of_length hp ht initial length
  exact ⟨_, _, here ▸ split⟩

/-- An attempt with fewer ancestors than another one of its lineage is retried. -/
theorem retried_of_length_lt (h : Lineages defaults s) (ht : s.get? task = some t)
    (ht' : s.get? task' = some t') (same : t.initial = t'.initial)
    (shorter : t.ancestors.length < t'.ancestors.length) : t.status = .retried := by
  obtain ⟨front, back, ha⟩ := h.ancestors_of_length_lt ht ht' same shorter
  obtain ⟨p, hp, retried, -⟩ := h.ancestor ht' ha
  obtain rfl := Option.some.inj (hp.symm.trans ht)
  exact retried

/-- An ancestor has a successor. -/
theorem succeeded (h : Lineages defaults s) {front back : List TaskId} {parent : TaskId}
    (ht : s.get? task = some t) (ha : t.ancestors = front ++ parent :: back) :
    ∃ heir, s.successors.get? parent = some heir := by
  induction back using List.reverseRecOn generalizing task t with
  | nil =>
    obtain ⟨-, -, -, -, -, recorded⟩ := h.child task t front parent ht ha
    exact ⟨task, recorded⟩
  | append_singleton back last ih =>
    rw [← List.cons_append, ← List.append_assoc] at ha
    obtain ⟨q, hq, -, qa, -⟩ := h.child task t _ last ht ha
    exact ih hq qa

/-- An attempt that has a successor is retried. -/
theorem retried_of_succeeded (h : Lineages defaults s) (ht : s.get? task = some t) {heir : TaskId}
    (recorded : s.successors.get? task = some heir) : t.status = .retried := by
  obtain ⟨p, u, hp, hu, ha⟩ := h.recorded task heir recorded
  obtain ⟨q, hq, retried, -⟩ := h.child heir u p.ancestors task hu ha
  obtain rfl := Option.some.inj (hq.symm.trans ht)
  exact retried

/-- Only one attempt of a lineage has no successor. -/
theorem eq_of_childless (h : Lineages defaults s) (ht : s.get? task = some t)
    (ht' : s.get? task' = some t') (same : t.initial = t'.initial)
    (last : s.successors.get? task = none) (last' : s.successors.get? task' = none) :
    task = task' := by
  rcases Nat.lt_trichotomy t.ancestors.length t'.ancestors.length with shorter | equal | longer
  · obtain ⟨front, back, ha⟩ := h.ancestors_of_length_lt ht ht' same shorter
    obtain ⟨heir, recorded⟩ := h.succeeded ht' ha
    cases last.symm.trans recorded
  · exact h.eq_of_length ht ht' same equal
  · obtain ⟨front, back, ha⟩ := h.ancestors_of_length_lt ht' ht same.symm longer
    obtain ⟨heir, recorded⟩ := h.succeeded ht ha
    cases last'.symm.trans recorded

end Lineages

/-- The attempts of each lineage in the store form a line. -/
structure Linear (defaults : SessionId → Options) (s : Store) : Prop where
  /-- No ancestor of an attempt comes twice, and no attempt is its own ancestor. -/
  distinct : ∀ task t, s.get? task = some t → t.ancestors.Nodup ∧ task ∉ t.ancestors
  /-- Ancestors are stored and retried, and come in order: before each stand its own ancestors. -/
  ordered : ∀ task t front parent back, s.get? task = some t →
    t.ancestors = front ++ parent :: back →
      ∃ p, s.get? parent = some p ∧ p.status = .retried ∧ p.ancestors = front
  /-- The first ancestor is the root of the lineage; without ancestors it is the attempt itself. -/
  initial : ∀ task t, s.get? task = some t → t.initial = t.ancestors.headD task
  /-- An attempt agrees with its parent on what is to be done. -/
  agrees : ∀ task t parent p, s.get? task = some t → t.ancestors.getLast? = some parent →
    s.get? parent = some p → t.session = p.session ∧ t.payload = p.payload ∧
      t.dependencies = p.dependencies ∧ t.outputs = p.outputs
  /-- An attempt has one successor at most. -/
  single : ∀ parent task t task' t', s.get? task = some t → s.get? task' = some t' →
    t.ancestors.getLast? = some parent → t'.ancestors.getLast? = some parent → task = task'
  /-- The recorded successor of an attempt is the one that comes directly after it. -/
  recorded : ∀ parent task, s.successors.get? parent = some task ↔
    ∃ p t, s.get? parent = some p ∧ s.get? task = some t ∧ t.ancestors = p.ancestors ++ [parent]
  /-- Different attempts of a lineage have different numbers of ancestors. -/
  lengths : ∀ task t task' t', s.get? task = some t → s.get? task' = some t' →
    t.initial = t'.initial → task ≠ task' → t.ancestors.length ≠ t'.ancestors.length
  /-- At most one attempt of a lineage is not retried. -/
  current : ∀ task t task' t', s.get? task = some t → s.get? task' = some t' →
    t.initial = t'.initial → t.status ≠ .retried → t'.status ≠ .retried → task = task'
  /-- No attempt has more ancestors than the root may have retries. -/
  bounded : ∀ task t, s.get? task = some t → ∃ r, s.get? t.initial = some r ∧
    t.ancestors.length ≤ (r.options.maxRetries.or (defaults r.session).maxRetries).getD 0

/-- Lineages that are stored as they should be are lines. -/
theorem Lineages.linear (h : Lineages defaults s) : Linear defaults s := by
  have parent_of {task parent : TaskId} {t : TaskRecord} (ht : s.get? task = some t)
      (hp : t.ancestors.getLast? = some parent) : ∃ p, s.get? parent = some p ∧
        t.ancestors = p.ancestors ++ [parent] ∧ s.successors.get? parent = some task ∧
        t.line defaults = { p.line defaults with ancestors := p.ancestors ++ [parent] } := by
    obtain ⟨front, ha⟩ := List.getLast?_eq_some_iff.mp hp
    obtain ⟨p, stored, -, rfl, line, succeeded⟩ := h.child task t front parent ht ha
    exact ⟨p, stored, ha, succeeded, line⟩
  refine ⟨?_, ?_, ?_, ?_, ?_, ?_, ?_, ?_, ?_⟩
  · exact fun task t ht => ⟨h.nodup_ancestors ht, h.not_mem_ancestors ht⟩
  · intro task t front parent back ht ha
    obtain ⟨p, hp, retried, pa, -⟩ := h.ancestor ht ha
    exact ⟨p, hp, retried, pa⟩
  · exact fun task t ht => (h.root_stored ht).1
  · intro task t parent p ht hl hp
    obtain ⟨found, hf, -, -, line⟩ := parent_of ht hl
    obtain rfl := Option.some.inj (hf.symm.trans hp)
    exact ⟨congrArg Line.session line, congrArg Line.payload line,
      congrArg Line.dependencies line, congrArg Line.outputs line⟩
  · intro parent task t task' t' ht ht' hl hl'
    obtain ⟨-, -, -, succeeded, -⟩ := parent_of ht hl
    obtain ⟨-, -, -, succeeded', -⟩ := parent_of ht' hl'
    exact Option.some.inj (succeeded.symm.trans succeeded')
  · intro parent task
    constructor
    · exact h.recorded parent task
    · rintro ⟨p, t, -, ht, ha⟩
      obtain ⟨-, -, -, -, -, succeeded⟩ := h.child task t p.ancestors parent ht ha
      exact succeeded
  · exact fun task t task' t' ht ht' same hne length => hne (h.eq_of_length ht ht' same length)
  · intro task t task' t' ht ht' same hs hs'
    rcases Nat.lt_trichotomy t.ancestors.length t'.ancestors.length with hl | hl | hl
    · exact absurd (h.retried_of_length_lt ht ht' same hl) hs
    · exact h.eq_of_length ht ht' same hl
    · exact absurd (h.retried_of_length_lt ht' ht same.symm hl) hs'
  · intro task t ht
    obtain ⟨-, r, hr, -, line⟩ := h.root_stored ht
    have limit : (r.line defaults).limit = (t.line defaults).limit := by rw [line]
    refine ⟨r, hr, ?_⟩
    have within := h.within task t ht
    rw [← limit] at within
    exact within

/-- In every state that agents reach from first attempts, by any events with constant defaults of the
sessions, every lineage is a line. -/
theorem lineages_linear (hi : start.Initial) (first : FirstAttempts start.shared.store)
    (hr : Reaches fleet (constantDefaults defaults) start c) : Linear defaults c.shared.store :=
  (hr.lineages hi first).linear

/-- The small store holds a first attempt only. -/
theorem plainStart_firstAttempts : FirstAttempts plainStart.shared.store := by
  refine ⟨?_, ?_, fun task => rfl⟩
  · intro task t ht
    obtain ⟨rfl, rfl⟩ := plainStart_stored ht
    exact ⟨rfl, rfl⟩
  · intro task t ht hs
    obtain ⟨rfl, rfl⟩ := plainStart_stored ht
    cases hs

/-- A handler of the message begins, and the worker breaks down. -/
def breakdownEvents : List Event :=
  [.move (.pull 1), .start ⟨"first"⟩ (.handle 1 plainTask.id)] ++
    List.replicate 38 (.answer 0 breakingDown)

/-- The small cluster after the worker broke down and the task was retried. -/
def breakdownCluster : State := (plainStart.play plainFleet breakdownEvents).getD plainStart

/-- The sessions of the breakdown have constant defaults. -/
theorem breakdownEvents_constant :
    ∀ event ∈ breakdownEvents, constantDefaults (fun _ => oneRetry) event := by
  intro event hm
  rcases List.mem_append.mp hm with hm | hm
  · rcases List.mem_pair.mp hm with rfl | rfl <;> exact trivial
  · obtain rfl := List.eq_of_mem_replicate hm
    intro session found hc
    obtain rfl := Option.some.inj (Except.ok.inj (Option.some.inj hc))
    rfl

/-- A task whose worker broke down has a successor: the only attempt that is not retried, after the
one retry that its session allows. -/
theorem lineages_linear_breakdown :
    ∃ c t, Reaches plainFleet (constantDefaults fun _ => oneRetry) plainStart c ∧
      c.shared.store.get? (.ofNat 2) = some t ∧ t.ancestors = [plainTask.id] ∧
      t.status = .submitted ∧ t.initial = plainTask.id ∧
      ∀ task t', c.shared.store.get? task = some t' → t'.initial = plainTask.id →
        t'.ancestors.length ≤ 1 ∧ (t'.status ≠ .retried → task = .ofNat 2) := by
  have run : Reaches plainFleet (constantDefaults fun _ => oneRetry) plainStart breakdownCluster :=
    .of_played breakdownEvents_constant
  have linear := lineages_linear plainStart_initial plainStart_firstAttempts run
  have stored : (breakdownCluster.shared.store.get? (.ofNat 2)).map
      (fun t => (t.ancestors, t.status, t.initial)) =
        some ([plainTask.id], .submitted, plainTask.id) := by decide +kernel
  have first : (breakdownCluster.shared.store.get? plainTask.id).map
      (fun t => t.options.maxRetries) = some none := by decide +kernel
  obtain ⟨t, ht, facts⟩ := Option.map_eq_some_iff.mp stored
  obtain ⟨root, hroot, unset⟩ := Option.map_eq_some_iff.mp first
  obtain ⟨ancestors, rest⟩ := Prod.mk.inj facts
  obtain ⟨status, initial⟩ := Prod.mk.inj rest
  refine ⟨breakdownCluster, t, run, ht, ancestors, status, initial, fun task t' ht' same => ?_⟩
  constructor
  · obtain ⟨r, hr, bound⟩ := linear.bounded task t' ht'
    rw [same] at hr
    obtain rfl := Option.some.inj (hr.symm.trans hroot)
    rw [unset] at bound
    exact bound
  · intro fresh
    exact linear.current task t' _ t ht' ht (same.trans initial.symm) fresh (by rw [status]; decide)

end GridAgent.Cluster
