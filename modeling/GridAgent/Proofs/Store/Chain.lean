import GridAgent.Proofs.Store.Trails
import GridAgent.Proofs.Table
import Mathlib.Data.List.Nodup

/-!
# Lineages, attempt by attempt

The attempts of a lineage form a chain. Each knows all that came before it, and each but the last is
retried and has the next one for its successor. The chain grows at its end when a failed attempt gets a
successor, and stays when the last attempt moves or data is given up. It is what the store takes for the
lineage.
-/

namespace GridAgent

/-- A list with one more element is split before that element, or at it. -/
theorem split_of_concat {α : Type} {l front rest : List α} {x z : α}
    (h : l ++ [z] = front ++ x :: rest) :
    (front = l ∧ x = z ∧ rest = []) ∨ ∃ rest', rest = rest' ++ [z] ∧ l = front ++ x :: rest' := by
  rcases rest.eq_nil_or_concat with rfl | ⟨rest', y, rfl⟩
  · obtain ⟨same, last⟩ := List.append_inj' h rfl
    exact .inl ⟨same.symm, (List.singleton_inj.mp last).symm, rfl⟩
  · rw [List.concat_eq_append, ← List.cons_append, ← List.append_assoc] at h
    obtain ⟨same, last⟩ := List.append_inj' h rfl
    obtain rfl := List.singleton_inj.mp last
    exact .inr ⟨rest', List.concat_eq_append, same⟩

namespace Store

/-- Those are the attempts of a lineage in order, without a gap. -/
structure Chain (s : Store) (root : TaskId) (ids : List TaskId) : Prop where
  /-- Records are stored under their own identifiers. -/
  keyed : ∀ x r, s.get? x = some r → r.id = x
  /-- Nobody comes twice. -/
  nodup : ids.Nodup
  /-- Nobody else belongs to the lineage. -/
  members : ∀ x r, s.get? x = some r → (r.initial = root ↔ x ∈ ids)
  /-- Each attempt knows those before it, and is retried if another one comes after it. -/
  attempts : ∀ front x rest, ids = front ++ x :: rest →
    ∃ r, s.get? x = some r ∧ r.ancestors = front ∧ (rest ≠ [] → r.status = .retried)
  /-- That one is its successor. -/
  links : ∀ front x heir rest, ids = front ++ x :: heir :: rest → s.successors.get? x = some heir

variable {s s' : Store} {root id x : TaskId} {ids : List TaskId} {t r : TaskRecord}
  {statuses : List TaskStatus}

/-- Whoever is in the chain is stored. -/
theorem Chain.stored (h : Chain s root ids) (member : x ∈ ids) : ∃ r, s.get? x = some r := by
  obtain ⟨front, rest, split⟩ := List.append_of_mem member
  obtain ⟨r, stored, -⟩ := h.attempts front x rest split
  exact ⟨r, stored⟩

/-- A first attempt alone. -/
theorem chain_first (keyed : ∀ x r, s.get? x = some r → r.id = x) (stored : s.get? t.id = some t)
    (first : t.ancestors = []) (alone : ∀ x r, s.get? x = some r → (r.initial = root ↔ x = t.id)) :
    Chain s root [t.id] where
  keyed := keyed
  nodup := by simp
  members x r hr := (alone x r hr).trans List.mem_singleton.symm
  attempts front x rest split := by
    obtain ⟨rfl, rfl, rfl⟩ | ⟨_, -, none⟩ := split_of_concat (l := []) split
    · exact ⟨t, stored, first, fun more => absurd rfl more⟩
    · simp at none
  links front x heir rest split := by
    obtain ⟨-, -, none⟩ | ⟨_, -, none⟩ := split_of_concat (l := []) split
    · cases none
    · simp at none

/-- The last attempt is not one before it. -/
theorem Chain.not_ancestor (h : Chain s root (ids ++ [x])) : x ∉ ids := fun member =>
  (List.nodup_append.mp h.nodup).2.2 x member x (List.mem_singleton_self x) rfl

/-- Another version of the last attempt. -/
theorem Chain.trail (h : Chain s root (t.ancestors ++ [t.id])) (stored : s.get? t.id = some t)
    (trail : Trail s t statuses s' r) : Chain s' root (t.ancestors ++ [t.id]) where
  keyed x r' hr' := by
    by_cases same : x = t.id
    · subst same
      rw [← Option.some.inj (trail.stored.symm.trans hr')]
      exact TaskRecord.eq_of_essence TaskRecord.id trail.same fun _ => rfl
    · exact h.keyed x r' ((trail.others x same).symm.trans hr')
  nodup := h.nodup
  members x r' hr' := by
    by_cases same : x = t.id
    · subst same
      rw [← Option.some.inj (trail.stored.symm.trans hr'),
        TaskRecord.eq_of_essence TaskRecord.initial trail.same fun _ => rfl]
      exact h.members t.id t stored
    · exact h.members x r' ((trail.others x same).symm.trans hr')
  attempts front x rest split := by
    rcases split_of_concat split with ⟨rfl, rfl, rfl⟩ | ⟨rest', -, earlier⟩
    · refine ⟨r, trail.stored, ?_, fun more => absurd rfl more⟩
      exact TaskRecord.eq_of_essence TaskRecord.ancestors trail.same fun _ => rfl
    · have other : x ≠ t.id := by
        rintro rfl
        exact h.not_ancestor (earlier ▸ List.mem_append_right _ List.mem_cons_self)
      rw [trail.others x other]
      exact h.attempts front x rest split
  links front x heir rest split := by
    rw [trail.successors]
    exact h.links front x heir rest split

/-- Whoever is not stored is no attempt yet. -/
theorem Chain.not_mem (h : Chain s root ids) (unknown : s.get? id = none) : id ∉ ids := fun member => by
  obtain ⟨r, stored⟩ := h.stored member
  cases unknown.symm.trans stored

/-- With its successor each attempt knows those before it, and all but the successor are retried. -/
theorem Chain.attempts_passedOn (h : Chain s t.initial (t.ancestors ++ [t.id]))
    (failed : s.get? t.id = some r) (retried : r.status = .retried) (passedOn : PassedOn t id s s')
    {front rest : List TaskId} (split : t.ancestors ++ [t.id] ++ [id] = front ++ x :: rest) :
    ∃ r, s'.get? x = some r ∧ r.ancestors = front ∧ (rest ≠ [] → r.status = .retried) := by
  rcases split_of_concat split with ⟨rfl, rfl, rfl⟩ | ⟨rest', rfl, earlier⟩
  · obtain ⟨heir, known, own, next⟩ := passedOn.heir
    exact ⟨heir, known, next.ancestors, fun more => absurd rfl more⟩
  · have other : x ≠ id := fun same =>
      h.not_mem passedOn.new (earlier ▸ List.mem_append_right _ (same ▸ List.mem_cons_self))
    obtain ⟨r', hr', ancestors, goesOn⟩ := h.attempts front x rest' earlier
    refine ⟨r', (passedOn.others x other).trans hr', ancestors, fun _ => ?_⟩
    -- the one that was the last so far has failed
    rcases split_of_concat earlier with ⟨-, rfl, -⟩ | ⟨rest'', rfl, -⟩
    · rwa [← Option.some.inj (failed.symm.trans hr')]
    · exact goesOn (by simp)

/-- With the successor of the last attempt each attempt has the next one for its successor. -/
theorem Chain.links_passedOn (h : Chain s t.initial (t.ancestors ++ [t.id]))
    (passedOn : PassedOn t id s s') {y : TaskId} {front rest : List TaskId}
    (split : t.ancestors ++ [t.id] ++ [id] = front ++ x :: y :: rest) :
    s'.successors.get? x = some y := by
  rw [passedOn.successors, Table.get?_set]
  rcases split_of_concat split with ⟨-, -, none⟩ | ⟨rest', more, earlier⟩
  · cases none
  · cases rest' with
    | nil =>
      obtain ⟨rfl, -⟩ := List.cons.inj more
      rcases split_of_concat earlier with ⟨-, rfl, -⟩ | ⟨_, none, -⟩
      · exact if_pos rfl
      · simp at none
    | cons z rest' =>
      obtain ⟨rfl, -⟩ := List.cons.inj more
      have last : x ≠ t.id := by
        rintro rfl
        rcases split_of_concat earlier with ⟨-, -, none⟩ | ⟨_, -, ancestors⟩
        · cases none
        · exact h.not_ancestor (ancestors ▸ List.mem_append_right _ List.mem_cons_self)
      rw [if_neg last]
      exact h.links front x y rest' earlier

/-- The last attempt has failed, and gets a successor. -/
theorem Chain.passedOn (h : Chain s t.initial (t.ancestors ++ [t.id]))
    (failed : s.get? t.id = some r) (retried : r.status = .retried) (passedOn : PassedOn t id s s') :
    Chain s' t.initial (t.ancestors ++ [t.id] ++ [id]) := by
  obtain ⟨heir, known, own, next⟩ := passedOn.heir
  have old {x : TaskId} {r : TaskRecord} (other : x ≠ id) (hr : s'.get? x = some r) :
      s.get? x = some r := (passedOn.others x other).symm.trans hr
  constructor
  · intro x r hr
    by_cases same : x = id
    · subst same
      rwa [← Option.some.inj (known.symm.trans hr)]
    · exact h.keyed x r (old same hr)
  · refine List.nodup_append.mpr ⟨h.nodup, by simp, fun x hx y hy same => ?_⟩
    refine h.not_mem passedOn.new ?_
    rwa [← List.mem_singleton.mp hy, ← same]
  · intro x r hr
    rw [List.mem_append, List.mem_singleton]
    by_cases same : x = id
    · subst same
      rw [← Option.some.inj (known.symm.trans hr)]
      exact iff_of_true next.inherits.2.1 (.inr rfl)
    · rw [or_iff_left same]
      exact h.members x r (old same hr)
  · exact fun _ _ _ => h.attempts_passedOn failed retried passedOn
  · exact fun _ _ _ _ => h.links_passedOn passedOn

/-- One more task is stored. -/
theorem PassedOn.length_keys (h : PassedOn t id s s') :
    s'.tasks.keys.length ≤ s.tasks.keys.length + 1 := by
  have known : s'.tasks.keys ⊆ id :: s.tasks.keys := fun x hx => by
    by_cases same : x = id
    · exact same ▸ List.mem_cons_self
    · refine List.mem_cons_of_mem _ (Table.mem_keys.mpr ?_)
      rw [show s.tasks.get? x = s'.tasks.get? x from (h.others x same).symm]
      exact Table.mem_keys.mp hx
  have distinct : s'.tasks.keys.Nodup := s'.tasks.distinct
  exact (List.subperm_of_subset distinct known).length_le

/-- Whoever is stored after data was given up was stored before, and is about the same. -/
theorem GaveUp.about (h : GaveUp s s') (stored : s'.get? x = some r) :
    ∃ before, s.get? x = some before ∧ r.essence = before.essence := by
  cases hx : s.get? x with
  | none => cases (h.unknown x hx).symm.trans stored
  | some before =>
    refine ⟨before, rfl, ?_⟩
    rcases h.records x before hx with same | ⟨-, r', hr', -, about⟩
    · rw [Option.some.inj (same.symm.trans stored)]
    · rwa [← Option.some.inj (hr'.symm.trans stored)]

/-- Data is given up once the last attempt has ended. -/
theorem Chain.gaveUp (h : Chain s root (ids ++ [x])) (ended : s.get? x = some r)
    (settled : ¬ r.IsWaiting) (gaveUp : GaveUp s s') : Chain s' root (ids ++ [x]) where
  keyed y r' hr' := by
    obtain ⟨before, stored, about⟩ := gaveUp.about hr'
    exact (TaskRecord.eq_of_essence TaskRecord.id about fun _ => rfl).trans (h.keyed y before stored)
  nodup := h.nodup
  members y r' hr' := by
    obtain ⟨before, stored, about⟩ := gaveUp.about hr'
    rw [TaskRecord.eq_of_essence TaskRecord.initial about fun _ => rfl]
    exact h.members y before stored
  attempts front y rest split := by
    obtain ⟨r', hr', ancestors, goesOn⟩ := h.attempts front y rest split
    refine ⟨r', gaveUp.kept hr' ?_, ancestors, goesOn⟩
    rcases split_of_concat split with ⟨-, rfl, -⟩ | ⟨rest', rfl, -⟩
    · rwa [← Option.some.inj (ended.symm.trans hr')]
    · rw [TaskRecord.IsWaiting, goesOn (by simp)]
      simp
  links front y heir rest split := by
    rw [gaveUp.successors]
    exact h.links front y heir rest split

/-! The chain is what the store takes for the lineage. -/

/-- One attempt comes before another one, or is it, in the order of a lineage. -/
theorem precedes_iff {a b : TaskRecord} :
    (if a.ancestors.length = b.ancestors.length then Id.le a.id b.id
      else a.ancestors.length < b.ancestors.length) = true ↔
    a.ancestors.length < b.ancestors.length ∨
      a.ancestors.length = b.ancestors.length ∧ a.id.value.toNat ≤ b.id.value.toNat := by
  unfold Id.le
  split
  · next same => simp [same]
  · next other => simp [other]

/-- The attempts of a part of the chain, in the order of a lineage. -/
theorem Chain.ascending (h : Chain s root ids) (front rest : List TaskId)
    (split : ids = front ++ rest) :
    (rest.filterMap s.get?).Pairwise fun a b => a.ancestors.length < b.ancestors.length := by
  induction rest generalizing front with
  | nil => exact .nil
  | cons x rest ih =>
    obtain ⟨r, stored, ancestors, -⟩ := h.attempts front x rest split
    rw [List.filterMap_cons_some stored]
    refine .cons (fun later hl => ?_) (ih (front ++ [x]) (by rw [split, List.append_assoc]; rfl))
    obtain ⟨y, hy, known⟩ := List.mem_filterMap.mp hl
    obtain ⟨between, after, rfl⟩ := List.append_of_mem hy
    obtain ⟨r', stored', ancestors', -⟩ :=
      h.attempts (front ++ x :: between) y after (by rw [split, List.append_assoc]; rfl)
    rw [← Option.some.inj (stored'.symm.trans known), ancestors, ancestors', List.length_append]
    exact Nat.lt_add_of_pos_right (Nat.succ_pos _)

/-- The records of the chain. -/
theorem Chain.ids_filterMap (h : Chain s root ids) :
    (ids.filterMap s.get?).map TaskRecord.id = ids := by
  rw [List.map_filterMap]
  calc ids.filterMap (fun x => (s.get? x).map TaskRecord.id)
    _ = ids.filterMap some := List.filterMap_congr fun x hx => by
        obtain ⟨r, stored⟩ := h.stored hx
        rw [stored, Option.map_some, h.keyed x r stored]
    _ = ids := List.filterMap_some

/-- They are stored under their own identifiers. -/
theorem Chain.get?_of_mem (h : Chain s root ids) (member : r ∈ ids.filterMap s.get?) :
    s.get? r.id = some r := by
  obtain ⟨x, -, found⟩ := List.mem_filterMap.mp member
  rwa [h.keyed x r found]

/-- The records of the store that belong to the lineage are those of the chain. -/
theorem Chain.perm (h : Chain s root ids) :
    (s.tasks.values.filter fun t => t.initial = root).Perm (ids.filterMap s.get?) := by
  have own : s.tasks.values.map TaskRecord.id = s.tasks.keys := by
    unfold Table.values Table.keys
    rw [List.map_map]
    exact List.map_congr_left fun e he => h.keyed e.1 e.2 (Table.get?_of_mem he)
  have keys : s.tasks.keys.Nodup := s.tasks.distinct
  have distinct : s.tasks.values.Nodup := List.Nodup.of_map TaskRecord.id (own.symm ▸ keys)
  have distinct' := List.Nodup.of_map _ (h.ids_filterMap.symm ▸ h.nodup)
  refine (List.perm_ext_iff_of_nodup (distinct.filter _) distinct').mpr fun r => ?_
  rw [List.mem_filter, List.mem_filterMap, decide_eq_true_iff]
  constructor
  · rintro ⟨hr, same⟩
    obtain ⟨⟨x, r⟩, he, rfl⟩ := List.mem_map.mp hr
    have found : s.get? x = some r := Table.get?_of_mem he
    exact ⟨x, (h.members x r found).mp same, found⟩
  · rintro ⟨x, hx, found⟩
    exact ⟨List.mem_map.mpr ⟨_, Table.mem_of_get? found, rfl⟩, (h.members x r found).mpr hx⟩

/-- The chain is the lineage. -/
theorem Chain.lineage (h : Chain s root ids) : (s.lineage root).map TaskRecord.id = ids := by
  have same : (s.lineage root).Perm (ids.filterMap s.get?) := (List.mergeSort_perm ..).trans h.perm
  have sorted : s.lineage root = ids.filterMap s.get? := by
    refine same.eq_of_pairwise (fun a b ha hb hab hba => ?_) (List.pairwise_mergeSort ?_ ?_ _) ?_
    · rw [precedes_iff] at hab hba
      have value : a.id.value.toNat = b.id.value.toNat := by omega
      have ids : a.id = b.id := congrArg Id.mk (BitVec.eq_of_toNat_eq value)
      exact Option.some.inj ((h.get?_of_mem (same.subset ha)).symm.trans (ids ▸ h.get?_of_mem hb))
    · intro a b c hab hbc
      rw [precedes_iff] at *
      omega
    · intro a b
      rw [Bool.or_eq_true, precedes_iff, precedes_iff]
      omega
    · exact (h.ascending [] ids rfl).imp fun less => precedes_iff.mpr (.inl less)
  rw [sorted, h.ids_filterMap]

end Store

end GridAgent
