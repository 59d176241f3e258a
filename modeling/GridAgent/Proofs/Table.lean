import GridAgent.Id.Set
import GridAgent.Table
import Mathlib.Data.List.Perm.Basic

/-!
# Tables with the same content

A set of identifiers is determined by its members. A table that keeps no keys but those of another
one, in their order, is determined by what it answers. So changes at several keys may be made in any
order.
-/

namespace GridAgent

namespace IdSet

variable {kind : IdKind} {s s' : IdSet kind}

/-- A sorted list without repetitions is determined by its members. -/
theorem eq_of_mem_iff (h : ∀ x, x ∈ s ↔ x ∈ s') : s = s' := by
  obtain ⟨members, ascending⟩ := s
  obtain ⟨members', ascending'⟩ := s'
  have irreflexive : ∀ {a b : Id kind}, a.value < b.value → a ≠ b := by
    rintro a b hab rfl
    exact absurd hab (BitVec.lt_irrefl _)
  have same : members.Perm members' := by
    rw [List.perm_ext_iff_of_nodup (ascending.imp irreflexive) (ascending'.imp irreflexive)]
    exact h
  obtain rfl : members = members' := by
    refine same.eq_of_pairwise (fun a b _ _ hab hba => ?_) ascending ascending'
    exact absurd (BitVec.lt_trans hab hba) (BitVec.lt_irrefl _)
  rfl

/-- Members are removed in any order. -/
theorem erase_comm (s : IdSet kind) (x y : Id kind) : (s.erase x).erase y = (s.erase y).erase x := by
  refine eq_of_mem_iff fun z => ?_
  rw [mem_erase, mem_erase, mem_erase, mem_erase, and_right_comm]

/-- A member that is there is not added. -/
theorem insert_of_mem {x : Id kind} (h : x ∈ s) : s.insert x = s := by
  refine eq_of_mem_iff fun y => ?_
  rw [mem_insert]
  refine or_iff_right_of_imp ?_
  rintro rfl
  exact h

end IdSet

namespace Table

variable {κ ν : Type} [DecidableEq κ] {t u v : Table κ ν}

/-- The entries are those of the keys. -/
theorem entries_eq_filterMap (t : Table κ ν) :
    t.entries = t.keys.filterMap fun k => (t.get? k).map fun value => (k, value) := by
  have here : ∀ e ∈ t.entries, some e = (t.get? e.1).map fun value => (e.1, value) := by
    intro e he
    rw [get?_of_mem he]
    rfl
  calc t.entries
    _ = t.entries.filterMap some := List.filterMap_some.symm
    _ = t.entries.filterMap fun e => (t.get? e.1).map fun value => (e.1, value) :=
      List.filterMap_congr here
    _ = _ := by
      rw [keys, List.filterMap_map]
      rfl

/-- A table is determined by its keys and what it answers. -/
theorem eq_of_keys (keys : t.keys = u.keys) (values : ∀ k, t.get? k = u.get? k) : t = u := by
  have entries : t.entries = u.entries := by
    rw [t.entries_eq_filterMap, u.entries_eq_filterMap, keys]
    exact List.filterMap_congr fun k _ => by rw [values]
  obtain ⟨_, _⟩ := t
  obtain ⟨_, _⟩ := u
  obtain rfl := entries
  rfl

/-- What keeps no keys but those of one table is determined by what it answers. -/
theorem eq_of_sublist (ht : t.keys.Sublist v.keys) (hu : u.keys.Sublist v.keys)
    (values : ∀ k, t.get? k = u.get? k) : t = u := by
  have members (k : κ) : k ∈ t.keys ↔ k ∈ u.keys := by rw [mem_keys, mem_keys, values]
  have same : t.keys.Perm u.keys := (List.perm_ext_iff_of_nodup t.distinct u.distinct).mpr members
  exact eq_of_keys ((v.distinct.perm_iff_eq_of_sublist ht hu).mp same) values

theorem keys_erase_sublist (t : Table κ ν) (key : κ) : (t.erase key).keys.Sublist t.keys :=
  List.filter_sublist.map Prod.fst

/-- Another value for a key that is there adds no key. -/
theorem keys_set_of_mem {key : κ} (h : key ∈ t.keys) (value : ν) : (t.set key value).keys = t.keys :=
  (keys_setIn ..).trans (if_pos h)

@[simp] theorem keys_modify (t : Table κ ν) (key : κ) (f : ν → ν) :
    (t.modify key f).keys = t.keys := by
  unfold modify
  split
  · next value found =>
    exact keys_set_of_mem (mem_keys.mpr (Option.isSome_iff_exists.mpr ⟨value, found⟩)) _
  · rfl

/-- A key that is not there is removed already. -/
theorem erase_of_missing {key : κ} (missing : t.get? key = none) : t.erase key = t := by
  refine eq_of_sublist (keys_erase_sublist t key) (List.Sublist.refl _) fun k => ?_
  rw [get?_erase]
  split
  · next e => rw [e, missing]
  · rfl

theorem erase_comm (t : Table κ ν) (a b : κ) : (t.erase a).erase b = (t.erase b).erase a := by
  refine eq_of_sublist ((keys_erase_sublist _ b).trans (keys_erase_sublist t a))
    ((keys_erase_sublist _ a).trans (keys_erase_sublist t b)) fun k => ?_
  simp only [get?_erase]
  split <;> split <;> rfl

/-- Values are changed in any order. -/
theorem modify_comm (t : Table κ ν) (f : ν → ν) (a b : κ) :
    (t.modify a f).modify b f = (t.modify b f).modify a f := by
  refine eq_of_keys (by simp only [keys_modify]) fun k => ?_
  simp only [get?_modify]
  by_cases ha : k = a <;> by_cases hb : k = b <;> by_cases e : a = b <;> simp_all

end Table

end GridAgent
