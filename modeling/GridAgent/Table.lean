/-!
# Tables

A table maps keys to values and holds one entry a key, in the order in which the keys first came.
Every operation is described by what `get?` answers after it.
-/

namespace GridAgent

/-- A finite map with one entry a key, in order of arrival of the keys. -/
structure Table (κ ν : Type) where
  /-- Keys and values in order of arrival. -/
  entries : List (κ × ν)
  /-- No key comes twice. -/
  distinct : (entries.map Prod.fst).Nodup

namespace Table

variable {κ ν : Type}

/-- The table without entries. -/
def empty : Table κ ν := ⟨[], .nil⟩

instance : Inhabited (Table κ ν) := ⟨empty⟩

instance : EmptyCollection (Table κ ν) := ⟨empty⟩

/-- The keys in order of arrival. -/
def keys (t : Table κ ν) : List κ := t.entries.map Prod.fst

/-- The values in order of arrival of their keys. -/
def values (t : Table κ ν) : List ν := t.entries.map Prod.snd

/-- The entries with a property. -/
def filter (keep : κ → ν → Bool) (t : Table κ ν) : Table κ ν :=
  ⟨t.entries.filter fun e => keep e.1 e.2,
    t.distinct.sublist (List.filter_sublist.map Prod.fst)⟩

/-- The entries without the first ones. -/
def drop (n : Nat) (t : Table κ ν) : Table κ ν :=
  ⟨t.entries.drop n, t.distinct.sublist ((List.drop_sublist n t.entries).map Prod.fst)⟩

/-- Changes every value. -/
def mapValues {μ : Type} (f : κ → ν → μ) (t : Table κ ν) : Table κ μ :=
  ⟨t.entries.map fun e => (e.1, f e.1 e.2), by simpa [Function.comp_def] using t.distinct⟩

variable [DecidableEq κ]

/-- The value of a key. -/
def get? (t : Table κ ν) (key : κ) : Option ν := t.entries.lookup key

/-- The key has an entry. -/
def contains (t : Table κ ν) (key : κ) : Bool := (t.get? key).isSome

/-- Puts an entry into a list in place of the one with its key, or at the end. -/
def setIn (key : κ) (value : ν) : List (κ × ν) → List (κ × ν)
  | [] => [(key, value)]
  | a :: rest => if a.1 = key then (key, value) :: rest else a :: setIn key value rest

/-- The keys stay, and a new one comes last. -/
theorem keys_setIn (key : κ) (value : ν) (l : List (κ × ν)) :
    (setIn key value l).map Prod.fst =
      if key ∈ l.map Prod.fst then l.map Prod.fst else l.map Prod.fst ++ [key] := by
  induction l with
  | nil => simp [setIn]
  | cons a rest ih =>
    by_cases h : a.1 = key
    · simp [setIn, h]
    · have h' : ¬ key = a.1 := fun e => h e.symm
      by_cases m : key ∈ rest.map Prod.fst
      · simp only [setIn, h, if_false, List.map_cons, ih, m, if_true, List.mem_cons, or_true]
      · simp only [setIn, h, if_false, List.map_cons, ih, m, List.mem_cons, h', or_self,
          List.cons_append]

/-- Sets the value of a key. -/
def set (t : Table κ ν) (key : κ) (value : ν) : Table κ ν where
  entries := setIn key value t.entries
  distinct := by
    rw [keys_setIn]
    split
    · exact t.distinct
    · next h =>
      refine List.nodup_append.mpr ⟨t.distinct, by simp, ?_⟩
      intro a ha b hb e
      exact h (by rw [← List.mem_singleton.mp hb, ← e]; exact ha)

/-- Removes the entry of a key. -/
def erase (t : Table κ ν) (key : κ) : Table κ ν := t.filter fun k _ => k ≠ key

/-- Changes the value of a key, if it has one. -/
def modify (t : Table κ ν) (key : κ) (f : ν → ν) : Table κ ν :=
  match t.get? key with
  | some value => t.set key (f value)
  | none => t

theorem lookup_setIn (key k : κ) (value : ν) (l : List (κ × ν)) :
    (setIn key value l).lookup k = if k = key then some value else l.lookup k := by
  induction l with
  | nil =>
    by_cases h : k = key
    · simp [setIn, h]
    · simp [setIn, List.lookup_cons, h, beq_eq_false_iff_ne.mpr h]
  | cons a rest ih =>
    obtain ⟨c, d⟩ := a
    by_cases h : c = key
    · by_cases e : k = key
      · simp [setIn, h, e]
      · simp [setIn, h, List.lookup_cons, e, beq_eq_false_iff_ne.mpr e]
    · by_cases e : k = c
      · have : ¬ k = key := fun e' => h (e ▸ e')
        simp [setIn, h, e]
      · simp [setIn, h, List.lookup_cons, beq_eq_false_iff_ne.mpr e, ih]

@[simp] theorem get?_empty (k : κ) : (empty : Table κ ν).get? k = none := rfl

@[simp] theorem get?_set (t : Table κ ν) (key k : κ) (value : ν) :
    (t.set key value).get? k = if k = key then some value else t.get? k :=
  lookup_setIn key k value t.entries

theorem lookup_filter_ne (key k : κ) (l : List (κ × ν)) :
    (l.filter fun e => decide (e.1 ≠ key)).lookup k = if k = key then none else l.lookup k := by
  induction l with
  | nil => simp
  | cons a rest ih =>
    obtain ⟨c, d⟩ := a
    by_cases h : c = key
    · rw [List.filter_cons_of_neg (by simp [h]), ih]
      by_cases e : k = key
      · simp [e]
      · have e' : (k == c) = false := by rw [h]; exact beq_eq_false_iff_ne.mpr e
        simp [e, List.lookup_cons, e']
    · rw [List.filter_cons_of_pos (by simp [h])]
      by_cases e : k = c
      · have : ¬ k = key := fun e' => h (e ▸ e')
        simp [e, h]
      · simp only [List.lookup_cons, beq_eq_false_iff_ne.mpr e, ih]

@[simp] theorem get?_erase (t : Table κ ν) (key k : κ) :
    (t.erase key).get? k = if k = key then none else t.get? k :=
  lookup_filter_ne key k t.entries

@[simp] theorem get?_modify (t : Table κ ν) (key k : κ) (f : ν → ν) :
    (t.modify key f).get? k = if k = key then (t.get? key).map f else t.get? k := by
  unfold modify
  split
  · next v h => simp [h]
  · next h =>
    by_cases e : k = key
    · simp [e, h]
    · simp [e]

/-- The keys are those that have a value. -/
theorem mem_keys {t : Table κ ν} {k : κ} : k ∈ t.keys ↔ (t.get? k).isSome := by
  unfold keys get?
  induction t.entries with
  | nil => simp
  | cons a rest ih =>
    obtain ⟨c, d⟩ := a
    by_cases e : k = c
    · simp [e]
    · simp only [List.map_cons, List.mem_cons, e, false_or, List.lookup_cons,
        beq_eq_false_iff_ne.mpr e, ih]

/-- Every entry is the one of its key. -/
theorem get?_of_mem {t : Table κ ν} {key : κ} {value : ν} (h : (key, value) ∈ t.entries) :
    t.get? key = some value := by
  obtain ⟨before, after, split⟩ := List.append_of_mem h
  have distinct := t.distinct
  rw [split, List.map_append, List.map_cons] at distinct
  obtain ⟨-, -, others⟩ := List.nodup_append.mp distinct
  refine List.lookup_eq_some_iff.mpr ⟨before, after, split, fun a ha => ?_⟩
  exact bne_iff_ne.mpr (others _ (List.mem_map_of_mem ha) _ List.mem_cons_self).symm

/-- The value of a key is in its entry. -/
theorem mem_of_get? {t : Table κ ν} {key : κ} {value : ν} (h : t.get? key = some value) :
    (key, value) ∈ t.entries := by
  obtain ⟨before, after, split, -⟩ := List.lookup_eq_some_iff.mp h
  rw [split]
  exact List.mem_append_right before List.mem_cons_self

theorem setIn_of_new {key : κ} {l : List (κ × ν)} (h : l.lookup key = none) (value : ν) :
    setIn key value l = l ++ [(key, value)] := by
  induction l with
  | nil => rfl
  | cons a rest ih =>
    obtain ⟨c, d⟩ := a
    by_cases e : key = c
    · simp [e] at h
    · rw [List.lookup_cons, beq_eq_false_iff_ne.mpr e] at h
      simp only [setIn, Ne.symm e, if_false, List.cons_append, ih h]

/-- The entry of a new key comes last. -/
theorem entries_set_of_new {t : Table κ ν} {key : κ} (h : t.get? key = none) (value : ν) :
    (t.set key value).entries = t.entries ++ [(key, value)] :=
  setIn_of_new h value

/-- The entries are those of the other keys and the one of a key. -/
theorem entries_erase {t : Table κ ν} {key : κ} {value : ν} (h : t.get? key = some value) :
    t.entries.Perm ((key, value) :: (t.erase key).entries) := by
  obtain ⟨before, after, split, -⟩ := List.lookup_eq_some_iff.mp h
  have distinct := t.distinct
  rw [split, List.map_append, List.map_cons] at distinct
  obtain ⟨-, later, others⟩ := List.nodup_append.mp distinct
  have kept : (t.erase key).entries = before ++ after := by
    change t.entries.filter (fun e => decide (e.1 ≠ key)) = _
    rw [split, List.filter_append, List.filter_cons_of_neg (by simp)]
    congr 1
    · refine List.filter_eq_self.mpr fun a ha => decide_eq_true ?_
      exact others _ (List.mem_map_of_mem ha) _ List.mem_cons_self
    · refine List.filter_eq_self.mpr fun a ha => decide_eq_true fun e => ?_
      have again : a.1 ∈ after.map Prod.fst := List.mem_map_of_mem ha
      exact (List.nodup_cons.mp later).1 (e ▸ again)
  rw [kept, split]
  exact List.perm_middle

theorem map_setIn {β : Type} {key : κ} {old value : ν} {l : List (κ × ν)} (see : κ × ν → β)
    (found : l.lookup key = some old) (h : see (key, value) = see (key, old)) :
    (setIn key value l).map see = l.map see := by
  induction l with
  | nil => cases found
  | cons a rest ih =>
    obtain ⟨c, d⟩ := a
    by_cases e : key = c
    · subst e
      rw [List.lookup_cons, beq_self_eq_true] at found
      cases found
      simp only [setIn, if_true, List.map_cons, h]
    · rw [List.lookup_cons, beq_eq_false_iff_ne.mpr e] at found
      simp only [setIn, Ne.symm e, if_false, List.map_cons, ih found]

/-- The entries look as before if the one that is changed does. -/
theorem map_entries_modify {β : Type} (t : Table κ ν) (key : κ) (f : ν → ν) (see : κ × ν → β)
    (h : ∀ value, see (key, f value) = see (key, value)) :
    (t.modify key f).entries.map see = t.entries.map see := by
  unfold modify
  split
  · next value found => exact map_setIn see found (h value)
  · rfl

end Table

end GridAgent
