import GridAgent.Task.Options
import Mathlib.Data.List.Perm.Basic

/-!
# Filling in options again and again

Open options are filled in each time a task is acquired, and the next attempt starts from the filled
ones. Two dictionaries are the same if they answer the same for every key, and a union answers for
its own keys first. So filling in is associative, the same defaults fill in nothing the second time,
and whatever options set stays as it is under any further defaults.
-/

namespace GridAgent

namespace Text.Dictionary

variable {d d' : Dictionary} {entries : List (String × String)} {key value : String}

/-- No entry comes twice. -/
theorem nodup_entries (d : Dictionary) : d.entries.Nodup := by
  refine d.ascending.imp ?_
  rintro a b less rfl
  exact String.lt_irrefl _ less

theorem lookup_cons (a : String × String) (entries : List (String × String)) (key : String) :
    (a :: entries).lookup key = if key = a.1 then some a.2 else entries.lookup key := by
  obtain ⟨own, held⟩ := a
  rw [List.lookup_cons]
  by_cases here : key = own
  · rw [if_pos here, beq_iff_eq.mpr here]
  · rw [if_neg here, beq_eq_false_iff_ne.mpr here]

/-- Entries in ascending order of key answer what they hold. -/
theorem lookup_eq_some_iff (ascending : entries.Pairwise fun a b => a.1 < b.1) :
    entries.lookup key = some value ↔ (key, value) ∈ entries := by
  induction entries with
  | nil => simp
  | cons a rest ih =>
    obtain ⟨first, others⟩ := List.pairwise_cons.mp ascending
    rw [lookup_cons, List.mem_cons, Prod.ext_iff]
    split
    · next here =>
      -- the key is that of the first entry, and of no other one
      have absent : (key, value) ∉ rest := fun hm =>
        absurd (first (key, value) hm) (here ▸ String.lt_irrefl _)
      rw [Option.some.injEq, or_iff_left absent, and_iff_right here]
      exact eq_comm
    · next other => simp [other, ih others]

/-- A dictionary is determined by what it answers. -/
theorem ext_get? (h : ∀ key, d.get? key = d'.get? key) : d = d' := by
  have members (a : String × String) : a ∈ d.entries ↔ a ∈ d'.entries := by
    rw [← lookup_eq_some_iff d.ascending, ← lookup_eq_some_iff d'.ascending]
    exact iff_of_eq (congrArg (· = some a.2) (h a.1))
  have same : d.entries.Perm d'.entries :=
    (List.perm_ext_iff_of_nodup d.nodup_entries d'.nodup_entries).mpr members
  have entries : d.entries = d'.entries := by
    refine same.eq_of_pairwise (fun a b _ _ less greater => ?_) d.ascending d'.ascending
    exact absurd (String.lt_trans less greater) (String.lt_irrefl _)
  obtain ⟨_, _⟩ := d
  obtain ⟨_, _⟩ := d'
  obtain rfl := entries
  rfl

theorem lookup_insertInto (new value key : String) (entries : List (String × String)) :
    (insertInto new value entries).lookup key =
      if key = new then some value else entries.lookup key := by
  induction entries with
  | nil => exact lookup_cons (new, value) [] key
  | cons a rest ih =>
    unfold insertInto
    split
    · exact lookup_cons (new, value) (a :: rest) key
    · next not_less =>
      split
      · next greater =>
        rw [lookup_cons, lookup_cons, ih]
        by_cases here : key = a.1
        · have other : key ≠ new := by
            rintro rfl
            exact String.lt_irrefl _ (here ▸ greater)
          rw [if_pos here, if_neg other, if_pos here]
        · rw [if_neg here, if_neg here]
      · next not_greater =>
        have same : a.1 = new :=
          String.le_antisymm (String.not_lt.mp not_less) (String.not_lt.mp not_greater)
        rw [lookup_cons, lookup_cons, same]
        by_cases here : key = new
        · rw [if_pos here, if_pos here]
        · rw [if_neg here, if_neg here, if_neg here]

/-- After an insertion the new key answers the new value, and the others what they did. -/
theorem get?_insert (d : Dictionary) (new value key : String) :
    (d.insert new value).get? key = if key = new then some value else d.get? key :=
  lookup_insertInto new value key d.entries

/-- Entries in ascending order of key answer for their keys once they are inserted. -/
theorem get?_foldl_insert (ascending : entries.Pairwise fun a b => a.1 < b.1) (d : Dictionary)
    (key : String) : (entries.foldl (fun d e => d.insert e.1 e.2) d).get? key =
      (entries.lookup key).or (d.get? key) := by
  induction entries generalizing d with
  | nil => rfl
  | cons a rest ih =>
    obtain ⟨first, others⟩ := List.pairwise_cons.mp ascending
    rw [List.foldl_cons, ih others, get?_insert, lookup_cons]
    split
    · next here =>
      -- no later entry takes the place of the one that was inserted
      have absent : rest.lookup key = none := by
        refine Option.eq_none_iff_forall_ne_some.mpr fun value found => ?_
        have later := first (key, value) ((lookup_eq_some_iff others).mp found)
        exact absurd later (here ▸ String.lt_irrefl _)
      rw [absent]
      rfl
    · rfl

/-- A union answers for its own keys first. -/
theorem get?_union (own defaults : Dictionary) (key : String) :
    (own.union defaults).get? key = (own.get? key).or (defaults.get? key) :=
  get?_foldl_insert own.ascending defaults key

theorem union_assoc (d d' d'' : Dictionary) : (d.union d').union d'' = d.union (d'.union d'') := by
  refine ext_get? fun key => ?_
  rw [get?_union, get?_union, get?_union, get?_union, Option.or_assoc]

@[simp] theorem union_self (d : Dictionary) : d.union d = d := by
  refine ext_get? fun key => ?_
  rw [get?_union, Option.or_self]

end Text.Dictionary

namespace Options

/-- Defaults are filled in one after the other or all at once. -/
theorem mergedWith_assoc (o d d' : Options) :
    (o.mergedWith d).mergedWith d' = o.mergedWith (d.mergedWith d') := by
  unfold mergedWith
  simp only [Option.or_assoc, Text.Dictionary.union_assoc]

/-- Options have nothing left open that they fill in themselves. -/
@[simp] theorem mergedWith_self (o : Options) : o.mergedWith o = o := by
  unfold mergedWith
  simp only [Option.or_self, Text.Dictionary.union_self]

/-- Defaults that are filled in twice are filled in once. -/
@[simp] theorem mergedWith_idem (o d : Options) : (o.mergedWith d).mergedWith d = o.mergedWith d := by
  rw [mergedWith_assoc, mergedWith_self]

/-- What options set, other options set alike. -/
structure IsKeptIn (o o' : Options) : Prop where
  /-- A bound on the worker call stays. -/
  maxDurationMillis : ∀ millis, o.maxDurationMillis = some millis →
    o'.maxDurationMillis = some millis
  /-- A number of retries stays. -/
  maxRetries : ∀ retries, o.maxRetries = some retries → o'.maxRetries = some retries
  /-- The priority, which is always set, stays. -/
  priority : o'.priority = o.priority
  /-- A partition stays. -/
  partitionId : ∀ partition, o.partitionId = some partition → o'.partitionId = some partition
  /-- A name of the application stays. -/
  applicationName : ∀ name, o.applicationName = some name → o'.applicationName = some name
  /-- A free-form option stays. -/
  extra : ∀ key value, o.extra.get? key = some value → o'.extra.get? key = some value

namespace IsKeptIn

variable {o o' o'' : Options}

theorem refl (o : Options) : o.IsKeptIn o :=
  ⟨fun _ h => h, fun _ h => h, rfl, fun _ h => h, fun _ h => h, fun _ _ h => h⟩

theorem trans (h : o.IsKeptIn o') (h' : o'.IsKeptIn o'') : o.IsKeptIn o'' where
  maxDurationMillis millis set := h'.maxDurationMillis millis (h.maxDurationMillis millis set)
  maxRetries retries set := h'.maxRetries retries (h.maxRetries retries set)
  priority := h'.priority.trans h.priority
  partitionId partition set := h'.partitionId partition (h.partitionId partition set)
  applicationName name set := h'.applicationName name (h.applicationName name set)
  extra key value set := h'.extra key value (h.extra key value set)

/-- Whatever is set stays when open options are filled in. -/
theorem mergedWith (o d : Options) : o.IsKeptIn (o.mergedWith d) := by
  have own {α : Type} {mine theirs : Option α} {value : α} (set : mine = some value) :
      mine.or theirs = some value := by rw [set]; rfl
  refine ⟨fun _ => own, fun _ => own, rfl, fun _ => own, fun _ => own, fun key value set => ?_⟩
  exact (Text.Dictionary.get?_union o.extra d.extra key).trans (own set)

end IsKeptIn

/-! Options that are handed down. Each attempt has the options of the one before it, filled in with
what the session said at that time. -/

/-- The options after filling in several defaults, one after the other. -/
def filledIn (o : Options) (steps : List Options) : Options := steps.foldl Options.mergedWith o

variable {o d : Options} {steps : List Options}

theorem filledIn_append (o : Options) (steps more : List Options) :
    o.filledIn (steps ++ more) = (o.filledIn steps).filledIn more :=
  List.foldl_append ..

/-- Whatever is set stays, whatever defaults come after it. -/
theorem isKeptIn_filledIn (o : Options) (steps : List Options) : o.IsKeptIn (o.filledIn steps) := by
  induction steps generalizing o with
  | nil => exact .refl o
  | cons d rest ih => exact (IsKeptIn.mergedWith o d).trans (ih (o.mergedWith d))

/-- Defaults that are always the same are filled in once. -/
theorem filledIn_mergedWith (same : ∀ d' ∈ steps, d' = d) :
    (o.filledIn steps).mergedWith d = o.mergedWith d := by
  induction steps generalizing o with
  | nil => rfl
  | cons d' rest ih =>
    obtain rfl := same d' List.mem_cons_self
    calc ((o.mergedWith d').filledIn rest).mergedWith d'
      _ = (o.mergedWith d').mergedWith d' := ih fun d hd => same d (List.mem_cons_of_mem _ hd)
      _ = o.mergedWith d' := mergedWith_idem o d'

end Options

end GridAgent
