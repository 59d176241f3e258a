/-!
# Dictionaries

A dictionary maps texts to texts. Its entries are kept in ascending order of key with one entry a
key, so two dictionaries with the same entries are equal and are written alike.
-/

namespace GridAgent.Text

/-- A finite map from texts to texts, kept in ascending order of key. -/
structure Dictionary where
  /-- Keys and values in ascending order of key. -/
  entries : List (String × String)
  /-- Each key is followed by greater ones only. -/
  ascending : entries.Pairwise fun a b => a.1 < b.1
  deriving DecidableEq

namespace Dictionary

/-- The dictionary without entries. -/
def empty : Dictionary := ⟨[], .nil⟩

instance : Inhabited Dictionary := ⟨empty⟩

/-- Puts an entry into an ascending list in place of one with the same key. -/
def insertInto (key value : String) : List (String × String) → List (String × String)
  | [] => [(key, value)]
  | a :: rest =>
    if key < a.1 then (key, value) :: a :: rest
    else if a.1 < key then a :: insertInto key value rest
    else (a.1, value) :: rest

/-- Keys after an insertion: the old ones and the new one. -/
theorem mem_insertInto {key value : String} {x : String × String} {l : List (String × String)}
    (h : x ∈ insertInto key value l) : x.1 = key ∨ ∃ y ∈ l, y.1 = x.1 := by
  induction l with
  | nil => simp only [insertInto, List.mem_singleton] at h; exact .inl (by rw [h])
  | cons a rest ih =>
    by_cases h1 : key < a.1
    · simp only [insertInto, h1, if_true, List.mem_cons] at h
      rcases h with h | h
      · exact .inl (by rw [h])
      · exact .inr ⟨x, by simpa using h, rfl⟩
    · by_cases h2 : a.1 < key
      · simp only [insertInto, h1, h2, if_true, if_false, List.mem_cons] at h
        rcases h with h | h
        · exact .inr ⟨x, by simp [h], rfl⟩
        · rcases ih h with h | ⟨y, hy, e⟩
          · exact .inl h
          · exact .inr ⟨y, by simp [hy], e⟩
      · simp only [insertInto, h1, h2, if_false, List.mem_cons] at h
        rcases h with h | h
        · exact .inr ⟨a, by simp, by rw [h]⟩
        · exact .inr ⟨x, by simp [h], rfl⟩

/-- Insertion keeps the order. -/
theorem ascending_insertInto {key value : String} {l : List (String × String)}
    (h : l.Pairwise fun a b => a.1 < b.1) :
    (insertInto key value l).Pairwise fun a b => a.1 < b.1 := by
  induction l with
  | nil => simp [insertInto]
  | cons a rest ih =>
    have ⟨ha, hr⟩ := List.pairwise_cons.mp h
    by_cases h1 : key < a.1
    · simp only [insertInto, h1, if_true]
      refine List.pairwise_cons.mpr ⟨fun b hb => ?_, h⟩
      rcases List.mem_cons.mp hb with rfl | hb
      · exact h1
      · exact String.lt_trans h1 (ha b hb)
    · by_cases h2 : a.1 < key
      · simp only [insertInto, h1, h2, if_true, if_false]
        refine List.pairwise_cons.mpr ⟨fun b hb => ?_, ih hr⟩
        rcases mem_insertInto hb with e | ⟨y, hy, e⟩
        · rw [e]; exact h2
        · rw [← e]; exact ha y hy
      · simp only [insertInto, h1, h2, if_false]
        exact List.pairwise_cons.mpr ⟨fun b hb => ha b hb, hr⟩

/-- Adds an entry, in place of one with the same key. -/
def insert (d : Dictionary) (key value : String) : Dictionary :=
  ⟨insertInto key value d.entries, ascending_insertInto d.ascending⟩

/-- The dictionary of a list of entries, later ones in place of earlier ones. -/
def ofList (entries : List (String × String)) : Dictionary :=
  entries.foldl (fun d e => d.insert e.1 e.2) empty

/-- The value of a key. -/
def get? (d : Dictionary) (key : String) : Option String := d.entries.lookup key

/-- The entries of both dictionaries; where both have a key, the value is that of `own`. -/
def union (own defaults : Dictionary) : Dictionary :=
  own.entries.foldl (fun d e => d.insert e.1 e.2) defaults

end Dictionary

end GridAgent.Text
