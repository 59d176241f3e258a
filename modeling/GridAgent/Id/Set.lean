import GridAgent.Id

/-!
# Sets of identifiers

A set of identifiers of one kind is an ascending list without repetitions, so equal sets are equal
lists and are always written in the same order. Insertion and removal are described by membership.
-/

namespace GridAgent

/-- A finite set of identifiers, kept in ascending order. -/
structure IdSet (kind : IdKind) where
  /-- The members in ascending order. -/
  toList : List (Id kind)
  /-- Each member is followed by greater ones only. -/
  ascending : toList.Pairwise fun a b => a.value < b.value
  deriving DecidableEq

namespace IdSet

variable {kind : IdKind}

/-- The set without members. -/
def empty : IdSet kind := ⟨[], .nil⟩

instance : Inhabited (IdSet kind) := ⟨empty⟩

instance : Membership (Id kind) (IdSet kind) := ⟨fun s id => id ∈ s.toList⟩

/-- Puts an identifier into an ascending list. -/
def insertInto (id : Id kind) : List (Id kind) → List (Id kind)
  | [] => [id]
  | a :: rest =>
    if id.value < a.value then id :: a :: rest
    else if a.value < id.value then a :: insertInto id rest
    else a :: rest

/-- Insertion adds exactly the new member. -/
theorem mem_insertInto {id x : Id kind} {l : List (Id kind)} :
    x ∈ insertInto id l ↔ x = id ∨ x ∈ l := by
  induction l with
  | nil => simp [insertInto]
  | cons a rest ih =>
    by_cases h : id.value < a.value
    · simp [insertInto, h]
    · by_cases h' : a.value < id.value
      · simp [insertInto, h, h', ih, or_left_comm]
      · have e : a = id := by
          cases a; cases id
          simp only [Id.mk.injEq]
          exact BitVec.le_antisymm (BitVec.not_lt.mp h) (BitVec.not_lt.mp h')
        simp [insertInto, e]

/-- Insertion keeps the order. -/
theorem ascending_insertInto {id : Id kind} {l : List (Id kind)}
    (h : l.Pairwise fun a b => a.value < b.value) :
    (insertInto id l).Pairwise fun a b => a.value < b.value := by
  induction l with
  | nil => simp [insertInto]
  | cons a rest ih =>
    have ⟨ha, hr⟩ := List.pairwise_cons.mp h
    by_cases h1 : id.value < a.value
    · simp only [insertInto, h1, if_true]
      refine List.pairwise_cons.mpr ⟨fun b hb => ?_, h⟩
      rcases List.mem_cons.mp hb with rfl | hb
      · exact h1
      · exact BitVec.lt_trans h1 (ha b hb)
    · by_cases h2 : a.value < id.value
      · simp only [insertInto, h1, h2, if_true, if_false]
        refine List.pairwise_cons.mpr ⟨fun b hb => ?_, ih hr⟩
        rcases mem_insertInto.mp hb with rfl | hb
        · exact h2
        · exact ha b hb
      · simpa only [insertInto, h1, h2, if_false] using h

/-- Adds a member. -/
def insert (id : Id kind) (s : IdSet kind) : IdSet kind :=
  ⟨insertInto id s.toList, ascending_insertInto s.ascending⟩

/-- The set of the members of a list. -/
def ofList (ids : List (Id kind)) : IdSet kind := ids.foldr insert empty

/-- Keeps the members with a property. -/
def filter (keep : Id kind → Bool) (s : IdSet kind) : IdSet kind :=
  ⟨s.toList.filter keep, s.ascending.filter keep⟩

/-- Removes a member. -/
def erase (id : Id kind) (s : IdSet kind) : IdSet kind := s.filter (· ≠ id)

/-- The identifier is a member. -/
def contains (s : IdSet kind) (id : Id kind) : Bool := s.toList.contains id

/-- The set has no members. -/
def isEmpty (s : IdSet kind) : Bool := s.toList.isEmpty

@[simp] theorem mem_insert {id x : Id kind} {s : IdSet kind} :
    x ∈ s.insert id ↔ x = id ∨ x ∈ s := mem_insertInto

@[simp] theorem mem_filter {keep : Id kind → Bool} {x : Id kind} {s : IdSet kind} :
    x ∈ s.filter keep ↔ x ∈ s ∧ keep x = true := List.mem_filter

@[simp] theorem mem_erase {id x : Id kind} {s : IdSet kind} :
    x ∈ s.erase id ↔ x ∈ s ∧ x ≠ id := by
  simp [erase]

@[simp] theorem not_mem_empty {x : Id kind} : ¬ x ∈ (empty : IdSet kind) := List.not_mem_nil

@[simp] theorem mem_ofList {x : Id kind} {ids : List (Id kind)} : x ∈ ofList ids ↔ x ∈ ids := by
  induction ids with
  | nil => exact ⟨fun h => absurd h not_mem_empty, fun h => absurd h List.not_mem_nil⟩
  | cons a rest ih => rw [ofList, List.foldr_cons, mem_insert, List.mem_cons, ← ih, ofList]

end IdSet

end GridAgent
