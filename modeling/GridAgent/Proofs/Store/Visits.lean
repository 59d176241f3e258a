import GridAgent.Proofs.Store.Supply
import GridAgent.Proofs.Table

/-!
# Tasks visited in any order

Whoever waits for data that is settled is visited once. The order of the visits shows in the answer
and in the log, and nowhere else: what one visit changes the next one does not look at.
-/

namespace GridAgent

/-- An order for visits: everybody is visited once. -/
structure Visit where
  /-- The tasks in the order in which they are visited. -/
  order : List TaskId → List TaskId
  /-- Nobody is left out or visited twice. -/
  perm : ∀ tasks, (order tasks).Perm tasks

/-- The order in which an index lists tasks. -/
def Visit.ascending : Visit := ⟨id, fun _ => .refl _⟩

/-- The opposite order. -/
def Visit.descending : Visit := ⟨List.reverse, List.reverse_perm⟩

/-- The order that somebody chooses for those who are visited; where it is none for them they are
visited as the index lists them. -/
def Visit.choosing (chosen : List TaskId) : Visit where
  order tasks := if chosen.isPerm tasks then chosen else tasks
  perm tasks := by
    split
    · next same => exact List.isPerm_iff.mp same
    · exact .refl _

/-- Every order can be chosen. -/
theorem Visit.order_choosing (visit : Visit) (tasks : List TaskId) :
    (choosing (visit.order tasks)).order tasks = visit.order tasks :=
  if_pos (List.isPerm_iff.mpr (visit.perm tasks))

namespace Dependencies

variable {a b : IdKind} {g : Dependencies} {data : DataId}

/-- What a table answers after an edge is removed. -/
theorem get?_unlink (near k : Id a) (far : Id b) (t : Table (Id a) (IdSet b)) :
    (unlink near far t).get? k =
      if k = near then
        (t.get? k).bind fun others =>
          if (others.erase far).isEmpty then none else some (others.erase far)
      else t.get? k := by
  unfold unlink
  split
  · next missing =>
    split
    · next e =>
      rw [e, missing]
      rfl
    · rfl
  · next others found =>
    dsimp only
    split
    · next last =>
      rw [Table.get?_erase]
      split
      · next e =>
        rw [e, found, Option.bind_some, if_pos last]
      · rfl
    · next more =>
      rw [Table.get?_set]
      split
      · next e =>
        rw [e, found, Option.bind_some, if_neg more]
      · rfl

theorem keys_unlink_sublist (near : Id a) (far : Id b) (t : Table (Id a) (IdSet b)) :
    (unlink near far t).keys.Sublist t.keys := by
  unfold unlink
  split
  · exact List.Sublist.refl _
  · next others found =>
    dsimp only
    split
    · exact Table.keys_erase_sublist t near
    · have here : near ∈ t.keys := Table.mem_keys.mpr (Option.isSome_iff_exists.mpr ⟨others, found⟩)
      rw [Table.keys_set_of_mem here]

/-- Whatever is removed from an empty set, it stays empty. -/
theorem isEmpty_erase {s : IdSet b} (empty : s.isEmpty = true) (x : Id b) :
    (s.erase x).isEmpty = true := by
  have none : s = .empty := IdSet.eq_empty_of_forall_not_mem fun _ => IdSet.not_mem_of_isEmpty empty
  rw [none]
  rfl

/-- Edges are removed in any order. -/
theorem unlink_comm (t : Table (Id a) (IdSet b)) (near near' : Id a) (far far' : Id b) :
    unlink near' far' (unlink near far t) = unlink near far (unlink near' far' t) := by
  refine Table.eq_of_sublist
    ((keys_unlink_sublist near' far' _).trans (keys_unlink_sublist near far t))
    ((keys_unlink_sublist near far _).trans (keys_unlink_sublist near' far' t)) fun k => ?_
  simp only [get?_unlink]
  by_cases e : k = near
  · by_cases e' : k = near'
    · simp only [if_pos e, if_pos e', Option.bind_assoc]
      refine congrArg _ (funext fun others => ?_)
      -- a set that becomes empty early is empty in the end
      have swap := IdSet.erase_comm others far far'
      have early (h : (others.erase far).isEmpty = true) := isEmpty_erase h far'
      have early' (h : (others.erase far').isEmpty = true) := isEmpty_erase h far
      rw [swap] at early
      by_cases h : (others.erase far).isEmpty = true <;>
        by_cases h' : (others.erase far').isEmpty = true <;> simp [h, h', early, early', swap]
    · simp only [if_pos e, if_neg e']
  · simp only [if_neg e]

/-- Two lists of changes may change places if their members may. -/
theorem foldl_comm {α β γ : Type} {f : γ → α → γ} {f' : γ → β → γ}
    (swap : ∀ c x y, f' (f c x) y = f (f' c y) x) (l : List α) (l' : List β) (c : γ) :
    l'.foldl f' (l.foldl f c) = l.foldl f (l'.foldl f' c) := by
  have past (c : γ) (y : β) : f' (l.foldl f c) y = l.foldl f (f' c y) :=
    (List.foldl_hom (f' · y) fun c x => (swap c x y).symm).symm
  exact List.foldl_hom (l.foldl f ·) past

/-- One task after the other leaves an edge to the same data. -/
theorem unlinkAll_perm {tasks tasks' : List TaskId} (same : tasks.Perm tasks')
    (awaited : Table TaskId (IdSet .data)) (data : DataId) :
    tasks.foldl (fun awaited task => unlink task data awaited) awaited =
      tasks'.foldl (fun awaited task => unlink task data awaited) awaited :=
  same.foldl_eq' (fun x _ y _ t => unlink_comm t x y data data) awaited

theorem awaitedBy_leave_of_ne {task other : TaskId} (h : other ≠ task) :
    (g.leave task).awaitedBy other = g.awaitedBy other := by
  unfold leave awaitedBy
  dsimp only
  rw [Table.get?_erase, if_neg h]

/-- Tasks leave the index in any order. -/
theorem leave_comm (g : Dependencies) (x y : TaskId) :
    (g.leave x).leave y = (g.leave y).leave x := by
  by_cases e : x = y
  · rw [e]
  have edges : ((g.leave x).awaitedBy y).toList.foldl
        (fun waiting data => unlink data y waiting) (g.leave x).waiting =
      ((g.leave y).awaitedBy x).toList.foldl
        (fun waiting data => unlink data x waiting) (g.leave y).waiting := by
    rw [awaitedBy_leave_of_ne (Ne.symm e), awaitedBy_leave_of_ne e]
    exact foldl_comm (fun waiting data data' => unlink_comm waiting data data' x y) ..
  show Dependencies.mk _ _ = Dependencies.mk _ _
  rw [Dependencies.mk.injEq]
  exact ⟨Table.erase_comm g.awaited x y, edges⟩

/-- The data is available, and its edges go with each visit. -/
def resolveIn (visit : Visit) (g : Dependencies) (data : DataId) :
    List (TaskId × Bool) × Dependencies :=
  let waiting := visit.order (g.waitingFor data)
  (waiting.map fun task => (task, ((g.awaitedBy task).erase data).isEmpty),
    { awaited := waiting.foldl (fun awaited task => unlink task data awaited) g.awaited
      waiting := g.waiting.erase data })

/-- The data will never exist, and everyone waiting for it leaves the index with each visit. -/
def abortIn (visit : Visit) (g : Dependencies) (data : DataId) : List TaskId × Dependencies :=
  let waiting := visit.order (g.waitingFor data)
  (waiting, waiting.foldl leave { g with waiting := g.waiting.erase data })

theorem waitingFor_resolve_of_ne {x : DataId} (h : x ≠ data) :
    (g.resolve data).2.waitingFor x = g.waitingFor x := by
  unfold resolve waitingFor
  dsimp only
  rw [Table.get?_erase, if_neg h]

/-- Data becomes available in any order. -/
theorem resolve_comm (g : Dependencies) (x y : DataId) :
    ((g.resolve x).2.resolve y).2 = ((g.resolve y).2.resolve x).2 := by
  by_cases e : x = y
  · rw [e]
  have edges : ((g.resolve x).2.waitingFor y).foldl
        (fun awaited task => unlink task y awaited) (g.resolve x).2.awaited =
      ((g.resolve y).2.waitingFor x).foldl
        (fun awaited task => unlink task x awaited) (g.resolve y).2.awaited := by
    rw [waitingFor_resolve_of_ne (Ne.symm e), waitingFor_resolve_of_ne e]
    exact foldl_comm (fun awaited task task' => unlink_comm awaited task task' x y) ..
  show Dependencies.mk _ _ = Dependencies.mk _ _
  rw [Dependencies.mk.injEq]
  exact ⟨edges, Table.erase_comm g.waiting x y⟩

/-- The order of the visits does not show in the index. -/
theorem resolveIn_index (visit : Visit) (g : Dependencies) (data : DataId) :
    (g.resolveIn visit data).2 = (g.resolve data).2 := by
  have edges := unlinkAll_perm (visit.perm (g.waitingFor data)) g.awaited data
  exact congrArg (fun awaited => Dependencies.mk awaited (g.waiting.erase data)) edges

theorem abortIn_index (visit : Visit) (g : Dependencies) (data : DataId) :
    (g.abortIn visit data).2 = (g.abort data).2 :=
  (visit.perm _).foldl_eq' (fun x _ y _ g => leave_comm g x y) _

end Dependencies

namespace Store

variable {s : Store} {task : TaskId} {visit : Visit} {data : DataId} {now : Date}

/-- Records that are changed stay where they are. -/
theorem keys_modifyAll (s : Store) (tasks : List TaskId) (f : TaskRecord → TaskRecord) :
    (s.modifyAll tasks f).tasks.keys = s.tasks.keys := by
  unfold modifyAll
  generalize s.tasks = records
  induction tasks generalizing records with
  | nil => rfl
  | cons first rest ih => exact (ih _).trans (Table.keys_modify records first f)

/-- Records are changed in any order. -/
theorem modifyAll_perm {tasks tasks' : List TaskId} (same : tasks.Perm tasks') (s : Store)
    (f : TaskRecord → TaskRecord) : s.modifyAll tasks f = s.modifyAll tasks' f := by
  have records : tasks.foldl (fun records task => records.modify task f) s.tasks =
      tasks'.foldl (fun records task => records.modify task f) s.tasks :=
    same.foldl_eq' (fun x _ y _ records => Table.modify_comm records f x y) s.tasks
  unfold modifyAll
  rw [records]

/-- The data has been produced, and those that wait for it are visited in an order of choice. -/
def resolveDataIn (visit : Visit) (s : Store) (data : DataId) (now : Date) : List TaskId × Store :=
  let (waited, dependencies) := s.dependencies.resolveIn visit data
  let s := { s with available := s.available.insert data, dependencies }
  let s := s.modifyAll (waited.map Prod.fst) fun t =>
    { t with remaining := t.remaining.erase data }
  let unblocked := (waited.filter fun w => w.2 && s.hasStatus w.1 [.creating]).map Prod.fst
  (unblocked, s.writeAll unblocked { status := .submitted, submitted := some now })

/-- The data will never be produced, and those that wait for it are visited in an order of choice. -/
def abortDataIn (visit : Visit) (s : Store) (data : DataId) (now : Date) : List TaskId × Store :=
  let (waited, dependencies) := s.dependencies.abortIn visit data
  let s := { s with aborted := s.aborted.insert data, dependencies }
  let failed := waited.filter fun task => s.hasStatus task [.creating, .pending]
  let output := Output.failure ("input data " ++ data.toString ++ " was aborted")
  (failed, s.writeAll failed (TaskUpdate.finish .error output now))

/-- Only the order of those who wait for the data matters. -/
theorem resolveDataIn_congr {visit' : Visit}
    (same : visit.order (s.dependencies.waitingFor data) =
      visit'.order (s.dependencies.waitingFor data)) :
    s.resolveDataIn visit data now = s.resolveDataIn visit' data now := by
  unfold resolveDataIn Dependencies.resolveIn
  rw [same]

theorem abortDataIn_congr {visit' : Visit}
    (same : visit.order (s.dependencies.waitingFor data) =
      visit'.order (s.dependencies.waitingFor data)) :
    s.abortDataIn visit data now = s.abortDataIn visit' data now := by
  unfold abortDataIn Dependencies.abortIn
  rw [same]

/-- The store visits tasks as its index lists them. -/
theorem resolveDataIn_ascending (s : Store) (data : DataId) (now : Date) :
    s.resolveDataIn .ascending data now = s.resolveData data now := rfl

theorem abortDataIn_ascending (s : Store) (data : DataId) (now : Date) :
    s.abortDataIn .ascending data now = s.abortData data now := rfl

/-- The tasks that become submitted, in the order of the visits. -/
def unblockedIn (visit : Visit) (s : Store) (data : DataId) : List TaskId :=
  (visit.order (s.dependencies.waitingFor data)).filter fun task =>
    ((s.dependencies.awaitedBy task).erase data).isEmpty &&
      (s.satisfy data).hasStatus task [.creating]

/-- The tasks that fail, in the order of the visits. -/
def failedIn (visit : Visit) (s : Store) (data : DataId) : List TaskId :=
  (visit.order (s.dependencies.waitingFor data)).filter fun task =>
    s.hasStatus task [.creating, .pending]

/-- The order of the visits does not change who fails. -/
theorem failedIn_perm (visit : Visit) (s : Store) (data : DataId) :
    (s.failedIn visit data).Perm (s.failedBy data) := (visit.perm _).filter _

/-- The order of the visits does not change who becomes submitted. -/
theorem unblockedIn_perm (visit : Visit) (s : Store) (data : DataId) :
    (s.unblockedIn visit data).Perm (s.unblockedBy data) := by
  have listed : s.unblockedBy data = (s.dependencies.waitingFor data).filter fun task =>
      ((s.dependencies.awaitedBy task).erase data).isEmpty &&
        (s.satisfy data).hasStatus task [.creating] := by
    unfold unblockedBy Dependencies.resolve
    rw [List.filter_map, List.map_map]
    exact List.map_id _
  rw [listed]
  exact (visit.perm _).filter _

/-- An update is written to records in any order, which the log tells. -/
theorem writeAll_perm {tasks tasks' : List TaskId} (same : tasks.Perm tasks') (s : Store)
    (change : TaskUpdate) : s.writeAll tasks change =
      { s.writeAll tasks' change with
        log := s.log ++ tasks.map fun task => (task, change.status) } := by
  unfold writeAll
  rw [modifyAll_perm same]
  rfl

/-- The order of the visits shows in the answer and in the log, and nowhere else. -/
theorem abortDataIn_eq (visit : Visit) (s : Store) (data : DataId) (now : Date) :
    s.abortDataIn visit data now = (s.failedIn visit data,
      { (s.abortData data now).2 with
        log := s.log ++ (s.failedIn visit data).map fun task => (task, .error) }) := by
  have visited : s.abortDataIn visit data now = (s.failedIn visit data,
      { s with
        aborted := s.aborted.insert data
        dependencies := (s.dependencies.abortIn visit data).2 }.writeAll (s.failedIn visit data)
          (TaskUpdate.finish .error (abortedInput data) now)) := rfl
  rw [visited, Dependencies.abortIn_index, writeAll_perm (s.failedIn_perm visit data)]
  rfl

/-- The order of the visits does not show in the records. -/
theorem records_abortDataIn (visit : Visit) (s : Store) (data : DataId) (now : Date) (task : TaskId) :
    (s.abortDataIn visit data now).2.get? task = (s.abortData data now).2.get? task := by
  rw [abortDataIn_eq]
  rfl

/-- The order of the visits shows in the answer and in the log, and nowhere else. -/
theorem resolveDataIn_eq (visit : Visit) (s : Store) (data : DataId) (now : Date) :
    s.resolveDataIn visit data now = (s.unblockedIn visit data,
      { (s.resolveData data now).2 with
        log := s.log ++ (s.unblockedIn visit data).map fun task => (task, .submitted) }) := by
  have met : { s with
      available := s.available.insert data
      dependencies := (s.dependencies.resolveIn visit data).2 }.modifyAll
        ((s.dependencies.resolveIn visit data).1.map Prod.fst)
        (fun t => { t with remaining := t.remaining.erase data }) = s.satisfy data := by
    have visited : (s.dependencies.resolveIn visit data).1.map Prod.fst =
        visit.order (s.dependencies.waitingFor data) := by
      simp [Dependencies.resolveIn, Function.comp_def]
    rw [visited, Dependencies.resolveIn_index, modifyAll_perm (visit.perm _), ← map_fst_resolve]
    rfl
  have freed : ((s.dependencies.resolveIn visit data).1.filter fun w =>
      w.2 && (s.satisfy data).hasStatus w.1 [.creating]).map Prod.fst = s.unblockedIn visit data := by
    unfold Dependencies.resolveIn unblockedIn
    rw [List.filter_map, List.map_map]
    exact List.map_id _
  have visited : s.resolveDataIn visit data now =
      (s.unblockedIn visit data, (s.satisfy data).writeAll (s.unblockedIn visit data)
        { status := .submitted, submitted := some now }) := by
    rw [← freed, ← met]
    rfl
  rw [visited, writeAll_perm (s.unblockedIn_perm visit data)]
  rfl

theorem records_resolveDataIn (visit : Visit) (s : Store) (data : DataId) (now : Date)
    (task : TaskId) :
    (s.resolveDataIn visit data now).2.get? task = (s.resolveData data now).2.get? task := by
  rw [resolveDataIn_eq]
  rfl

end Store

end GridAgent
