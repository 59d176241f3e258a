import GridAgent.Proofs.Store.Trails

/-!
# Results that arrive one after the other

Several results become available, each at its own moment and with visits in an order of its own. What
becomes of a record is said in terms of the index at the start: it waits for nothing that has arrived
and that the index lists it under, and it is submitted if it was in creation and all that it waited for
has arrived. The order of the arrivals shows in the log only.
-/

namespace GridAgent

/-- A result becomes available. -/
structure Arrival where
  /-- The result. -/
  data : DataId
  /-- When it becomes available. -/
  now : Date
  /-- In which order those are visited who wait for it. -/
  visit : Visit := .ascending

namespace Store

variable {s s' : Store} {x : TaskId} {data : DataId} {now : Date} {visit : Visit} {r : TaskRecord}
  {outputs arrived : List DataId} {woken woken' : List TaskId} {arrivals arrivals' : List Arrival}

/-- Results become available one after the other. Answers who becomes submitted for each of them. -/
def resolveEach (s : Store) : List Arrival → List (List TaskId) × Store
  | [] => ([], s)
  | a :: rest =>
    let (submitted, s) := s.resolveDataIn a.visit a.data a.now
    let (more, s) := s.resolveEach rest
    (submitted :: more, s)

/-- The store after one arrival goes on with the others. -/
theorem resolveEach_cons (s : Store) (a : Arrival) (rest : List Arrival) :
    s.resolveEach (a :: rest) =
      ((s.resolveDataIn a.visit a.data a.now).1 ::
          ((s.resolveDataIn a.visit a.data a.now).2.resolveEach rest).1,
        ((s.resolveDataIn a.visit a.data a.now).2.resolveEach rest).2) := rfl

/-- Results become available in any order. -/
theorem produced_resolveEach (s : Store) (arrivals : List Arrival) :
    Produced s (arrivals.map Arrival.data) (s.resolveEach arrivals).1.flatten
      (s.resolveEach arrivals).2 := by
  induction arrivals generalizing s with
  | nil => exact .refl s
  | cons a rest ih => exact (produced_resolveDataIn a.visit s a.data a.now).trans (ih _)

/-! What becomes of the records. -/

/-- The update of a task that waits for nothing any more. -/
def submission (now : Date) : TaskUpdate := { status := .submitted, submitted := some now }

/-- A record after results have arrived: it does not wait for them if the index knew that it did, and
it is submitted if it is one of those who are. -/
def relieved (s : Store) (arrived : List DataId) (woken : List TaskId) (now : Date) (x : TaskId)
    (r : TaskRecord) : TaskRecord :=
  let r := { r with
    remaining := r.remaining.filter fun data =>
      !(arrived.contains data && (s.dependencies.waitingFor data).contains x) }
  if x ∈ woken then r.apply (submission now) else r

/-- What a relieved record waits for. -/
theorem mem_filter_arrived {remaining : IdSet .data} {y : DataId} :
    (y ∈ remaining.filter fun data =>
      !(arrived.contains data && (s.dependencies.waitingFor data).contains x)) ↔
      y ∈ remaining ∧ ¬ (y ∈ arrived ∧ x ∈ s.dependencies.waitingFor y) := by
  rw [IdSet.mem_filter]
  simp only [Bool.not_eq_true', ← Bool.not_eq_true, Bool.and_eq_true, List.contains_iff_mem]

/-- A result relieves those who wait for it. -/
theorem get?_resolveDataIn (visit : Visit) (s : Store) (data : DataId) (now : Date) (x : TaskId) :
    (s.resolveDataIn visit data now).2.get? x =
      (s.get? x).map (s.relieved [data] (s.resolveDataIn visit data now).1 now x) := by
  have answer : x ∈ s.unblockedIn visit data ↔ x ∈ s.unblockedBy data :=
    (s.unblockedIn_perm visit data).mem_iff
  have satisfied : (s.satisfy data).get? x = (s.get? x).map fun r => { r with
      remaining := r.remaining.filter fun d =>
        !([data].contains d && (s.dependencies.waitingFor d).contains x) } := by
    rw [get?_satisfy]
    have less (remaining : IdSet .data) (waits : x ∈ s.dependencies.waitingFor data) :
        remaining.erase data = remaining.filter fun d =>
          !([data].contains d && (s.dependencies.waitingFor d).contains x) := by
      refine IdSet.eq_of_mem_iff fun y => ?_
      rw [mem_filter_arrived, IdSet.mem_erase, List.mem_singleton]
      refine and_congr_right fun _ => not_congr ⟨fun e => ⟨e, e ▸ waits⟩, And.left⟩
    have same (remaining : IdSet .data) (spared : x ∉ s.dependencies.waitingFor data) :
        remaining = remaining.filter fun d =>
          !([data].contains d && (s.dependencies.waitingFor d).contains x) := by
      refine IdSet.eq_of_mem_iff fun y => ?_
      rw [mem_filter_arrived, List.mem_singleton]
      refine (and_iff_left ?_).symm
      rintro ⟨rfl, waits⟩
      exact spared waits
    split
    · next waits =>
      refine congrArg (Option.map · _) (funext fun r => ?_)
      rw [less r.remaining waits]
    · next spared =>
      cases s.get? x with
      | none => rfl
      | some r => rw [Option.map_some, ← same r.remaining spared]
  rw [resolveDataIn_eq]
  show (s.resolveData data now).2.get? x = _
  rw [get?_resolveData, satisfied]
  unfold relieved
  by_cases moves : x ∈ s.unblockedBy data
  · rw [if_pos moves, Option.map_map]
    simp only [if_pos (answer.mpr moves)]
    rfl
  · rw [if_neg moves]
    simp only [if_neg (mt answer.mp moves)]

/-- Relief upon relief is that by all results together. -/
theorem relieved_relieved {first rest : List DataId}
    (edges : ∀ y, x ∈ s'.dependencies.waitingFor y ↔ y ∉ first ∧ x ∈ s.dependencies.waitingFor y)
    (apart : x ∈ woken → x ∉ woken') (r : TaskRecord) :
    s'.relieved rest woken' now x (s.relieved first woken now x r) =
      s.relieved (first ++ rest) (woken ++ woken') now x r := by
  have waits (remaining : IdSet .data) : (remaining.filter fun d =>
        !(first.contains d && (s.dependencies.waitingFor d).contains x)).filter (fun d =>
          !(rest.contains d && (s'.dependencies.waitingFor d).contains x)) =
      remaining.filter fun d =>
        !((first ++ rest).contains d && (s.dependencies.waitingFor d).contains x) := by
    refine IdSet.eq_of_mem_iff fun y => ?_
    rw [mem_filter_arrived, mem_filter_arrived, mem_filter_arrived, edges, List.mem_append]
    grind
  unfold relieved
  by_cases early : x ∈ woken
  · simp only [if_pos early, if_neg (apart early), if_pos (List.mem_append_left woken' early),
      TaskRecord.apply_remaining]
    rw [← waits]
    rfl
  · by_cases late : x ∈ woken'
    · simp only [if_neg early, if_pos late, if_pos (List.mem_append_right woken late), waits]
    · simp only [List.mem_append, early, late, or_self, if_false, waits]

/-- Results that arrive at one moment relieve those who wait for them. -/
theorem get?_resolveEach (s : Store) (moment : ∀ a ∈ arrivals, a.now = now) (x : TaskId) :
    (s.resolveEach arrivals).2.get? x = (s.get? x).map
      (s.relieved (arrivals.map Arrival.data) (s.resolveEach arrivals).1.flatten now x) := by
  induction arrivals generalizing s with
  | nil =>
    have same (r : TaskRecord) : s.relieved [] [] now x r = r := by
      have all : (r.remaining.filter fun data =>
          !(([] : List DataId).contains data && (s.dependencies.waitingFor data).contains x)) =
            r.remaining := by
        refine IdSet.eq_of_mem_iff fun y => ?_
        rw [mem_filter_arrived]
        exact and_iff_left fun arrived => List.not_mem_nil arrived.1
      unfold relieved
      rw [if_neg List.not_mem_nil, all]
    show s.get? x = (s.get? x).map (s.relieved [] [] now x)
    cases s.get? x with
    | none => rfl
    | some r => rw [Option.map_some, same]
  | cons a rest ih =>
    obtain ⟨rfl, later⟩ := List.forall_mem_cons.mp moment
    have produced := produced_resolveDataIn a.visit s a.data a.now
    have produced' := produced_resolveEach (s.resolveDataIn a.visit a.data a.now).2 rest
    have edges (y : DataId) : x ∈ (s.resolveDataIn a.visit a.data a.now).2.dependencies.waitingFor y ↔
        y ∉ [a.data] ∧ x ∈ s.dependencies.waitingFor y := by
      rw [resolveDataIn_eq, List.mem_singleton]
      exact Dependencies.mem_waitingFor_resolve
    have apart (early : x ∈ (s.resolveDataIn a.visit a.data a.now).1) :
        x ∉ ((s.resolveDataIn a.visit a.data a.now).2.resolveEach rest).1.flatten :=
      fun late => produced.not_creating early (produced'.creating late)
    rw [resolveEach_cons, ih _ later, get?_resolveDataIn, Option.map_map]
    refine congrArg (Option.map · _) (funext fun r => ?_)
    exact relieved_relieved edges apart r

/-- No task appears when results arrive. -/
theorem keys_resolveEach (s : Store) (arrivals : List Arrival) :
    (s.resolveEach arrivals).2.tasks.keys = s.tasks.keys := by
  induction arrivals generalizing s with
  | nil => rfl
  | cons a rest ih =>
    rw [resolveEach_cons, ih, resolveDataIn_eq, resolveData_eq]
    exact (keys_modifyAll _ _ _).trans (keys_modifyAll _ _ _)

/-- The index sheds the edges to each result. -/
theorem dependencies_resolveEach (s : Store) (arrivals : List Arrival) :
    (s.resolveEach arrivals).2.dependencies =
      (arrivals.map Arrival.data).foldl (fun g data => (g.resolve data).2) s.dependencies := by
  induction arrivals generalizing s with
  | nil => rfl
  | cons a rest ih =>
    rw [resolveEach_cons, ih, resolveDataIn_eq]
    rfl

/-- Nothing but records, the index, the available data and the log changes. -/
theorem rest_resolveEach (s : Store) (arrivals : List Arrival) :
    (s.resolveEach arrivals).2 = { s with
      tasks := (s.resolveEach arrivals).2.tasks
      dependencies := (s.resolveEach arrivals).2.dependencies
      available := (s.resolveEach arrivals).2.available
      log := (s.resolveEach arrivals).2.log } := by
  induction arrivals generalizing s with
  | nil => rfl
  | cons a rest ih =>
    rw [resolveEach_cons, ih, resolveDataIn_eq]
    rfl

/-- The order in which results arrive, and that of the visits, shows in the log only. -/
theorem resolveEach_perm (mirrored : s.dependencies.Mirrored)
    (same : (arrivals.map Arrival.data).Perm (arrivals'.map Arrival.data))
    (moment : ∀ a ∈ arrivals, a.now = now) (moment' : ∀ a ∈ arrivals', a.now = now) :
    (s.resolveEach arrivals).1.flatten.Perm (s.resolveEach arrivals').1.flatten ∧
    (s.resolveEach arrivals).2 =
      { (s.resolveEach arrivals').2 with log := (s.resolveEach arrivals).2.log } := by
  have produced := produced_resolveEach s arrivals
  have produced' := produced_resolveEach s arrivals'
  have woken (x : TaskId) :
      x ∈ (s.resolveEach arrivals).1.flatten ↔ x ∈ (s.resolveEach arrivals').1.flatten := by
    rw [produced.exactly mirrored, produced'.exactly mirrored]
    simp only [same.mem_iff]
  have records : (s.resolveEach arrivals).2.tasks = (s.resolveEach arrivals').2.tasks := by
    refine Table.eq_of_keys ?_ fun x => ?_
    · rw [keys_resolveEach, keys_resolveEach]
    · have relief : s.relieved (arrivals.map Arrival.data) (s.resolveEach arrivals).1.flatten now x =
          s.relieved (arrivals'.map Arrival.data) (s.resolveEach arrivals').1.flatten now x := by
        funext r
        unfold relieved
        simp only [woken, List.contains_eq_mem, same.mem_iff]
      have before := s.get?_resolveEach moment x
      have after := s.get?_resolveEach moment' x
      rw [relief] at before
      exact before.trans after.symm
  have index : (s.resolveEach arrivals).2.dependencies = (s.resolveEach arrivals').2.dependencies := by
    rw [dependencies_resolveEach, dependencies_resolveEach]
    exact same.foldl_eq' (fun x _ y _ g => g.resolve_comm x y) _
  have available : (s.resolveEach arrivals).2.available = (s.resolveEach arrivals').2.available := by
    refine IdSet.eq_of_mem_iff fun data => ?_
    rw [produced.available, produced'.available, same.mem_iff]
  refine ⟨(List.perm_ext_iff_of_nodup produced.once produced'.once).mpr woken, ?_⟩
  rw [s.rest_resolveEach arrivals, s.rest_resolveEach arrivals', records, index, available]

/-! The same results again. -/

/-- A result has arrived, and nobody waits for it. -/
structure HasArrived (s : Store) (data : DataId) : Prop where
  /-- It is available. -/
  available : data ∈ s.available
  /-- The index does not list it. -/
  unlisted : s.dependencies.waiting.get? data = none

/-- A result has arrived once it has become available. -/
theorem hasArrived_resolveDataIn (visit : Visit) (s : Store) (data : DataId) (now : Date) :
    (s.resolveDataIn visit data now).2.HasArrived data := by
  rw [resolveDataIn_eq]
  refine ⟨IdSet.mem_insert.mpr (.inl rfl), ?_⟩
  show (s.dependencies.waiting.erase data).get? data = none
  rw [Table.get?_erase, if_pos rfl]

/-- What has arrived stays so. -/
theorem HasArrived.kept (h : s.HasArrived data) (visit : Visit) (other : DataId) (now : Date) :
    (s.resolveDataIn visit other now).2.HasArrived data := by
  rw [resolveDataIn_eq]
  refine ⟨IdSet.mem_insert.mpr (.inr h.available), ?_⟩
  show (s.dependencies.waiting.erase other).get? data = none
  rw [Table.get?_erase, h.unlisted, ite_self]

/-- All results have arrived in the end. -/
theorem hasArrived_resolveEach (s : Store) {a : Arrival} (h : a ∈ arrivals) :
    (s.resolveEach arrivals).2.HasArrived a.data := by
  have later (rest : List Arrival) {s : Store} (here : s.HasArrived a.data) :
      (s.resolveEach rest).2.HasArrived a.data := by
    induction rest generalizing s with
    | nil => exact here
    | cons b rest ih => exact ih (here.kept b.visit b.data b.now)
  induction arrivals generalizing s with
  | nil => cases h
  | cons b rest ih =>
    rcases List.mem_cons.mp h with rfl | h
    · exact later rest (hasArrived_resolveDataIn a.visit s a.data a.now)
    · exact ih _ h

/-- A result that arrives again changes nothing. -/
theorem HasArrived.again (h : s.HasArrived data) (visit : Visit) (now : Date) :
    s.resolveDataIn visit data now = ([], s) := by
  have nobody : s.dependencies.waitingFor data = [] := by
    unfold Dependencies.waitingFor
    rw [h.unlisted]
    rfl
  have unvisited : visit.order [] = [] := List.perm_nil.mp (visit.perm [])
  have unblocked : s.unblockedIn visit data = [] := by
    unfold unblockedIn
    rw [nobody, unvisited]
    rfl
  have index : (s.dependencies.resolve data).2 = s.dependencies := by
    unfold Dependencies.resolve
    rw [nobody, Table.erase_of_missing h.unlisted]
    rfl
  have satisfied : s.satisfy data = s := by
    unfold satisfy
    rw [map_fst_resolve, nobody, index, IdSet.insert_of_mem h.available]
    rfl
  have unblocked' : s.unblockedBy data = [] :=
    List.nil_perm.mp (unblocked ▸ s.unblockedIn_perm visit data)
  rw [resolveDataIn_eq, unblocked, resolveData_eq, unblocked', satisfied]
  show ([], { s with log := s.log ++ [] }) = _
  rw [List.append_nil]

/-- Results that arrive again change nothing. -/
theorem resolveEach_again (arrived : ∀ a ∈ arrivals, s.HasArrived a.data) :
    s.resolveEach arrivals = (arrivals.map fun _ => [], s) := by
  induction arrivals with
  | nil => rfl
  | cons a rest ih =>
    obtain ⟨here, later⟩ := List.forall_mem_cons.mp arrived
    rw [resolveEach_cons, here.again, ih later]
    rfl

end Store

end GridAgent
