import GridAgent.Proofs.Cluster.Heritage
import GridAgent.Proofs.Cluster.Promises
import GridAgent.Proofs.Handler.Kinship
import GridAgent.Proofs.Store.Waiting

/-!
# How successors come into the world

A successor is recorded for a retried parent only, and it is the only attempt that comes after it.
If its parent waits for nothing no data can move it: it is in creation until some actor promotes it,
and whoever promotes it owes its push, which is made next, for better or worse.
-/

namespace GridAgent.Cluster

open Agent Program Track

variable {fleet : Fleet} {allowed : Event → Prop} {start c c' : State} {pod : PodId} {s s' : Shared}
  {task : TaskId} {record : TaskRecord} {number : Nat} {a b : Actor} {operation : Operation}
  {reply : operation.Reply}

/-- Clients insert first attempts only, and submit only those that have their data. -/
def insertsFirst : Event → Prop
  | .move (.insert record) =>
    record.ancestors = [] ∧ (record.status = .submitted → record.remaining = .empty)
  | _ => True

/-! The index. -/

/-- No call names a task in the index that does not wait. -/
theorem indexed_of_effect {operation : Operation} {reply : operation.Reply}
    (h : Effect pod s operation reply s')
    (hn : ∀ parent candidate, operation = .agent (.createSuccessor parent candidate) →
      s.store.get? candidate.id = none)
    (hx : s.store.Indexed) : s'.store.Indexed := by
  cases h with
  | silent silent alike =>
    obtain ⟨failures, scratches, rfl⟩ := alike
    exact hx
  | written task expected change record found holds => exact hx.written found change _
  | created parent candidate missing =>
    have recorded : Store.Indexed
        { s.store with successors := s.store.successors.set parent.id candidate.id } := hx
    exact recorded.inserted (hn parent candidate rfl)
  | resolved data now => exact hx.resolved data now
  | gaveUp data now => exact hx.aborted data now
  | _ => exact hx

/-- Moves name no task in the index that does not wait. -/
theorem indexed_of_move {m : Move} (h : s.move m = some s') (hx : s.store.Indexed) :
    s'.store.Indexed := by
  obtain ⟨effect, -⟩ := effect_of_move h
  generalize s'.store = store at effect ⊢
  cases effect with
  | aside same =>
    obtain ⟨failures, rfl⟩ := same
    exact hx
  | marked task expected record found held => exact hx.written found _ _
  | inserted record new => exact hx.inserted (Shared.isNew_iff.mp new).1
  | resolved visit data now => exact hx.resolved data now
  | gaveUp visit data now => exact hx.aborted data now

/-- In every state that is reached the index names only tasks that wait. -/
theorem Reaches.indexed (hr : Reaches fleet allowed start c) (hi : start.Initial)
    (h : start.shared.store.Indexed) : c.shared.store.Indexed := by
  apply hr.invariant h
  intro c c' event before hx _ hp
  have sound := before.sound hi
  rcases sound.store_cases hp with same | ⟨number, a, b, operation, reply, ha⟩ | ⟨m, -, hm⟩
  · exact same ▸ hx
  · exact indexed_of_effect ha.effect (sound.candidate_new ha) hx
  · exact indexed_of_move hm hx

/-- A task that waits for nothing is changed by updates only. -/
theorem ready_of_effect {operation : Operation} {reply : operation.Reply}
    (h : Effect pod s operation reply s')
    (hn : ∀ parent candidate, operation = .agent (.createSuccessor parent candidate) →
      s.store.get? candidate.id = none)
    (hx : s.store.Indexed) (hr : s.store.get? task = some record) (ready : record.remaining = .empty) :
    s'.store.get? task = some record ∨
    (∃ expected change, operation = .agent (.updateTask task expected change) ∧
      expected.holds record = true ∧ s'.store.get? task = some (record.apply change) ∧
      ∀ k : Track, k.note pod operation reply =
        k.updated task expected change (.ok (record.apply change))) := by
  have free (data : DataId) := hx.not_mem hr ready data
  have effect := h.onRecord hn hr
  generalize s'.store = store at effect ⊢
  cases effect with
  | stays same => exact .inl same
  | written expected change holds updated =>
    exact .inr ⟨expected, change, rfl, holds, updated, fun _ => rfl⟩
  | resolved data now => exact .inl ((Store.get?_resolveData_of_not_mem (free data)).trans hr)
  | gaveUp data now => exact .inl ((Store.get?_abortData_of_not_mem (free data)).trans hr)

/-- Outside the agents a task that waits for nothing is only marked for cancellation. -/
theorem ready_of_move {m : Move} (h : s.move m = some s') (hx : s.store.Indexed)
    (hr : s.store.get? task = some record) (ready : record.remaining = .empty) :
    s'.store.get? task = some record ∨
    (record.status ∈ heldStatuses ∧
      s'.store.get? task = some (record.apply { status := .cancelling })) := by
  have free (data : DataId) := hx.not_mem hr ready data
  have effect := (effect_of_move h).1.onRecord hr
  generalize s'.store = store at effect ⊢
  cases effect with
  | stays same => exact .inl same
  | marked expected held updated => exact .inr ⟨held, updated⟩
  | resolved visit data now => exact .inl ((Store.get?_resolveData_of_not_mem (free data)).trans hr)
  | gaveUp visit data now => exact .inl ((Store.get?_abortData_of_not_mem (free data)).trans hr)

/-- A task that waits for nothing goes on so. -/
theorem Sound.ready_step (h : Sound c) (hx : c.shared.store.Indexed) {event : Event}
    (hp : c.perform fleet event = some c')
    (hr : ∃ t, c.shared.store.get? task = some t ∧ t.remaining = .empty) :
    ∃ t, c'.shared.store.get? task = some t ∧ t.remaining = .empty := by
  obtain ⟨t, ht, ready⟩ := hr
  have applied (change : TaskUpdate) : (t.apply change).remaining = .empty :=
    (TaskRecord.apply_remaining t change).trans ready
  rcases h.store_cases hp with same | ⟨number, a, b, operation, reply, ha⟩ | ⟨m, -, hm⟩
  · exact ⟨t, same ▸ ht, ready⟩
  · rcases ready_of_effect ha.effect (h.candidate_new ha) hx ht ready with
      ht' | ⟨expected, change, -, -, ht', -⟩
    · exact ⟨t, ht', ready⟩
    · exact ⟨_, ht', applied change⟩
  · rcases ready_of_move hm hx ht ready with ht' | ⟨-, ht'⟩
    · exact ⟨t, ht', ready⟩
    · exact ⟨_, ht', applied _⟩

/-! Parents. -/

/-- The rules of a succession, for an actor. -/
def parentRules (job : Job) (W : IdSet .data → Prop) : Conduct operations Unit :=
  withFinalizers (successionRules job.task W) True

/-- Answers can be counted on as a succession counts on them, if the stored parent is as described. -/
theorem parentRules_credible (h : Sound c) {W : IdSet .data → Prop}
    (ha : Answers c number a b operation reply c')
    (hw : ∀ t, c'.shared.store.get? a.job.task = some t → t.status = .retried → W t.remaining) :
    (parentRules a.job W).credible operation reply := by
  have effect := ha.effect
  have parent {t : TaskRecord} (ht : c'.shared.store.get? a.job.task = some t) :
      IsParent a.job.task W t :=
    ⟨h.keyed_of_answers ha _ t ht, hw t ht⟩
  rcases operation with request | request
  · cases request with
    | readTask other =>
      rintro rfl t rfl
      exact parent (shown_of_effect effect)
    | updateTask other expected change =>
      rintro rfl t rfl
      obtain ⟨⟨record, -, -, rfl⟩, stored⟩ := written_of_effect effect
      exact ⟨parent stored, TaskRecord.apply_status record change⟩
    | _ => exact trivial
  · exact trivial

/-- Whoever creates a successor does so for its own task, which is retried. -/
theorem Reaches.parent_retried (hr : Reaches fleet allowed start c) (hi : start.Initial)
    {parent candidate : TaskRecord}
    {reply : (Operation.agent (.createSuccessor parent candidate)).Reply}
    (ha : Answers c number a b (.agent (.createSuccessor parent candidate)) reply c') :
    ∃ p, c.shared.store.get? parent.id = some p ∧ p.status = .retried := by
  -- a record is shown as retried only if the stored one is
  have obeys : ∀ known : Prop,
      (∀ t, c.shared.store.get? a.job.task = some t → t.status = .retried → known) →
      a.Obeys (parentRules a.job fun _ => known) () fun _ _ _ => True := by
    refine hr.obey hi (fun _ job known => parentRules job fun _ => known)
      (fun s job known => ∀ t, s.store.get? job.task = some t → t.status = .retried → known)
      (fun pod job known => successionRules_followed _ job) ?_ ?_ a
      (List.mem_of_getElem? ha.actor)
    · intro c c' event hr hp job known hf t ht retried
      obtain ⟨t', ht', -, hs⟩ := (hr.sound hi).record_step hp ht
      exact hf t' ht' (retried_of_next hs retried)
    · exact fun hr _ ha _ known hf => parentRules_credible (hr.sound hi) ha hf
  obtain ⟨next, asks⟩ := ha.asks
  have own : parent.id = a.job.task := ha.may.2.1
  rw [own]
  cases hp : c.shared.store.get? a.job.task with
  | none => exact ((obeys False fun t ht => nomatch hp.symm.trans ht).may asks).2.elim
  | some p =>
    refine ⟨p, rfl, ((obeys (p.status = .retried) fun t ht retried => ?_).may asks).2⟩
    obtain rfl := Option.some.inj (hp.symm.trans ht)
    exact retried

/-! Recorded successors. -/

/-- Recorded successors are stored. -/
def HeirsStored (s : Store) : Prop :=
  ∀ parent heir, s.successors.get? parent = some heir → ∃ t, s.get? heir = some t

/-- A recorded successor stays recorded when an actor is answered. -/
theorem HeirsStored.recorded_answered (h : HeirsStored c.shared.store)
    (ha : Answers c number a b operation reply c') {heir : TaskId}
    (recorded : c.shared.store.successors.get? task = some heir) :
    c'.shared.store.successors.get? task = some heir := by
  rcases successors_of_effect ha.effect with ⟨same, -⟩ | ⟨parent, candidate, -, free, set, -⟩
  · exact same ▸ recorded
  · rw [set, Table.get?_set, if_neg ?_]
    · exact recorded
    · rintro rfl
      cases (Store.unrecorded (h parent.id) free).symm.trans recorded

/-- A recorded successor stays recorded. -/
theorem HeirsStored.recorded_step (h : HeirsStored c.shared.store) (hs : Sound c) {heir : TaskId}
    {event : Event} (hp : c.perform fleet event = some c')
    (recorded : c.shared.store.successors.get? task = some heir) :
    c'.shared.store.successors.get? task = some heir := by
  rcases hs.store_cases hp with same | ⟨number, a, b, operation, reply, ha⟩ | ⟨m, -, hm⟩
  · exact same ▸ recorded
  · exact h.recorded_answered ha recorded
  · exact successors_of_move hm ▸ recorded

/-- Recorded successors stay stored, and those that are recorded are stored. -/
theorem HeirsStored.perform (h : HeirsStored c.shared.store) (hs : Sound c) {event : Event}
    (hp : c.perform fleet event = some c') : HeirsStored c'.shared.store := by
  intro parent heir recorded
  have old (recorded : c.shared.store.successors.get? parent = some heir) :
      ∃ t, c'.shared.store.get? heir = some t := by
    obtain ⟨t, ht⟩ := h parent heir recorded
    obtain ⟨t', ht', -⟩ := hs.record_step hp ht
    exact ⟨t', ht'⟩
  rcases hs.store_cases hp with same | ⟨number, a, b, operation, reply, ha⟩ | ⟨m, -, hm⟩
  · exact old (same ▸ recorded)
  · rcases successors_of_effect ha.effect with ⟨same, -⟩ |
      ⟨parent', candidate, -, -, set, stored⟩
    · exact old (same ▸ recorded)
    · rw [set, Table.get?_set] at recorded
      split at recorded
      · obtain rfl := Option.some.inj recorded
        exact ⟨_, (stored _).trans (if_pos rfl)⟩
      · exact old recorded
  · exact old (successors_of_move hm ▸ recorded)

/-- In every state that is reached recorded successors are stored. -/
theorem Reaches.heirsStored (hr : Reaches fleet allowed start c) (hi : start.Initial)
    (h : HeirsStored start.shared.store) : HeirsStored c.shared.store := by
  apply hr.invariant h
  intro c c' event before hc _ hp
  exact hc.perform (before.sound hi) hp

/-- How successors are stored. -/
structure Successions (s : Store) : Prop where
  /-- A recorded successor is stored and comes after its parent, which is retried. -/
  recorded : ∀ parent task, s.successors.get? parent = some task →
    (∃ p, s.get? parent = some p ∧ p.status = .retried) ∧
      ∃ t, s.get? task = some t ∧ t.ancestors.getLast? = some parent
  /-- An attempt that comes after another one is recorded as its successor. -/
  child : ∀ task t parent, s.get? task = some t → t.ancestors.getLast? = some parent →
    s.successors.get? parent = some task
  /-- The index names only tasks that wait for the data. -/
  indexed : s.Indexed

/-- Successors are stored as they should be where records go on and only first attempts come in. -/
theorem Successions.kept {s s' : Store} (h : Successions s)
    (records : ∀ task t, s.get? task = some t → ∃ t', s'.get? task = some t' ∧
      t'.ancestors = t.ancestors ∧ (t.status = .retried → t'.status = .retried))
    (successors : s'.successors = s.successors)
    (new : ∀ task t', s.get? task = none → s'.get? task = some t' → t'.ancestors = [])
    (indexed : s'.Indexed) : Successions s' := by
  refine ⟨fun parent task hs => ?_, fun task t' parent ht' hl => ?_, indexed⟩
  · rw [successors] at hs
    obtain ⟨⟨p, hp, retried⟩, t, ht, hl⟩ := h.recorded parent task hs
    obtain ⟨p', hp', -, stays⟩ := records parent p hp
    obtain ⟨t', ht', same, -⟩ := records task t ht
    exact ⟨⟨p', hp', stays retried⟩, t', ht', by rw [same, hl]⟩
  · rw [successors]
    rcases Store.origin records new ht' with ⟨t, ht, same, -⟩ | none
    · exact h.child task t parent ht (same ▸ hl)
    · rw [none] at hl
      cases hl

/-- Where successors are stored as they should be the recorded ones are stored. -/
theorem Successions.heirsStored {s : Store} (h : Successions s) : HeirsStored s := by
  intro parent heir recorded
  obtain ⟨-, t, ht, -⟩ := h.recorded parent heir recorded
  exact ⟨t, ht⟩

/-- A parent without a successor has none recorded. -/
theorem Successions.unrecorded {s : Store} (h : Successions s) {parent : TaskId}
    (missing : s.successor? parent = none) : s.successors.get? parent = none :=
  Store.unrecorded (h.heirsStored parent) missing

/-- Successors are stored as they should be when a retried task gets one. -/
theorem Successions.created {s s' : Store} (h : Successions s) {parent : TaskId}
    {p candidate : TaskRecord} (hp : s.get? parent = some p) (retried : p.status = .retried)
    (missing : s.successor? parent = none) (last : candidate.ancestors.getLast? = some parent)
    (new : s.get? candidate.id = none)
    (records : ∀ task, s'.get? task =
      if task = candidate.id then some (s.withoutAvailable candidate) else s.get? task)
    (successors : s'.successors = s.successors.set parent candidate.id) (indexed : s'.Indexed) :
    Successions s' := by
  have old : ∀ task t, s.get? task = some t → s'.get? task = some t :=
    fun task t => Store.get?_of_added records new
  refine ⟨fun parent' task hs => ?_, fun task t parent' ht hl => ?_, indexed⟩
  · rw [successors, Table.get?_set] at hs
    split at hs
    · next e =>
      obtain rfl := Option.some.inj hs
      subst e
      refine ⟨⟨p, old _ p hp, retried⟩, s.withoutAvailable candidate, ?_, last⟩
      rw [records, if_pos rfl]
    · obtain ⟨⟨p', hp', retried'⟩, t, ht, hl⟩ := h.recorded parent' task hs
      exact ⟨⟨p', old _ p' hp', retried'⟩, t, old _ t ht, hl⟩
  · rw [successors, Table.get?_set]
    rcases Store.of_added records ht with ⟨rfl, rfl⟩ | ht
    · obtain rfl := Option.some.inj (hl.symm.trans last)
      rw [if_pos rfl]
    · have child := h.child task t parent' ht hl
      rw [if_neg ?_]
      · exact child
      · rintro rfl
        cases (h.unrecorded missing).symm.trans child

/-- Successors stay stored as they should be. -/
theorem Successions.perform (h : Successions c.shared.store)
    (hr : Reaches fleet insertsFirst start c) (hi : start.Initial) {event : Event}
    (permitted : insertsFirst event) (hp : c.perform fleet event = some c') :
    Successions c'.shared.store := by
  have sound := hr.sound hi
  have records : ∀ task t, c.shared.store.get? task = some t →
      ∃ t', c'.shared.store.get? task = some t' ∧ t'.ancestors = t.ancestors ∧
        (t.status = .retried → t'.status = .retried) := by
    intro task t ht
    obtain ⟨t', ht', same, hs⟩ := sound.record_step hp ht
    exact ⟨t', ht', congrArg Heritage.ancestors same, retried_of_next hs⟩
  rcases sound.store_cases hp with same | ⟨number, a, b, operation, reply, ha⟩ | ⟨m, rfl, hm⟩
  · exact same ▸ h
  · have indexed := indexed_of_effect ha.effect (sound.candidate_new ha) h.indexed
    rcases successors_of_effect ha.effect with ⟨same, missing⟩ |
      ⟨parent, candidate, rfl, free, recorded, stored⟩
    · refine h.kept records same (fun task t' ht ht' => ?_) indexed
      cases (missing task ht).symm.trans ht'
    · obtain ⟨p, hp, retried⟩ := hr.parent_retried hi ha
      obtain ⟨now, hc⟩ := ha.may.2.2.2.2
      refine h.created hp retried free ?_ (sound.candidate_new ha parent candidate rfl) stored
        recorded indexed
      rw [hc]
      exact List.getLast?_concat
  · refine h.kept records (successors_of_move hm) (fun task t' ht ht' => ?_)
      (indexed_of_move hm h.indexed)
    rcases missing_of_move hm ht with hn | ⟨new, rfl, -, -, -, stored⟩
    · cases hn.symm.trans ht'
    · obtain rfl := Option.some.inj (stored.symm.trans ht')
      exact permitted.1

/-- In every state that is reached with first attempts inserted only, successors are stored as they
should be. -/
theorem Reaches.successions (hr : Reaches fleet insertsFirst start c) (hi : start.Initial)
    (h : Successions start.shared.store) : Successions c.shared.store := by
  apply hr.invariant h
  exact fun c c' event hr before permitted hp => Successions.perform before hr hi permitted hp

/-- The stored successor of a task is the recorded one. -/
theorem Sound.of_successor? (h : Sound c) {t : TaskRecord}
    (found : c.shared.store.successor? task = some t) :
    c.shared.store.successors.get? task = some t.id ∧ c.shared.store.get? t.id = some t := by
  obtain ⟨heir, recorded, stored⟩ := Option.bind_eq_some_iff.mp found
  obtain rfl := h.keyed heir t stored
  exact ⟨recorded, stored⟩

/-- What is found as a successor is stored as one. -/
theorem successor_of_answer {pod : PodId} {s s' : Shared} {t : TaskRecord}
    {choice : Option (Request.findSuccessor task).Reply}
    (h : s.answer pod (.agent (.findSuccessor task)) choice = some (.ok (some t), s')) :
    s.store.successor? task = some t := by
  have answer : (Store.findSuccessor task s.store).1 = .ok (some t) :=
    congrArg Prod.fst (Option.some.inj h)
  rcases Store.fallible_cases (fun s => (.ok (s.successor? task), s)) s.store with
    ⟨reason, failed, -⟩ | found
  · cases failed.symm.trans answer
  · exact Except.ok.inj ((congrArg Prod.fst found).symm.trans answer)

end GridAgent.Cluster
