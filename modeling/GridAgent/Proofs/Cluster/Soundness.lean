import GridAgent.Proofs.Cluster.Effect
import GridAgent.Proofs.Handler.Handling

/-!
# What holds of every cluster

In every reached state each actor follows its books, each record is stored under its own identifier,
and an identifier that was made up for a successor is nobody else's and not in the store. So every
answered call is one that the books of its actor allow, with one of the known effects, and a record
changes only by an update that some agent may ask for, by the mark of an administrator, or by data
that is settled.
-/

namespace GridAgent.Cluster

open Track

variable {fleet : Fleet} {allowed : Event → Prop} {start c c' : State} {pod : PodId}
  {s s' : Shared} {task : TaskId} {record : TaskRecord}

/-! Books and effects. -/

/-- The books differ in what the worker and the registry told at most. -/
structure Track.Alike (k k' : Track) : Prop where
  /-- The stage is the same, or the stream is closed. -/
  stage : k'.stage = k.stage ∨ k'.stage = k.stage.hungUp
  reserved : k'.reserved = k.reserved
  owed : k'.owed = k.owed
  attached : k'.attached = k.attached
  closed : k'.closed = k.closed
  cancelled : k'.cancelled = k.cancelled
  doomed : k'.doomed = k.doomed
  released : k'.released = k.released
  disposed : k'.disposed = k.disposed
  settled : k'.settled = k.settled

theorem Track.Alike.run? {k k' : Track} (h : k.Alike k') : k'.stage.run? = k.stage.run? := by
  rcases h.stage with hs | hs
  · rw [hs]
  · rw [hs, Stage.run?_hungUp]

/-- A silent answer is noted as one. -/
theorem alike_note_of_silent (k : Track) {operation : Operation} {reply : operation.Reply}
    (h : Silent operation reply) : k.Alike (k.note pod operation reply) := by
  rcases operation with request | request
  · cases request with
    | readTask task =>
      rcases reply with cause | _
      · exact ⟨.inl rfl, rfl, rfl, rfl, rfl, rfl, rfl, rfl, rfl, rfl⟩
      · cases h
    | updateTask task expected change =>
      rcases reply with (task | found | reason) | _
      · exact ⟨.inl rfl, rfl, rfl, rfl, rfl, rfl, rfl, rfl, rfl, rfl⟩
      · cases h
      · exact ⟨.inl rfl, rfl, rfl, rfl, rfl, rfl, rfl, rfl, rfl, rfl⟩
      · cases h
    | createSuccessor parent candidate =>
      rcases reply with cause | _
      · exact ⟨.inl rfl, rfl, rfl, rfl, rfl, rfl, rfl, rfl, rfl, rfl⟩
      · cases h
    | connect run task deadline =>
      rcases reply with cause | stream
      · exact ⟨.inl rfl, rfl, rfl, rfl, rfl, rfl, rfl, rfl, rfl, rfl⟩
      · exact ⟨.inl rfl, rfl, rfl, rfl, rfl, rfl, rfl, rfl, rfl, rfl⟩
    | hangUp stream => exact ⟨.inr rfl, rfl, rfl, rfl, rfl, rfl, rfl, rfl, rfl, rfl⟩
    | newTaskId => cases h
    | push tasks => cases h
    | register task => cases h
    | unregister run => cases h
    | requestStop run => cases h
    | dispose message disposition => cases h
    | settle message => cases h
    | _ => exact ⟨.inl rfl, rfl, rfl, rfl, rfl, rfl, rfl, rfl, rfl, rfl⟩
  · cases request with
    | resolve data now => cases h
    | giveUp data now => cases h
    | push tasks => cases h
    | _ => exact ⟨.inl rfl, rfl, rfl, rfl, rfl, rfl, rfl, rfl, rfl, rfl⟩

/-- Records are stored under their own identifiers. -/
def Shared.Keyed (s : Shared) : Prop :=
  ∀ task record, s.store.get? task = some record → record.id = task

/-- The answers that are counted on are given. -/
theorem credible_of_effect {operation : Operation} {reply : operation.Reply} (hk : s.Keyed)
    (h : Effect pod s operation reply s') : Credible operation reply := by
  cases h with
  | silent silent alike =>
    rcases operation with request | request
    · cases request with
      | readTask task => rcases reply with _ | _ | _ <;> trivial
      | updateTask task expected change => rcases reply with _ | _ <;> trivial
      | createSuccessor parent candidate =>
        rcases reply with cause | _
        · exact silent
        · cases silent
      | _ => trivial
    · trivial
  | read task =>
    cases hr : s.store.get? task with
    | none => trivial
    | some record => exact hk task record hr
  | written task expected change record found holds =>
    exact (TaskRecord.apply_id record change).trans (hk task record found)
  | _ => trivial

/-! Records and effects. -/

theorem Shared.Alike.get? (h : s.Alike s') (task : TaskId) :
    s'.store.get? task = s.store.get? task := by
  obtain ⟨failures, scratches, rfl⟩ := h
  rfl

/-- A stored successor hides the record under its own identifier only. -/
theorem get?_created (store : Store) (parent candidate : TaskRecord) (task : TaskId) :
    ({ store with
      successors := store.successors.set parent.id candidate.id }.insert candidate).get? task =
      if task = candidate.id then some (store.withoutAvailable candidate)
      else store.get? task :=
  Store.get?_insert _ candidate task

/-- A new identifier is not in the store and has not been made up before. -/
theorem Shared.isNew_iff : s.isNew task = true ↔ s.store.get? task = none ∧ task ∉ s.issued := by
  simp [Shared.isNew, Table.contains, Store.get?]

/-- The effect of a call on a stored record. -/
inductive RecordEffect (s : Shared) (task : TaskId) (record : TaskRecord) :
    (operation : Operation) → operation.Reply → Store → Prop where
  /-- The record stays as it is. -/
  | stays {operation : Operation} {reply : operation.Reply} {store : Store}
    (same : store.get? task = some record) : RecordEffect s task record operation reply store
  /-- It is updated. -/
  | written {store : Store} (expected : Expectation) (change : TaskUpdate)
    (holds : expected.holds record = true) (updated : store.get? task = some (record.apply change)) :
    RecordEffect s task record (.agent (.updateTask task expected change))
      (.ok (record.apply change)) store
  /-- Results become available. -/
  | resolved (data : DataId) (now : Date) (woken : List TaskId)
    (same : woken.Perm (s.store.resolveData data now).1) (log : List (TaskId × TaskStatus)) :
    RecordEffect s task record (.finalizer (.resolve data now)) woken
      { (s.store.resolveData data now).2 with log }
  /-- Results are given up. -/
  | gaveUp (data : DataId) (now : Date) (failed : List TaskId) (log : List (TaskId × TaskStatus)) :
    RecordEffect s task record (.finalizer (.giveUp data now)) failed
      { (s.store.abortData data now).2 with log }

/-- Every call has one of these effects on a stored record. Successors are expected to be new. -/
theorem Effect.onRecord {operation : Operation} {reply : operation.Reply}
    (h : Effect pod s operation reply s')
    (hn : ∀ parent candidate, operation = .agent (.createSuccessor parent candidate) →
      s.store.get? candidate.id = none)
    (hr : s.store.get? task = some record) :
    RecordEffect s task record operation reply s'.store := by
  cases h with
  | silent silent alike => exact .stays ((alike.get? task).trans hr)
  | written other expected change found hf holds =>
    have hg := Table.get?_set s.store.tasks other task (found.apply change)
    by_cases e : task = other
    · subst e
      obtain rfl := Option.some.inj (hr.symm.trans hf)
      exact .written expected change holds (hg.trans (if_pos rfl))
    · exact .stays ((hg.trans (if_neg e)).trans hr)
  | created parent candidate missing =>
    refine .stays (((get?_created s.store parent candidate task).trans (if_neg ?_)).trans hr)
    rintro rfl
    cases hr.symm.trans (hn parent candidate rfl)
  | resolved data now woken same => exact .resolved data now woken same _
  | gaveUp data now failed => exact .gaveUp data now failed _
  | _ => exact .stays hr

/-- The effect of a move on a stored record. -/
inductive RecordMove (s : Shared) (task : TaskId) (record : TaskRecord) : Move → Store → Prop where
  /-- The record stays as it is. -/
  | stays {m : Move} {store : Store} (same : store.get? task = some record) :
    RecordMove s task record m store
  /-- It is held, and marked for cancellation. -/
  | marked {store : Store} (expected : Expectation) (held : record.status ∈ heldStatuses)
    (updated : store.get? task = some (record.apply { status := .cancelling })) :
    RecordMove s task record (.cancel task expected) store
  /-- Data becomes available. -/
  | resolved (visit : Visit) (data : DataId) (now : Date) (log : List (TaskId × TaskStatus)) :
    RecordMove s task record (.resolve visit data now) { (s.store.resolveData data now).2 with log }
  /-- Data is given up. -/
  | gaveUp (visit : Visit) (data : DataId) (now : Date) (log : List (TaskId × TaskStatus)) :
    RecordMove s task record (.giveUp visit data now) { (s.store.abortData data now).2 with log }

/-- Every move has one of these effects on a stored record. -/
theorem MoveEffect.onRecord {m : Move} {store : Store} (h : MoveEffect s m store)
    (hr : s.store.get? task = some record) : RecordMove s task record m store := by
  cases h with
  | aside same =>
    obtain ⟨failures, rfl⟩ := same
    exact .stays hr
  | marked other expected found hf held =>
    have hg := Table.get?_set s.store.tasks other task (found.apply { status := .cancelling })
    by_cases e : task = other
    · subst e
      obtain rfl := Option.some.inj (hr.symm.trans hf)
      exact .marked expected held (hg.trans (if_pos rfl))
    · exact .stays ((hg.trans (if_neg e)).trans hr)
  | inserted new hn =>
    refine .stays (((Store.get?_insert s.store new task).trans (if_neg ?_)).trans hr)
    rintro rfl
    cases hr.symm.trans (Shared.isNew_iff.mp hn).1
  | resolved visit data now => exact .resolved visit data now _
  | gaveUp visit data now => exact .gaveUp visit data now _

/-- What a call does to a stored record: it goes on, and the books owe it if it becomes submitted, or
the call is an update of it. Successors are expected to be new. -/
theorem record_of_effect {operation : Operation} {reply : operation.Reply}
    (h : Effect pod s operation reply s')
    (hn : ∀ parent candidate, operation = .agent (.createSuccessor parent candidate) →
      s.store.get? candidate.id = none)
    (hr : s.store.get? task = some record) :
    (∃ record', s'.store.get? task = some record' ∧ Store.GoesOn record record' ∧
      (record'.status = record.status ∨ record'.status = .error ∨
        ∀ k : Track, task ∈ (k.note pod operation reply).owed)) ∨
    (∃ expected change, operation = .agent (.updateTask task expected change) ∧
      expected.holds record = true ∧ s'.store.get? task = some (record.apply change) ∧
      ∀ k : Track, k.note pod operation reply =
        k.updated task expected change (.ok (record.apply change))) := by
  have effect := h.onRecord hn hr
  generalize s'.store = store at effect ⊢
  cases effect with
  | stays same => exact .inl ⟨record, same, .refl record, .inl rfl⟩
  | written expected change holds updated =>
    exact .inr ⟨expected, change, rfl, holds, updated, fun _ => rfl⟩
  | resolved data now woken same =>
    obtain ⟨record', hr', hg, hs⟩ := Store.resolveData_goesOn hr
    refine .inl ⟨record', hr', hg, hs.imp_right fun hm => .inr fun k => ?_⟩
    exact List.mem_append_right k.owed (same.mem_iff.mpr hm)
  | gaveUp data now =>
    obtain ⟨record', hr', hg, hs⟩ := Store.abortData_goesOn hr
    exact .inl ⟨record', hr', hg, hs.imp_right .inl⟩

/-- What a call stores: nothing under a free identifier, or a successor. -/
theorem missing_of_effect {operation : Operation} {reply : operation.Reply}
    (h : Effect pod s operation reply s') (hr : s.store.get? task = none) :
    s'.store.get? task = none ∨
    (∃ parent candidate, operation = .agent (.createSuccessor parent candidate) ∧
      task = candidate.id ∧ s'.store.get? task = some (s.store.withoutAvailable candidate)) := by
  cases h with
  | silent silent alike => exact .inl ((alike.get? task).trans hr)
  | written other expected change found hf holds =>
    have hg := Table.get?_set s.store.tasks other task (found.apply change)
    rw [if_neg ?_] at hg
    · exact .inl (hg.trans hr)
    · rintro rfl
      rw [hf] at hr
      cases hr
  | created parent candidate missing =>
    have hg := get?_created s.store parent candidate task
    by_cases e : task = candidate.id
    · exact .inr ⟨parent, candidate, rfl, e, hg.trans (if_pos e)⟩
    · exact .inl ((hg.trans (if_neg e)).trans hr)
  | resolved => exact .inl (Store.get?_resolveData_none hr)
  | gaveUp => exact .inl (Store.get?_abortData_none hr)
  | _ => exact .inl hr

/-- What a move does to a stored record: it goes on, or it is marked for cancellation. -/
theorem record_of_move {m : Move} (h : s.move m = some s')
    (hr : s.store.get? task = some record) :
    (∃ record', s'.store.get? task = some record' ∧ Store.GoesOn record record' ∧
      (record'.status = record.status ∨ record'.status = .error ∨
        ∃ visit data now, m = .resolve visit data now)) ∨
    (record.status ∈ heldStatuses ∧
      s'.store.get? task = some (record.apply { status := .cancelling })) := by
  have effect := (effect_of_move h).1.onRecord hr
  generalize s'.store = store at effect ⊢
  cases effect with
  | stays same => exact .inl ⟨record, same, .refl record, .inl rfl⟩
  | marked expected held updated => exact .inr ⟨held, updated⟩
  | resolved visit data now =>
    obtain ⟨record', hr', hg, -⟩ := Store.resolveData_goesOn hr
    exact .inl ⟨record', hr', hg, .inr (.inr ⟨visit, data, now, rfl⟩)⟩
  | gaveUp visit data now =>
    obtain ⟨record', hr', hg, hs⟩ := Store.abortData_goesOn hr
    exact .inl ⟨record', hr', hg, hs.imp_right .inl⟩

/-- What a move stores: nothing under a free identifier, or a new task. -/
theorem missing_of_move {m : Move} (h : s.move m = some s') (hr : s.store.get? task = none) :
    s'.store.get? task = none ∨
    (∃ new, m = .insert new ∧ task = new.id ∧ s.isNew task = true ∧ new.status ∈ newStatuses ∧
      s'.store.get? task = some (s.store.withoutAvailable new)) := by
  obtain ⟨effect, -⟩ := effect_of_move h
  generalize s'.store = store at effect ⊢
  cases effect with
  | aside same =>
    obtain ⟨failures, rfl⟩ := same
    exact .inl hr
  | marked other expected found hf held =>
    have hg := Table.get?_set s.store.tasks other task (found.apply { status := .cancelling })
    rw [if_neg ?_] at hg
    · exact .inl (hg.trans hr)
    · rintro rfl
      cases hf.symm.trans hr
  | inserted new hn status =>
    have hg := Store.get?_insert s.store new task
    by_cases e : task = new.id
    · subst e
      exact .inr ⟨new, rfl, rfl, hn, status, hg.trans (if_pos rfl)⟩
    · exact .inl ((hg.trans (if_neg e)).trans hr)
  | resolved => exact .inl (Store.get?_resolveData_none hr)
  | gaveUp => exact .inl (Store.get?_abortData_none hr)

/-- Identifiers that were made up stay so. -/
theorem issued_of_effect {operation : Operation} {reply : operation.Reply}
    (h : Effect pod s operation reply s') : s.issued ⊆ s'.issued := by
  cases h with
  | silent silent alike =>
    obtain ⟨failures, scratches, rfl⟩ := alike
    exact fun _ hi => hi
  | newTaskId task new => exact List.subset_cons_self _ _
  | _ => exact fun _ hi => hi

theorem issued_of_move {m : Move} (h : s.move m = some s') : s'.issued = s.issued :=
  (effect_of_move h).2

/-- A reserved identifier was reserved before and stays free, or is new. -/
theorem reserved_of_effect {k : Track} {operation : Operation} {reply : operation.Reply}
    (h : Effect pod s operation reply s') (hk : (k.note pod operation reply).reserved = some task) :
    (k.reserved = some task ∧ (s.store.get? task = none → s'.store.get? task = none)) ∨
    (s.isNew task = true ∧ task ∈ s'.issued ∧ s'.store.get? task = none) := by
  have free (hn : ∀ parent candidate, operation ≠ .agent (.createSuccessor parent candidate))
      (hr : s.store.get? task = none) : s'.store.get? task = none := by
    rcases missing_of_effect h hr with hr' | ⟨parent, candidate, ho, -⟩
    · exact hr'
    · exact absurd ho (hn parent candidate)
  cases h with
  | silent silent alike =>
    exact .inl ⟨(alike_note_of_silent k silent).reserved.symm.trans hk,
      fun hr => (alike.get? task).trans hr⟩
  | newTaskId made new =>
    obtain rfl := Option.some.inj hk
    exact .inr ⟨new, List.mem_cons_self, (Shared.isNew_iff.mp new).1⟩
  | read other =>
    simp only [note, noteAgent] at hk
    rw [read_eq] at hk
    exact .inl ⟨hk, id⟩
  | lost other expected change record found unexpected =>
    exact .inl ⟨(updated_reserved k other expected change _).symm.trans hk, id⟩
  | written other expected change record found holds =>
    have kept := (updated_reserved k other expected change _).symm.trans hk
    exact .inl ⟨kept, free fun _ _ e => by cases e⟩
  | existing parent candidate record found => cases hk
  | created parent candidate missing => cases hk
  | disposed message disposition =>
    simp only [note] at hk
    rw [noteAgent_dispose] at hk
    exact .inl ⟨hk, id⟩
  | resolved data now => exact .inl ⟨hk, free fun _ _ e => by cases e⟩
  | gaveUp data now => exact .inl ⟨hk, free fun _ _ e => by cases e⟩
  | _ => exact .inl ⟨hk, id⟩

/-! Actors. -/

/-- No two actors share what is meant. -/
def State.Apart (c : State) (R : Actor → Actor → Prop) : Prop :=
  ∀ (i j : Nat) (x y : Actor), c.actors[i]? = some x → c.actors[j]? = some y → R x y → i = j

/-- The actors have reserved the same identifier. -/
def Actor.SharesReserved (x y : Actor) : Prop :=
  ∃ task, x.track.reserved = some task ∧ y.track.reserved = some task

theorem Actor.SharesReserved.symm {x y : Actor} (h : x.SharesReserved y) : y.SharesReserved x := by
  obtain ⟨task, hx, hy⟩ := h
  exact ⟨task, hy, hx⟩

/-- In a cluster every actor follows its books, records are stored under their own identifiers, and
identifiers that are reserved are nobody else's and free. -/
structure Sound (c : State) : Prop where
  /-- Every actor follows its books. -/
  follows : ∀ a ∈ c.actors, a.rest.Follows (conduct a.pod a.job) a.track fun _ k => a.job.Ends k
  /-- Records are stored under their own identifiers. -/
  keyed : c.shared.Keyed
  /-- Reserved identifiers were made up and are free. -/
  reserved : ∀ a ∈ c.actors, ∀ task, a.track.reserved = some task →
    task ∈ c.shared.issued ∧ c.shared.store.get? task = none
  /-- No two actors have reserved the same identifier. -/
  distinct : c.Apart Actor.SharesReserved

/-- An actor is answered a call. -/
structure Answers (c : State) (number : Nat) (a b : Actor) (operation : Operation)
    (reply : operation.Reply) (c' : State) : Prop where
  /-- The actor before. -/
  actor : c.actors[number]? = some a
  /-- It makes the call. -/
  asks : a.Asks operation
  /-- Its books allow the call. -/
  may : a.track.May a.pod a.job operation
  /-- The answer can be counted on. -/
  credible : Credible operation reply
  /-- What the call does. -/
  effect : Effect a.pod c.shared operation reply c'.shared
  /-- The pod stays. -/
  pod : b.pod = a.pod
  /-- The job stays. -/
  job : b.job = a.job
  /-- The answer is remembered. -/
  past : b.past = ⟨operation, reply⟩ :: a.past
  /-- The answer is noted. -/
  track : b.track = a.track.note a.pod operation reply
  /-- The actor goes on. -/
  follows : b.rest.Follows (conduct b.pod b.job) b.track fun _ k => b.job.Ends k
  /-- Nobody else moves. -/
  actors : c'.actors = c.actors.set number b

variable {number : Nat} {a b : Actor} {operation : Operation} {reply : operation.Reply}

/-- An answered actor makes a call that its books allow, and goes on with the answer. -/
theorem Sound.advances (h : Sound c) {number : Nat}
    {choice : (operation : Operation) → Option operation.Reply}
    (hp : c.answer number choice = some c') :
    ∃ a operation next reply, a.rest = .call operation next ∧
      Answers c number a (a.advance operation reply (next reply)) operation reply c' ∧
      c.shared.answer a.pod operation (choice operation) = some (reply, c'.shared) := by
  obtain ⟨a, operation, next, reply, shared, ha, hr, hs, rfl⟩ := State.answer_eq_some hp
  have hf := h.follows a (List.mem_of_getElem? ha)
  rw [hr] at hf
  have effect := effect_of_answer hs
  have credible := credible_of_effect h.keyed effect
  exact ⟨a, operation, next, reply, hr,
    ⟨ha, ⟨next, hr⟩, hf.1, credible, effect, rfl, rfl, rfl, rfl, hf.2 reply credible, rfl⟩, hs⟩

/-- An answered actor makes a call that its books allow. -/
theorem Sound.answers (h : Sound c) {number : Nat}
    {choice : (operation : Operation) → Option operation.Reply}
    (hp : c.answer number choice = some c') :
    ∃ a b operation reply, Answers c number a b operation reply c' ∧
      c.shared.answer a.pod operation (choice operation) = some (reply, c'.shared) := by
  obtain ⟨a, operation, next, reply, -, ha, hs⟩ := h.advances hp
  exact ⟨a, a.advance operation reply (next reply), operation, reply, ha, hs⟩

/-- A successor that is created is new. -/
theorem Sound.candidate_new (h : Sound c) (ha : Answers c number a b operation reply c')
    (parent candidate : TaskRecord)
    (ho : operation = .agent (.createSuccessor parent candidate)) :
    c.shared.store.get? candidate.id = none := by
  have may := ha.may
  subst ho
  exact (h.reserved a (List.mem_of_getElem? ha.actor) candidate.id may.2.2.2.1).2

/-- Records stay under their own identifiers. -/
theorem Shared.keyed_of (hk : s.Keyed)
    (stored : ∀ task record, s.store.get? task = some record →
      ∃ record', s'.store.get? task = some record' ∧ record'.id = record.id)
    (new : ∀ task record, s.store.get? task = none → s'.store.get? task = some record →
      record.id = task) : s'.Keyed := by
  intro task record' hr'
  cases hr : s.store.get? task with
  | none => exact new task record' hr hr'
  | some record =>
    obtain ⟨found, hf, hi⟩ := stored task record hr
    obtain rfl := Option.some.inj (hr'.symm.trans hf)
    exact hi.trans (hk task record hr)

theorem Sound.keyed_of_answers (h : Sound c) (ha : Answers c number a b operation reply c') :
    c'.shared.Keyed := by
  refine Shared.keyed_of h.keyed ?_ ?_
  · intro task record hr
    rcases record_of_effect ha.effect (h.candidate_new ha) hr with
      ⟨record', hr', hg, -⟩ | ⟨expected, change, -, -, hr', -⟩
    · exact ⟨record', hr', hg.id⟩
    · exact ⟨_, hr', TaskRecord.apply_id record change⟩
  · intro task record hr hr'
    rcases missing_of_effect ha.effect hr with hn | ⟨parent, candidate, -, he, hs⟩
    · rw [hn] at hr'
      cases hr'
    · obtain rfl := Option.some.inj (hr'.symm.trans hs)
      exact he.symm

theorem Sound.keyed_of_move (h : Sound c) {m : Move} (hm : c.shared.move m = some s') : s'.Keyed := by
  refine Shared.keyed_of h.keyed ?_ ?_
  · intro task record hr
    rcases record_of_move hm hr with ⟨record', hr', hg, -⟩ | ⟨-, hr'⟩
    · exact ⟨record', hr', hg.id⟩
    · exact ⟨_, hr', TaskRecord.apply_id record _⟩
  · intro task record hr hr'
    rcases missing_of_move hm hr with hn | ⟨new, -, he, -, -, hs⟩
    · rw [hn] at hr'
      cases hr'
    · obtain rfl := Option.some.inj (hr'.symm.trans hs)
      exact he.symm

/-- After an answer each number is that of the answered actor or of one that did not move. -/
theorem Answers.cases {number other : Nat} {a b x : Actor} {operation : Operation}
    {reply : operation.Reply} (ha : Answers c number a b operation reply c')
    (hx : c'.actors[other]? = some x) :
    (other = number ∧ x = b) ∨ (other ≠ number ∧ c.actors[other]? = some x) := by
  rw [ha.actors, List.getElem?_set] at hx
  by_cases e : number = other
  · rw [if_pos e] at hx
    split at hx
    · exact .inl ⟨e.symm, (Option.some.inj hx).symm⟩
    · cases hx
  · rw [if_neg e] at hx
    exact .inr ⟨fun h => e h.symm, hx⟩

/-- The answered actor is in its place. -/
theorem Answers.self (ha : Answers c number a b operation reply c') :
    c'.actors[number]? = some b := by
  rw [ha.actors, List.getElem?_set, if_pos rfl, if_pos (List.getElem?_eq_some_iff.mp ha.actor).1]

/-- The answered actor is not as it was. -/
theorem Answers.ne (ha : Answers c number a b operation reply c') : b ≠ a := by
  rintro rfl
  have hl := congrArg List.length ha.past
  rw [List.length_cons] at hl
  omega

/-- After an answer each actor is the answered one or one that was there. -/
theorem Answers.mem_cases {number : Nat} {a b x : Actor} {operation : Operation}
    {reply : operation.Reply} (ha : Answers c number a b operation reply c')
    (hx : x ∈ c'.actors) : x = b ∨ x ∈ c.actors := by
  obtain ⟨other, hx⟩ := List.mem_iff_getElem?.mp hx
  exact (ha.cases hx).imp And.right fun h => List.mem_of_getElem? h.2

/-- Each number is that of the actor that is answered, or of one that stays there. -/
theorem Answers.stays_cases {number other : Nat} {a b x : Actor} {operation : Operation}
    {reply : operation.Reply} (ha : Answers c number a b operation reply c')
    (hx : c.actors[other]? = some x) :
    (other = number ∧ x = a) ∨ (other ≠ number ∧ c'.actors[other]? = some x) := by
  by_cases e : number = other
  · subst e
    exact .inl ⟨rfl, Option.some.inj (hx.symm.trans ha.actor)⟩
  · refine .inr ⟨Ne.symm e, ?_⟩
    rw [ha.actors, List.getElem?_set, if_neg e]
    exact hx

/-- Each actor is the one that is answered, or stays. -/
theorem Answers.mem_stays_cases {number : Nat} {a b x : Actor} {operation : Operation}
    {reply : operation.Reply} (ha : Answers c number a b operation reply c')
    (hx : x ∈ c.actors) : x = a ∨ x ∈ c'.actors := by
  obtain ⟨other, hx⟩ := List.mem_iff_getElem?.mp hx
  exact (ha.stays_cases hx).imp And.right fun h => List.mem_of_getElem? h.2

/-- Actors stay apart when the answered one shares nothing with the others. -/
theorem State.Apart.answered {R : Actor → Actor → Prop} (h : c.Apart R)
    (comm : ∀ x y, R x y → R y x) (ha : Answers c number a b operation reply c')
    (own : ∀ i x, c.actors[i]? = some x → R b x → i = number) : c'.Apart R := by
  intro i j x y hx hy hr
  rcases ha.cases hx with ⟨rfl, rfl⟩ | ⟨hi, hx⟩ <;> rcases ha.cases hy with ⟨hj, rfl⟩ | ⟨hj, hy⟩
  · exact hj.symm
  · exact (own j y hy hr).symm
  · exact hj.symm ▸ own i x hx (comm _ _ hr)
  · exact h i j x y hx hy hr

/-- A cluster stays sound when an actor is answered. -/
theorem Sound.answered (h : Sound c) (ha : Answers c number a b operation reply c') : Sound c' := by
  have hmem : a ∈ c.actors := List.mem_of_getElem? ha.actor
  -- what the answered actor has reserved was its own before, or is new to everybody
  have own : ∀ task, b.track.reserved = some task →
      (a.track.reserved = some task ∨ task ∉ c.shared.issued) ∧
        task ∈ c'.shared.issued ∧ c'.shared.store.get? task = none := by
    intro task hb
    rw [ha.track] at hb
    rcases reserved_of_effect ha.effect hb with ⟨hk, hf⟩ | ⟨hn, hi, hf⟩
    · obtain ⟨hi, hr⟩ := h.reserved a hmem task hk
      exact ⟨.inl hk, issued_of_effect ha.effect hi, hf hr⟩
    · exact ⟨.inr (Shared.isNew_iff.mp hn).2, hi, hf⟩
  refine ⟨?_, h.keyed_of_answers ha, ?_, ?_⟩
  · intro x hx
    rcases ha.mem_cases hx with rfl | hx
    · exact ha.follows
    · exact h.follows x hx
  · intro x hx task ht
    obtain ⟨other, hx⟩ := List.mem_iff_getElem?.mp hx
    rcases ha.cases hx with ⟨rfl, rfl⟩ | ⟨hne, hx⟩
    · exact (own task ht).2
    · obtain ⟨hi, hr⟩ := h.reserved x (List.mem_of_getElem? hx) task ht
      refine ⟨issued_of_effect ha.effect hi, ?_⟩
      rcases missing_of_effect ha.effect hr with hr' | ⟨parent, candidate, ho, he, -⟩
      · exact hr'
      · have may := ha.may
        subst ho he
        exact absurd (h.distinct other number x a hx ha.actor ⟨_, ht, may.2.2.2.1⟩) hne
  · refine h.distinct.answered (fun _ _ => Actor.SharesReserved.symm) ha ?_
    rintro i x hx ⟨task, hb, hr⟩
    rcases (own task hb).1 with hk | hn
    · exact h.distinct i number x a hx ha.actor ⟨task, hr, hk⟩
    · exact absurd (h.reserved x (List.mem_of_getElem? hx) task hr).1 hn

/-- The actors of a cluster in which a job has begun. -/
theorem getElem?_started {s : Settings} {job : Job} {i : Nat} {x : Actor}
    (hx : (c.actors ++ [Actor.start s job])[i]? = some x) :
    c.actors[i]? = some x ∨ (i = c.actors.length ∧ x = Actor.start s job) := by
  rcases Nat.lt_or_ge i c.actors.length with hi | hi
  · rw [List.getElem?_append_left hi] at hx
    exact .inl hx
  · rw [List.getElem?_append_right hi] at hx
    refine .inr ⟨?_, List.mem_singleton.mp (List.mem_of_getElem? hx)⟩
    have last := (List.getElem?_eq_some_iff.mp hx).1
    rw [List.length_singleton] at last
    omega

/-- Actors stay apart when the one that begins shares nothing with the others. -/
theorem State.Apart.started {R : Actor → Actor → Prop} (h : c.Apart R)
    (comm : ∀ x y, R x y → R y x) {s : Settings} {job : Job}
    (own : ∀ x ∈ c.actors, ¬ R (Actor.start s job) x) :
    State.Apart { c with actors := c.actors ++ [Actor.start s job] } R := by
  intro i j x y hx hy hr
  rcases getElem?_started hx with hx | ⟨hi, rfl⟩ <;>
    rcases getElem?_started hy with hy | ⟨hj, rfl⟩
  · exact h i j x y hx hy hr
  · exact absurd (comm _ _ hr) (own x (List.mem_of_getElem? hx))
  · exact absurd hr (own y (List.mem_of_getElem? hy))
  · exact hi.trans hj.symm

/-- A cluster stays sound when a job begins. -/
theorem Sound.started (h : Sound c) (job : Job) :
    Sound { c with actors := c.actors ++ [Actor.start (fleet.settings pod) job] } := by
  refine ⟨?_, h.keyed, ?_, ?_⟩
  · intro x hx
    rcases List.mem_append.mp hx with hx | hx
    · exact h.follows x hx
    · obtain rfl := List.mem_singleton.mp hx
      exact Job.program_follows rfl job
  · intro x hx task ht
    rcases List.mem_append.mp hx with hx | hx
    · exact h.reserved x hx task ht
    · obtain rfl := List.mem_singleton.mp hx
      cases ht
  · refine h.distinct.started (fun _ _ => Actor.SharesReserved.symm) ?_
    rintro x - ⟨task, ht, -⟩
    cases ht

/-- A cluster stays sound when something happens outside the agents. -/
theorem Sound.moved (h : Sound c) {m : Move} (hm : c.shared.move m = some s') :
    Sound { c with shared := s' } := by
  refine ⟨h.follows, h.keyed_of_move hm, ?_, h.distinct⟩
  intro a ha task ht
  obtain ⟨hi, hr⟩ := h.reserved a ha task ht
  refine ⟨(issued_of_move hm).symm ▸ hi, ?_⟩
  rcases missing_of_move hm hr with hr' | ⟨new, -, -, hn, -, -⟩
  · exact hr'
  · exact absurd hi (Shared.isNew_iff.mp hn).2

/-- A cluster stays sound. -/
theorem Sound.perform (h : Sound c) {event : Event} (hp : c.perform fleet event = some c') :
    Sound c' := by
  cases event with
  | start pod job =>
    obtain ⟨-, rfl⟩ := State.of_start hp
    exact h.started job
  | answer number choice =>
    obtain ⟨a, b, operation, reply, ha, -⟩ := h.answers hp
    exact h.answered ha
  | handBack message =>
    obtain ⟨-, rfl⟩ := State.of_handBack hp
    exact ⟨h.follows, h.keyed, h.reserved, h.distinct⟩
  | move m =>
    obtain ⟨shared, hm, rfl⟩ := State.of_move hp
    exact h.moved hm

/-- What is true of a sound cluster and is kept by every event stays true over a run. -/
@[elab_as_elim]
theorem Sound.along {P : State → Prop} (h : Sound c) (run : Reaches fleet allowed c c') (hp : P c)
    (kept : ∀ d d' event, Reaches fleet allowed c d → Sound d → P d →
      d.perform fleet event = some d' → P d') : P c' := by
  have both : Sound c' ∧ P c' := by
    apply run.invariant
    · exact ⟨h, hp⟩
    · intro d d' event before holds _ performed
      obtain ⟨sound, hp⟩ := holds
      exact ⟨sound.perform performed, kept d d' event before sound hp performed⟩
  exact both.2

/-- An event leaves the store as it is, or answers a call, or happens outside the agents. -/
theorem Sound.store_cases (h : Sound c) {event : Event} (hp : c.perform fleet event = some c') :
    c'.shared.store = c.shared.store ∨
      (∃ (i : Nat) (a b : Actor) (operation : Operation) (reply : operation.Reply),
        Answers c i a b operation reply c') ∨
      ∃ m, event = .move m ∧ c.shared.move m = some c'.shared := by
  cases event with
  | start pod job =>
    obtain ⟨-, rfl⟩ := State.of_start hp
    exact .inl rfl
  | answer i choice =>
    obtain ⟨a, b, operation, reply, ha, -⟩ := h.answers hp
    exact .inr (.inl ⟨i, a, b, operation, reply, ha⟩)
  | handBack message =>
    obtain ⟨-, rfl⟩ := State.of_handBack hp
    exact .inl rfl
  | move m =>
    obtain ⟨shared, hm, rfl⟩ := State.of_move hp
    exact .inr (.inr ⟨m, rfl, hm⟩)

/-- After an event each actor is as it was, has just begun, or is the one that was answered. -/
theorem Sound.actor_cases (h : Sound c) {event : Event} (hp : c.perform fleet event = some c')
    {i : Nat} {x : Actor} (hx : c'.actors[i]? = some x) :
    c.actors[i]? = some x ∨
      (∃ pod job, event = .start pod job ∧ x = Actor.start (fleet.settings pod) job) ∨
      (∃ a operation reply, Answers c i a x operation reply c') := by
  cases event with
  | start pod job =>
    obtain ⟨-, rfl⟩ := State.of_start hp
    exact (getElem?_started hx).imp id fun e => .inl ⟨pod, job, rfl, e.2⟩
  | answer number choice =>
    obtain ⟨a, b, operation, reply, ha, -⟩ := h.answers hp
    rcases ha.cases hx with ⟨rfl, rfl⟩ | ⟨-, hx⟩
    · exact .inr (.inr ⟨a, operation, reply, ha⟩)
    · exact .inl hx
  | handBack message =>
    obtain ⟨-, rfl⟩ := State.of_handBack hp
    exact .inl hx
  | move m =>
    obtain ⟨shared, -, rfl⟩ := State.of_move hp
    exact .inl hx

/-- After an event an actor is as it was, or it was answered. -/
theorem Sound.stays_or_answered (h : Sound c) {event : Event}
    (hp : c.perform fleet event = some c') {x : Actor} (hx : c.actors[number]? = some x) :
    c'.actors[number]? = some x ∨
      ∃ (y : Actor) (operation : Operation) (reply : operation.Reply)
        (choice : Option operation.Reply), Answers c number x y operation reply c' ∧
          c.shared.answer x.pod operation choice = some (reply, c'.shared) := by
  cases event with
  | start pod job =>
    obtain ⟨-, rfl⟩ := State.of_start hp
    exact .inl ((List.getElem?_append_left (List.getElem?_eq_some_iff.mp hx).1).trans hx)
  | answer other choice =>
    obtain ⟨a, b, operation, reply, ha, hs⟩ := h.answers hp
    rcases ha.stays_cases hx with ⟨rfl, rfl⟩ | ⟨-, stays⟩
    · exact .inr ⟨b, operation, reply, _, ha, hs⟩
    · exact .inl stays
  | handBack message =>
    obtain ⟨-, rfl⟩ := State.of_handBack hp
    exact .inl hx
  | move m =>
    obtain ⟨shared, -, rfl⟩ := State.of_move hp
    exact .inl hx

/-- At first there are no actors. -/
theorem State.Initial.not_mem (h : c.Initial) {a : Actor} : a ∉ c.actors := by
  rw [h.actors]
  exact List.not_mem_nil

/-- At first nothing is shared. -/
theorem State.Initial.apart (h : c.Initial) {R : Actor → Actor → Prop} : c.Apart R :=
  fun _ _ _ _ hx => absurd (List.mem_of_getElem? hx) h.not_mem

theorem State.Initial.sound (h : c.Initial) : Sound c := by
  exact ⟨fun a ha => absurd ha h.not_mem, h.keyed, fun a ha => absurd ha h.not_mem, h.apart⟩

/-- Every reached cluster is sound. -/
theorem Reaches.sound (hr : Reaches fleet allowed start c) (h : start.Initial) : Sound c :=
  hr.invariant h.sound fun _ _ _ _ hs _ hp => hs.perform hp

/-- What is true of every actor that begins and is kept by every answer is true of every actor. -/
theorem Reaches.all_actors {P : Actor → Prop} (hr : Reaches fleet allowed start c)
    (hi : start.Initial)
    (begins : ∀ pod job, allowed (.start pod job) → P (Actor.start (fleet.settings pod) job))
    (answered : ∀ {c c' : State} {number : Nat} {a b : Actor} {operation : Operation}
      {reply : operation.Reply}, Reaches fleet allowed start c →
        Answers c number a b operation reply c' → P a → P b) :
    ∀ a ∈ c.actors, P a := by
  apply hr.invariant
  · exact fun a ha => absurd ha hi.not_mem
  · intro c c' event hr h permitted hp x hx
    obtain ⟨i, hx⟩ := List.mem_iff_getElem?.mp hx
    rcases (hr.sound hi).actor_cases hp hx with ho | ⟨pod, job, rfl, rfl⟩ | ⟨a, operation, reply, ha⟩
    · exact h x (List.mem_of_getElem? ho)
    · exact begins pod job permitted
    · exact answered hr ha (h a (List.mem_of_getElem? ha.actor))

end GridAgent.Cluster
