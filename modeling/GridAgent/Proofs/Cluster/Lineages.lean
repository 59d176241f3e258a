import GridAgent.Proofs.Cluster.Heritage
import GridAgent.Proofs.Handler.Kinship

/-!
# How lineages are stored

Successors are created by many agents at once, from records that were read long ago. Still every
stored attempt is a root, or the one recorded successor of a retried parent that it continues, and
an attempt is retried only while its lineage has retries left.
-/

namespace GridAgent.Cluster

open Agent Program

variable {fleet : Fleet} {start c c' : State} {defaults : SessionId → Options} {s s' : Store}
  {task : TaskId}

/-- The record is that of a first attempt. -/
structure IsFirst (t : TaskRecord) : Prop where
  /-- It has no ancestors. -/
  ancestors : t.ancestors = []
  /-- It is the root of its lineage. -/
  initial : t.initial = t.id

/-- Sessions have constant defaults, and clients insert first attempts only. -/
def constantDefaults (defaults : SessionId → Options) : Event → Prop
  | .answer _ choice => ∀ session (found : SessionRecord),
    choice (.agent (.readSession session)) = some (Except.ok (some found)) →
      found.defaults = defaults session
  | .move (.insert record) => IsFirst record
  | _ => True

/-- How lineages are stored, given the defaults of the sessions. -/
structure Lineages (defaults : SessionId → Options) (s : Store) : Prop where
  /-- An attempt without ancestors is the root of its lineage. -/
  root : ∀ task t, s.get? task = some t → t.ancestors = [] → t.initial = task
  /-- Any other attempt is the successor of a retried one, and continues it. -/
  child : ∀ task t front parent, s.get? task = some t → t.ancestors = front ++ [parent] →
    ∃ p, s.get? parent = some p ∧ p.status = .retried ∧ p.ancestors = front ∧
      t.line defaults = { p.line defaults with ancestors := front ++ [parent] } ∧
      s.successors.get? parent = some task
  /-- Recorded successors are stored attempts that come directly after their parents. -/
  recorded : ∀ parent task, s.successors.get? parent = some task →
    ∃ p t, s.get? parent = some p ∧ s.get? task = some t ∧ t.ancestors = p.ancestors ++ [parent]
  /-- No attempt has more ancestors than its lineage has retries. -/
  within : ∀ task t, s.get? task = some t → t.ancestors.length ≤ (t.line defaults).limit
  /-- An attempt is retried only while retries are left. -/
  left : ∀ task t, s.get? task = some t → t.status = .retried →
    t.ancestors.length < (t.line defaults).limit

/-- Records that go on in their lineages: they pass on what they did, and one that is retried was so
or had retries left. -/
structure Kept (defaults : SessionId → Options) (t t' : TaskRecord) : Prop where
  /-- It passes on the same. -/
  line : t'.line defaults = t.line defaults
  /-- A retried one stays so. -/
  stays : t.status = .retried → t'.status = .retried
  /-- One that becomes retried had retries left. -/
  left : t'.status = .retried →
    t.status = .retried ∨ t.ancestors.length < (t.line defaults).limit

theorem Kept.ancestors {t t' : TaskRecord} (h : Kept defaults t t') : t'.ancestors = t.ancestors :=
  congrArg Line.ancestors h.line

theorem Kept.initial {t t' : TaskRecord} (h : Kept defaults t t') : t'.initial = t.initial :=
  congrArg Line.initial h.line

/-- Lineages stay as they are where records go on and only first attempts come in. -/
theorem Lineages.kept (h : Lineages defaults s)
    (records : ∀ task t, s.get? task = some t →
      ∃ t', s'.get? task = some t' ∧ Kept defaults t t')
    (successors : s'.successors = s.successors)
    (new : ∀ task t', s.get? task = none → s'.get? task = some t' →
      t'.id = task ∧ IsFirst t' ∧ t'.status ≠ .retried) : Lineages defaults s' := by
  -- a stored record was there and goes on, or is that of a first attempt
  have origin : ∀ task t', s'.get? task = some t' →
      (∃ t, s.get? task = some t ∧ Kept defaults t t') ∨
        (t'.id = task ∧ IsFirst t' ∧ t'.status ≠ .retried) :=
    fun task t' => Store.origin records new
  refine ⟨?_, ?_, ?_, ?_, ?_⟩
  · intro task t' ht' none
    rcases origin task t' ht' with ⟨t, ht, kept⟩ | ⟨hid, first, -⟩
    · exact kept.initial.trans (h.root task t ht (kept.ancestors.symm.trans none))
    · exact first.initial.trans hid
  · intro task t' front parent ht' ha
    rcases origin task t' ht' with ⟨t, ht, kept⟩ | ⟨-, first, -⟩
    · obtain ⟨p, hp, retried, pa, line, recorded⟩ :=
        h.child task t front parent ht (kept.ancestors.symm.trans ha)
      obtain ⟨p', hp', keptp⟩ := records parent p hp
      refine ⟨p', hp', keptp.stays retried, keptp.ancestors.trans pa, ?_, successors ▸ recorded⟩
      rw [kept.line, keptp.line, line]
    · rw [first.ancestors] at ha
      exact absurd ha.symm (List.append_ne_nil_of_right_ne_nil front (List.cons_ne_nil parent []))
  · intro parent task hr
    rw [successors] at hr
    obtain ⟨p, t, hp, ht, ha⟩ := h.recorded parent task hr
    obtain ⟨p', hp', keptp⟩ := records parent p hp
    obtain ⟨t', ht', kept⟩ := records task t ht
    exact ⟨p', t', hp', ht', by rw [kept.ancestors, keptp.ancestors, ha]⟩
  · intro task t' ht'
    rcases origin task t' ht' with ⟨t, ht, kept⟩ | ⟨-, first, -⟩
    · rw [kept.ancestors, kept.line]
      exact h.within task t ht
    · rw [first.ancestors]
      exact Nat.zero_le _
  · intro task t' ht' retried
    rcases origin task t' ht' with ⟨t, ht, kept⟩ | ⟨-, -, fresh⟩
    · rw [kept.ancestors, kept.line]
      exact (kept.left retried).elim (h.left task t ht) id
    · exact absurd retried fresh

/-- Lineages stay as they are when a retried task gets its successor. -/
theorem Lineages.created (h : Lineages defaults s) {parent p : TaskRecord} {id : TaskId} {now : Date}
    (hp : s.get? parent.id = some p) (retried : p.status = .retried)
    (line : p.line defaults = parent.line defaults) (new : s.get? id = none)
    (missing : s.successors.get? parent.id = none) {next : TaskRecord}
    (next_line : next.line defaults = (parent.successor id now).line defaults)
    (next_status : next.status = .creating)
    (records : ∀ task, s'.get? task = if task = id then some next else s.get? task)
    (successors : s'.successors = s.successors.set parent.id id) : Lineages defaults s' := by
  have old : ∀ task t, s.get? task = some t → s'.get? task = some t :=
    fun task t => Store.get?_of_added records new
  have pa : p.ancestors = parent.ancestors := congrArg Line.ancestors line
  have na : next.ancestors = parent.ancestors ++ [parent.id] := congrArg Line.ancestors next_line
  have limit : (next.line defaults).limit = (p.line defaults).limit := by rw [next_line, line]; rfl
  have found : ∀ task t, s'.get? task = some t → (task = id ∧ t = next) ∨ s.get? task = some t :=
    fun task t => Store.of_added records
  have recorded : ∀ parent' task, s'.successors.get? parent' = some task →
      (parent' = parent.id ∧ task = id) ∨
        (parent' ≠ parent.id ∧ s.successors.get? parent' = some task) := by
    intro parent' task hs
    rw [successors, Table.get?_set] at hs
    split at hs
    · next e => exact .inl ⟨e, (Option.some.inj hs).symm⟩
    · next e => exact .inr ⟨e, hs⟩
  refine ⟨?_, ?_, ?_, ?_, ?_⟩
  · intro task t ht none
    rcases found task t ht with ⟨-, rfl⟩ | ht
    · rw [na] at none
      exact absurd none (List.append_ne_nil_of_right_ne_nil _ (List.cons_ne_nil _ _))
    · exact h.root task t ht none
  · intro task t front parent' ht ha
    rcases found task t ht with ⟨rfl, rfl⟩ | ht
    · obtain ⟨rfl, same⟩ := List.append_inj' (ha.symm.trans na) rfl
      obtain rfl := List.singleton_inj.mp same
      refine ⟨p, old _ p hp, retried, pa, ?_, ?_⟩
      · rw [next_line, TaskRecord.line_successor, line]
      · rw [successors, Table.get?_set, if_pos rfl]
    · obtain ⟨p', hp', retried', pa', line', recorded'⟩ := h.child task t front parent' ht ha
      refine ⟨p', old _ p' hp', retried', pa', line', ?_⟩
      rw [successors, Table.get?_set, if_neg ?_]
      · exact recorded'
      · rintro rfl
        cases missing.symm.trans recorded'
  · intro parent' task hs
    rcases recorded parent' task hs with ⟨rfl, rfl⟩ | ⟨-, hs⟩
    · refine ⟨p, next, old _ p hp, ?_, by rw [na, pa]⟩
      rw [records, if_pos rfl]
    · obtain ⟨p', t, hp', ht, ha⟩ := h.recorded parent' task hs
      exact ⟨p', t, old _ p' hp', old _ t ht, ha⟩
  · intro task t ht
    rcases found task t ht with ⟨-, rfl⟩ | ht
    · rw [na, limit, List.length_append, ← pa]
      exact h.left _ p hp retried
    · exact h.within task t ht
  · intro task t ht hs
    rcases found task t ht with ⟨-, rfl⟩ | ht
    · cases next_status.symm.trans hs
    · exact h.left task t ht hs

/-! Agents and lineages. -/

/-- What the rules of a lineage are given fits the stored record of the task. -/
def FitsLine (defaults : SessionId → Options) (s : Shared) (job : Job) (known : Line × Prop) : Prop :=
  ∀ t, s.store.get? job.task = some t →
    t.line defaults = known.1 ∧ (t.status = .retried → known.2)

/-- The rules of a lineage, for an actor. -/
def lineRules (defaults : SessionId → Options) (job : Job) (known : Line × Prop) :
    Conduct operations Unit :=
  withFinalizers (kinRules defaults job.task known.1 known.2) True

/-- What a record passes on is part of its heritage. -/
theorem line_of_heritage {t t' : TaskRecord} (h : t'.heritage = t.heritage) :
    t'.line defaults = t.line defaults := by
  simp only [TaskRecord.heritage, Heritage.mk.injEq] at h
  obtain ⟨session, initial, ancestors, payload, dependencies, outputs, options⟩ := h
  simp only [TaskRecord.line, session, initial, ancestors, payload, dependencies, outputs, options]

/-- What fits after an event has fitted before it. -/
theorem FitsLine.back (h : Sound c) {event : Event} (hp : c.perform fleet event = some c')
    {job : Job} {known : Line × Prop} (hf : FitsLine defaults c'.shared job known) :
    FitsLine defaults c.shared job known := by
  intro t ht
  obtain ⟨t', ht', same, hs⟩ := h.record_step hp ht
  obtain ⟨line, retried⟩ := hf t' ht'
  exact ⟨(line_of_heritage same).symm.trans line, fun hr => retried (retried_of_next hs hr)⟩

/-- Answers can be counted on as a lineage counts on them. -/
theorem lineRules_credible (h : Sound c) {number : Nat}
    {choice : (operation : Operation) → Option operation.Reply} {a b : Actor}
    {operation : Operation} {reply : operation.Reply}
    (permitted : constantDefaults defaults (.answer number choice))
    (ha : Answers c number a b operation reply c')
    (hs : c.shared.answer a.pod operation (choice operation) = some (reply, c'.shared))
    {known : Line × Prop} (hf : FitsLine defaults c'.shared a.job known) :
    (lineRules defaults a.job known).credible operation reply := by
  have effect := ha.effect
  have kin {t : TaskRecord} (ht : c'.shared.store.get? a.job.task = some t) :
      IsKin defaults a.job.task known.1 known.2 t :=
    ⟨h.keyed_of_answers ha _ t ht, (hf t ht).1, (hf t ht).2⟩
  rcases operation with request | request
  · cases request with
    | readTask other =>
      rintro rfl t rfl
      exact kin (shown_of_effect effect)
    | updateTask other expected change =>
      rintro rfl t rfl
      obtain ⟨⟨record, -, -, rfl⟩, stored⟩ := written_of_effect effect
      exact ⟨kin stored, TaskRecord.apply_status record change⟩
    | readSession session =>
      rintro found rfl
      exact permitted session found (session_of_answer hs)
    | _ => exact trivial
  · exact trivial

/-- Every actor follows the rules of the lineage of its task, whatever fits the stored record. -/
theorem Reaches.kin (hr : Reaches fleet (constantDefaults defaults) start c) (hi : start.Initial) :
    ∀ a ∈ c.actors, ∀ known, FitsLine defaults c.shared a.job known →
      a.Obeys (lineRules defaults a.job known) () fun _ _ _ => True := by
  refine hr.obey hi (fun _ job known => lineRules defaults job known) (FitsLine defaults)
    ?_ ?_ ?_
  · exact fun pod job known => kinRules_followed _ job
  · exact fun hr hp job known hf => hf.back (hr.sound hi) hp
  · exact fun hr permitted ha hs known hf => lineRules_credible (hr.sound hi) permitted ha hs hf

/-- A record that goes on does so in its lineage. -/
theorem Kept.of_goesOn {t t' : TaskRecord} (h : Store.GoesOn t t')
    (line : t'.line defaults = t.line defaults) : Kept defaults t t' := by
  refine ⟨line, retried_of_next (h.status.imp_right And.right), fun hs => ?_⟩
  rcases h.status with hn | ⟨waits, hn⟩
  · exact .inl (hn.symm.trans hs)
  · rw [hs] at hn
    rcases waits with hw | hw <;> rw [hw] at hn <;> simp [TaskStatus.next] at hn

/-- Under the rules of its lineage an answered actor lets every record go on. -/
theorem kept_of_answers (h : Sound c) {number : Nat} {a b : Actor} {operation : Operation}
    {reply : operation.Reply} (ha : Answers c number a b operation reply c')
    (obeys : ∀ known, FitsLine defaults c.shared a.job known →
      a.Obeys (lineRules defaults a.job known) () fun _ _ _ => True)
    {t : TaskRecord} (ht : c.shared.store.get? task = some t) :
    ∃ t', c'.shared.store.get? task = some t' ∧ Kept defaults t t' := by
  obtain ⟨t', ht', same⟩ := heritage_of_effect ha.effect (h.candidate_new ha) ht
  have line : t'.line defaults = t.line defaults := line_of_heritage same
  rcases record_of_effect ha.effect (h.candidate_new ha) ht with
    ⟨found, hf, goes, -⟩ | ⟨expected, change, rfl, holds, hf, -⟩ <;>
    obtain rfl := Option.some.inj (hf.symm.trans ht')
  · exact ⟨found, ht', .of_goesOn goes line⟩
  · have lawful := next_of_may ha.may holds
    refine ⟨_, ht', line, fun hs => ?_, fun hs => .inr ?_⟩
    · rw [hs] at lawful
      cases lawful
    · -- the record of the own task is made retried, with the retries that the rules count
      rw [TaskRecord.apply_status] at hs
      obtain ⟨next, asks⟩ := ha.asks
      have own : task = a.job.task := by
        rcases ha.may.2 with ⟨own, -⟩ | ⟨-, -, now, rfl⟩
        · exact own
        · cases hs
      have fits : FitsLine defaults c.shared a.job (t.line defaults, t.status = .retried) := by
        intro found hf
        obtain rfl := Option.some.inj (hf.symm.trans (own ▸ ht))
        exact ⟨rfl, id⟩
      exact (obeys _ fits).may asks hs

/-- An actor that creates a successor gives it to a retried task, from a record that passes on the
same. -/
theorem created_of_answers {number : Nat} {a b : Actor} {parent candidate : TaskRecord}
    {reply : (Operation.agent (.createSuccessor parent candidate)).Reply}
    (ha : Answers c number a b (.agent (.createSuccessor parent candidate)) reply c')
    (obeys : ∀ known, FitsLine defaults c.shared a.job known →
      a.Obeys (lineRules defaults a.job known) () fun _ _ _ => True) :
    ∃ p id now, c.shared.store.get? parent.id = some p ∧ p.status = .retried ∧
      p.line defaults = parent.line defaults ∧ parent.status = .retried ∧
      candidate = parent.successor id now := by
  obtain ⟨next, asks⟩ := ha.asks
  cases hp : c.shared.store.get? a.job.task with
  | none =>
    -- nothing is stored, so nothing can be known of it
    have fits : FitsLine defaults c.shared a.job (parent.line defaults, False) := by
      intro t ht
      cases hp.symm.trans ht
    obtain ⟨kin, retried, -⟩ := (obeys _ fits).may asks
    exact (kin.retried retried).elim
  | some p =>
    have fits : FitsLine defaults c.shared a.job (p.line defaults, p.status = .retried) := by
      intro t ht
      obtain rfl := Option.some.inj (hp.symm.trans ht)
      exact ⟨rfl, id⟩
    obtain ⟨kin, retried, id, now, rfl⟩ := (obeys _ fits).may asks
    refine ⟨p, id, now, ?_, kin.retried retried, kin.line.symm, retried, rfl⟩
    rw [kin.id]
    exact hp

/-- Lineages stay as they are when an actor is answered. -/
theorem Lineages.answered (h : Lineages defaults c.shared.store) (hs : Sound c) {number : Nat}
    {a b : Actor} {operation : Operation} {reply : operation.Reply}
    (ha : Answers c number a b operation reply c')
    (obeys : ∀ known, FitsLine defaults c.shared a.job known →
      a.Obeys (lineRules defaults a.job known) () fun _ _ _ => True) :
    Lineages defaults c'.shared.store := by
  rcases successors_of_effect ha.effect with ⟨same, missing⟩ |
    ⟨parent, candidate, rfl, free, recorded, records⟩
  · refine h.kept (fun task t ht => kept_of_answers hs ha obeys ht) same ?_
    intro task t' ht ht'
    cases (missing task ht).symm.trans ht'
  · obtain ⟨p, id, now, hp, retried, line, -, rfl⟩ := created_of_answers ha obeys
    have new := hs.candidate_new ha parent (parent.successor id now) rfl
    have stored : (c.shared.store.withoutAvailable (parent.successor id now)).line defaults =
        (parent.successor id now).line defaults := rfl
    refine h.created hp retried line new ?_ stored rfl records recorded
    refine Store.unrecorded (fun task known => ?_) free
    obtain ⟨-, t, -, ht, -⟩ := h.recorded parent.id task known
    exact ⟨t, ht⟩

/-- Lineages stay as they are when something happens outside the agents. -/
theorem Lineages.moved (h : Lineages defaults c.shared.store) {m : Move}
    (permitted : constantDefaults defaults (.move m)) {shared : Shared}
    (hm : c.shared.move m = some shared) : Lineages defaults shared.store := by
  refine h.kept ?_ (successors_of_move hm) ?_
  · intro task t ht
    obtain ⟨t', ht', same⟩ := heritage_of_move hm ht
    have line : t'.line defaults = t.line defaults := line_of_heritage same
    rcases record_of_move hm ht with ⟨found, hf, goes, -⟩ | ⟨held, hf⟩ <;>
      obtain rfl := Option.some.inj (hf.symm.trans ht')
    · exact ⟨found, ht', .of_goesOn goes line⟩
    · refine ⟨_, ht', line, fun hs => ?_, fun hs => ?_⟩
      · rw [hs] at held
        simp [heldStatuses] at held
      · rw [TaskRecord.apply_status] at hs
        cases hs
  · intro task t' ht ht'
    rcases missing_of_move hm ht with hn | ⟨new, rfl, hid, -, status, stored⟩
    · cases hn.symm.trans ht'
    · obtain rfl := Option.some.inj (stored.symm.trans ht')
      refine ⟨hid.symm, ⟨permitted.ancestors, permitted.initial⟩, fun hr => ?_⟩
      have retried : new.status = .retried := hr
      rw [retried] at status
      simp [newStatuses] at status

/-- The store holds first attempts only: none of them is retried, and none has a successor. -/
structure FirstAttempts (s : Store) : Prop where
  /-- Every record is that of a first attempt. -/
  first : ∀ task t, s.get? task = some t → IsFirst t
  /-- None of them is retried. -/
  fresh : ∀ task t, s.get? task = some t → t.status ≠ .retried
  /-- None of them has a successor. -/
  childless : ∀ task, s.successors.get? task = none

/-- First attempts are lineages of their own. -/
theorem FirstAttempts.lineages (h : FirstAttempts s)
    (keyed : ∀ task t, s.get? task = some t → t.id = task) : Lineages defaults s := by
  refine ⟨?_, ?_, ?_, ?_, ?_⟩
  · intro task t ht _
    exact (h.first task t ht).initial.trans (keyed task t ht)
  · intro task t front parent ht ha
    rw [(h.first task t ht).ancestors] at ha
    exact absurd ha.symm (List.append_ne_nil_of_right_ne_nil front (List.cons_ne_nil parent []))
  · intro parent task hs
    cases (h.childless parent).symm.trans hs
  · intro task t ht
    rw [(h.first task t ht).ancestors]
    exact Nat.zero_le _
  · exact fun task t ht hs => absurd hs (h.fresh task t ht)

/-- In every state that is reached from first attempts lineages are stored as they should be. -/
theorem Reaches.lineages (hr : Reaches fleet (constantDefaults defaults) start c)
    (hi : start.Initial) (first : FirstAttempts start.shared.store) :
    Lineages defaults c.shared.store := by
  apply hr.invariant (first.lineages hi.keyed)
  intro c c' event hr h permitted hp
  have sound := hr.sound hi
  rcases sound.store_cases hp with same | ⟨number, a, b, operation, reply, ha⟩ | ⟨m, rfl, hm⟩
  · exact same ▸ h
  · exact h.answered sound ha (hr.kin hi a (List.mem_of_getElem? ha.actor))
  · exact h.moved permitted hm

end GridAgent.Cluster
