import GridAgent.Proofs.Cluster.Lineages
import GridAgent.Proofs.Handler.Terms
import Mathlib.Data.List.Induction

/-!
# How options are handed down

A successor is stored with the options that the agent went by which created it: those of its parent,
filled in with what the session said to this agent. So the options of an attempt are those of the
first attempt, filled in once for each attempt in between. What an agent goes by now is filled in
once more. This holds whatever the session says, and to whom.
-/

namespace GridAgent.Cluster

open Agent Program

variable {usual : SessionId → Options → Prop} {fleet : Fleet} {start c c' : State} {s s' : Store}
  {task : TaskId} {t : TaskRecord}

/-- Sessions have usual defaults, and clients insert first attempts only. -/
def usualDefaults (usual : SessionId → Options → Prop) : Event → Prop
  | .answer _ choice => ∀ session (found : SessionRecord),
    choice (.agent (.readSession session)) = some (Except.ok (some found)) →
      usual session found.defaults
  | .move (.insert record) => IsFirst record
  | _ => True

/-- What is usual is also usual by a wider measure. -/
theorem usualDefaults_mono {wider : SessionId → Options → Prop} {event : Event}
    (h : usualDefaults usual event) (hw : ∀ session d, usual session d → wider session d) :
    usualDefaults wider event := by
  cases event with
  | answer number choice =>
    exact fun session found chosen => hw session found.defaults (h session found chosen)
  | move m =>
    cases m with
    | insert record => exact h
    | _ => exact trivial
  | _ => exact trivial

/-- Constant defaults are usual ones. -/
theorem usualDefaults_of_constant {defaults : SessionId → Options} {event : Event}
    (h : constantDefaults defaults event) :
    usualDefaults (fun session d => d = defaults session) event := by
  cases event with
  | answer number choice => exact h
  | move m =>
    cases m with
    | insert record => exact h
    | _ => exact trivial
  | _ => exact trivial

/-- How options are handed down, given the usual defaults of the sessions. -/
structure Descends (usual : SessionId → Options → Prop) (s : Store) : Prop where
  /-- An attempt without ancestors is the root of its lineage. -/
  root : ∀ task t, s.get? task = some t → t.ancestors = [] → t.initial = task
  /-- Any other attempt has what its parent has, with the options filled in. -/
  child : ∀ task t front parent, s.get? task = some t → t.ancestors = front ++ [parent] →
    ∃ p d, s.get? parent = some p ∧ p.ancestors = front ∧ usual p.session d ∧
      t.heritage =
        { p.heritage with ancestors := t.ancestors, options := p.options.mergedWith d }

/-- Options are handed down as before where records keep what they have for life and only first
attempts come in. -/
theorem Descends.kept (h : Descends usual s)
    (records : ∀ task t, s.get? task = some t →
      ∃ t', s'.get? task = some t' ∧ t'.heritage = t.heritage)
    (new : ∀ task t', s.get? task = none → s'.get? task = some t' → t'.id = task ∧ IsFirst t') :
    Descends usual s' := by
  -- a stored record was there with the same heritage, or is that of a first attempt
  have origin : ∀ task t', s'.get? task = some t' →
      (∃ t, s.get? task = some t ∧ t'.heritage = t.heritage) ∨ (t'.id = task ∧ IsFirst t') :=
    fun task t' => Store.origin records new
  refine ⟨?_, ?_⟩
  · intro task t' ht' none
    rcases origin task t' ht' with ⟨t, ht, same⟩ | ⟨hid, first⟩
    · have ancestors : t'.ancestors = t.ancestors := congrArg Heritage.ancestors same
      have initial : t'.initial = t.initial := congrArg Heritage.initial same
      exact initial.trans (h.root task t ht (ancestors.symm.trans none))
    · exact first.initial.trans hid
  · intro task t' front parent ht' ha
    rcases origin task t' ht' with ⟨t, ht, same⟩ | ⟨-, first⟩
    · have ancestors : t'.ancestors = t.ancestors := congrArg Heritage.ancestors same
      obtain ⟨p, d, hp, pa, hd, handed⟩ :=
        h.child task t front parent ht (ancestors.symm.trans ha)
      obtain ⟨p', hp', samep⟩ := records parent p hp
      have session : p'.session = p.session := congrArg Heritage.session samep
      have options : p'.options = p.options := congrArg Heritage.options samep
      refine ⟨p', d, hp', (congrArg Heritage.ancestors samep).trans pa, session ▸ hd, ?_⟩
      rw [same, handed, samep, ancestors, options]
    · rw [first.ancestors] at ha
      exact absurd ha.symm (List.append_ne_nil_of_right_ne_nil front (List.cons_ne_nil parent []))

/-- Options are handed down to a successor that is created from its parent with options filled in. -/
theorem Descends.created (h : Descends usual s) {parent p next : TaskRecord} {id : TaskId} {now : Date}
    (hp : s.get? parent.id = some p)
    (filled : IsFilledIn usual parent.id (some p.heritage) parent) (new : s.get? id = none)
    (same : next.heritage = (parent.successor id now).heritage)
    (records : ∀ task, s'.get? task = if task = id then some next else s.get? task) :
    Descends usual s' := by
  have old : ∀ task t, s.get? task = some t → s'.get? task = some t :=
    fun task t => Store.get?_of_added records new
  obtain ⟨heir, d, hk, hd, handed⟩ := filled.heritage
  obtain rfl := Option.some.inj hk
  have ancestors : next.ancestors = parent.ancestors ++ [parent.id] :=
    congrArg Heritage.ancestors same
  refine ⟨?_, ?_⟩
  · intro task t ht none
    rcases Store.of_added records ht with ⟨-, rfl⟩ | ht
    · rw [ancestors] at none
      exact absurd none (List.append_ne_nil_of_right_ne_nil _ (List.cons_ne_nil _ _))
    · exact h.root task t ht none
  · intro task t front parent' ht ha
    rcases Store.of_added records ht with ⟨-, rfl⟩ | ht
    · obtain ⟨rfl, last⟩ := List.append_inj' (ha.symm.trans ancestors) rfl
      obtain rfl := List.singleton_inj.mp last
      have pa : parent.ancestors = p.ancestors := congrArg Heritage.ancestors handed
      refine ⟨p, d, old _ p hp, pa.symm, hd, ?_⟩
      have passed : (parent.successor id now).heritage =
          { parent.heritage with ancestors := parent.ancestors ++ [parent.id] } := rfl
      rw [same, passed, handed, ancestors]
      rfl
    · obtain ⟨p', d', hp', pa', hd', handed'⟩ := h.child task t front parent' ht ha
      exact ⟨p', d', old _ p' hp', pa', hd', handed'⟩

/-! Agents and the options of their tasks. -/

/-- What is known of a task is what its record keeps for life. -/
def FitsHeritage (s : Shared) (job : Job) (known : Option Heritage) : Prop :=
  ∀ t, s.store.get? job.task = some t → known = some t.heritage

/-- What fits after an event has fitted before it. -/
theorem FitsHeritage.back (h : Sound c) {event : Event} (hp : c.perform fleet event = some c')
    {job : Job} {known : Option Heritage} (hf : FitsHeritage c'.shared job known) :
    FitsHeritage c.shared job known := by
  intro t ht
  obtain ⟨t', ht', same, -⟩ := h.record_step hp ht
  rw [hf t' ht', same]

/-- What is stored of a task fits it. -/
theorem fitsHeritage_stored (s : Shared) (job : Job) :
    FitsHeritage s job ((s.store.get? job.task).map TaskRecord.heritage) := by
  intro t ht
  rw [ht]
  rfl

/-- Answers can be counted on as the terms of a task count on them. -/
theorem termRules_credible (h : Sound c) {number : Nat}
    {choice : (operation : Operation) → Option operation.Reply} {a b : Actor}
    {operation : Operation} {reply : operation.Reply}
    (permitted : usualDefaults usual (.answer number choice))
    (ha : Answers c number a b operation reply c')
    (hs : c.shared.answer a.pod operation (choice operation) = some (reply, c'.shared))
    {known : Option Heritage} (hf : FitsHeritage c'.shared a.job known) :
    (withFinalizers (termRules usual a.job.task known) True).credible operation reply := by
  have effect := ha.effect
  have stored {t : TaskRecord} (ht : c'.shared.store.get? a.job.task = some t) :
      IsStored a.job.task known t := ⟨h.keyed_of_answers ha _ t ht, hf t ht⟩
  rcases operation with request | request
  · cases request with
    | readTask other =>
      rintro rfl t rfl
      exact stored (shown_of_effect effect)
    | updateTask other expected change =>
      rintro rfl t rfl
      exact stored (written_of_effect effect).2
    | readSession session =>
      rintro found rfl
      exact permitted session found (session_of_answer hs)
    | _ => exact trivial
  · exact trivial

/-- Every actor goes by the options of its task, whatever fits the stored record. -/
theorem Reaches.terms (hr : Reaches fleet (usualDefaults usual) start c) (hi : start.Initial) :
    ∀ a ∈ c.actors, ∀ known, FitsHeritage c.shared a.job known →
      a.Obeys (withFinalizers (termRules usual a.job.task known) True) () fun _ _ _ => True := by
  refine hr.obey hi (fun _ job known => withFinalizers (termRules usual job.task known) True)
    FitsHeritage ?_ ?_ ?_
  · exact fun pod job known => termRules_followed usual known _ job
  · exact fun hr hp job known hf => hf.back (hr.sound hi) hp
  · exact fun hr permitted ha hs known hf => termRules_credible (hr.sound hi) permitted ha hs hf

/-- Every pending call of an agent goes by the stored record of its task, with options filled in. -/
theorem Reaches.goesBy (hr : Reaches fleet (usualDefaults usual) start c) (hi : start.Initial)
    {a : Actor} (ha : a ∈ c.actors) {request : Request}
    {next : (Operation.agent request).Reply → Program operations a.job.Result}
    (asks : a.rest = .call (.agent request) next) :
    request.GoesBy (IsFilledIn usual a.job.task
      ((c.shared.store.get? a.job.task).map TaskRecord.heritage)) :=
  (hr.terms hi a ha _ (fitsHeritage_stored c.shared a.job)).may asks

/-- Options are handed down as before when an actor is answered. -/
theorem Descends.answered (h : Descends usual c.shared.store) (hs : Sound c) {number : Nat}
    {a b : Actor} {operation : Operation} {reply : operation.Reply}
    (ha : Answers c number a b operation reply c')
    (obeys : ∀ known, FitsHeritage c.shared a.job known →
      a.Obeys (withFinalizers (termRules usual a.job.task known) True) () fun _ _ _ => True) :
    Descends usual c'.shared.store := by
  rcases successors_of_effect ha.effect with ⟨-, missing⟩ |
    ⟨parent, candidate, rfl, -, -, records⟩
  · refine h.kept (fun task t ht => heritage_of_effect ha.effect (hs.candidate_new ha) ht) ?_
    intro task t' ht ht'
    cases (missing task ht).symm.trans ht'
  · obtain ⟨next, asks⟩ := ha.asks
    have goes := (obeys _ (fitsHeritage_stored c.shared a.job)).may asks
    obtain ⟨filled, id, now, rfl⟩ : (Request.createSuccessor parent candidate).GoesBy _ := goes
    have new := hs.candidate_new ha parent (parent.successor id now) rfl
    have own : parent.id = a.job.task := filled.id
    cases hp : c.shared.store.get? a.job.task with
    | none =>
      -- nothing is stored, so there are no options to go by
      rw [hp] at filled
      obtain ⟨heir, d, missing, -⟩ := filled.heritage
      cases missing
    | some p =>
      rw [hp, ← own] at filled
      rw [← own] at hp
      have stored : (c.shared.store.withoutAvailable (parent.successor id now)).heritage =
          (parent.successor id now).heritage := rfl
      exact h.created hp filled new stored records

/-- Options are handed down as before when something happens outside the agents. -/
theorem Descends.moved (h : Descends usual c.shared.store) {m : Move}
    (permitted : usualDefaults usual (.move m)) {shared : Shared}
    (hm : c.shared.move m = some shared) : Descends usual shared.store := by
  refine h.kept (fun task t ht => heritage_of_move hm ht) ?_
  intro task t' ht ht'
  rcases missing_of_move hm ht with hn | ⟨new, rfl, hid, -, -, stored⟩
  · cases hn.symm.trans ht'
  · obtain rfl := Option.some.inj (stored.symm.trans ht')
    exact ⟨hid.symm, permitted.ancestors, permitted.initial⟩

/-- First attempts have their options from nobody. -/
theorem FirstAttempts.descends (h : FirstAttempts s)
    (keyed : ∀ task t, s.get? task = some t → t.id = task) : Descends usual s := by
  refine ⟨?_, ?_⟩
  · intro task t ht _
    exact (h.first task t ht).initial.trans (keyed task t ht)
  · intro task t front parent ht ha
    rw [(h.first task t ht).ancestors] at ha
    exact absurd ha.symm (List.append_ne_nil_of_right_ne_nil front (List.cons_ne_nil parent []))

/-- In every state that is reached from first attempts options are handed down as they should be. -/
theorem Reaches.descends (hr : Reaches fleet (usualDefaults usual) start c) (hi : start.Initial)
    (first : FirstAttempts start.shared.store) : Descends usual c.shared.store := by
  apply hr.invariant (first.descends hi.keyed)
  intro c c' event hr h permitted hp
  have sound := hr.sound hi
  rcases sound.store_cases hp with same | ⟨number, a, b, operation, reply, ha⟩ | ⟨m, rfl, hm⟩
  · exact same ▸ h
  · exact h.answered sound ha (hr.terms hi a (List.mem_of_getElem? ha.actor))
  · exact h.moved permitted hm

namespace Descends

/-- An attempt has what any of its ancestors has, with options filled in once for each attempt in
between. -/
theorem ancestor (h : Descends usual s) {front back : List TaskId} {above : TaskId}
    (ht : s.get? task = some t) (ha : t.ancestors = front ++ above :: back) :
    ∃ p steps, s.get? above = some p ∧ p.ancestors = front ∧
      (∀ d ∈ steps, usual p.session d) ∧ t.heritage =
        { p.heritage with ancestors := t.ancestors, options := p.options.filledIn steps } := by
  induction back using List.reverseRecOn generalizing task t with
  | nil =>
    obtain ⟨p, d, hp, pa, hd, handed⟩ := h.child task t front above ht ha
    refine ⟨p, [d], hp, pa, fun other hm => ?_, handed⟩
    obtain rfl := List.mem_singleton.mp hm
    exact hd
  | append_singleton back last ih =>
    -- the last ancestor is the parent, and the others are the ancestors of the parent
    rw [← List.cons_append, ← List.append_assoc] at ha
    obtain ⟨q, d, hq, qa, hd, handed⟩ := h.child task t _ last ht ha
    obtain ⟨p, steps, hp, pa, usually, above⟩ := ih hq qa
    have session : q.session = p.session := congrArg Heritage.session above
    have options : q.options = p.options.filledIn steps := congrArg Heritage.options above
    refine ⟨p, steps ++ [d], hp, pa, fun other hm => ?_, ?_⟩
    · rcases List.mem_append.mp hm with hm | hm
      · exact usually other hm
      · obtain rfl := List.mem_singleton.mp hm
        exact session ▸ hd
    · rw [handed, above, options, Options.filledIn_append]
      rfl

/-- An attempt has what the first attempt of its lineage has, with options filled in. -/
theorem firstAttempt (h : Descends usual s) (ht : s.get? task = some t) :
    ∃ first steps, s.get? t.initial = some first ∧ first.ancestors = [] ∧
      (∀ d ∈ steps, usual first.session d) ∧ t.heritage =
        { first.heritage with
          ancestors := t.ancestors, options := first.options.filledIn steps } := by
  cases ha : t.ancestors with
  | nil =>
    have here : t.initial = task := h.root task t ht ha
    refine ⟨t, [], ?_, ha, (fun d hm => nomatch hm), ?_⟩
    · rw [here]
      exact ht
    · rw [← ha]
      rfl
  | cons above back =>
    have split : t.ancestors = [] ++ above :: back := ha
    obtain ⟨first, steps, hp, pa, usually, handed⟩ := h.ancestor ht split
    have same : t.initial = first.initial := congrArg Heritage.initial handed
    have there : t.initial = above := same.trans (h.root above first hp pa)
    refine ⟨first, steps, ?_, pa, usually, ?_⟩
    · rw [there]
      exact hp
    · rw [← ha]
      exact handed

end Descends

end GridAgent.Cluster
