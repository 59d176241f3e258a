import GridAgent.Proofs.Cluster.Books
import GridAgent.Proofs.Cluster.Heritage
import GridAgent.Proofs.Handler.Routine
import GridAgent.Proofs.Handler.Undisturbed
import GridAgent.Proofs.Options

/-!
# The options that an agent goes by

A record is read with the options it was stored with. Before an agent does anything that hangs on
options, it has filled in the open ones with the defaults of the session, once, and it holds on to
them whatever records it is answered later. Where no session is found nothing is done that hangs on
options. So the successors it creates, the time it gives the worker, what it sends and whether it
retries all go by the stored record with the defaults filled in.
-/

namespace GridAgent

namespace Agent

/-- What hangs on options goes by a record as described: the successor of a task, the time that a
call may take, the header that the worker is sent, and whether a failed attempt is retried or ends in
an error. An error does not hang on options if data is missing. -/
def Request.GoesBy (used : TaskRecord → Prop) : Request → Prop
  | .createSuccessor parent candidate =>
    used parent ∧ ∃ id now, candidate = parent.successor id now
  | .connect _ task deadline => ∃ t now, used t ∧ t.id = task ∧ deadline = t.options.callEnd now
  | .send _ _ (.init task session payload outputs options) =>
    ∃ t, used t ∧ .init task session payload outputs options = header t
  | .updateTask task _ change =>
    (change.status = .retried → ∃ t, used t ∧ t.id = task ∧ RetryPlan.ofTask t = .retry) ∧
    (change.status = .error → ∃ t, used t ∧ t.id = task ∧ (RetryPlan.ofTask t = .exhausted ∨
      ∃ data : DataId,
        change.output = some (.failure ("data " ++ data.toString ++ " not found"))))
  | _ => True

/-- Nothing in the request hangs on options. -/
def Request.isFree : Request → Bool
  | .createSuccessor .. | .connect .. | .updateTask .. | .send _ _ (.init ..) => false
  | _ => true

/-- A request in which nothing hangs on options goes by any record. -/
theorem Request.goesBy_of_isFree {used : TaskRecord → Prop} {request : Request}
    (h : request.isFree = true) : request.GoesBy used := by
  cases request with
  | createSuccessor parent candidate => cases h
  | connect run task deadline => cases h
  | updateTask task expected change => cases h
  | send run stream request =>
    cases request with
    | init task session payload outputs options => cases h
    | data data path => exact trivial
  | _ => exact trivial

/-- An update that neither retries a task nor ends it in an error does not hang on options. -/
theorem Request.goesBy_updateTask {used : TaskRecord → Prop} {task : TaskId} {expected : Expectation}
    {change : TaskUpdate} (hr : change.status ≠ .retried) (he : change.status ≠ .error) :
    (Request.updateTask task expected change).GoesBy used :=
  ⟨fun retried => absurd retried hr, fun failed => absurd failed he⟩

/-- What goes by one kind of record goes by any wider kind. -/
theorem Request.GoesBy.mono {used used' : TaskRecord → Prop} {request : Request}
    (h : request.GoesBy used) (wider : ∀ t, used t → used' t) : request.GoesBy used' := by
  cases request with
  | createSuccessor parent candidate => exact ⟨wider parent h.1, h.2⟩
  | connect run task deadline =>
    obtain ⟨t, now, ht, facts⟩ := h
    exact ⟨t, now, wider t ht, facts⟩
  | send run stream request =>
    cases request with
    | init task session payload outputs options =>
      obtain ⟨t, ht, same⟩ := h
      exact ⟨t, wider t ht, same⟩
    | data data path => exact trivial
  | updateTask task expected change =>
    refine ⟨fun retried => ?_, fun failed => ?_⟩
    · obtain ⟨t, ht, facts⟩ := h.1 retried
      exact ⟨t, wider t ht, facts⟩
    · obtain ⟨t, ht, facts⟩ := h.2 failed
      exact ⟨t, wider t ht, facts⟩
  | _ => exact trivial

end Agent

namespace Cluster

open Agent Program Acquisition

/-- The record is that of the task as it is stored, at one time or another. -/
structure IsStored (task : TaskId) (known : Option Heritage) (t : TaskRecord) : Prop where
  /-- It is a record of the task. -/
  id : t.id = task
  /-- It has what the task keeps for life. -/
  heritage : known = some t.heritage

/-- The record is that of the task with the options it leaves open filled in, as is usual in its
session. -/
structure IsFilledIn (usual : SessionId → Options → Prop) (task : TaskId) (known : Option Heritage)
    (t : TaskRecord) : Prop where
  /-- It is a record of the task. -/
  id : t.id = task
  /-- It has what the task keeps for life, with options filled in. -/
  heritage : ∃ h d, known = some h ∧ usual h.session d ∧
    t.heritage = { h with options := h.options.mergedWith d }

variable {usual : SessionId → Options → Prop} {task : TaskId} {known : Option Heritage}
  {s : Settings} {t t' : TaskRecord} {E : AgentError → Unit → Prop}

/-- Defaults of the session fill in a stored record. -/
theorem IsStored.filledIn (h : IsStored task known t) {d : Options} (hd : usual t.session d) :
    IsFilledIn usual task known (t.withDefaults d) :=
  ⟨h.id, t.heritage, d, h.heritage, hd, rfl⟩

/-- A record of the task takes over the options that were filled in. -/
theorem IsFilledIn.adopt (h : IsFilledIn usual task known t) (id : t'.id = task)
    (options : Options) (heritage : known = some { t'.heritage with options := options }) :
    IsFilledIn usual task known { t' with options := t.options } := by
  obtain ⟨heir, d, hk, hd, same⟩ := h.heritage
  obtain rfl := Option.some.inj (hk.symm.trans heritage)
  have filled : t.options = options.mergedWith d := congrArg Heritage.options same
  refine ⟨id, _, d, hk, hd, ?_⟩
  unfold TaskRecord.heritage
  rw [filled]

/-- So does a stored record. -/
theorem IsFilledIn.adopted (h : IsFilledIn usual task known t) (h' : IsStored task known t') :
    IsFilledIn usual task known { t' with options := t.options } :=
  h.adopt h'.id t'.options h'.heritage

/-- So does one with options filled in. -/
theorem IsFilledIn.again (h : IsFilledIn usual task known t)
    (h' : IsFilledIn usual task known t') :
    IsFilledIn usual task known { t' with options := t.options } := by
  obtain ⟨heir, d, hk, -, same⟩ := h'.heritage
  refine h.adopt h'.id heir.options ?_
  rw [hk, same]

/-- The rules of an agent that goes by the options of its task, filled in with what is usual. -/
def termRules (usual : SessionId → Options → Prop) (task : TaskId) (known : Option Heritage) :
    Conduct collaborators Unit where
  may _ request := request.GoesBy (IsFilledIn usual task known)
  credible
    | .readTask other, reply =>
      other = task → ∀ t, reply = .ok (some t) → IsStored task known t
    | .updateTask other _ _, reply => other = task → ∀ t, reply = .ok t → IsStored task known t
    | .readSession session, reply =>
      ∀ found : SessionRecord, reply = .ok (some found) → usual session found.defaults
    | _, _ => True
  note _ _ _ := ()

namespace Terms

/-- The program goes by the options of the task, and ends with a value as described if it does not
fail. -/
abbrev Minds {ε α : Type} (usual : SessionId → Options → Prop) (task : TaskId)
    (known : Option Heritage) (p : Fallible ε α) (Q : α → Prop) : Prop :=
  SteadyOr (termRules usual task known) () never p Q

/-! Calls. -/

/-- A call that goes by the options of the task. -/
theorem asks {request : Request} (h : request.GoesBy (IsFilledIn usual task known)) :
    Keeps (termRules usual task known) (.call request .done) () :=
  keeps_call h fun _ => rfl

/-- A call in which nothing hangs on options. -/
theorem free {request : Request} (h : request.isFree = true) :
    Keeps (termRules usual task known) (.call request .done) () :=
  asks (Request.goesBy_of_isFree h)

theorem pauses (wait : Span) : Keeps (termRules usual task known) (Call.pause wait) () := free rfl

/-- Calls in which nothing hangs on options, however often they are tried. -/
theorem tries {ε α : Type} [Transient ε] {p : Fallible ε α}
    (hp : Keeps (termRules usual task known) (I := collaborators) p ()) :
    Minds usual task known (retrying s p) fun _ => True :=
  (steadyOr_of_keeps hp).tried pauses

theorem reads : Minds usual task known (Call.readTask task) fun found =>
    ∀ t, found = some t → IsStored task known t := by
  refine ⟨trivial, fun reply hc => ?_⟩
  rcases reply with cause | found
  · exact .inl rfl
  · refine ⟨rfl, fun t ht => ?_⟩
    subst ht
    exact hc rfl t rfl

/-- An update of the task that goes by its options answers the stored record. -/
theorem updates {expected : Expectation} {change : TaskUpdate}
    (h : (Request.updateTask task expected change).GoesBy (IsFilledIn usual task known)) :
    Minds usual task known (Call.updateTask task expected change) (IsStored task known) := by
  refine ⟨h, fun reply hc => ?_⟩
  rcases reply with cause | t
  · exact .inl rfl
  · exact ⟨rfl, hc rfl t rfl⟩

theorem updateTask {expected : Expectation} {change : TaskUpdate}
    (h : (Request.updateTask task expected change).GoesBy (IsFilledIn usual task known)) :
    Minds usual task known (updateTask s task expected change) (IsStored task known) :=
  (updates h).tried pauses

theorem abandonResults {ε : Type} (other : TaskId) :
    Minds usual task known (abandonResults other : Fallible ε Unit) fun _ => True := by
  have abandoned : Keeps (termRules usual task known) (.call (.abandon other) .done) () := free rfl
  exact (steady_of_keeps abandoned).andThen fun _ _ => ⟨rfl, trivial⟩

/-! Succession. -/

theorem submitSuccessor (successor : TaskRecord) :
    Minds usual task known (submitSuccessor s successor) fun _ => True := by
  unfold Agent.submitSuccessor
  split
  · exact ⟨rfl, trivial⟩
  · refine (steady_of_keeps (free rfl)).andThen fun now _ => ?_
    have submits : (Request.updateTask successor.id (.status .creating)
        { status := .submitted, submitted := some now }).GoesBy (IsFilledIn usual task known) :=
      Request.goesBy_updateTask (by nofun) (by nofun)
    refine (tries (asks submits)).attempted ?_
    rintro ((other | found | reason) | submitted) -
    · exact .inl rfl
    · exact ⟨rfl, trivial⟩
    · exact .inl rfl
    · have pushed : Minds usual task known (push s [submitted.id]) fun _ => True := tries (free rfl)
      exact pushed.orFail.andThen fun _ _ => ⟨rfl, trivial⟩

/-- A successor is created from a record with options filled in. -/
theorem ensureSuccessor {parent : TaskRecord} (hp : IsFilledIn usual task known parent) :
    Minds usual task known (ensureSuccessor s parent) fun _ => True := by
  unfold Agent.ensureSuccessor
  refine (steady_of_keeps (free rfl)).andThen fun id _ => ?_
  refine (steady_of_keeps (free rfl)).andThen fun now _ => ?_
  have creates : (Request.createSuccessor parent (parent.successor id now)).GoesBy
      (IsFilledIn usual task known) := ⟨hp, id, now, rfl⟩
  exact (tries (asks creates)).orFail.andThen fun successor _ => submitSuccessor successor

/-- Whether the attempt is retried goes by the options filled in, and so does its successor. -/
theorem retryTask (ht : IsFilledIn usual task known t) (expected : Expectation) (reason : String) :
    Minds usual task known (retryTask s t expected reason) (IsFilledIn usual task known) := by
  unfold Agent.retryTask
  refine (steady_of_keeps (free rfl)).andThen fun now _ => ?_
  rw [ht.id]
  cases plan : RetryPlan.ofTask t with
  | exhausted =>
    have ends : (Request.updateTask task expected
        (.finish .error (.failure reason) now)).GoesBy (IsFilledIn usual task known) :=
      ⟨by nofun, fun _ => ⟨t, ht, ht.id, .inl plan⟩⟩
    refine (updateTask ends).orFail.andThen fun stored hs => ?_
    exact (abandonResults task).andThen fun _ _ => ⟨rfl, ht.adopted hs⟩
  | retry =>
    have retries : (Request.updateTask task expected
        (.finish .retried (.failure reason) now)).GoesBy (IsFilledIn usual task known) :=
      ⟨fun _ => ⟨t, ht, ht.id, plan⟩, by nofun⟩
    refine (updateTask retries).orFail.andThen fun stored hs => ?_
    have updated : IsFilledIn usual task known { stored with options := t.options } := ht.adopted hs
    exact (ensureSuccessor updated).andThen fun _ _ => ⟨rfl, updated⟩

/-! Acquisition. -/

/-- The decision neither lets the agent execute the task, nor changes its record, nor looks at its
successor. -/
structure IsIdle (d : Decision) : Prop where
  /-- The task is not this agent's to execute. -/
  refused : d.outcome ≠ .acquired
  /-- The record stays. -/
  stays : d.transition = .none
  /-- The lineage is not looked at. -/
  alone : ∀ successor, d.outcome ≠ .taskIsRetried successor

/-- Without a session a decision is idle. -/
theorem isIdle_of_decide {situation : Situation} {d : Decision} (missing : situation.session = none)
    (h : decide situation = .decided d) : IsIdle d := by
  unfold Acquisition.decide at h
  split at h
  · cases h
    exact ⟨nofun, rfl, nofun⟩
  · dsimp only at h
    rw [missing] at h
    split at h
    · cases h
      exact ⟨nofun, rfl, nofun⟩
    · cases h
      exact ⟨nofun, rfl, nofun⟩

theorem repairLineage (ht : IsFilledIn usual task known t) :
    Minds usual task known (repairLineage s t) fun _ => True := by
  unfold Agent.repairLineage
  have found : Minds usual task known (findSuccessor s t.id) fun _ => True := tries (free rfl)
  refine found.orFail.andThen fun found _ => ?_
  cases found with
  | none => exact (ensureSuccessor ht).andThen fun _ _ => ⟨rfl, trivial⟩
  | some successor =>
    simp only
    split
    · exact (submitSuccessor successor).andThen fun _ _ => ⟨rfl, trivial⟩
    all_goals exact ⟨rfl, trivial⟩

/-- The situation shows the task with options filled in, or no session. -/
theorem readSituation : Minds usual task known (readSituation s task) fun situation =>
    ∀ t, situation.task = some t →
      t.id = task ∧ (situation.session = none ∨ IsFilledIn usual task known t) := by
  unfold Agent.readSituation
  refine (reads.tried pauses).orFail.andThen fun record hr => ?_
  cases record with
  | none =>
    refine followsOr_bind.mpr (followsOr_pure.mpr ?_)
    refine (steady_of_keeps (free rfl)).andThen fun now _ => ?_
    exact (steady_of_keeps (free rfl)).andThen fun shutdown _ => ⟨rfl, fun _ e => nomatch e⟩
  | some t =>
    have stored : IsStored task known t := hr t rfl
    have session : Minds usual task known (readSession s t.session) fun found =>
        ∀ session, found = some session → usual t.session session.defaults := by
      refine SteadyOr.tried ⟨trivial, fun reply hc => ?_⟩ pauses
      rcases reply with cause | found
      · exact .inl rfl
      · refine ⟨rfl, fun session e => ?_⟩
        subst e
        exact hc session rfl
    refine session.orFail.andThen fun found hf => ?_
    refine (steady_of_keeps (free rfl)).andThen fun now _ => ?_
    refine (steady_of_keeps (free rfl)).andThen fun shutdown _ => ⟨rfl, fun t' e => ?_⟩
    obtain rfl := Option.some.inj e
    cases found with
    | none => exact ⟨stored.id, .inl rfl⟩
    | some session => exact ⟨stored.id, .inr (stored.filledIn (hf session rfl))⟩

/-- Without a session the decision that is reached is idle. -/
theorem reachDecision (situation : Situation) :
    Minds usual task known (reachDecision s task situation) fun d =>
      situation.session = none → IsIdle d := by
  unfold Agent.reachDecision
  split
  · next d hd => exact ⟨rfl, fun missing => isIdle_of_decide missing hd⟩
  · split
    · exact .inl rfl
    · next t _ =>
      have asked (owner : PodId) : Minds usual task known (isAlive s t owner) fun _ => True :=
        tries (free rfl)
      refine (asked _).orFail.andThen fun alive _ => ?_
      split
      · next d hd =>
        refine ⟨rfl, fun missing => ?_⟩
        have missing' : ({ situation with ownerAlive := some alive } : Situation).session = none :=
          missing
        exact isIdle_of_decide missing' hd
      · exact .inl rfl

/-- The record after a change that a decision asks for takes over the options filled in. -/
theorem makeTransition (ht : IsFilledIn usual task known t) (now : Date) (change : Transition) :
    Minds usual task known (makeTransition s t now change) fun updated =>
      ∀ t', updated = some t' → IsFilledIn usual task known { t' with options := t.options } := by
  have adopted {t' : TaskRecord} (h : IsFilledIn usual task known { t' with options := t.options }) :
      ∀ t₁, some t' = some t₁ → IsFilledIn usual task known { t₁ with options := t.options } :=
    fun _ e => Option.some.inj e ▸ h
  cases change with
  | none => exact ⟨rfl, fun t' e => nomatch e⟩
  | claim =>
    refine SteadyOr.orFail (SteadyOr.mapped ?_)
    rw [ht.id]
    exact (updateTask (Request.goesBy_updateTask (by nofun) (by nofun))).mono fun t' h =>
      adopted (ht.adopted h)
  | resetToSubmitted owner =>
    refine SteadyOr.orFail (SteadyOr.mapped ?_)
    rw [ht.id]
    exact (updateTask (Request.goesBy_updateTask (by nofun) (by nofun))).mono fun t' h =>
      adopted (ht.adopted h)
  | retryAbandoned owner =>
    exact SteadyOr.mapped ((retryTask ht _ _).mono fun t' h => adopted (ht.again h))
  | finishCancellation =>
    unfold Agent.makeTransition
    rw [ht.id]
    refine (updateTask (Request.goesBy_updateTask (by nofun) (by nofun))).orFail.andThen
      fun cancelled hc => ?_
    exact (abandonResults task).andThen fun _ _ => ⟨rfl, adopted (ht.adopted hc)⟩

/-- What acquisition answers: a task to be executed has its options filled in. -/
def IsReady (usual : SessionId → Options → Prop) (task : TaskId) (known : Option Heritage)
    (acquired : Acquired) : Prop :=
  acquired.outcome = .acquired →
    ∀ t, acquired.task = some t → IsFilledIn usual task known t

/-- An idle decision is carried out whatever the record is. -/
theorem carryOut_idle {d : Decision} (idle : IsIdle d) :
    Minds usual task known (carryOut s t d) (IsReady usual task known) := by
  unfold Agent.carryOut
  refine (steady_of_keeps (free rfl)).andThen fun now _ => ?_
  rw [idle.stays]
  refine followsOr_bind.mpr (followsOr_pure.mpr ?_)
  dsimp only
  split
  · next successor ho => exact absurd ho (idle.alone successor)
  · exact ⟨rfl, fun ho => absurd ho idle.refused⟩

/-- Any decision is carried out on a record with options filled in. -/
theorem carryOut (ht : IsFilledIn usual task known t) (d : Decision) :
    Minds usual task known (carryOut s t d) (IsReady usual task known) := by
  unfold Agent.carryOut
  refine (steady_of_keeps (free rfl)).andThen fun now _ => ?_
  refine (makeTransition ht now d.transition).andThen fun updated hu => ?_
  have same : ∀ t', some t = some t' → IsFilledIn usual task known t' :=
    fun _ e => Option.some.inj e ▸ ht
  cases updated with
  | some updated =>
    refine ⟨rfl, fun _ t' e => ?_⟩
    exact Option.some.inj e ▸ hu updated rfl
  | none =>
    simp only
    split
    · exact (repairLineage ht).andThen fun _ _ => ⟨rfl, fun _ => same⟩
    · exact ⟨rfl, fun _ => same⟩

theorem acquireOnce : Minds usual task known (acquireOnce s task) fun round =>
    ∀ acquired, round = .ok acquired → IsReady usual task known acquired := by
  unfold Agent.acquireOnce
  refine readSituation.andThen fun situation hs => ?_
  refine (reachDecision situation).andThen fun d hd => ?_
  split
  · refine ⟨rfl, fun acquired e _ t ht => ?_⟩
    obtain rfl := Except.ok.inj e
    cases ht
  · next t ht =>
    have carried : Minds usual task known (Agent.carryOut s t d) (IsReady usual task known) := by
      rcases (hs t ht).2 with missing | filled
      · exact carryOut_idle (hd missing)
      · exact carryOut filled d
    refine carried.attempted fun outcome ho => ?_
    split
    · next acquired => exact ⟨rfl, fun _ e => Except.ok.inj e ▸ ho acquired rfl⟩
    · exact ⟨rfl, fun _ e => nomatch e⟩
    · exact .inl rfl

/-- A task that is acquired has its options filled in. -/
theorem acquireWithin (left : Nat) :
    Minds usual task known (acquireWithin s task left) (IsReady usual task known) := by
  induction left with
  | zero =>
    refine acquireOnce.andThen fun round hr => ?_
    cases round with
    | ok acquired => exact ⟨rfl, hr acquired rfl⟩
    | error lost => exact ⟨rfl, fun _ _ e => nomatch e⟩
  | succ left ih =>
    refine acquireOnce.andThen fun round hr => ?_
    cases round with
    | ok acquired => exact ⟨rfl, hr acquired rfl⟩
    | error lost => exact ih

/-! Handling. -/

/-- A conditional update that is answered answers the stored record. -/
theorem transition {expected : Expectation} {change : TaskUpdate}
    (h : (Request.updateTask task expected change).GoesBy (IsFilledIn usual task known)) :
    Minds usual task known (transition s task expected change) fun outcome =>
      ∀ t, outcome = .ok t → IsStored task known t := by
  unfold Agent.transition
  refine (updateTask h).attempted ?_
  rintro ((other | found | reason) | t) ho
  · exact .inl rfl
  · exact ⟨rfl, fun t e => nomatch e⟩
  · exact .inl rfl
  · exact ⟨rfl, fun t' e => Except.ok.inj e ▸ ho t rfl⟩

theorem finishCancellation :
    Minds usual task known (finishCancellation s task) fun _ => True := by
  unfold Agent.finishCancellation
  refine (steady_of_keeps (free rfl)).andThen fun now _ => ?_
  refine (transition (Request.goesBy_updateTask (by nofun) (by nofun))).andThen fun outcome _ => ?_
  have settled (resolution : Resolution) : Minds usual task known (do
      Agent.abandonResults task
      return resolution : Fallible AgentError Resolution) fun _ => True :=
    (abandonResults task).andThen fun _ _ => ⟨rfl, trivial⟩
  cases outcome with
  | ok t => exact settled _
  | error lost =>
    dsimp only
    split
    · exact settled _
    · exact ⟨rfl, trivial⟩

theorem onLostUpdate (lost : LostUpdate) :
    Minds usual task known (onLostUpdate s task lost) fun _ => True := by
  unfold Agent.onLostUpdate
  split
  · exact finishCancellation
  · exact ⟨rfl, trivial⟩

theorem release (expected : Expectation) :
    Minds usual task known (release s task expected) fun _ => True := by
  unfold Agent.release
  refine (steady_of_keeps (free rfl)).andThen fun now _ => ?_
  refine (transition (Request.goesBy_updateTask (by nofun) (by nofun))).andThen fun outcome _ => ?_
  cases outcome with
  | ok t => exact ⟨rfl, trivial⟩
  | error lost => exact onLostUpdate lost

/-- An attempt ends without a successor where that does not hang on options. -/
theorem finishWithout (expected : Expectation) (status : TaskStatus) (output : Output)
    (h : ∀ now, (Request.updateTask task expected (.finish status output now)).GoesBy
      (IsFilledIn usual task known)) :
    Minds usual task known (finishWithout s task expected status output) fun _ => True := by
  unfold Agent.finishWithout
  refine (steady_of_keeps (free rfl)).andThen fun now _ => ?_
  refine (transition (h now)).andThen fun outcome _ => ?_
  cases outcome with
  | ok t => exact (abandonResults task).andThen fun _ _ => ⟨rfl, trivial⟩
  | error lost => exact onLostUpdate lost

theorem complete (output : Output) :
    Minds usual task known (complete s task output) fun _ => True := by
  unfold Agent.complete
  refine (steady_of_keeps (free rfl)).andThen fun now _ => ?_
  refine (transition (Request.goesBy_updateTask (by nofun) (by nofun))).andThen fun outcome _ => ?_
  cases outcome with
  | error lost => exact onLostUpdate lost
  | ok t =>
    refine (steadyOr_of_keeps (free rfl)).attempted fun settled _ => ?_
    cases settled with
    | ok _ => exact ⟨rfl, trivial⟩
    | error cause => exact ⟨rfl, trivial⟩

theorem retryAttempt (ht : IsFilledIn usual task known t) (expected : Expectation)
    (reason : String) (disposition : Disposition) :
    Minds usual task known (retryAttempt s t expected reason disposition) fun _ => True := by
  unfold Agent.retryAttempt
  refine (retryTask ht expected reason).attempted fun outcome _ => ?_
  split
  · exact ⟨rfl, trivial⟩
  · rw [ht.id]
    exact onLostUpdate _
  · exact .inl rfl

theorem onWorkerFailure (ht : IsFilledIn usual task known t) (run : RunId) (cause : WorkerError) :
    Minds usual task known (onWorkerFailure s t run cause) fun _ => True := by
  unfold Agent.onWorkerFailure
  have retried : Minds usual task known (do
      let resolution ← Agent.retryAttempt s t (heldBy s.podId) cause.message .cancelled
      return resolution.withFault cause.message : Fallible AgentError Resolution) fun _ => True :=
    (retryAttempt ht _ _ _).andThen fun _ _ => ⟨rfl, trivial⟩
  rw [ht.id]
  refine (steady_of_keeps (free rfl)).andThen fun stopped _ => ?_
  split
  · exact finishCancellation
  · refine (steady_of_keeps (free rfl)).andThen fun shutdown _ => ?_
    split
    · refine (steady_of_keeps (free rfl)).andThen fun health _ => ?_
      split
      · exact release _
      · exact retried
    · exact retried

theorem recordOutput (ht : IsFilledIn usual task known t) (run : RunId) (output : Output) :
    Minds usual task known (recordOutput s t run output) fun _ => True := by
  unfold Agent.recordOutput
  rw [ht.id]
  split
  · exact complete output
  · exact finishWithout _ _ output fun now => Request.goesBy_updateTask (by nofun) (by nofun)
  · refine (steady_of_keeps (free rfl)).andThen fun stopped _ => ?_
    split
    · exact finishCancellation
    · exact retryAttempt ht _ _ _

/-- The worker gets the time that the options leave. -/
theorem callDeadline (t : TaskRecord) (run : RunId) (now : Date) :
    Minds usual task known (callDeadline t run now) fun deadline =>
      deadline = t.options.callEnd now := by
  unfold Agent.callDeadline Options.callEnd
  cases t.options.maxDurationMillis with
  | none => exact ⟨rfl, rfl⟩
  | some millis =>
    by_cases unbounded : Nat.pow 2 63 ≤ millis
    · simp only [if_pos unbounded]
      exact ⟨rfl, rfl⟩
    · simp only [if_neg unbounded]
      cases now.add? (.ofMillis millis) with
      | some deadline => exact ⟨rfl, rfl⟩
      | none =>
        have breaks : Keeps (termRules usual task known) (.call (.breakOff run) .done) () := free rfl
        exact (steady_of_keeps breaks).andThen fun never _ => nomatch never

/-- What the worker is sent for a task: its header, and where fetched objects are. -/
def IsSent (t : TaskRecord) (request : WorkRequest) : Prop :=
  request = header t ∨ ∃ data path, request = .data data path

theorem sends (ht : IsFilledIn usual task known t) {request : WorkRequest} (hr : IsSent t request)
    (run : RunId) (stream : StreamId) :
    Keeps (termRules usual task known) (.call (.send run stream request) .done) () := by
  rcases hr with rfl | ⟨data, path, rfl⟩
  · have goes : (Request.send run stream (header t)).GoesBy (IsFilledIn usual task known) :=
      ⟨t, ht, rfl⟩
    exact asks goes
  · exact free rfl

theorem callWorker (ht : IsFilledIn usual task known t) (run : RunId) (stream : StreamId)
    {requests : List WorkRequest} (hr : ∀ request ∈ requests, IsSent t request) :
    Minds usual task known (callWorker s t run stream requests) fun _ => True := by
  have closes : Keeps (termRules usual task known) (.call (.hangUp stream) .done) () := free rfl
  unfold Agent.callWorker
  rw [ht.id]
  refine (steady_of_keeps (free rfl)).andThen fun now _ => ?_
  refine (transition (Request.goesBy_updateTask (by nofun) (by nofun))).attempted ?_
  rintro (cause | lost | stored) ho
  · exact (steady_of_keeps closes).andThen fun _ _ => .inl rfl
  · refine (onLostUpdate lost).attempted fun outcome _ => ?_
    exact (steady_of_keeps closes).andThen fun _ _ => steadyOr_resume fun _ _ => trivial
  · have started : IsFilledIn usual task known { stored with options := t.options } :=
      ht.adopted (ho (.ok stored) rfl stored rfl)
    have exchanged : Minds usual task known (exchange run stream requests) fun _ => True :=
      exchange_steady (fun request hm => sends ht (hr request hm) run stream) (free rfl) (free rfl)
    refine exchanged.attempted fun reply _ => ?_
    refine (steady_of_keeps closes).andThen fun _ _ => ?_
    cases reply with
    | ok output => exact recordOutput started run output
    | error cause => exact onWorkerFailure started run cause

theorem reachWorker (ht : IsFilledIn usual task known t) (run : RunId)
    {requests : List WorkRequest} (hr : ∀ request ∈ requests, IsSent t request) :
    Minds usual task known (reachWorker s t run requests) fun _ => True := by
  unfold Agent.reachWorker
  refine (steady_of_keeps (free rfl)).andThen fun now _ => ?_
  refine (callDeadline t run now).andThen fun deadline bounded => ?_
  have connects : (Request.connect run t.id deadline).GoesBy (IsFilledIn usual task known) :=
    ⟨t, now, ht, rfl, bounded⟩
  refine (steadyOr_of_keeps (asks connects)).attempted fun outcome _ => ?_
  split
  · exact callWorker ht run _ hr
  · refine (steady_of_keeps (free rfl)).andThen fun stopped _ => ?_
    split
    · exact onWorkerFailure ht run _
    · rw [ht.id]
      exact release _
  · exact onWorkerFailure ht run _

theorem runWorker (ht : IsFilledIn usual task known t) (run : RunId)
    {requests : List WorkRequest} (hr : ∀ request ∈ requests, IsSent t request) :
    Minds usual task known (runWorker s t run requests) fun _ => True := by
  unfold Agent.runWorker
  refine (steady_of_keeps (free rfl)).andThen fun shutdown _ => ?_
  refine (steady_of_keeps (free rfl)).andThen fun stopped _ => ?_
  split
  · rw [ht.id]
    exact release _
  · refine (steady_of_keeps (free rfl)).andThen fun _ _ => ?_
    refine (reachWorker ht run hr).attempted fun outcome _ => ?_
    exact (steady_of_keeps (free rfl)).andThen fun _ _ => steadyOr_resume fun _ _ => trivial

theorem prefetchAll (t : TaskRecord) (other : TaskId) (needed : List DataId) :
    Minds usual task known (prefetchAll s other needed) fun requests =>
      ∀ request ∈ requests, IsSent t request := by
  induction needed with
  | nil => exact ⟨rfl, fun request hm => nomatch hm⟩
  | cons data rest ih =>
    have fetched : Minds usual task known (fetch s data) fun _ => True := tries (free rfl)
    have one : Minds usual task known (prefetchObject s other data) (IsSent t) :=
      fetched.andThen fun bytes _ =>
        (steadyOr_of_keeps (free rfl)).andThen fun _ _ => ⟨rfl, .inr ⟨_, _, rfl⟩⟩
    refine one.andThen fun request sent => ih.andThen fun requests others => ⟨rfl, ?_⟩
    intro later hm
    rcases List.mem_cons.mp hm with rfl | hm
    · exact sent
    · exact others later hm

theorem prefetch (t : TaskRecord) : Minds usual task known (prefetch s t) fun requests =>
    ∀ request ∈ requests, IsSent t request := by
  refine (steadyOr_of_keeps (free rfl)).andThen fun _ _ => ?_
  refine (prefetchAll t t.id (neededData t)).andThen fun requests others => ⟨rfl, ?_⟩
  intro request hm
  rcases List.mem_cons.mp hm with rfl | hm
  · exact .inl rfl
  · exact others request hm

theorem execute (ht : IsFilledIn usual task known t) (run : RunId) :
    Minds usual task known (execute s t run) fun _ => True := by
  unfold Agent.execute
  refine (steady_of_keeps (free rfl)).andThen fun shutdown _ => ?_
  split
  · rw [ht.id]
    exact release _
  · refine (prefetch t).attempted fun outcome ho => ?_
    split
    · next requests => exact runWorker ht run (ho requests rfl)
    · next data =>
      rw [ht.id]
      refine finishWithout _ _ _ fun now => ⟨by nofun, fun _ => ⟨t, ht, ht.id, .inr ⟨data, rfl⟩⟩⟩
    · exact (retryAttempt ht _ _ _).andThen fun _ _ => ⟨rfl, trivial⟩

theorem dispose (message : DeliveryId) (disposition : Disposition) :
    Minds usual task known (dispose message disposition) fun _ => True :=
  (steadyOr_of_keeps (free rfl)).orFail

/-- What is acquired is executed with its options filled in. -/
theorem executeRegistered (ht : IsFilledIn usual task known t) (message : DeliveryId)
    (report : HandlerReport) :
    Minds usual task known (executeRegistered s message report t) fun _ => True := by
  unfold Agent.executeRegistered
  have registers : Keeps (termRules usual task known) (.call (.register report.task) .done) () :=
    free rfl
  refine (steady_of_keeps registers).andThen fun run _ => ?_
  cases run with
  | none => exact (dispose message .postponed).andThen fun _ _ => ⟨rfl, trivial⟩
  | some run =>
    refine (execute ht run).attempted fun outcome _ => ?_
    refine (steady_of_keeps (free rfl)).andThen fun _ _ => ?_
    refine (steady_of_keeps (free rfl)).andThen fun _ _ => ?_
    refine (steadyOr_resume fun _ _ => trivial).andThen fun resolution _ => ?_
    exact (dispose message resolution.disposition).andThen fun _ _ => ⟨rfl, trivial⟩

theorem process (message : DeliveryId) :
    Minds usual task known (process s message task) fun _ => True := by
  unfold Agent.process
  refine (acquireWithin _).andThen fun acquired ready => ?_
  dsimp only
  split
  · next t outcome ht => exact executeRegistered (ready outcome t ht) message _
  · exact (dispose message acquired.disposition).andThen fun _ _ => ⟨rfl, trivial⟩

theorem handleMessage (message : DeliveryId) :
    Minds usual task known (handleMessage s message task) fun _ => True := by
  unfold Agent.handleMessage
  refine (process message).attempted fun outcome _ => ?_
  refine (steadyOr_of_keeps (free rfl)).attempted fun settled _ => ?_
  refine (steadyOr_resume fun _ _ => trivial).andThen fun report _ => ?_
  cases settled with
  | ok _ => exact ⟨rfl, trivial⟩
  | error cause => exact .inl rfl

/-! Executions that are stopped. -/

theorem stopExecution (run : RunId) :
    Minds usual task known (stopExecution s task run) fun _ => True := by
  unfold Agent.stopExecution
  refine (steady_of_keeps (free rfl)).andThen fun before _ => ?_
  split
  · exact ⟨rfl, trivial⟩
  · refine (updates (Request.goesBy_updateTask (by nofun) (by nofun))).attempted fun marked _ => ?_
    refine (steady_of_keeps (free rfl)).andThen fun _ _ => ?_
    split
    · exact ⟨rfl, trivial⟩
    · exact ⟨rfl, trivial⟩
    · exact .inl rfl

theorem lookForCancellation (run : RunId) :
    Steady (termRules usual task known) () (lookForCancellation s task run) fun _ => True := by
  unfold Agent.lookForCancellation
  refine follows_bind.mpr (Follows.mono reads ?_)
  rintro (cause | _ | t) ⟨⟩ -
  · exact ⟨rfl, trivial⟩
  · exact ⟨rfl, trivial⟩
  · dsimp only
    split
    · exact follows_bind.mpr (Follows.mono (stopExecution run) fun _ _ _ => ⟨rfl, trivial⟩)
    · exact ⟨rfl, trivial⟩

end Terms

/-- Settling results does not hang on options. -/
theorem termRules_unnoted (usual : SessionId → Options → Prop) (task : TaskId)
    (known : Option Heritage) : Unnoted (termRules usual task known) True :=
  unnoted_of_ignored (fun _ _ _ => ⟨trivial, rfl⟩) fun _ _ _ => ⟨trivial, rfl⟩

/-- Every job goes by the options of its task. -/
theorem termRules_followed (usual : SessionId → Options → Prop) (known : Option Heritage)
    (s : Settings) (job : Job) :
    (Actor.start s job).Obeys (withFinalizers (termRules usual job.task known) True) ()
      fun _ _ _ => True := by
  refine Actor.obeys_start ?_
  have call {α : Type} {p : Action α} {Q : α → Unit → Prop}
      (h : p.Follows (termRules usual job.task known) () Q) :
      (agentCalls p).Follows (withFinalizers (termRules usual job.task known) True) ()
        fun _ _ => True :=
    (follows_withFinalizers (termRules_unnoted usual job.task known) h).mono fun _ _ _ => trivial
  cases job with
  | handle message task => exact call (Terms.handleMessage message)
  | acquire task => exact call (Terms.acquireWithin _)
  | stop run task => exact call (Terms.stopExecution run)
  | watch run task => exact call (Terms.lookForCancellation run)

end Cluster

end GridAgent
