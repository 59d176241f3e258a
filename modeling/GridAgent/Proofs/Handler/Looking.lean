import GridAgent.Proofs.Handler.Errands

/-!
# What an agent goes by

Acquisition goes by its last look at the task and by the clock reading that follows it. A claim of
another pod is reset only if the look showed that claim and it had outlived the timeout at that
reading. An outcome for a record whose owner contradicts its status is reached only if the look showed
such a record. Both hold whatever the collaborators answer.
-/

namespace GridAgent.Cluster

open Agent Program Acquisition

/-- A look at a task. -/
structure Look where
  /-- The record that was shown. -/
  record : TaskRecord
  /-- The first clock reading after it. -/
  clock : Option Date := none

/-- The last look after an answer; none if no record was shown. -/
def Look.note (look : Option Look) : (request : Agent.Request) → request.Reply → Option Look
  | .readTask _, .ok (some record) => some { record }
  | .readTask _, _ => none
  | .now, date => look.map fun l => { l with clock := l.clock.or (some date) }
  | _, _ => look

/-- The look questions a claim: it showed the task dispatched under the owner, and the claim had
outlived the timeout at the clock reading that followed. -/
def Look.Questions (look : Look) (owner : PodId) (timeout : Span) : Prop :=
  ∃ seen, look.clock = some seen ∧ look.record.status = .dispatched ∧
    look.record.owner = some owner ∧ claimOutlived look.record seen timeout = true

/-- The rules of a pod that resets a claim of another pod only if its last look questions it. -/
def looking (pod : PodId) (timeout : Span) : Conduct collaborators (Option Look) where
  may
    | look, .updateTask _ expected _ =>
      ∀ owner, expected = (Expectation.status .dispatched).ownedBy owner → owner ≠ pod →
        ∃ l, look = some l ∧ l.Questions owner timeout
    | _, _ => True
  credible _ _ := True
  note := Look.note

/-- The same for a pod that is acquiring: it decides neither on a message nor on an execution. -/
def acquiring (pod : PodId) (timeout : Span) : Conduct collaborators (Option Look) where
  may look request := request.isDecisive = false ∧ (looking pod timeout).may look request
  credible _ _ := True
  note := Look.note

section
variable {pod : PodId} {timeout : Span} {s : Settings} {task : TaskId} {t : TaskRecord}
  {look : Option Look} {ε α : Type}

/-- The clock has been read since the look. -/
def Look.IsTimed (look : Option Look) : Prop := ∀ l, look = some l → ∃ seen, l.clock = some seen

theorem Look.isTimed_none : Look.IsTimed none := fun _ h => absurd h (Option.some_ne_none _).symm

theorem Look.isTimed_some (record : TaskRecord) (seen : Date) :
    Look.IsTimed (some ⟨record, some seen⟩) := by
  rintro _ ⟨⟩
  exact ⟨seen, rfl⟩

/-- Errands are allowed. -/
theorem looking_errand {request : Request} (he : request.IsErrand pod) :
    (looking pod timeout).may look request := by
  cases request with
  | updateTask task expected change => exact fun owner hx other => absurd (he owner hx) other
  | _ => trivial

/-- Once the clock has been read errands do not change what the agent goes by. -/
theorem Look.note_timed (timed : Look.IsTimed look) {request : Request} (he : request.IsErrand pod)
    (reply : request.Reply) : Look.note look request reply = look := by
  cases request with
  | readTask task => exact he.elim
  | now =>
    cases look with
    | none => rfl
    | some l =>
      obtain ⟨record, clock⟩ := l
      obtain ⟨seen, rfl⟩ := timed _ rfl
      rfl
  | _ => rfl

/-- The program goes by its last look, decides on nothing else, and ends as promised if it does not
fail. -/
abbrev Goes (s : Settings) (look : Option Look) (p : Fallible ε α) (Q : α → Option Look → Prop) :
    Prop :=
  FollowsOr (acquiring s.podId s.dispatchTimeout) p look Q fun _ _ => True

/-- Rules that go along with those for acquiring are followed by what goes by its last look. -/
theorem Goes.along {σ : Type} {D : Conduct collaborators σ} {J : Option Look → σ → Prop} {k : σ}
    {p : Fallible ε α} {Q : α → Option Look → Prop} (h : Goes s look p Q)
    (hD : ∀ look k request, J look k → (acquiring s.podId s.dispatchTimeout).may look request →
      D.may k request ∧ ∀ reply, J (Look.note look request reply) (D.note k request reply))
    (hj : J look k) :
    FollowsOr D p k (fun value k' => ∃ look', J look' k' ∧ Q value look')
      fun _ k' => ∃ look', J look' k' := by
  refine Follows.mono (Follows.along (D := D) (J := J) ?_ h hj) ?_
  · exact fun look k request hj may =>
      ⟨(hD look k request hj may).1, fun reply _ => ⟨trivial, (hD look k request hj may).2 reply⟩⟩
  · rintro (cause | value) k' ⟨look', hj, h⟩
    · exact ⟨look', hj⟩
    · exact ⟨look', hj, h⟩

/-- Whoever acquires keeps to the rules for looks. -/
theorem Goes.looking {p : Fallible ε α} {Q : α → Option Look → Prop} (h : Goes s look p Q) :
    FollowsOr (looking s.podId s.dispatchTimeout) p look Q fun _ _ => True := by
  refine (h.along (J := fun look k => look = k) (k := look) ?_ rfl).mono ?_ fun _ _ _ => trivial
  · rintro look _ request rfl may
    exact ⟨may.2, fun _ => rfl⟩
  · rintro value _ ⟨_, rfl, hq⟩
    exact hq

/-- Once the clock has been read errands keep what the agent goes by. -/
theorem RunsErrands.goes (timed : Look.IsTimed look) {p : Fallible ε α} (h : RunsErrands s.podId p) :
    Goes s look p fun _ look' => look' = look :=
  (h.keeps (C := acquiring s.podId s.dispatchTimeout)
    fun _ he => ⟨⟨he.isDecisive, looking_errand he⟩, Look.note_timed timed he⟩).followsOr
    (fun _ => rfl) fun _ => trivial

theorem readTask_goes :
    Goes s look (readTask s task) fun found look' => look' = found.map ({ record := · }) := by
  refine followsOr_retrying (J := fun _ => True) (K := fun _ => True) ?_
    (fun _ _ _ => ⟨⟨rfl, trivial⟩, fun _ _ => trivial⟩) trivial
  rintro look' -
  refine ⟨⟨rfl, trivial⟩, fun reply _ => ?_⟩
  rcases reply with cause | _ | record
  · exact ⟨trivial, fun _ => trivial⟩
  · exact rfl
  · exact rfl

theorem readSession_goes {session : SessionId} :
    Goes s look (readSession s session) fun _ look' => look' = look := by
  have kept : Keeps (acquiring s.podId s.dispatchTimeout) (readSession s session).run look :=
    keeps_retrying (keeps_call ⟨rfl, trivial⟩ fun _ => rfl)
      fun _ => keeps_call ⟨rfl, trivial⟩ fun _ => rfl
  exact kept.followsOr (fun _ => rfl) fun _ => trivial

/-- The record says the same of the claim of the task. -/
structure SameClaim (t record : TaskRecord) : Prop where
  /-- The status is the same. -/
  status : t.status = record.status
  /-- The owner is the same. -/
  owner : t.owner = record.owner
  /-- The claim was made at the same date. -/
  acquired : t.acquired = record.acquired

/-- The situation is what the last look showed, at the clock reading that followed. -/
structure Shows (s : Settings) (situation : Situation) (look : Option Look) : Prop where
  /-- This pod decides. -/
  pod : situation.pod = s.podId
  /-- The timeout is that of the settings. -/
  timeout : situation.dispatchTimeout = s.dispatchTimeout
  /-- The task is as it was shown. -/
  task : ∀ t, situation.task = some t →
    ∃ record, look = some ⟨record, some situation.now⟩ ∧ SameClaim t record
  /-- The clock has been read. -/
  timed : Look.IsTimed look

/-- Whatever a situation shows, it shows with every answer about the owner. -/
theorem Shows.asked {situation : Situation} (h : Shows s situation look) (alive : Option Bool) :
    Shows s { situation with ownerAlive := alive } look := ⟨h.pod, h.timeout, h.task, h.timed⟩

theorem readSituation_goes :
    Goes s look (readSituation s task) fun situation look' => Shows s situation look' := by
  unfold readSituation
  refine followsOr_bind.mpr (followsOr_orFail.mpr (readTask_goes.mono ?_ fun _ _ h => h))
  rintro record _ rfl
  cases record with
  | none =>
    refine followsOr_bind.mpr (followsOr_pure.mpr (followsOr_bind.mpr ?_))
    refine followsOr_lift.mpr ⟨⟨rfl, trivial⟩, fun now _ => followsOr_bind.mpr ?_⟩
    refine followsOr_lift.mpr
      ⟨⟨rfl, trivial⟩, fun shutdown _ => ⟨rfl, rfl, ?_, Look.isTimed_none⟩⟩
    exact fun t ht => nomatch ht
  | some t =>
    refine followsOr_bind.mpr (followsOr_orFail.mpr (readSession_goes.mono ?_ fun _ _ h => h))
    rintro session _ rfl
    refine followsOr_bind.mpr (followsOr_lift.mpr
      ⟨⟨rfl, trivial⟩, fun now _ => followsOr_bind.mpr ?_⟩)
    refine followsOr_lift.mpr
      ⟨⟨rfl, trivial⟩, fun shutdown _ => ⟨rfl, rfl, ?_, Look.isTimed_some t now⟩⟩
    intro shown hs
    obtain rfl := Option.some.inj hs
    exact ⟨t, rfl, by cases session <;> exact ⟨rfl, rfl, rfl⟩⟩

/-- A decision is one on the situation, with some answer about the owner. -/
theorem reachDecision_goes {situation : Situation} (h : Shows s situation look) :
    Goes s look (reachDecision s task situation) fun d look' => look' = look ∧
      ∃ alive, Acquisition.decide { situation with ownerAlive := alive } = .decided d := by
  unfold reachDecision
  split
  · next d hd => exact ⟨rfl, situation.ownerAlive, hd⟩
  · next owner _ =>
    split
    · trivial
    · next t ht =>
      have asked : RunsErrands s.podId (isAlive s t owner) :=
        (RunsErrands.letsChores s.podId).tries
          ((RunsErrands.letsChores s.podId).call (.isAlive t.session t.id owner) trivial)
      refine followsOr_bind.mpr (followsOr_orFail.mpr ((asked.goes h.timed).mono ?_ fun _ _ h => h))
      rintro alive _ rfl
      split
      · next d hd => exact ⟨rfl, some alive, hd⟩
      · trivial

/-- A decision to reset a claim is one on a claim that the last look questions. -/
theorem Shows.questions {situation : Situation} {d : Decision} {owner : PodId}
    (h : Shows s situation look) (ht : situation.task = some t)
    (hd : Acquisition.decide situation = .decided d)
    (reset : d.transition = .resetToSubmitted owner) :
    ∃ l, look = some l ∧ l.Questions owner s.dispatchTimeout := by
  obtain ⟨record, rfl, same⟩ := h.task t ht
  have outlived := claimOutlived_of_decide ht hd reset
  rw [h.timeout] at outlived
  have judged := judged_of_decide ht hd
  cases judged with
  | reset judge status held other =>
    obtain rfl := Transition.resetToSubmitted.inj reset
    refine ⟨_, rfl, situation.now, rfl, same.status ▸ status, same.owner ▸ held, ?_⟩
    unfold claimOutlived at outlived ⊢
    rw [← same.acquired]
    exact outlived
  | _ => cases reset

/-- The change that a decision asks for keeps to the rules, and shows no record. -/
theorem makeTransition_goes (timed : Look.IsTimed look) {now : Date} {change : Transition}
    (questions : ∀ owner, change = .resetToSubmitted owner →
      ∃ l, look = some l ∧ l.Questions owner s.dispatchTimeout) :
    Goes s look (makeTransition s t now change) fun _ look' => look' = look := by
  have chores (kept : ∀ owner, change ≠ .resetToSubmitted owner) :
      Goes s look (makeTransition s t now change) fun _ look' => look' = look :=
    RunsErrands.goes timed
      ((RunsErrands.letsChores s.podId).makeTransition fun owner h => absurd h (kept owner))
  cases change with
  | resetToSubmitted owner =>
    refine followsOr_orFail.mpr (followsOr_map.mpr ?_)
    refine followsOr_retrying (J := fun look' => look' = look) (K := fun look' => look' = look) ?_
      (fun _ _ h => ⟨⟨rfl, trivial⟩, fun _ _ => h⟩) rfl
    rintro _ rfl
    refine ⟨⟨rfl, fun judged hx _ => ?_⟩, fun reply _ => ?_⟩
    · obtain rfl : owner = judged := by
        cases hx
        rfl
      exact questions owner rfl
    · rcases reply with cause | updated
      · exact ⟨trivial, fun _ => rfl⟩
      · exact rfl
  | _ => exact chores nofun

/-- Carrying a decision out makes no new contradiction. -/
theorem carryOut_goes (timed : Look.IsTimed look) {d : Decision}
    (questions : ∀ owner, d.transition = .resetToSubmitted owner →
      ∃ l, look = some l ∧ l.Questions owner s.dispatchTimeout) :
    Goes s look (carryOut s t d) fun acquired look' => look' = look ∧
      (acquired.outcome.isContradiction = true → d.outcome.isContradiction = true) := by
  unfold carryOut
  have clock : RunsErrands (ε := AgentError) s.podId (liftM Call.now) :=
    (RunsErrands.letsChores s.podId).asks .now trivial fun _ => PreservesOr.pure
  refine followsOr_bind.mpr ((clock.goes timed).mono ?_ fun _ _ h => h)
  rintro now _ rfl
  refine followsOr_bind.mpr ((makeTransition_goes timed questions).mono ?_ fun _ _ h => h)
  rintro (_ | updated) _ rfl
  · simp only
    split
    · refine followsOr_bind.mpr
        ((RunsErrands.goes timed (RunsErrands.letsChores s.podId).repairLineage).mono ?_ fun _ _ h => h)
      rintro state _ rfl
      exact ⟨rfl, nofun⟩
    · exact ⟨rfl, id⟩
  · exact ⟨rfl, id⟩

/-- An outcome for a contradictory record comes of a look that showed one. -/
def Sees (acquired : Acquired) (look : Option Look) : Prop :=
  acquired.outcome.isContradiction = true → ∃ l, look = some l ∧ Contradicts l.record

theorem acquireOnce_goes :
    Goes s look (acquireOnce s task) fun round look' =>
      ∀ acquired, round = .ok acquired → Sees acquired look' := by
  unfold acquireOnce
  refine followsOr_bind.mpr (readSituation_goes.mono ?_ fun _ _ h => h)
  intro situation look₁ shows
  refine followsOr_bind.mpr ((reachDecision_goes shows).mono ?_ fun _ _ h => h)
  rintro d _ ⟨rfl, alive, hd⟩
  split
  · next missing =>
    rintro _ ⟨⟩ contradiction
    unfold Acquisition.decide at hd
    simp only [missing] at hd
    cases hd
    cases contradiction
  · next t ht =>
    refine followsOr_bind.mpr (followsOr_attempt.mpr ?_)
    refine (carryOut_goes shows.timed fun owner => (shows.asked alive).questions ht hd).mono ?_ ?_
    · rintro acquired _ ⟨rfl, same⟩ _ ⟨⟩ contradiction
      obtain ⟨record, rfl, claim⟩ := shows.task t ht
      have contradicts := contradicts_of_decide (s := { situation with ownerAlive := alive }) ht hd
        (same contradiction)
      refine ⟨_, rfl, ?_⟩
      unfold Contradicts at contradicts ⊢
      rw [← claim.status, ← claim.owner]
      exact contradicts
    · rintro cause look₂ -
      split
      · next e => cases e
      · exact fun _ e => nomatch e
      · trivial

/-- Acquisition goes by its last look, however many rounds it may make. -/
theorem acquireWithin_goes (left : Nat) :
    Goes s look (acquireWithin s task left) fun acquired look' => Sees acquired look' := by
  induction left generalizing look with
  | zero =>
    refine followsOr_bind.mpr (acquireOnce_goes.mono ?_ fun _ _ h => h)
    rintro (lost | acquired) look' seen
    · exact fun contradiction => nomatch contradiction
    · exact seen acquired rfl
  | succ left ih =>
    refine followsOr_bind.mpr (acquireOnce_goes.mono ?_ fun _ _ h => h)
    rintro (lost | acquired) look' seen
    · exact ih
    · exact seen acquired rfl

theorem acquire_goes : Goes s look (acquire s task) fun acquired look' => Sees acquired look' :=
  acquireWithin_goes _

end

/-! Whole jobs. -/

/-- The program keeps to the rules, whatever it goes by and whatever becomes of it. -/
def Heeding {ε α : Type} (s : Settings) (p : Fallible ε α) : Prop :=
  ∀ look, FollowsOr (looking s.podId s.dispatchTimeout) p look (fun _ _ => True) fun _ _ => True

namespace Heeding

variable {s : Settings} {task : TaskId} {ε ε' α β : Type}

theorem pure {value : α} : Heeding s (Pure.pure value : Fallible ε α) := fun _ => trivial

/-- Errands keep to the rules. -/
theorem errands {p : Fallible ε α} (h : RunsErrands s.podId p) : Heeding s p := fun look =>
  (h.follows (C := looking s.podId s.dispatchTimeout) (I := fun _ => True) (k := look)
    (fun _ _ _ he => ⟨looking_errand he, fun _ => trivial⟩) trivial).mono
    (fun _ _ _ => trivial) fun _ _ _ => trivial

theorem andThen {p : Fallible ε α} {f : α → Fallible ε β} (hp : Heeding s p)
    (hf : ∀ value, Heeding s (f value)) : Heeding s (p >>= f) := fun look =>
  followsOr_bind.mpr ((hp look).mono (fun value look' _ => hf value look') fun _ _ h => h)

theorem attempted {p : Fallible ε α} {f : Except ε α → Fallible ε' β} (hp : Heeding s p)
    (hf : ∀ outcome, Heeding s (f outcome)) : Heeding s (attempt p >>= f) := fun look =>
  followsOr_bind.mpr (followsOr_attempt.mpr ((hp look).mono
    (fun value look' _ => hf (.ok value) look') fun cause look' _ => hf (.error cause) look'))

/-- A request that is always allowed keeps to the rules. -/
theorem asked (request : Request)
    (h : ∀ look, (looking s.podId s.dispatchTimeout).may look request)
    {f : request.Reply → Fallible ε α} (hf : ∀ reply, Heeding s (f reply)) :
    Heeding s (liftM (ask request : Action request.Reply) >>= f) := fun look =>
  followsOr_bind.mpr (followsOr_lift.mpr ⟨h look, fun reply _ => hf reply _⟩)

theorem resume (outcome : Except ε α) : Heeding s (resume outcome) := fun look => by
  cases outcome <;> trivial

theorem dispose {message : DeliveryId} {disposition : Disposition} :
    Heeding s (dispose message disposition) := fun look => by
  refine followsOr_orFail.mpr ⟨trivial, fun reply _ => ?_⟩
  cases reply <;> trivial

theorem acquire : Heeding s (acquire s task) := fun _ =>
  acquire_goes.looking.mono (fun _ _ _ => trivial) fun _ _ h => h

theorem executeRegistered {message : DeliveryId} {report : HandlerReport} {t : TaskRecord} :
    Heeding s (executeRegistered s message report t) := by
  unfold Agent.executeRegistered
  refine asked (.register report.task) (fun _ => trivial) fun run => ?_
  cases run with
  | none => exact dispose.andThen fun _ => pure
  | some run =>
    refine (errands RunsErrands.execute).attempted fun outcome => ?_
    refine asked (.unregister run) (fun _ => trivial) fun _ => ?_
    refine asked (.clearScratch report.task) (fun _ => trivial) fun _ => ?_
    exact (resume outcome).andThen fun _ => dispose.andThen fun _ => pure

theorem process {message : DeliveryId} : Heeding s (process s message task) := by
  unfold Agent.process
  refine acquire.andThen fun acquired => ?_
  split
  · exact executeRegistered
  · exact dispose.andThen fun _ => pure

theorem handleMessage {message : DeliveryId} : Heeding s (handleMessage s message task) := by
  unfold Agent.handleMessage
  refine process.attempted fun outcome => ?_
  have settles : Heeding s (Call.settle message) := fun look => ⟨trivial, fun reply _ => by
    cases reply <;> trivial⟩
  refine settles.attempted fun settled => (resume outcome).andThen fun report => ?_
  cases settled with
  | ok _ => exact pure
  | error cause => exact fun _ => trivial

/-- A look for a cancellation keeps to the rules. -/
theorem lookForCancellation {run : RunId} (look : Option Look) :
    (lookForCancellation s task run).Follows (looking s.podId s.dispatchTimeout) look
      fun _ _ => True := by
  unfold Agent.lookForCancellation
  refine follows_bind.mpr ⟨trivial, fun reply _ => ?_⟩
  rcases reply with cause | _ | t
  · trivial
  · trivial
  · show Follows _ (if t.status.isCancellation = true then _ else _) _ _
    split
    · have stops : Heeding s (stopExecution s task run) :=
        errands (RunsErrands.letsChores s.podId).stopExecution
      exact follows_bind.mpr (Follows.mono (stops _) fun _ _ _ => trivial)
    · trivial

end Heeding

end GridAgent.Cluster
