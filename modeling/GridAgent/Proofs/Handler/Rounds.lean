import GridAgent.Proofs.Acquisition.Safety
import GridAgent.Proofs.Program.Conduct

/-!
# Rounds of an acquisition

An acquisition reads, decides and carries out in rounds. A round that loses its update has written
nothing, and only such a round is followed by another one. A round that writes begins with the update
of the task; whatever it loses later, to the successor say, is no reason for another round.
-/

namespace GridAgent.Cluster

open Agent Program Acquisition

/-- An update of the task that was applied. -/
structure Revision where
  /-- What was expected. -/
  expected : Expectation
  /-- The change. -/
  change : TaskUpdate
  /-- The record after it. -/
  record : TaskRecord

/-- What an acquisition has read, lost and written. -/
structure Rounds where
  /-- How often the task was read. -/
  looks : Nat := 0
  /-- The task as it was read last. -/
  read : Option TaskRecord := none
  /-- The session as it was read since then. -/
  session : Option SessionRecord := none
  /-- The lost updates of the task, the latest first. -/
  lost : List LostUpdate := []
  /-- The update of the task that was applied. -/
  revision : Option Revision := none
  /-- Something was written. -/
  wrote : Bool := false

namespace Rounds

variable {s : Settings} {task : TaskId} {most : Nat} {t : TaskRecord} {b : Rounds}

/-- The rounds after an answer. -/
def note (task : TaskId) (b : Rounds) : (request : Request) → request.Reply → Rounds
  | .readTask _, .ok found => { b with looks := b.looks + 1, read := found, session := none }
  | .readSession _, .ok found => { b with session := found }
  | .updateTask other expected change, .ok record =>
    if other = task then { b with revision := some ⟨expected, change, record⟩, wrote := true }
    else { b with wrote := true }
  | .updateTask other _ _, .error (.conflict lost) =>
    if other = task then { b with lost := lost :: b.lost } else b
  | .createSuccessor .., .ok _ => { b with wrote := true }
  | .abandon _, _ => { b with wrote := true }
  | _, _ => b

/-- What an acquisition may ask as long as not every round has lost: it reads the task after a round
that has lost, and updates it before anything else is written. The session that it reads is that of
the record. Successors are of this task, and are other tasks. -/
def May (task : TaskId) (most : Nat) (b : Rounds) : Request → Prop
  | .readTask other =>
    other = task ∧ b.lost.length < most ∧ b.looks = b.lost.length ∧ b.wrote = false
  | .updateTask other _ _ =>
    b.lost.length < most ∧ (other = task → b.looks = b.lost.length + 1 ∧ b.wrote = false)
  | .createSuccessor parent candidate =>
    b.lost.length < most ∧ parent.id = task ∧ candidate.id ≠ task
  | .readSession session => b.lost.length < most ∧ ∃ t, b.read = some t ∧ t.session = session
  | .breakOff _ => False
  | _ => b.lost.length < most

/-- Nothing is asked once every round has lost. -/
theorem goesOn_of_may {request : Request} (may : May task most b request) : b.lost.length < most := by
  cases request
  case readTask => exact may.2.1
  case updateTask | createSuccessor | readSession => exact may.1
  case breakOff => exact may.elim
  all_goals exact may

/-- What is counted on: records come under their own identifiers, successors of the task and new
identifiers are other tasks, and only updates are lost. -/
def Credible (task : TaskId) : (request : Request) → request.Reply → Prop
  | .newTaskId, id => id ≠ task
  | .readTask other, .ok (some t) => t.id = other
  | .updateTask other _ _, .ok t => t.id = other
  | .createSuccessor parent candidate, .ok t =>
    parent.id = task → candidate.id ≠ task → t.id ≠ task
  | .createSuccessor .., .error cause => ∀ lost, cause ≠ .conflict lost
  | .findSuccessor other, .ok (some t) => other = task → t.id ≠ task
  | .findSuccessor _, .error cause => ∀ lost, cause ≠ .conflict lost
  | _, _ => True

/-- The rules for an acquisition of a task in so many rounds. -/
def rules (task : TaskId) (most : Nat) : Conduct collaborators Rounds :=
  ⟨May task most, Credible task, note task⟩

/-- The cause is no lost update. -/
def IsFinal (cause : AgentError) : Prop := ∀ lost, cause ≠ .store (.conflict lost)

/-- The same round, in which something may have been written. -/
def Goes (b b' : Rounds) : Prop := ∃ wrote, b' = { b with wrote }

theorem Goes.refl (b : Rounds) : b.Goes b := ⟨b.wrote, rfl⟩

theorem Goes.trans {b' b'' : Rounds} (h : b.Goes b') (h' : b'.Goes b'') : b.Goes b'' := by
  obtain ⟨wrote, rfl⟩ := h
  obtain ⟨wrote', rfl⟩ := h'
  exact ⟨wrote', rfl⟩

/-- The program stays in the round, and fails for good if it does. -/
abbrev StaysIn (task : TaskId) (most : Nat) {α : Type} (p : Fallible AgentError α) (b : Rounds) :
    Prop :=
  FollowsOr (rules task most) p b (fun _ b' => b.Goes b') fun cause b' => b.Goes b' ∧ IsFinal cause

/-! Whatever comes after the update of the task. -/

/-- A call that is tried again while the rules allow it and it leaves the round. -/
theorem tried {ε α : Type} [Transient ε] {p : Fallible ε α} {Q : α → Prop} {E : ε → Prop}
    (goesOn : b.lost.length < most)
    (call : ∀ wrote, FollowsOr (rules task most) p { b with wrote }
      (fun value b' => b.Goes b' ∧ Q value) fun cause b' => b.Goes b' ∧ E cause) :
    FollowsOr (rules task most) (retrying s p) b (fun value b' => b.Goes b' ∧ Q value)
      fun cause b' => b.Goes b' ∧ E cause := by
  refine followsOr_retrying (J := b.Goes) (K := b.Goes) ?_ ?_ (.refl b)
  · rintro _ ⟨wrote, rfl⟩
    exact (call wrote).mono (fun _ _ h => h) fun _ _ h => ⟨h, fun _ => h.1⟩
  · rintro b' wait ⟨wrote, rfl⟩
    exact ⟨goesOn, fun _ _ => ⟨wrote, rfl⟩⟩

/-- The same with the failure as one of the agent, and what comes after the call. -/
theorem StaysIn.after {ε α β : Type} {cause : ε → AgentError} {p : Fallible ε α}
    {f : α → Fallible AgentError β} {Q : α → Prop} {E : ε → Prop} (goesOn : b.lost.length < most)
    (hp : FollowsOr (rules task most) p b (fun value b' => b.Goes b' ∧ Q value)
      fun e b' => b.Goes b' ∧ E e)
    (final : ∀ e, E e → IsFinal (cause e))
    (hf : ∀ value (b' : Rounds), Q value → b'.lost.length < most → StaysIn task most (f value) b') :
    StaysIn task most (orFail cause p >>= f) b := by
  refine followsOr_bind.mpr (followsOr_orFail.mpr (hp.mono ?_ ?_))
  · rintro value _ ⟨⟨wrote, rfl⟩, q⟩
    refine (hf value { b with wrote } q goesOn).mono (fun _ _ goes => ?_) fun _ _ h => ⟨?_, h.2⟩
    · exact Goes.trans ⟨wrote, rfl⟩ goes
    · exact Goes.trans ⟨wrote, rfl⟩ h.1
  · exact fun e b' h => ⟨h.1, final e h.2⟩

/-- A program after another one that stays in the round. -/
theorem StaysIn.andThen {α β : Type} {p : Fallible AgentError α} {f : α → Fallible AgentError β}
    (goesOn : b.lost.length < most) (hp : StaysIn task most p b)
    (hf : ∀ value (b' : Rounds), b'.lost.length < most → StaysIn task most (f value) b') :
    StaysIn task most (p >>= f) b := by
  refine followsOr_bind.mpr (hp.mono ?_ fun _ _ h => h)
  rintro value _ ⟨wrote, rfl⟩
  refine (hf value { b with wrote } goesOn).mono (fun _ _ goes => ?_) fun _ _ h => ⟨?_, h.2⟩
  · exact Goes.trans ⟨wrote, rfl⟩ goes
  · exact Goes.trans ⟨wrote, rfl⟩ h.1

theorem submitSuccessor_stays {successor : TaskRecord} (goesOn : b.lost.length < most)
    (other : successor.id ≠ task) : StaysIn task most (submitSuccessor s successor) b := by
  unfold submitSuccessor
  split
  · exact .refl b
  refine followsOr_bind.mpr (followsOr_lift.mpr ⟨goesOn, fun now _ => ?_⟩)
  have submits : FollowsOr (rules task most) (updateTask s successor.id (.status .creating)
      { status := .submitted, submitted := some now }) b (fun _ b' => b.Goes b' ∧ True)
      fun _ b' => b.Goes b' ∧ True := by
    refine tried goesOn fun wrote => ⟨⟨goesOn, fun same => absurd same other⟩, fun reply _ => ?_⟩
    rcases reply with (_ | lost | _) | record
    · exact ⟨⟨wrote, rfl⟩, trivial⟩
    · exact ⟨⟨wrote, if_neg other⟩, trivial⟩
    · exact ⟨⟨wrote, rfl⟩, trivial⟩
    · exact ⟨⟨true, if_neg other⟩, trivial⟩
  refine followsOr_bind.mpr (followsOr_attempt.mpr (submits.mono ?_ ?_))
  · rintro record b' ⟨goes, -⟩
    have open' : b'.lost.length < most := by
      obtain ⟨wrote, rfl⟩ := goes
      exact goesOn
    have pushes : StaysIn task most (do
        orFail .queue (push s [record.id])
        return record : Fallible AgentError TaskRecord) b' := by
      refine StaysIn.after (Q := fun _ => True) (E := fun _ => True) open' ?_ (fun _ _ => nofun) ?_
      · refine tried open' fun wrote => ⟨open', fun reply _ => ?_⟩
        cases reply <;> exact ⟨⟨wrote, rfl⟩, trivial⟩
      · exact fun _ b' _ _ => .refl b'
    exact pushes.mono (fun _ _ h => goes.trans h) fun _ _ h => ⟨goes.trans h.1, h.2⟩
  · rintro (_ | lost | _) b' ⟨goes, -⟩
    · exact ⟨goes, nofun⟩
    · exact goes
    · exact ⟨goes, nofun⟩

theorem ensureSuccessor_stays {parent : TaskRecord} (goesOn : b.lost.length < most)
    (own : parent.id = task) : StaysIn task most (ensureSuccessor s parent) b := by
  unfold ensureSuccessor
  refine followsOr_bind.mpr (followsOr_lift.mpr ⟨goesOn, fun id new => ?_⟩)
  refine followsOr_bind.mpr (followsOr_lift.mpr ⟨goesOn, fun now _ => ?_⟩)
  show StaysIn task most
    (orFail .store (createSuccessor s parent (parent.successor id now)) >>= submitSuccessor s) b
  refine StaysIn.after (Q := fun successor : TaskRecord => successor.id ≠ task)
    (E := fun cause => ∀ lost, cause ≠ .conflict lost) goesOn ?_ ?_ ?_
  · refine tried goesOn fun wrote => ⟨⟨goesOn, own, new⟩, fun reply credible => ?_⟩
    rcases reply with cause | successor
    · exact ⟨⟨wrote, rfl⟩, credible⟩
    · exact ⟨⟨true, rfl⟩, credible own new⟩
  · exact fun cause last lost h => last lost (AgentError.store.inj h)
  · exact fun successor b' other goesOn => submitSuccessor_stays goesOn other

theorem repairLineage_stays (goesOn : b.lost.length < most) (own : t.id = task) :
    StaysIn task most (repairLineage s t) b := by
  unfold repairLineage
  refine StaysIn.after (E := fun cause => ∀ lost, cause ≠ .conflict lost)
    (Q := fun found : Option TaskRecord => ∀ t, found = some t → t.id ≠ task) goesOn ?_ ?_ ?_
  · refine tried goesOn fun wrote => ⟨goesOn, fun reply credible => ?_⟩
    rcases reply with cause | _ | successor
    · exact ⟨⟨wrote, rfl⟩, credible⟩
    · exact ⟨⟨wrote, rfl⟩, fun _ h => nomatch h⟩
    · refine ⟨⟨wrote, rfl⟩, ?_⟩
      rintro _ ⟨⟩
      exact credible own
  · exact fun cause last lost h => last lost (AgentError.store.inj h)
  · intro found b' others goesOn
    cases found with
    | none => exact StaysIn.andThen goesOn (ensureSuccessor_stays goesOn own) fun _ b' _ => .refl b'
    | some successor =>
      simp only
      split
      · have submits := submitSuccessor_stays (s := s) goesOn (others successor rfl)
        exact StaysIn.andThen goesOn submits fun _ b' _ => .refl b'
      all_goals exact .refl b'

/-! The update of the task, and what it is followed by. -/

/-- A round has read the task and has not updated it yet. -/
structure Deciding (most : Nat) (b : Rounds) : Prop where
  /-- Not every round has lost. -/
  goesOn : b.lost.length < most
  /-- Every round before it has. -/
  looks : b.looks = b.lost.length + 1
  /-- Nothing is written. -/
  wrote : b.wrote = false
  /-- The task was not updated. -/
  revision : b.revision = none

/-- A round failed: its update was lost before anything was written, or the cause is another one. -/
def Fails (b : Rounds) (cause : AgentError) (b' : Rounds) : Prop :=
  (∃ lost, cause = .store (.conflict lost) ∧ b' = { b with lost := lost :: b.lost }) ∨
    (b'.lost = b.lost ∧ IsFinal cause)

/-- The update of the task is applied, is lost, or fails for good. -/
theorem updateTask_ends {expected : Expectation} {change : TaskUpdate} (deciding : Deciding most b) :
    FollowsOr (rules task most) (updateTask s task expected change) b
      (fun record b' => record.id = task ∧
        b' = { b with revision := some ⟨expected, change, record⟩, wrote := true })
      fun cause b' => b.Fails (.store cause) b' := by
  refine followsOr_retrying (J := (· = b)) (K := (· = b)) ?_ ?_ rfl
  · rintro _ rfl
    refine ⟨⟨deciding.goesOn, fun _ => ⟨deciding.looks, deciding.wrote⟩⟩, fun reply credible => ?_⟩
    rcases reply with (_ | lost | _) | record
    · exact ⟨.inr ⟨rfl, nofun⟩, fun _ => rfl⟩
    · exact ⟨.inl ⟨lost, rfl, if_pos rfl⟩, nofun⟩
    · exact ⟨.inr ⟨rfl, nofun⟩, fun _ => rfl⟩
    · exact ⟨credible, if_pos rfl⟩
  · rintro _ wait rfl
    exact ⟨deciding.goesOn, fun _ _ => rfl⟩

theorem abandonResults_stays (goesOn : b.lost.length < most) :
    StaysIn task most (abandonResults task) b := by
  unfold abandonResults
  refine followsOr_bind.mpr (followsOr_lift.mpr ⟨goesOn, fun reply _ => ?_⟩)
  cases reply <;> exact ⟨true, rfl⟩

/-- The task was updated in this round; only its options may be others than those stored. -/
def Revises (b : Rounds) (r : Revision) (updated : TaskRecord) (b' : Rounds) : Prop :=
  (∃ options, updated = { r.record with options }) ∧
    ({ b with revision := some r, wrote := true } : Rounds).Goes b'

theorem revises_of_goes {r : Revision} {options : Options} {b₁ b' : Rounds}
    (same : b₁ = { b with revision := some r, wrote := true }) (goes : b₁.Goes b') :
    b.Revises r { r.record with options } b' :=
  ⟨⟨options, rfl⟩, same ▸ goes⟩

/-- After the update of the task the round is stayed in. -/
theorem updated_then {α : Type} {expected : Expectation} {change : TaskUpdate}
    {f : TaskRecord → Fallible AgentError α} {Q : α → Rounds → Prop} (deciding : Deciding most b)
    (hf : ∀ record b', record.id = task → b'.lost.length < most →
      b' = { b with revision := some ⟨expected, change, record⟩, wrote := true } →
      FollowsOr (rules task most) (f record) b' Q fun cause b'' => b'.Goes b'' ∧ IsFinal cause) :
    FollowsOr (rules task most) (orFail .store (updateTask s task expected change) >>= f) b Q
      b.Fails := by
  refine followsOr_bind.mpr (followsOr_orFail.mpr ((updateTask_ends deciding).mono ?_ fun _ _ h => h))
  rintro record b' ⟨own, same⟩
  refine (hf record b' own (same ▸ deciding.goesOn) same).mono (fun _ _ h => h) ?_
  rintro cause _ ⟨⟨wrote, rfl⟩, final⟩
  exact .inr ⟨same ▸ rfl, final⟩

theorem retryTask_ends {expected : Expectation} {reason : String} (own : t.id = task)
    (deciding : Deciding most b) : FollowsOr (rules task most) (retryTask s t expected reason) b
      (fun updated b' => ∃ r, b.Revises r updated b') b.Fails := by
  subst own
  unfold retryTask
  refine followsOr_bind.mpr (followsOr_lift.mpr ⟨deciding.goesOn, fun now _ => ?_⟩)
  refine updated_then (f := fun stored => _) deciding fun record b' own goesOn same => ?_
  dsimp only
  split
  · refine followsOr_bind.mpr ((abandonResults_stays goesOn).mono ?_ fun _ _ h => h)
    exact fun _ _ goes => ⟨⟨expected, _, record⟩, revises_of_goes same goes⟩
  · have succeeds : StaysIn _ most (ensureSuccessor s { record with options := t.options }) b' :=
      ensureSuccessor_stays goesOn own
    refine followsOr_bind.mpr (succeeds.mono ?_ fun _ _ h => h)
    exact fun _ _ goes => ⟨⟨expected, _, record⟩, revises_of_goes same goes⟩

/-- What came of the change that a decision asks for. -/
def Changed (s : Settings) (now : Date) (tr : Transition) (b : Rounds) :
    Option TaskRecord → Rounds → Prop
  | none, b' => tr = .none ∧ b' = b
  | some updated, b' => tr ≠ .none ∧ ∃ r, b.Revises r updated b' ∧
      (tr = .claim → r.expected = (Expectation.status .submitted).unowned ∧
        r.change = .dispatch s.podId s.podName now)

theorem makeTransition_ends {now : Date} (own : t.id = task) (deciding : Deciding most b)
    (tr : Transition) : FollowsOr (rules task most) (makeTransition s t now tr) b
      (Changed s now tr b) b.Fails := by
  subst own
  cases tr with
  | none => exact ⟨rfl, rfl⟩
  | claim =>
    refine followsOr_orFail.mpr (followsOr_map.mpr ((updateTask_ends deciding).mono ?_ fun _ _ h => h))
    rintro record b' ⟨-, rfl⟩
    exact ⟨nofun, _, ⟨⟨record.options, rfl⟩, .refl _⟩, fun _ => ⟨rfl, rfl⟩⟩
  | resetToSubmitted owner =>
    refine followsOr_orFail.mpr (followsOr_map.mpr ((updateTask_ends deciding).mono ?_ fun _ _ h => h))
    rintro record b' ⟨-, rfl⟩
    exact ⟨nofun, _, ⟨⟨record.options, rfl⟩, .refl _⟩, nofun⟩
  | retryAbandoned owner =>
    refine followsOr_map.mpr ((retryTask_ends rfl deciding).mono ?_ fun _ _ h => h)
    rintro updated b' ⟨r, revises⟩
    exact ⟨nofun, r, revises, nofun⟩
  | finishCancellation =>
    refine updated_then (f := fun cancelled => _) deciding fun record b' _ goesOn same => ?_
    refine followsOr_bind.mpr ((abandonResults_stays goesOn).mono ?_ fun _ _ h => h)
    exact fun _ _ goes => ⟨nofun, ⟨_, _, record⟩, revises_of_goes same goes, nofun⟩

/-- What a round returns that has carried its decision out: an acquired task was this pod's already, or
is claimed by the update. -/
def CarriedOut (s : Settings) (t : TaskRecord) (d : Decision) (b : Rounds) (acquired : Acquired)
    (b' : Rounds) : Prop :=
  (acquired.outcome = .acquired → d.outcome = .acquired) ∧
  ((b.Goes b' ∧ (acquired.outcome = .acquired → IsClaimed s.podId t ∧ acquired.task = some t)) ∨
    ∃ r, ({ b with revision := some r, wrote := true } : Rounds).Goes b' ∧
      acquired.outcome ∈ Outcome.changing ∧
      (acquired.outcome = .acquired → acquired.task = some { r.record with options := t.options } ∧
        r.expected = (Expectation.status .submitted).unowned ∧
        ∃ now, r.change = .dispatch s.podId s.podName now))

theorem carryOut_ends {d : Decision} (own : t.id = task) (judged : Judged s.podId t d)
    (changing : d.transition ≠ .none → d.outcome ∈ Outcome.changing) (deciding : Deciding most b) :
    FollowsOr (rules task most) (carryOut s t d) b (CarriedOut s t d b) b.Fails := by
  unfold carryOut
  refine followsOr_bind.mpr (followsOr_lift.mpr ⟨deciding.goesOn, fun now _ => ?_⟩)
  refine followsOr_bind.mpr ((makeTransition_ends own deciding d.transition).mono ?_ fun _ _ h => h)
  rintro (_ | updated) b' changed
  · obtain ⟨kept, rfl⟩ := changed
    dsimp only
    split
    · refine followsOr_bind.mpr ((repairLineage_stays deciding.goesOn own).mono ?_ ?_)
      · exact fun state b'' goes => ⟨nofun, .inl ⟨goes, nofun⟩⟩
      · rintro cause _ ⟨⟨wrote, rfl⟩, final⟩
        exact .inr ⟨rfl, final⟩
    · refine ⟨id, .inl ⟨.refl _, fun acquired => ?_⟩⟩
      cases judged with
      | stays _ _ refused => exact absurd acquired refused
      | own status owner => exact ⟨⟨status, owner⟩, rfl⟩
      | claim | reset | recover | bury => cases kept
  · obtain ⟨changes, r, ⟨⟨options, rfl⟩, goes⟩, claim⟩ := changed
    refine ⟨id, .inr ⟨r, goes, changing changes, fun acquired => ⟨rfl, ?_⟩⟩⟩
    cases judged with
    | stays | own => exact absurd rfl changes
    | claim => exact ⟨(claim rfl).1, now, (claim rfl).2⟩
    | recover _ _ refused => exact absurd acquired refused
    | reset | bury => cases acquired

/-! Whole rounds. -/

/-- Every round so far has lost its update, and there is one left. -/
structure Between (most : Nat) (b : Rounds) : Prop where
  /-- Not every round has lost. -/
  goesOn : b.lost.length < most
  /-- Every round so far has. -/
  looks : b.looks = b.lost.length
  /-- Nothing is written. -/
  wrote : b.wrote = false
  /-- The task was not updated. -/
  revision : b.revision = none

/-- A round begins with what it has read. -/
structure Begun (s : Settings) (task : TaskId) (most : Nat) (b : Rounds) (situation : Situation)
    (b' : Rounds) : Prop where
  /-- The task is read. -/
  deciding : Deciding most b'
  /-- No update is lost. -/
  lost : b'.lost = b.lost
  /-- The decision is this pod's. -/
  pod : situation.pod = s.podId
  /-- It is made on the session that was read. -/
  session : situation.session = b'.session
  /-- It is made on the record that was read, with the options of the session. -/
  record : ∀ t, situation.task = some t → t.id = task ∧ ∃ read, b'.read = some read ∧
    t = b'.session.elim read fun session => read.withDefaults session.defaults

theorem readTask_ends (between : Between most b) :
    FollowsOr (rules task most) (readTask s task) b
      (fun found b' => b' = { b with looks := b.looks + 1, read := found, session := none } ∧
        ∀ t, found = some t → t.id = task)
      fun _ b' => b' = b := by
  refine followsOr_retrying (J := (· = b)) (K := (· = b)) ?_ ?_ rfl
  · rintro _ rfl
    refine ⟨⟨rfl, between.goesOn, between.looks, between.wrote⟩, fun reply credible => ?_⟩
    rcases reply with cause | _ | record
    · exact ⟨rfl, fun _ => rfl⟩
    · exact ⟨rfl, fun _ same => nomatch same⟩
    · exact ⟨rfl, fun _ same => Option.some.inj same ▸ credible⟩
  · rintro _ wait rfl
    exact ⟨between.goesOn, fun _ _ => rfl⟩

theorem readSession_ends (goesOn : b.lost.length < most) (read : b.read = some t) :
    FollowsOr (rules task most) (readSession s t.session) b
      (fun found b' => b' = { b with session := found }) fun _ b' => b' = b := by
  refine followsOr_retrying (J := (· = b)) (K := (· = b)) ?_ ?_ rfl
  · rintro _ rfl
    refine ⟨⟨goesOn, t, read, rfl⟩, fun reply _ => ?_⟩
    rcases reply with cause | found
    · exact ⟨rfl, fun _ => rfl⟩
    · rfl
  · rintro _ wait rfl
    exact ⟨goesOn, fun _ _ => rfl⟩

theorem readSituation_ends (between : Between most b) :
    FollowsOr (rules task most) (readSituation s task) b (Begun s task most b)
      fun _ b' => b'.lost = b.lost := by
  unfold readSituation
  refine followsOr_bind.mpr (followsOr_orFail.mpr ((readTask_ends between).mono ?_ ?_))
  · rintro found _ ⟨rfl, own⟩
    have deciding : ∀ session, Deciding most
        { b with looks := b.looks + 1, read := found, session := session } :=
      fun _ => ⟨between.goesOn, congrArg (· + 1) between.looks, between.wrote, between.revision⟩
    have rest : ∀ session, FollowsOr (rules task most) (do
        let now ← Call.now
        let shutdown ← Call.shutdownRequested
        return {
          task := found.map fun t => session.elim t fun session => t.withDefaults session.defaults
          session, pod := s.podId, now, dispatchTimeout := s.dispatchTimeout, shutdown
          ownerAlive := none } : Fallible AgentError Situation)
        { b with looks := b.looks + 1, read := found, session } (Begun s task most b)
        fun _ b' => b'.lost = b.lost := by
      intro session
      refine followsOr_bind.mpr (followsOr_lift.mpr ⟨between.goesOn, fun now _ => ?_⟩)
      refine followsOr_bind.mpr (followsOr_lift.mpr ⟨between.goesOn, fun shutdown _ => ?_⟩)
      refine ⟨deciding session, rfl, rfl, rfl, fun t ht => ?_⟩
      obtain ⟨read, rfl, rfl⟩ := Option.map_eq_some_iff.mp ht
      refine ⟨?_, read, rfl, rfl⟩
      cases session with
      | none => exact own read rfl
      | some session => exact own read rfl
    cases found with
    | none => exact rest none
    | some t =>
      have goesOn := (deciding none).goesOn
      refine followsOr_bind.mpr (followsOr_orFail.mpr ((readSession_ends goesOn rfl).mono ?_ ?_))
      · rintro session _ rfl
        exact rest session
      · rintro _ _ rfl
        rfl
  · rintro _ _ rfl
    rfl

/-- A decision is reached on what was read, whatever the checker answers. -/
theorem reachDecision_ends {situation : Situation} (goesOn : b.lost.length < most) :
    FollowsOr (rules task most) (reachDecision s task situation) b
      (fun d b' => b' = b ∧ ∃ alive, decide { situation with ownerAlive := alive } = .decided d)
      fun _ b' => b' = b := by
  unfold reachDecision
  split
  · next d h => exact ⟨rfl, situation.ownerAlive, h⟩
  · split
    · exact rfl
    · next t _ =>
      have asks : FollowsOr (rules task most) (isAlive s t ‹_›) b (fun _ b' => b' = b)
          fun _ b' => b' = b := by
        refine followsOr_retrying (J := (· = b)) (K := (· = b)) ?_ ?_ rfl
        · rintro _ rfl
          refine ⟨goesOn, fun reply _ => ?_⟩
          rcases reply with cause | alive
          · exact ⟨rfl, fun _ => rfl⟩
          · rfl
        · rintro _ wait rfl
          exact ⟨goesOn, fun _ _ => rfl⟩
      refine followsOr_bind.mpr (followsOr_orFail.mpr (asks.mono ?_ fun _ _ h => h))
      rintro alive _ rfl
      split
      · next d h => exact ⟨rfl, some alive, h⟩
      · exact rfl

/-- What a round returns that was not lost. -/
structure Concludes (s : Settings) (acquired : Acquired) (b : Rounds) : Prop where
  /-- A task acquired without an update was claimed by this pod before. -/
  kept : b.revision = none → acquired.outcome = .acquired →
    ∃ read session, b.read = some read ∧ b.session = some session ∧ IsClaimed s.podId read ∧
      acquired.task = some (read.withDefaults session.defaults)
  /-- An update is one that a decision asked for; a task acquired by it was free. -/
  revised : ∀ r, b.revision = some r → acquired.outcome ∈ Outcome.changing ∧
    (acquired.outcome = .acquired →
      r.expected = (Expectation.status .submitted).unowned ∧
      (∃ now, r.change = .dispatch s.podId s.podName now) ∧
      ∃ read session, b.read = some read ∧ b.session = some session ∧
        acquired.task = some { r.record with options := read.options.mergedWith session.defaults })

/-- A carried out decision concludes the acquisition. -/
theorem Begun.concludes {situation : Situation} {b' b'' : Rounds} {alive : Option Bool} {d : Decision}
    {acquired : Acquired} (begun : Begun s task most b situation b') (ht : situation.task = some t)
    (hd : decide { situation with ownerAlive := alive } = .decided d)
    (carried : CarriedOut s t d b' acquired b'') : Concludes s acquired b'' := by
  obtain ⟨same, carried⟩ := carried
  have opened : acquired.outcome = .acquired →
      ∃ session, b'.session = some session ∧ ∃ read, b'.read = some read ∧
        t = read.withDefaults session.defaults := by
    intro got
    obtain ⟨⟨-, session, hs, -⟩, -⟩ := decide_acquired.mp ⟨d, hd, same got⟩
    have read' := begun.session.symm.trans hs
    obtain ⟨-, read, hread, rfl⟩ := begun.record t ht
    exact ⟨session, read', read, hread, by rw [read']; rfl⟩
  rcases carried with ⟨⟨wrote, rfl⟩, ours⟩ | ⟨r, ⟨wrote, rfl⟩, changing, claim⟩
  · refine ⟨fun _ got => ?_, fun r hr => ?_⟩
    · obtain ⟨session, hs, read, hread, rfl⟩ := opened got
      obtain ⟨⟨status, owner⟩, task'⟩ := ours got
      exact ⟨read, session, hread, hs, ⟨status, owner⟩, task'⟩
    · exact absurd (begun.deciding.revision.symm.trans hr) nofun
  · refine ⟨nofun, fun r' hr => ?_⟩
    obtain rfl := Option.some.inj hr
    refine ⟨changing, fun got => ?_⟩
    obtain ⟨session, hs, read, hread, rfl⟩ := opened got
    obtain ⟨task', expected, change⟩ := claim got
    exact ⟨expected, change, read, session, hread, hs, task'⟩

/-- A round concludes the acquisition, or is lost with nothing written. -/
theorem acquireOnce_ends (between : Between most b) :
    FollowsOr (rules task most) (acquireOnce s task) b
      (fun
        | .ok acquired, b' => b'.lost.length < most ∧ Concludes s acquired b'
        | .error lost, b' => b'.lost = lost :: b.lost ∧ b'.looks = b'.lost.length ∧
            b'.wrote = false ∧ b'.revision = none)
      fun _ b' => b'.lost.length < most := by
  unfold acquireOnce
  refine followsOr_bind.mpr ((readSituation_ends between).mono ?_ fun _ b' h => h ▸ between.goesOn)
  rintro situation b₁ begun
  have goesOn := begun.deciding.goesOn
  refine followsOr_bind.mpr ((reachDecision_ends goesOn).mono ?_ fun _ b' h => h ▸ goesOn)
  rintro d _ ⟨rfl, alive, hd⟩
  split
  · next missing =>
    rw [decide_of_missing (s := { situation with ownerAlive := alive }) missing] at hd
    cases hd
    exact ⟨goesOn, nofun, fun r hr => absurd (begun.deciding.revision.symm.trans hr) nofun⟩
  · next t ht =>
    have judged : Judged s.podId t d := by
      have := judged_of_decide (s := { situation with ownerAlive := alive }) ht hd
      rwa [begun.pod] at this
    have changing : d.transition ≠ .none → d.outcome ∈ Outcome.changing :=
      outcome_of_decide (s := { situation with ownerAlive := alive }) ht hd
    refine followsOr_bind.mpr (followsOr_attempt.mpr
      ((carryOut_ends (begun.record t ht).1 judged changing begun.deciding).mono ?_ ?_))
    · intro acquired b'' carried
      refine ⟨?_, begun.concludes ht hd carried⟩
      rcases carried.2 with ⟨⟨wrote, rfl⟩, -⟩ | ⟨r, ⟨wrote, rfl⟩, -⟩ <;> exact goesOn
    · rintro cause b'' (⟨lost, rfl, rfl⟩ | ⟨same, final⟩)
      · obtain ⟨-, looks, wrote, revision⟩ := begun.deciding
        exact ⟨congrArg _ begun.lost, looks, wrote, revision⟩
      · split
        · next h => cases h
        · next lost h => exact absurd (Except.error.inj h) (final lost)
        · exact show b''.lost.length < most from same ▸ goesOn

/-- What an acquisition returns: a round has concluded it, or every round has lost and the last one says
what became of the task. -/
def Returns (s : Settings) (most : Nat) (acquired : Acquired) (b : Rounds) : Prop :=
  (b.lost.length < most ∧ Concludes s acquired b) ∨
    ∃ lost earlier, b.lost = lost :: earlier ∧ b.lost.length = most ∧ b.wrote = false ∧
      acquired = .gaveUp lost

theorem acquireWithin_ends {left : Nat} (between : Between most b)
    (rest : b.lost.length + left + 1 = most) :
    FollowsOr (rules task most) (acquireWithin s task left) b (Returns s most)
      fun _ b' => b'.lost.length < most := by
  induction left generalizing b with
  | zero =>
    refine followsOr_bind.mpr ((acquireOnce_ends between).mono ?_ fun _ _ h => h)
    rintro (lost | acquired) b' h
    · obtain ⟨again, looks, wrote, revision⟩ := h
      exact .inr ⟨lost, b.lost, again, by rw [again, List.length_cons]; omega, wrote, rfl⟩
    · exact .inl h
  | succ left ih =>
    refine followsOr_bind.mpr ((acquireOnce_ends between).mono ?_ fun _ _ h => h)
    rintro (lost | acquired) b' h
    · obtain ⟨again, looks, wrote, revision⟩ := h
      have longer : b'.lost.length = b.lost.length + 1 := by rw [again, List.length_cons]
      exact ih ⟨by omega, looks, wrote, revision⟩ (by omega)
    · exact .inl h

/-- An acquisition keeps the rules for as many rounds as the settings allow. -/
theorem acquire_ends (atLeast : 1 ≤ s.maxRounds) :
    FollowsOr (rules task s.maxRounds) (acquire s task) {} (Returns s s.maxRounds)
      fun _ b' => b'.lost.length < s.maxRounds := by
  have rest : 0 + (s.maxRounds - 1) + 1 = s.maxRounds := by omega
  exact acquireWithin_ends ⟨atLeast, rfl, rfl, rfl⟩ rest

end Rounds

end GridAgent.Cluster
