import GridAgent.Proofs.Handler.Errands

/-!
# The deadline of a call

The end of the time that a call to the worker may take is reckoned from the options of the task, with
the defaults of its session filled in, and the clock. A handler breaks off there and nowhere else, and
only if that end lies beyond the calendar. Otherwise it comes to the settlement of its message.
-/

namespace GridAgent.Cluster

open Agent Program Acquisition

/-- What a handler reckons a deadline from, and the messages it has settled. -/
structure Reckoning where
  /-- The task as it was read last. -/
  record : Option TaskRecord := none
  /-- The session as it was read since then. -/
  session : Option SessionRecord := none
  /-- The last clock reading. -/
  clock : Option Date := none
  /-- The settled messages. -/
  settled : List DeliveryId := []

namespace Reckoning

variable {r : Reckoning} {s : Settings} {message : DeliveryId} {task : TaskId} {t : TaskRecord}
  {run : RunId}

/-- The reckoning after an answer. -/
def note (r : Reckoning) : (request : Request) → request.Reply → Reckoning
  | .readTask _, .ok found => { r with record := found, session := none }
  | .readSession _, .ok found => { r with session := found }
  | .now, date => { r with clock := some date }
  | .settle message, _ => { r with settled := message :: r.settled }
  | _, _ => r

/-- The options of the task with the defaults of its session. -/
def options (r : Reckoning) : Option Options :=
  r.record.map fun t => r.session.elim t.options fun session => t.options.mergedWith session.defaults

theorem options_eq {session : Option SessionRecord} (record : r.record = some t)
    (found : r.session = session) : r.options =
      some (session.elim t fun session => t.withDefaults session.defaults).options := by
  unfold options
  rw [record, found]
  cases session <;> rfl

/-- A call that begins now would have to end beyond the calendar. -/
def Overdue (r : Reckoning) : Prop :=
  ∃ options now millis, r.options = some options ∧ r.clock = some now ∧
    options.maxDurationMillis = some millis ∧ millis < Nat.pow 2 63 ∧
    now.add? (.ofMillis millis) = none

/-- What a handler may ask: it breaks off only before a call that would end beyond the calendar, and
settles only once. -/
def May (r : Reckoning) : Request → Prop
  | .breakOff _ => r.Overdue ∧ r.settled = []
  | .settle _ => r.settled = []
  | _ => True

/-- The rules for a handler. -/
def rules : Conduct collaborators Reckoning := ⟨May, fun _ _ => True, note⟩

/-- The options are those of the task, and nothing is settled. -/
structure Knows (t : TaskRecord) (r : Reckoning) : Prop where
  /-- The options are known. -/
  options : r.options = some t.options
  /-- Nothing is settled. -/
  settled : r.settled = []

/-- Chores leave what a deadline is reckoned from but for the clock. -/
theorem letsChores (pod : PodId) : LetsChores pod rules (Knows t) := by
  rintro request chore r ⟨known, unsettled⟩
  cases request with
  | readTask | readSession | register | unregister | dispose | settle | breakOff => exact chore.elim
  | _ => exact ⟨trivial, fun _ => ⟨known, unsettled⟩⟩

/-- Chores settle nothing. -/
theorem letsChores_unsettled (pod : PodId) : LetsChores pod rules fun r => r.settled = [] := by
  rintro request chore r unsettled
  cases request with
  | readTask | readSession | register | unregister | dispose | settle | breakOff => exact chore.elim
  | _ => exact ⟨trivial, fun _ => unsettled⟩

/-- A deadline is found inside the calendar, or the handler breaks off. -/
theorem letsDeadline : LetsChores.LetsDeadline rules (Knows t) t run := by
  rintro r now ⟨known, unsettled⟩
  unfold callDeadline
  split
  · exact ⟨known, unsettled⟩
  · next millis bounded =>
    split
    · exact ⟨known, unsettled⟩
    · next short =>
      split
      · exact ⟨known, unsettled⟩
      · next beyond =>
        have overdue : Overdue (r.note .now now) :=
          ⟨t.options, now, millis, known, rfl, bounded, Nat.lt_of_not_le short, beyond⟩
        exact followsOr_bind.mpr (followsOr_lift.mpr ⟨⟨overdue, unsettled⟩, fun never => nomatch never⟩)

/-- An execution breaks off over a deadline only. -/
theorem execute_preserves : PreservesOr rules (Knows t) (execute s t run) :=
  (letsChores s.podId).execute letsDeadline

/-! Acquisition. -/

/-- A program that ends with a task, if it does, whose options are known. -/
abbrev Finds {α : Type} (p : Fallible AgentError α) (task? : α → Option TaskRecord) : Prop :=
  ∀ r : Reckoning, r.settled = [] → FollowsOr rules p r
    (fun value r' => r'.settled = [] ∧ ∀ t, task? value = some t → Knows t r')
    fun _ r' => r'.settled = []

/-- A call that is only noted is tried until it is answered. -/
theorem tried {ε α : Type} [Transient ε] {p : Fallible ε α} {P : α → Reckoning → Prop}
    (call : ∀ r : Reckoning, r.settled = [] → FollowsOr rules p r P fun _ r' => r'.settled = [])
    (unsettled : r.settled = []) :
    FollowsOr rules (retrying s p) r P fun _ r' => r'.settled = [] :=
  followsOr_retrying (J := fun r => r.settled = []) (K := fun r => r.settled = [])
    (fun r' h => (call r' h).mono (fun _ _ h => h) fun _ _ h => ⟨h, fun _ => h⟩)
    (fun _ _ h => ⟨trivial, fun _ _ => follows_done.mpr h⟩) unsettled

theorem readTask_follows (unsettled : r.settled = []) :
    FollowsOr rules (readTask s task) r
      (fun found r' => r'.settled = [] ∧ r'.record = found ∧ r'.session = none)
      fun _ r' => r'.settled = [] := by
  refine tried (fun r unsettled => ⟨trivial, fun reply _ => ?_⟩) unsettled
  rcases reply with cause | found
  · exact unsettled
  · exact ⟨unsettled, rfl, rfl⟩

theorem readSession_follows {session : SessionId} (unsettled : r.settled = []) :
    FollowsOr rules (readSession s session) r
      (fun found r' => r'.settled = [] ∧ r'.record = r.record ∧ r'.session = found)
      fun _ r' => r'.settled = [] := by
  refine followsOr_retrying (J := fun r' => r'.settled = [] ∧ r'.record = r.record)
    (K := fun r' => r'.settled = [] ∧ r'.record = r.record) ?_
    (fun _ _ h => ⟨trivial, fun _ _ => follows_done.mpr h⟩) ⟨unsettled, rfl⟩
  rintro r' ⟨unsettled, same⟩
  refine ⟨trivial, fun reply _ => ?_⟩
  rcases reply with cause | found
  · exact ⟨unsettled, fun _ => ⟨unsettled, same⟩⟩
  · exact ⟨unsettled, same, rfl⟩

/-- The task is read with the options that a deadline is reckoned from. -/
theorem readSituation_finds : Finds (readSituation s task) Situation.task := by
  intro r unsettled
  unfold readSituation
  refine followsOr_bind.mpr (followsOr_orFail.mpr ((readTask_follows unsettled).mono ?_ fun _ _ h => h))
  rintro record r₁ ⟨unsettled, hr, -⟩
  cases record with
  | none =>
    refine followsOr_bind.mpr (followsOr_pure.mpr (followsOr_bind.mpr ?_))
    refine followsOr_lift.mpr ⟨trivial, fun now _ => followsOr_bind.mpr ?_⟩
    exact followsOr_lift.mpr ⟨trivial, fun shutdown _ => ⟨unsettled, fun t ht => nomatch ht⟩⟩
  | some t =>
    refine followsOr_bind.mpr (followsOr_orFail.mpr
      ((readSession_follows unsettled).mono ?_ fun _ _ h => h))
    rintro session r₂ ⟨unsettled, same, found⟩
    refine followsOr_bind.mpr (followsOr_lift.mpr ⟨trivial, fun now _ => followsOr_bind.mpr ?_⟩)
    refine followsOr_lift.mpr ⟨trivial, fun shutdown _ => ⟨unsettled, ?_⟩⟩
    rintro _ ⟨⟩
    exact ⟨(options_eq (same.trans hr) found :), unsettled⟩

/-- The change that a decision asks for leaves what a deadline is reckoned from. -/
theorem makeTransition_preserves {now : Date} {change : Transition} :
    PreservesOr rules (Knows t) (makeTransition s t now change) := by
  cases change with
  | resetToSubmitted owner =>
    refine (letsChores owner).makeTransition ?_
    rintro _ ⟨⟩
    rfl
  | _ => exact (letsChores s.podId).makeTransition nofun

/-- A decision is carried out on the task with its options. -/
theorem carryOut_follows {d : Decision} (knows : Knows t r) :
    FollowsOr rules (carryOut s t d) r
      (fun acquired r' => r'.settled = [] ∧ ∀ t', acquired.task = some t' → Knows t' r')
      fun _ r' => r'.settled = [] := by
  unfold carryOut
  refine followsOr_bind.mpr (followsOr_lift.mpr ⟨trivial, fun now _ => ?_⟩)
  have read : Knows t (r.note .now now) := ⟨knows.options, knows.settled⟩
  refine followsOr_bind.mpr ((makeTransition_preserves.follows read).mono ?_ fun _ _ h => h.settled)
  rintro (_ | updated) r' knows
  · simp only
    split
    · have repairs : PreservesOr rules (Knows t) (repairLineage s t) :=
        (letsChores s.podId).repairLineage
      refine followsOr_bind.mpr ((repairs.follows knows).mono ?_ fun _ _ h => h.settled)
      rintro state r'' knows
      refine ⟨knows.settled, ?_⟩
      rintro _ ⟨⟩
      exact knows
    · refine ⟨knows.settled, ?_⟩
      rintro _ ⟨⟩
      exact knows
  · refine ⟨knows.settled, ?_⟩
    rintro _ ⟨⟩
    exact ⟨knows.options, knows.settled⟩

/-- A round ends with a task whose options are known, or without one. -/
theorem acquireOnce_follows (unsettled : r.settled = []) :
    FollowsOr rules (acquireOnce s task) r
      (fun round r' => r'.settled = [] ∧
        ∀ acquired t, round = .ok acquired → acquired.task = some t → Knows t r')
      fun _ r' => r'.settled = [] := by
  unfold acquireOnce
  refine followsOr_bind.mpr ((readSituation_finds r unsettled).mono ?_ fun _ _ h => h)
  rintro situation r₁ ⟨unsettled, knows⟩
  cases ht : situation.task with
  | none =>
    have decides : PreservesOr rules (fun r => r.settled = []) (reachDecision s task situation) :=
      (letsChores_unsettled s.podId).reachDecision
    refine followsOr_bind.mpr ((decides.follows unsettled).mono ?_ fun _ _ h => h)
    rintro d r₂ unsettled
    refine ⟨unsettled, ?_⟩
    rintro _ t ⟨⟩ found
    cases found
  | some t =>
    have decides : PreservesOr rules (Knows t) (reachDecision s task situation) :=
      (letsChores s.podId).reachDecision
    refine followsOr_bind.mpr ((decides.follows (knows t ht)).mono ?_ fun _ _ h => h.settled)
    rintro d r₂ knows
    refine followsOr_bind.mpr (followsOr_attempt.mpr ((carryOut_follows knows).mono ?_ ?_))
    · rintro acquired r₃ ⟨unsettled, knows⟩
      refine ⟨unsettled, ?_⟩
      rintro _ t ⟨⟩ found
      exact knows t found
    · rintro cause r₃ unsettled
      split
      · next e => cases e
      · exact ⟨unsettled, fun _ _ e => nomatch e⟩
      · exact unsettled

/-- Acquisition ends with a task whose options are known, or without one. -/
theorem acquire_finds : Finds (acquire s task) Acquired.task := by
  suffices h : ∀ left, Finds (acquireWithin s task left) Acquired.task from h _
  intro left
  induction left with
  | zero =>
    refine fun r unsettled =>
      followsOr_bind.mpr ((acquireOnce_follows unsettled).mono ?_ fun _ _ h => h)
    rintro (lost | acquired) r' ⟨unsettled, knows⟩
    · exact ⟨unsettled, fun t found => nomatch found⟩
    · exact ⟨unsettled, fun t => knows acquired t rfl⟩
  | succ left ih =>
    refine fun r unsettled =>
      followsOr_bind.mpr ((acquireOnce_follows unsettled).mono ?_ fun _ _ h => h)
    rintro (lost | acquired) r' ⟨unsettled, knows⟩
    · exact ih r' unsettled
    · exact ⟨unsettled, fun t => knows acquired t rfl⟩

/-! The whole handler. -/

/-- Deciding on the message settles nothing. -/
theorem dispose_preserves {disposition : Disposition} :
    PreservesOr rules (fun r => r.settled = []) (dispose message disposition) :=
  have asks : Allows rules (fun r => r.settled = []) (.dispose message disposition) :=
    fun _ unsettled => ⟨trivial, fun _ => unsettled⟩
  PreservesOr.orFail asks.call

/-- The handling of a task whose options are known settles nothing. -/
theorem executeRegistered_follows {report : HandlerReport} (knows : Knows t r) :
    FollowsOr rules (executeRegistered s message report t) r (fun _ r' => r'.settled = [])
      fun _ r' => r'.settled = [] := by
  unfold executeRegistered
  refine followsOr_bind.mpr (followsOr_lift.mpr ⟨trivial, fun registered _ => ?_⟩)
  cases registered with
  | none => exact (dispose_preserves.andThen fun _ => .pure).follows knows.settled
  | some run =>
    have executed : PreservesOr rules (Knows t) (execute s t run) := execute_preserves
    have known : Knows t (r.note (.register report.task) (some run)) := ⟨knows.options, knows.settled⟩
    refine executed.attemptedInto known (fun _ h => h.settled) fun outcome => ?_
    refine .asked (.unregister run) (fun _ h => ⟨trivial, fun _ => h⟩) fun _ => ?_
    refine .asked (.clearScratch report.task) (fun _ h => ⟨trivial, fun _ => h⟩) fun _ => ?_
    exact (PreservesOr.resumed outcome).andThen fun _ => dispose_preserves.andThen fun _ => .pure

/-- Nothing is settled before the handling has ended. -/
theorem process_follows :
    FollowsOr rules (process s message task) {} (fun _ r' => r'.settled = [])
      fun _ r' => r'.settled = [] := by
  unfold process
  refine followsOr_bind.mpr ((acquire_finds {} rfl).mono ?_ fun _ _ h => h)
  rintro acquired r ⟨unsettled, knows⟩
  simp only
  split
  · next t _ found => exact executeRegistered_follows (knows t found)
  · exact (dispose_preserves.andThen fun _ => .pure).follows unsettled

end Reckoning

end GridAgent.Cluster
