import GridAgent.Proofs.Handler.Looking

/-!
# What becomes of the message

A handler decides on its message at most once, and it decides when the handling has succeeded: nothing
that may fail comes after the decision but the decision itself. So a handling that fails leaves the
message undecided. The execution that a handler registers it unregisters before it decides. All this
holds whatever the collaborators answer.
-/

namespace GridAgent.Cluster

open Agent Program

/-- What a handler has done about its message and about an execution. -/
structure Docket where
  /-- What it decided on the message; nothing yet, or to wait. -/
  decided : Option Disposition := none
  /-- How the settlement of the message was answered; nothing before it. -/
  settled : Option (Except QueueError Unit) := none
  /-- The execution that is registered. -/
  run : Option RunId := none

namespace Docket

variable {message : DeliveryId} {k : Docket} {s : Settings} {task : TaskId}

/-- What a handler may ask: there is one execution at a time, and one decision and one settlement of the
message, with no execution left. -/
def May (message : DeliveryId) (k : Docket) : Request → Prop
  | .register _ => k.run = none
  | .unregister run => k.run = some run
  | .dispose other _ => other = message ∧ k.settled = none ∧ k.decided = none
  | .settle other => other = message ∧ k.settled = none ∧ k.run = none
  | _ => True

/-- A decision as a delivery records it: to wait is not recorded. -/
def recorded (disposition : Disposition) : Option Disposition :=
  if disposition ≠ .waiting then some disposition else none

/-- What is recorded says what was decided. -/
theorem recorded_getD (disposition : Disposition) :
    (recorded disposition).getD .waiting = disposition := by
  cases disposition <;> rfl

/-- The docket after an answer. -/
def note (k : Docket) : (request : Request) → request.Reply → Docket
  | .register _, some run => { k with run := some run }
  | .unregister _, _ => { k with run := none }
  | .dispose _ disposition, .ok () => { k with decided := recorded disposition }
  | .settle _, reply => { k with settled := some reply }
  | _, _ => k

/-- The rules for a handler of a message. -/
def rules (message : DeliveryId) : Conduct collaborators Docket :=
  ⟨May message, fun _ _ => True, note⟩

/-- Whatever decides on nothing is allowed, and is not noted. -/
theorem aside {request : Request} (h : request.isDecisive = false) :
    (rules message).may k request ∧ ∀ reply, (rules message).note k request reply = k := by
  cases request <;> first | exact ⟨trivial, fun _ => rfl⟩ | cases h

/-- The acquisition decides on nothing. -/
theorem acquire_keeps : Keeps (rules message) (acquire s task).run k := by
  have goes : Goes s none (acquire s task) fun acquired look => Sees acquired look := acquire_goes
  refine keeps_of_followsOr ((goes.along (J := fun _ k' => k' = k) ?_ rfl).mono ?_ ?_)
  · rintro look _ request rfl may
    exact aside may.1
  · rintro acquired k' ⟨look, same, -⟩
    exact same
  · rintro cause k' ⟨look, same⟩
    exact same

/-- The execution decides on nothing. -/
theorem execute_keeps {t : TaskRecord} {run : RunId} :
    Keeps (rules message) (execute s t run).run k :=
  RunsErrands.execute.keeps fun _ he => aside he.isDecisive

/-- A decision is recorded if it is accepted. -/
theorem dispose_follows {disposition : Disposition} (undecided : k.decided = none)
    (unsettled : k.settled = none) :
    FollowsOr (rules message) (dispose message disposition) k
      (fun _ k' => k' = { k with decided := recorded disposition }) fun _ k' => k' = k := by
  refine followsOr_orFail.mpr ⟨⟨rfl, unsettled, undecided⟩, fun reply _ => ?_⟩
  rcases reply with cause | _ <;> exact rfl

/-- What the docket says after a handling that ended in some way: what the report says was decided, and
nothing after a failure. -/
def after : Except AgentError HandlerReport → Docket
  | .ok report => { decided := recorded report.disposition }
  | .error _ => {}

/-- The handling of an acquired task decides as it reports, or fails and decides nothing. -/
theorem executeRegistered_follows {report : HandlerReport} {t : TaskRecord} :
    FollowsOr (rules message) (executeRegistered s message report t) {}
      (fun report k => k = after (.ok report)) fun cause k => k = after (.error cause) := by
  unfold executeRegistered
  refine followsOr_bind.mpr (followsOr_lift.mpr ⟨rfl, fun registered _ => ?_⟩)
  cases registered with
  | none =>
    refine followsOr_bind.mpr ((dispose_follows rfl rfl).mono ?_ fun _ _ h => h)
    rintro _ _ rfl
    exact rfl
  | some run =>
    refine keeps_attempt execute_keeps fun outcome => ?_
    refine followsOr_bind.mpr (followsOr_lift.mpr ⟨rfl, fun _ _ => ?_⟩)
    refine followsOr_bind.mpr (followsOr_lift.mpr ⟨trivial, fun _ _ => ?_⟩)
    cases outcome with
    | error cause => exact followsOr_bind.mpr (followsOr_resume_error.mpr rfl)
    | ok resolution =>
      refine followsOr_bind.mpr (followsOr_resume_ok.mpr ?_)
      refine followsOr_bind.mpr ((dispose_follows rfl rfl).mono ?_ fun _ _ h => h)
      rintro _ _ rfl
      exact rfl

/-- The handling decides as it reports, or fails and decides nothing. -/
theorem process_follows :
    (process s message task).run.Follows (rules message) {} fun processed k => k = after processed := by
  suffices h : FollowsOr (rules message) (process s message task) {}
      (fun report k => k = after (.ok report)) fun cause k => k = after (.error cause) by
    refine Follows.mono h ?_
    rintro (cause | report) k same <;> exact same
  unfold process
  refine acquire_keeps.orFail (fun acquired => ?_) fun _ => rfl
  simp only
  split
  · exact executeRegistered_follows
  · refine followsOr_bind.mpr ((dispose_follows rfl rfl).mono ?_ fun _ _ h => h)
    rintro _ _ rfl
    exact rfl

end Docket

end GridAgent.Cluster
