import GridAgent.Proofs.Cluster.Settlements
import GridAgent.Proofs.Handler.Deadline
import GridAgent.Proofs.Program.Respondent
import GridAgent.Proofs.Results
import GridAgent.Proofs.Settlement

/-!
# Dates of a handler

Of all the reckoning with dates that a handler does only one sum can leave the calendar: the end of a
call to the worker, taken from the clock and the longest duration that the task or its session sets. A
handler that is answered settles its message once, unless that end lies beyond the calendar. Then it
breaks off, and its message stays in flight for good.
-/

namespace GridAgent

/-- The time between two dates is fewer milliseconds than a signed count of 64 bits can hold. -/
theorem Date.between_lt (d e : Date) :
    (d.nanos - e.nanos).natAbs < Nat.pow 2 63 * Span.nanosPerMilli := by
  obtain ⟨⟨lower, upper⟩, ⟨lower', upper'⟩⟩ := And.intro d.inCalendar e.inCalendar
  have room : Nat.pow 2 63 * Span.nanosPerMilli = 9223372036854775808000000 := rfl
  omega

namespace Cluster

open Agent Program

variable {s : Settings} {message : DeliveryId} {task : TaskId}

namespace Reckoning

/-- A handler settles once. -/
theorem handleMessage_follows :
    (handleMessage s message task).run.Follows rules {} fun _ r => r.settled = [message] := by
  rw [handleMessage_eq]
  refine follows_bind.mpr (Follows.mono process_follows ?_)
  rintro (cause | report) r unsettled
  · exact ⟨unsettled, fun reply _ => congrArg (message :: ·) unsettled⟩
  · exact ⟨unsettled, fun reply _ => congrArg (message :: ·) unsettled⟩

end Reckoning

/-- Whatever can be answered is answered. -/
def Willing (respond : Respondent collaborators) : Prop :=
  ∀ past request, Nonempty (collaborators.Reply request) → (respond past request).isSome = true

/-- A willing respondent leaves a handler unanswered only when it breaks off. -/
theorem Willing.breaksOff {respond : Respondent collaborators} (willing : Willing respond)
    {past : List (Exchange collaborators)} {request : Request} (silent : respond past request = none) :
    ∃ run, request = .breakOff run := by
  rcases Bench.answerable { queue := {} } request with broken | ⟨reply, -⟩
  · exact broken
  · have answered := willing past request ⟨reply⟩
    rw [silent] at answered
    cases answered

/-- Dates do not keep a handler from settling its message, but for one sum. The time between any two
dates has room in 64 bits. And a handler that is answered whatever it asks, in any way, comes to its end
and has settled its message once, or it breaks off with nothing settled because the longest duration of
the call, counted from the last clock reading, ends beyond the calendar. -/
theorem settled_unless_overdue {respond : Respondent collaborators} (willing : Willing respond) :
    (∀ d e : Date, (d.nanos - e.nanos).natAbs < Nat.pow 2 63 * Span.nanosPerMilli) ∧
    ((∃ past outcome, (handleMessage s message task).run.meet respond [] = (past, .done outcome) ∧
        (booksAfter Reckoning.rules {} past).settled = [message]) ∨
      ∃ past run next,
        (handleMessage s message task).run.meet respond [] = (past, .call (.breakOff run) next) ∧
        (booksAfter Reckoning.rules {} past).settled = [] ∧
        (booksAfter Reckoning.rules {} past).Overdue) := by
  refine ⟨Date.between_lt, ?_⟩
  have follows : (handleMessage s message task).run.Follows Reckoning.rules
      (booksAfter Reckoning.rules {} []) fun _ r => r.settled = [message] :=
    Reckoning.handleMessage_follows
  have left := follows.meet respond fun _ _ => trivial
  have stops := meet_stops respond (handleMessage s message task).run []
  generalize (handleMessage s message task).run.meet respond [] = met at left stops
  obtain ⟨past, rest⟩ := met
  rcases stops with ⟨outcome, rfl⟩ | ⟨request, next, rfl, silent⟩
  · exact .inl ⟨past, outcome, rfl, left⟩
  · obtain ⟨run, rfl⟩ := willing.breaksOff silent
    exact .inr ⟨past, run, next, rfl, left.1.2, left.1.1⟩

/-! A duration of a second. -/

/-- A submitted task whose call to the worker may take a second. -/
def briefTask : TaskRecord := { plainTask with options := { maxDurationMillis := some 1000 } }

/-- One second past six in the morning. -/
def secondLater : Date := { nanos := 21601000000000, inCalendar := by decide }

/-- The record of the task after some exchanges, the latest first. -/
def recordAfter : List (Exchange collaborators) → TaskRecord
  | [] => briefTask
  | ⟨.updateTask .., .ok (t : TaskRecord)⟩ :: _ => t
  | _ :: past => recordAfter past

/-- Somebody who keeps the record of the task, and with whom nothing goes wrong. -/
def attentive : Respondent collaborators
  | _, .now => some morning
  | _, .newTaskId => some (.ofNat 0 : TaskId)
  | past, .readTask _ => some (.ok (some (recordAfter past)))
  | past, .updateTask _ _ change => some (.ok ((recordAfter past).apply change))
  | _, .createSuccessor _ candidate => some (.ok candidate)
  | _, .findSuccessor _ => some (.ok none)
  | _, .readSession session => some (.ok (some (SessionRecord.running session)))
  | _, .isAlive .. => some (.ok true)
  | _, .fetch _ => some (.ok [])
  | _, .register _ => some (some 0)
  | _, .connect .. => some (.ok 0)
  | _, .awaitReply .. => some (.ok .success)
  | _, .probeLiveness => some HealthReport.healthy
  | _, .push _ | _, .finalize _ | _, .abandon _ => some (.ok ())
  | _, .makeScratch _ | _, .saveScratch .. => some (.ok ())
  | _, .send .. | _, .finishSending .. | _, .dispose .. | _, .settle _ => some (.ok ())
  | _, .shutdownRequested | _, .stopRequested _ | _, .requestStop _ => some false
  | _, .pause _ | _, .clearScratch _ | _, .unregister _ | _, .cancel _ => some ()
  | _, .beginWatch _ | _, .endWatch _ | _, .hangUp _ => some ()
  | _, .breakOff _ => none

theorem attentive_willing : Willing attentive := by
  rintro past request ⟨reply⟩
  cases request with
  | breakOff run => exact reply.elim
  | _ => rfl

/-- The status that a handler has come to report. -/
def reported? : Program collaborators (Except AgentError HandlerReport) → Option TaskStatus
  | .done (.ok report) => report.status
  | _ => none

/-- The exchange opens a stream for a call that has to end by then. -/
def opensUntil (deadline : Date) (x : Exchange collaborators) : Bool :=
  match x.request with
  | .connect _ _ ends => ends = some deadline
  | _ => false

/-- A call that may take a second is reckoned to end within the calendar, and the handler completes
the task and settles its message. -/
theorem settled_unless_overdue_brief : ∃ past report,
    (handleMessage (plainFleet.settings ⟨"first"⟩) 1 briefTask.id).run.meet attentive [] =
      (past, .done (.ok report)) ∧ report.status = some .completed ∧
      past.any (opensUntil secondLater) = true ∧
      (booksAfter Reckoning.rules {} past).settled = [1] := by
  have settles := @settled_unless_overdue (plainFleet.settings ⟨"first"⟩) 1 briefTask.id _
    attentive_willing
  have completed : reported? ((handleMessage (plainFleet.settings ⟨"first"⟩) 1 briefTask.id).run.meet
      attentive []).2 = some .completed := by decide +kernel
  have opened : ((handleMessage (plainFleet.settings ⟨"first"⟩) 1 briefTask.id).run.meet
      attentive []).1.any (opensUntil secondLater) = true := by decide +kernel
  obtain ⟨-, ⟨past, outcome, ended, settled⟩ | ⟨past, run, next, broken, -⟩⟩ := settles
  · rw [ended] at completed opened
    cases outcome with
    | ok report => exact ⟨past, report, ended, completed, opened, settled⟩
    | error cause => cases completed
  · rw [broken] at completed
    cases completed

/-! A duration that nobody lives to see. -/

/-- The longest duration that counts as one: nearly three hundred million years. -/
def endless : Options := { maxDurationMillis := some (Nat.pow 2 63 - 1) }

/-- A handler of a task in a session with that duration is about to call the worker. -/
def endlessCluster : State :=
  (plainStart.play plainFleet (handling 1 plainTask.id 0 (trying endless (.ok .success)) 15)).getD
    plainStart

/-- The claim is taken, the handler has broken off, and whatever happens afterwards the message stays in
its hands, and is never settled. -/
theorem overdue_message_lost : ∃ c, Reaches plainFleet anyEvent plainStart c ∧
    (c.shared.store.get? plainTask.id).map (fun t => (t.status, t.owner)) =
      some (.dispatched, some ⟨"first"⟩) ∧
    ∃ a, a.job = .handle 1 plainTask.id ∧ a.isBroken = true ∧
      ∀ c', Reaches plainFleet anyEvent c c' →
        c'.actors[0]? = some a ∧ (c'.shared.queue.held? 1).isSome = true := by
  have run : Reaches plainFleet anyEvent plainStart endlessCluster := .of_played fun _ _ => trivial
  have there : endlessCluster.actors[0]? = some (plainActor endlessCluster 0) := rfl
  refine ⟨endlessCluster, run, rfl, plainActor endlessCluster 0, rfl, rfl, fun c' run' => ?_⟩
  have stays : c'.actors[0]? = some (plainActor endlessCluster 0) := by
    apply run'.invariant
    · exact there
    · intro d d' event reached same _ performed
      exact ((run.trans reached).sound plainStart_initial).over_stays performed same (.inr rfl)
  have custody := (run.trans run').custody plainStart_initial
  have keeps := custody.keeps _ (List.mem_of_getElem? stays) 1 rfl
  obtain ⟨delivery, held, -⟩ := keeps.held rfl
  exact ⟨stays, Option.isSome_iff_exists.mpr ⟨delivery, held⟩⟩

end Cluster

end GridAgent
