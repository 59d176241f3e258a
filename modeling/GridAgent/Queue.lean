import GridAgent.Error
import GridAgent.Health.Report
import GridAgent.Table

/-!
# The queue

The queue delivers task identifiers at least once. A delivery stays in flight until its holder
settles it, and then its disposition says what happens: it is done with, rejected for good, or
becomes visible again after the redelivery delay. A disposition is `waiting` until it is set and can
be set once. Moments are counted in milliseconds of a timer that the queue is told.
-/

namespace GridAgent

/-- A message in the hands of a holder. -/
structure Delivery where
  /-- The delivered task. -/
  task : TaskId
  /-- What the holder decided; nothing yet when unset. -/
  decided : Option Disposition := none
  deriving DecidableEq, Repr

/-- What the holder decided, `waiting` for nothing. -/
def Delivery.disposition (d : Delivery) : Disposition := d.decided.getD .waiting

/-- A message on its way back into the queue. -/
structure Redelivery where
  /-- Moment at which the message becomes visible. -/
  due : Nat
  /-- The task to be delivered again. -/
  task : TaskId
  deriving DecidableEq, Repr

/-- State of the queue. -/
structure Queue where
  /-- Milliseconds until a released message becomes visible again. -/
  redeliveryDelay : Nat := 0
  /-- Visible messages, in order. -/
  ready : List TaskId := []
  /-- Released messages that are not visible yet, in order of release. -/
  delayed : List Redelivery := []
  /-- Deliveries that are not settled. -/
  held : Table DeliveryId Delivery := .empty
  /-- Number of deliveries in flight. -/
  inFlight : Nat := 0
  /-- Number of deliveries made so far. -/
  delivered : Nat := 0
  /-- Messages that are done with, in order of settlement. -/
  acked : List TaskId := []
  /-- Rejected messages, in order of settlement. -/
  deadLetters : List TaskId := []
  /-- Every settlement, in order. -/
  settlements : List (TaskId × Disposition) := []
  /-- Pulls still to fail. -/
  failures : Nat := 0
  /-- Answer to probes; healthy when unset. -/
  health : Option HealthReport := none

namespace Queue

instance : Inhabited Queue := ⟨{}⟩

/-- Answer to a probe. -/
def report (q : Queue) : HealthReport := q.health.getD .healthy

/-- Makes messages visible, behind the ones that are. -/
def push (q : Queue) (tasks : List TaskId) : Queue := { q with ready := q.ready ++ tasks }

/-- Hands a message to a holder. -/
def deliver (q : Queue) (task : TaskId) : DeliveryId × Queue :=
  let message : DeliveryId := q.delivered + 1
  (message,
    { q with
      held := q.held.set message { task }
      inFlight := q.inFlight + 1
      delivered := q.delivered + 1 })

/-- Hands several messages to a holder, in order. -/
def deliverAll (q : Queue) : List TaskId → List DeliveryId × Queue
  | [] => ([], q)
  | task :: rest =>
    let (message, q) := q.deliver task
    let (messages, q) := q.deliverAll rest
    (message :: messages, q)

/-- What a look at the queue finds. -/
inductive Pull where
  /-- The look failed. -/
  | failed (cause : QueueError)
  /-- Nothing is visible. -/
  | nothing
  /-- Messages were handed out. -/
  | messages (ids : List DeliveryId)

/-- Looks for up to `most` messages. -/
def take (q : Queue) (most : Nat) : Pull × Queue :=
  if 0 < q.failures then
    (.failed (.unavailable "injected failure"), { q with failures := q.failures - 1 })
  else if q.ready.isEmpty then (.nothing, q)
  else
    let (messages, q') := { q with ready := q.ready.drop most }.deliverAll (q.ready.take most)
    (.messages messages, q')

/-- The message in the hands of its holder. -/
def held? (q : Queue) (message : DeliveryId) : Option Delivery := q.held.get? message

/-- What the holder of a message decided, `waiting` for nothing. -/
def dispositionOf (q : Queue) (message : DeliveryId) : Disposition :=
  ((q.held? message).map Delivery.disposition).getD .waiting

/-- Decides on a message. Deciding to wait changes nothing while nothing is decided, and a second
decision is refused. -/
def dispose (q : Queue) (message : DeliveryId) (disposition : Disposition) :
    Except QueueError Unit × Queue :=
  match (q.held? message).bind Delivery.decided with
  | some _ => (.error (.alreadySettled message.messageId.toString), q)
  | none =>
    if disposition = .waiting then (.ok (), q)
    else
      (.ok (),
        { q with held := q.held.modify message fun d => { d with decided := disposition } })

/-- Makes a released message visible again, at once or after the delay. -/
def release (q : Queue) (task : TaskId) (now : Nat) : Queue :=
  if q.redeliveryDelay = 0 then q.push [task]
  else { q with delayed := q.delayed ++ [⟨now + q.redeliveryDelay, task⟩] }

/-- Takes a message back from its holder and does what its disposition says. -/
def settle (q : Queue) (message : DeliveryId) (now : Nat) : Queue :=
  match q.held? message with
  | none => q
  | some d =>
    let q := { q with
      held := q.held.erase message
      inFlight := q.inFlight - 1
      settlements := q.settlements ++ [(d.task, d.disposition)] }
    match d.disposition.settlement with
    | .ack => { q with acked := q.acked ++ [d.task] }
    | .reject => { q with deadLetters := q.deadLetters ++ [d.task] }
    | .release => q.release d.task now

/-- The moment at which the next released message becomes visible. -/
def nextDue? (q : Queue) : Option Nat := (q.delayed.map Redelivery.due).min?

/-- Makes the released messages visible whose time has come. -/
def arrive (q : Queue) (now : Nat) : Queue :=
  let (due, later) := q.delayed.partition fun r => r.due ≤ now
  { q with delayed := later }.push (due.map Redelivery.task)

end Queue

end GridAgent
