import GridAgent.Proofs.Cluster.Solo
import GridAgent.Proofs.Queue.Balance
import GridAgent.Proofs.Table

/-!
# Agents that take turns

Agents handle messages one after the other, each of them alone while it does. What they share goes from
hand to hand. A message comes to the next agent in one of two ways: the queue hands one out about a
given task once more, or the agent pulls the first one that is visible.
-/

namespace GridAgent

/-- A new entry that is removed again leaves no trace. -/
theorem Table.erase_set_of_new {κ ν : Type} [DecidableEq κ] {t : Table κ ν} {key : κ}
    (new : t.get? key = none) (value : ν) : (t.set key value).erase key = t := by
  have entries : ((t.set key value).erase key).entries = t.entries := by
    show (t.set key value).entries.filter (fun e => decide (e.1 ≠ key)) = t.entries
    rw [entries_set_of_new new, List.filter_append, List.filter_cons_of_neg (by simp),
      List.filter_nil, List.append_nil]
    refine List.filter_eq_self.mpr fun e he => decide_eq_true ?_
    rintro rfl
    cases new.symm.trans (get?_of_mem he)
  exact eq_of_keys (congrArg (List.map Prod.fst) entries)
    fun k => congrArg (List.lookup k) entries

/-- A value that is changed and removed leaves no trace. -/
theorem Table.erase_modify {κ ν : Type} [DecidableEq κ] (t : Table κ ν) (key : κ) (f : ν → ν) :
    (t.modify key f).erase key = t.erase key := by
  refine eq_of_sublist (v := t) ?_ (keys_erase_sublist t key) fun k => ?_
  · rw [← keys_modify t key f]
    exact keys_erase_sublist _ key
  · rw [get?_erase, get?_erase, get?_modify]
    split <;> rfl

namespace Queue

/-- The queue once a message about a task was handed out, others were pushed, and the message was
settled for good. -/
def served (q : Queue) (task : TaskId) (pushed : List TaskId) (disposition : Disposition) : Queue :=
  { q with
    ready := q.ready ++ pushed
    delivered := q.delivered + 1
    settlements := q.settlements ++ [(task, disposition)]
    acked := q.acked ++ if disposition.settlement = .ack then [task] else []
    deadLetters := q.deadLetters ++ if disposition.settlement = .reject then [task] else [] }

/-- Serving a message keeps the numbers of deliveries. -/
theorem Numbered.served {q : Queue} (hn : q.Numbered) (task : TaskId) (pushed : List TaskId)
    (disposition : Disposition) : (q.served task pushed disposition).Numbered := by
  intro message delivery found
  exact Nat.le_succ_of_le (hn message delivery found)

/-- What becomes of a message that is handed out, decided on and settled for good. -/
theorem settle_dispose_deliver {q : Queue} (hn : q.Numbered) {disposition : Disposition}
    (final : disposition.settlement ≠ .release) (task : TaskId) (pushed : List TaskId) (time : Nat) :
    ((((q.deliver task).2.push pushed).dispose (q.deliver task).1 disposition).2.settle
      (q.deliver task).1 time) = q.served task pushed disposition := by
  have decides : disposition ≠ .waiting := by
    rintro rfl
    exact final rfl
  have found : ((q.deliver task).2.push pushed).held? (q.deliver task).1 = some { task } :=
    q.held?_delivered task
  have decided : (((q.deliver task).2.push pushed).dispose (q.deliver task).1 disposition).2 =
      { (q.deliver task).2.push pushed with
        held := (q.held.set (q.deliver task).1 { task }).modify (q.deliver task).1
          fun d => { d with decided := disposition } } := by
    unfold dispose
    rw [found]
    dsimp only [Option.bind_some]
    rw [if_neg decides]
    rfl
  have holds : ((q.held.set (q.deliver task).1 { task }).modify (q.deliver task).1
      fun d => { d with decided := disposition }).get? (q.deliver task).1 =
        some { task, decided := disposition } := by
    rw [Table.get?_modify, if_pos rfl, Table.get?_set, if_pos rfl]
    rfl
  have back : ((q.held.set (q.deliver task).1 { task }).modify (q.deliver task).1
      fun d => { d with decided := disposition }).erase (q.deliver task).1 = q.held := by
    rw [Table.erase_modify]
    exact Table.erase_set_of_new hn.fresh _
  rw [decided]
  unfold settle held?
  rw [holds]
  dsimp only [Delivery.disposition, Option.getD_some]
  rw [back]
  unfold served
  cases settles : disposition.settlement with
  | release => exact absurd settles final
  | ack => simp [push, deliver]
  | reject => simp [push, deliver]

end Queue

namespace Cluster

open Agent

/-- An agent, and what it meets while it is alone. -/
structure Attendant where
  /-- The settings of the agent. -/
  settings : Settings
  /-- What it meets. -/
  meets : Surroundings

/-- A message that was handled. -/
structure Handled where
  /-- The task that the message was about. -/
  task : TaskId
  /-- What the handler reported, or why it failed. -/
  outcome : Except AgentError HandlerReport
  /-- The calls that it made, the latest first. -/
  calls : List Answered
  /-- What the agents shared when the message had been handed out. -/
  before : Shared
  /-- What they share after it. -/
  after : Shared

/-- The agent handles a message alone, and is refused nothing. -/
def Attendant.handle (a : Attendant) (message : DeliveryId) (task : TaskId) (shared : Shared) :
    Option Handled :=
  (a.meets.solo ((Job.handle message task).program a.settings) { shared }).map fun (outcome, w) =>
    ⟨task, outcome, w.past, shared, w.shared⟩

/-- How a message comes to the next agent. -/
abbrev Handing : Type := Shared → Option (DeliveryId × TaskId × Shared)

/-- A message about a task is handed out once more. -/
def redelivering (task : TaskId) : Handing := fun s =>
  some ((s.queue.deliver task).1, task, { s with queue := (s.queue.deliver task).2 })

/-- The next agent pulls a message. -/
def pulling : Handing := fun s =>
  match s.queue.take 1 with
  | (.messages [message], queue) =>
    (queue.held? message).map fun delivery => (message, delivery.task, { s with queue })
  | _ => none

/-- Agents take turns. Answers what each of them handled, and what they share in the end. -/
def takeTurns (hand : Handing) : List Attendant → Shared → Option (List Handled × Shared)
  | [], s => some ([], s)
  | a :: crew, s => do
    let (message, task, s) ← hand s
    let handled ← a.handle message task s
    let (others, s) ← takeTurns hand crew handled.after
    return (handled :: others, s)

variable {hand : Handing} {a : Attendant} {crew : List Attendant} {s s' s'' : Shared}
  {message : DeliveryId} {task : TaskId} {handled : Handled} {others : List Handled}

/-- One turn, and then the others. -/
theorem takeTurns_cons (given : hand s = some (message, task, s'))
    (first : a.handle message task s' = some handled)
    (rest : takeTurns hand crew handled.after = some (others, s'')) :
    takeTurns hand (a :: crew) s = some (handled :: others, s'') := by
  show (hand s).bind _ = _
  rw [given]
  show (a.handle message task s').bind _ = _
  rw [first]
  show (takeTurns hand crew handled.after).bind _ = _
  rw [rest]
  rfl

end Cluster

end GridAgent
