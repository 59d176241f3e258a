import GridAgent.Proofs.Cluster.Heritage
import GridAgent.Proofs.Cluster.Revisions

/-!
# Ends are coherent

A task has an end date exactly when it has ended, and then what depends on the end is there: how long
the task took, where the clock allows it, and the output that goes with the status. Durations are
computed when the end is written and at no other time, so this rests on every end being written with
its date, and on nothing being written after it. What a task is about stays as it was stored.
-/

namespace GridAgent

/-- The span from one date to another is the difference, and there is none if that is negative. -/
theorem Date.since?_eq_some {d start : Date} {span : Span} :
    d.since? start = some span ↔ d.nanos = start.nanos + span.nanos := by
  unfold since?
  constructor
  · intro h
    split at h
    · obtain rfl := Option.some.inj h
      dsimp only
      omega
    · cases h
  · intro h
    rw [if_pos (by omega)]
    refine congrArg some (congrArg Span.mk ?_)
    omega

/-- The output of a task in a status: only tasks that have ended other than by cancellation have one. -/
def TaskStatus.Bears : TaskStatus → Option Output → Prop
  | .completed, output => ∃ o, output = some o ∧ o.status = .success
  | .timeout, output => ∃ o, output = some o ∧ o.status = .timeout
  | .error, output | .retried, output => ∃ message, output = some (.failure message)
  | _, output => output = none

namespace TaskUpdate

/-- The update is not the end of a task. -/
structure IsPassing (u : TaskUpdate) : Prop where
  /-- The task goes on. -/
  status : u.status.isTerminal = false
  /-- There is no end date. -/
  ended : u.ended = none
  /-- There is no output. -/
  output : u.output = none

/-- The update is the end of a task, with its date and its output. -/
structure IsEnd (u : TaskUpdate) : Prop where
  /-- The task ends. -/
  status : u.status.isTerminal = true
  /-- There is an end date. -/
  ended : u.ended.isSome = true
  /-- There is the output that goes with the status. -/
  output : u.status.Bears u.output

/-- An attempt that fails ends with the reason. -/
theorem isEnd_failed (plan : RetryPlan) (reason : String) (now : Date) :
    (finish plan.failedStatus (.failure reason) now).IsEnd := by
  cases plan <;> exact ⟨rfl, rfl, reason, rfl⟩

end TaskUpdate

namespace TaskRecord

variable {t : TaskRecord} {u : TaskUpdate}

/-- The task has not ended, and nothing that depends on the end is there. -/
structure IsOpen (t : TaskRecord) : Prop where
  /-- The task goes on. -/
  status : t.status.isTerminal = false
  /-- There is no end date. -/
  ended : t.ended = none
  /-- There is no time from the creation to the end. -/
  creationToEnd : t.creationToEnd = none
  /-- There is no time from the start to the end. -/
  processingToEnd : t.processingToEnd = none
  /-- There is no output. -/
  output : t.output = none

/-- The task has ended at a moment, and what depends on the end is there. -/
structure HasEnded (t : TaskRecord) (moment : Date) : Prop where
  /-- The task goes on no more. -/
  status : t.status.isTerminal = true
  /-- The end date is the moment. -/
  ended : t.ended = some moment
  /-- The time from the creation to the end. -/
  creationToEnd : t.creationToEnd = moment.since? t.created
  /-- The time from the start to the end. -/
  processingToEnd : t.processingToEnd = t.started.bind moment.since?
  /-- There is the output that goes with the status. -/
  output : t.status.Bears t.output

/-- The record says of the end what there is to say. -/
def IsComplete (t : TaskRecord) : Prop := t.IsOpen ∨ ∃ moment, t.HasEnded moment

/-- The output after an update. -/
theorem apply_output (t : TaskRecord) (u : TaskUpdate) :
    (t.apply u).output = u.output.or t.output := by
  unfold apply changeOwner
  cases u.owner <;> cases u.ended <;> rfl

/-- The date of creation stays. -/
theorem apply_created (t : TaskRecord) (u : TaskUpdate) : (t.apply u).created = t.created := by
  unfold apply changeOwner
  cases u.owner <;> cases u.ended <;> rfl

/-- What an open task waits for does not matter. -/
theorem IsOpen.waitingFor (h : t.IsOpen) (remaining : IdSet .data) : { t with remaining }.IsOpen :=
  ⟨h.status, h.ended, h.creationToEnd, h.processingToEnd, h.output⟩

/-- What a complete task waits for does not matter. -/
theorem IsComplete.waitingFor (h : t.IsComplete) (remaining : IdSet .data) :
    { t with remaining }.IsComplete := by
  rcases h with opened | ⟨moment, e⟩
  · exact .inl (opened.waitingFor remaining)
  · exact .inr ⟨moment, e.status, e.ended, e.creationToEnd, e.processingToEnd, e.output⟩

/-- A task that goes on stays open. -/
theorem IsOpen.apply_passing (h : t.IsOpen) (hu : u.IsPassing) : (t.apply u).IsOpen := by
  unfold apply
  rw [hu.ended, hu.output]
  cases u.owner <;>
    exact ⟨hu.status, h.ended, h.creationToEnd, h.processingToEnd, h.output⟩

/-- A task that ends has ended. -/
theorem IsOpen.apply_end (h : t.IsOpen) (hu : u.IsEnd) : ∃ moment, (t.apply u).HasEnded moment := by
  obtain ⟨moment, ended⟩ := Option.isSome_iff_exists.mp hu.ended
  refine ⟨moment, ?_, ?_, ?_, ?_, ?_⟩
  · rw [apply_status]
    exact hu.status
  · unfold apply
    rw [ended]
    rfl
  · unfold apply
    rw [ended]
    rfl
  · unfold apply
    rw [ended]
    rfl
  · rw [apply_output, h.output, Option.or_none, apply_status]
    exact hu.output

/-- A task has ended exactly when there is an end date. -/
theorem IsComplete.isTerminal_iff (h : t.IsComplete) :
    t.status.isTerminal = true ↔ t.ended.isSome = true := by
  rcases h with opened | ⟨moment, ended⟩
  · rw [opened.status, opened.ended]
    rfl
  · rw [ended.status, ended.ended]
    rfl

/-- There is an end date only if the task has ended then. -/
theorem IsComplete.hasEnded (h : t.IsComplete) {moment : Date} (he : t.ended = some moment) :
    t.HasEnded moment := by
  rcases h with opened | ⟨other, ended⟩
  · cases opened.ended.symm.trans he
  · obtain rfl := Option.some.inj (ended.ended.symm.trans he)
    exact ended

/-- There is the output that goes with the status. -/
theorem IsComplete.bears (h : t.IsComplete) : t.status.Bears t.output := by
  rcases h with opened | ⟨moment, ended⟩
  · have going := opened.status
    rw [opened.output]
    cases hs : t.status <;> rw [hs] at going <;> first | rfl | cases going
  · exact ended.output

/-- The time from the creation to the end is the difference. -/
theorem HasEnded.creationToEnd_eq_some {moment : Date} (h : t.HasEnded moment) {span : Span} :
    t.creationToEnd = some span ↔ moment.nanos = t.created.nanos + span.nanos := by
  rw [h.creationToEnd, Date.since?_eq_some]

/-- The time from the start to the end is the difference. -/
theorem HasEnded.processingToEnd_eq_some {moment : Date} (h : t.HasEnded moment) {span : Span} :
    t.processingToEnd = some span ↔
      ∃ began, t.started = some began ∧ moment.nanos = began.nanos + span.nanos := by
  rw [h.processingToEnd, Option.bind_eq_some_iff]
  simp only [Date.since?_eq_some]

/-- Without an end date the task goes on. -/
theorem IsComplete.isOpen_of_ended (h : t.IsComplete) (he : t.ended = none) : t.IsOpen := by
  refine h.resolve_right ?_
  rintro ⟨moment, ended⟩
  cases ended.ended.symm.trans he

/-- A task that goes on has not ended. -/
theorem IsComplete.isOpen (h : t.IsComplete) (hs : t.status.isTerminal = false) : t.IsOpen := by
  refine h.resolve_right ?_
  rintro ⟨moment, ended⟩
  rw [ended.status] at hs
  cases hs

end TaskRecord

namespace Cluster

open Agent

variable {fleet : Fleet} {start c c' : State} {record record' : TaskRecord}

/-! One event. -/

/-- What an agent writes is the end of a task, with all that belongs to it, or nothing of the kind. -/
theorem Write.passes_or_ends {pod : PodId} {k : Track} {expected : Expectation} {change : TaskUpdate}
    (hw : Write pod k expected change) : change.IsPassing ∨ change.IsEnd := by
  cases hw with
  | claim name now stage => exact .inl ⟨rfl, rfl, rfl⟩
  | reset owner now stage detached => exact .inl ⟨rfl, rfl, rfl⟩
  | recover owner plan reason now stage => exact .inr (TaskUpdate.isEnd_failed plan reason now)
  | bury now stage detached => exact .inr ⟨rfl, rfl, rfl⟩
  | start run now stage => exact .inl ⟨rfl, rfl, rfl⟩
  | release expected now held idle => exact .inl ⟨rfl, rfl, rfl⟩
  | fail expected plan reason now held idle =>
    exact .inr (TaskUpdate.isEnd_failed plan reason now)
  | conclude run status output now outcome stage =>
    rcases outcome with ⟨rfl, success⟩ | ⟨rfl, timeout⟩
    · exact .inr ⟨rfl, rfl, output, rfl, success⟩
    · exact .inr ⟨rfl, rfl, output, rfl, timeout⟩
  | cancel now idle cause => exact .inr ⟨rfl, rfl, rfl⟩
  | stop run stage => exact .inl ⟨rfl, rfl, rfl⟩

/-- An update that an agent applies meets a task that goes on. -/
theorem Write.goesOn {pod : PodId} {k : Track} {expected : Expectation} {change : TaskUpdate}
    (hw : Write pod k expected change) (holds : expected.holds record = true) :
    record.status.isTerminal = false := by
  rw [Bool.eq_false_iff]
  intro ends
  have next := hw.next (Expectation.status_mem holds)
  rw [TaskStatus.next_of_isTerminal ends] at next
  cases next

/-- Every change keeps a record complete: it changes a task that goes on, or nothing that matters. -/
theorem Revises.isComplete (hv : Revises fleet c c' record record') (h : record.IsComplete) :
    record'.IsComplete := by
  have going (hs : record.status.isTerminal = false) := h.isOpen hs
  cases hv with
  | kept remaining => exact h.waitingFor remaining
  | readied remaining now status =>
    have opened := (going (by rw [status]; rfl)).waitingFor remaining
    exact .inl (opened.apply_passing ⟨rfl, rfl, rfl⟩)
  | failed data now status =>
    have opened := going (by rcases status with e | e <;> rw [e] <;> rfl)
    exact .inr (opened.apply_end ⟨rfl, rfl, _, rfl⟩)
  | marked status =>
    have opened := going (by
      simp only [heldStatuses, List.mem_cons, List.not_mem_nil, or_false] at status
      rcases status with e | e <;> rw [e] <;> rfl)
    exact .inl (opened.apply_passing ⟨rfl, rfl, rfl⟩)
  | written number a expected change own applies write holds =>
    have opened := going (write.goesOn holds)
    exact write.passes_or_ends.imp opened.apply_passing opened.apply_end

/-- What a task is, and when it was created, stays. -/
theorem Revises.lasting (hv : Revises fleet c c' record record') :
    record'.id = record.id ∧ record'.created = record.created ∧
      record'.heritage = record.heritage := by
  cases hv with
  | kept remaining => exact ⟨rfl, rfl, rfl⟩
  | readied remaining now status =>
    exact ⟨TaskRecord.apply_id .., TaskRecord.apply_created .., TaskRecord.heritage_apply ..⟩
  | _ => exact ⟨TaskRecord.apply_id .., TaskRecord.apply_created .., TaskRecord.heritage_apply ..⟩

/-! Whole runs. -/

/-- Clients insert tasks that have not ended only. -/
def insertsOpen : Event → Prop
  | .move (.insert record) => record.IsOpen
  | _ => True

/-- What enters the store has not ended. -/
theorem Enters.isOpen {event : Event} {s : Store} (permitted : insertsOpen event)
    (he : Enters event s record) : record.IsOpen := by
  cases he with
  | inserted new here status =>
    subst here
    have h : new.IsOpen := permitted
    exact h.waitingFor _
  | succeeds parent id now => exact ⟨rfl, rfl, rfl, rfl, rfl⟩

theorem Reaches.complete (hr : Reaches fleet insertsOpen start c) (hi : start.Initial)
    (first : ∀ task record, start.shared.store.get? task = some record → record.IsOpen) :
    ∀ task record, c.shared.store.get? task = some record → record.IsComplete :=
  hr.every_record hi (fun task record stored => .inl (first task record stored))
    (fun _ _ _ permitted enters => .inl (enters.isOpen permitted))
    fun _ _ _ _ h revised => revised.isComplete h

/-- From records of tasks that have not ended, in every reached state a task has ended exactly when
there is an end date. Then the two durations are what lies between the creation or the start and the
end, and there is none where that is negative or the task was never started. The output is the one
that goes with the status, and none before the end. And over every further run a record keeps its
identifier, the date of its creation, what the task is about, its place in the lineage and its
options. -/
theorem ends_coherent (hi : start.Initial)
    (first : ∀ task record, start.shared.store.get? task = some record → record.IsOpen)
    (hr : Reaches fleet insertsOpen start c) :
    (∀ task record, c.shared.store.get? task = some record →
      (record.status.isTerminal = true ↔ record.ended.isSome = true) ∧
      (∀ moment, record.ended = some moment →
        (∀ span, record.creationToEnd = some span ↔
          moment.nanos = record.created.nanos + span.nanos) ∧
        ∀ span, record.processingToEnd = some span ↔
          ∃ began, record.started = some began ∧ moment.nanos = began.nanos + span.nanos) ∧
      (record.ended = none → record.creationToEnd = none ∧ record.processingToEnd = none) ∧
      record.status.Bears record.output) ∧
    ∀ c', Reaches fleet anyEvent c c' →
      ∀ task record, c.shared.store.get? task = some record →
        ∃ record', c'.shared.store.get? task = some record' ∧ record'.id = record.id ∧
          record'.created = record.created ∧ record'.heritage = record.heritage := by
  refine ⟨fun task record stored => ?_, fun c' run task record stored => ?_⟩
  · have complete := hr.complete hi first task record stored
    refine ⟨complete.isTerminal_iff, fun moment he => ?_, fun he => ?_, complete.bears⟩
    · have ended := complete.hasEnded he
      exact ⟨fun _ => ended.creationToEnd_eq_some, fun _ => ended.processingToEnd_eq_some⟩
    · have opened := complete.isOpen_of_ended he
      exact ⟨opened.creationToEnd, opened.processingToEnd⟩
  · refine (hr.sound hi).kept_run (fun _ _ _ _ same revised => ?_) stored
      (P := fun record' => record'.id = record.id ∧ record'.created = record.created ∧
        record'.heritage = record.heritage) ⟨rfl, rfl, rfl⟩ run
    obtain ⟨id, created, heritage⟩ := revised.lasting
    exact ⟨id.trans same.1, created.trans same.2.1, heritage.trans same.2.2⟩

/-- A task that was handled without trouble has an end date and the output of a success. -/
theorem ends_coherent_plain :
    ∃ c record, Reaches plainFleet insertsOpen plainStart c ∧
      c.shared.store.get? plainTask.id = some record ∧ record.status = .completed ∧
      record.ended.isSome = true ∧ ∃ o, record.output = some o ∧ o.status = .success := by
  have run : Reaches plainFleet insertsOpen plainStart (plainCluster 31) :=
    .of_played (forall_plainEvents trivial trivial trivial 31)
  have first : ∀ task record, plainStart.shared.store.get? task = some record → record.IsOpen := by
    intro task record stored
    obtain ⟨-, rfl⟩ := plainStart_stored stored
    exact ⟨rfl, rfl, rfl, rfl, rfl⟩
  have completed : ((plainCluster 31).shared.store.get? plainTask.id).map TaskRecord.status =
      some .completed := by decide +kernel
  obtain ⟨record, stored, status⟩ := Option.map_eq_some_iff.mp completed
  obtain ⟨ends, -, -, bears⟩ :=
    (ends_coherent plainStart_initial first run).1 plainTask.id record stored
  rw [status] at ends bears
  exact ⟨_, record, run, stored, status, ends.mp rfl, bears⟩

end Cluster

end GridAgent
