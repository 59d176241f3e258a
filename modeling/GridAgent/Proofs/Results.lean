import GridAgent.Proofs.Cluster.Results
import GridAgent.Proofs.Lineage

/-!
# Results are settled one way

Where every data object is expected of one lineage at most and only agents settle data, what is
available a completed attempt was to produce, and what was given up an attempt was to produce that
has failed for good. A lineage has one attempt that nothing follows, so it ends one way. Agents give
up the results of the attempts that fail and of all that wait for them, but never those of a retried
attempt whose lineage goes on.
-/

namespace GridAgent

namespace Store

/-- No data is expected of two lineages. -/
def ExpectedOnce (s : Store) : Prop :=
  ∀ task t task' t', s.get? task = some t → s.get? task' = some t' →
    ∀ data ∈ t.outputs, data ∈ t'.outputs → t.initial = t'.initial

/-- The lineage goes on, or was completed: its attempt that has no successor has not failed. -/
def Continues (s : Store) (root : TaskId) : Prop :=
  ∃ task t, s.get? task = some t ∧ t.initial = root ∧ s.successors.get? task = none ∧
    t.status.isFailure = false

/-- Nothing is expected of two lineages where there is only one. -/
theorem ExpectedOnce.of_entries {s : Store} (root : TaskId)
    (h : s.tasks.entries.all (fun entry => entry.2.initial = root) = true) : s.ExpectedOnce := by
  have initial {task : TaskId} {t : TaskRecord} (ht : s.get? task = some t) : t.initial = root := by
    have stored : (task, t) ∈ s.tasks.entries := Table.mem_of_get? ht
    exact of_decide_eq_true (List.all_eq_true.mp h _ stored)
  exact fun task t task' t' ht ht' data _ _ => (initial ht).trans (initial ht').symm

end Store

namespace Cluster

open Agent

variable {fleet : Fleet} {start c : State} {defaults : SessionId → Options} {s : Store} {task : TaskId}
  {t : TaskRecord}

/-- Every result is settled one way at most, as the lineage ends that was to produce it. -/
structure OneWay (s : Store) : Prop where
  /-- Available data is an expected output of a completed attempt. -/
  available : ∀ data ∈ s.available, ∃ task t, s.get? task = some t ∧ data ∈ t.outputs ∧
    t.status = .completed
  /-- Data that was given up is an expected output of an attempt that has failed and that no other
  one follows. -/
  aborted : ∀ data ∈ s.aborted, ∃ task t, s.get? task = some t ∧ data ∈ t.outputs ∧
    (t.status = .error ∨ t.status = .timeout ∨ t.status = .cancelled) ∧
    s.successors.get? task = none ∧ ∀ task' t', s.get? task' = some t' → task ∉ t'.ancestors
  /-- Data that is available is not given up. -/
  apart : ∀ data ∈ s.available, data ∉ s.aborted
  /-- What a retried attempt was to produce is not given up while its lineage goes on. -/
  retried : ∀ task t, s.get? task = some t → t.status = .retried → s.Continues t.initial →
    ∀ data ∈ t.outputs, data ∉ s.aborted

/-! What follows from how attempts are stored. -/

/-- No attempt follows one that has failed. -/
theorem Lineages.last_of_isFailure (h : Lineages defaults s) (ht : s.get? task = some t)
    (failed : t.status.isFailure = true) : s.successors.get? task = none ∧
      ∀ task' t', s.get? task' = some t' → task ∉ t'.ancestors := by
  have unretried := TaskStatus.ne_retried_of_isFailure failed
  constructor
  · cases hs : s.successors.get? task with
    | none => rfl
    | some heir => exact absurd (h.retried_of_succeeded ht hs) unretried
  · intro task' t' ht' hm
    obtain ⟨front, back, ha⟩ := List.append_of_mem hm
    obtain ⟨p, hp, retried, -⟩ := h.ancestor ht' ha
    obtain rfl := Option.some.inj (hp.symm.trans ht)
    exact unretried retried

/-- No data is settled both ways: its lineage has only one attempt that is not retried. -/
theorem SettledByEnds.apart (h : SettledByEnds s) (lineages : Lineages defaults s)
    (once : s.ExpectedOnce) {data : DataId} (hd : data ∈ s.available) : data ∉ s.aborted := by
  intro given
  obtain ⟨task, t, ht, completed, hm⟩ := h.available data hd
  obtain ⟨task', t', ht', failed, hm'⟩ := h.aborted data given
  have completed : t.status = .completed := TaskStatus.isSuccess_iff.mp completed
  have unretried : t.status ≠ .retried := by rw [completed]; nofun
  have same := once task t task' t' ht ht' data hm hm'
  obtain rfl := lineages.linear.current task t task' t' ht ht' same unretried
    (TaskStatus.ne_retried_of_isFailure failed)
  obtain rfl := Option.some.inj (ht.symm.trans ht')
  rw [completed] at failed
  cases failed

/-- What an attempt was to produce is not given up while its lineage goes on: only the attempt that
nothing follows can have failed. -/
theorem SettledByEnds.spares (h : SettledByEnds s) (lineages : Lineages defaults s)
    (once : s.ExpectedOnce) (ht : s.get? task = some t) (goesOn : s.Continues t.initial)
    {data : DataId} (hm : data ∈ t.outputs) : data ∉ s.aborted := by
  intro given
  obtain ⟨task', t', ht', failed, hm'⟩ := h.aborted data given
  obtain ⟨last, u, hu, root, childless, unfailed⟩ := goesOn
  have same : t'.initial = u.initial := (once task' t' task t ht' ht data hm' hm).trans root.symm
  obtain rfl := lineages.eq_of_childless ht' hu same (lineages.last_of_isFailure ht' failed).1
    childless
  obtain rfl := Option.some.inj (ht'.symm.trans hu)
  cases unfailed.symm.trans failed

/-- What is settled as tasks have ended is settled one way. -/
theorem SettledByEnds.oneWay (h : SettledByEnds s) (lineages : Lineages defaults s)
    (once : s.ExpectedOnce) : OneWay s where
  available data hd := by
    obtain ⟨task, t, ht, completed, hm⟩ := h.available data hd
    exact ⟨task, t, ht, hm, TaskStatus.isSuccess_iff.mp completed⟩
  aborted data hd := by
    obtain ⟨task, t, ht, failed, hm⟩ := h.aborted data hd
    exact ⟨task, t, ht, hm, TaskStatus.isFailure_iff.mp failed,
      lineages.last_of_isFailure ht failed⟩
  apart _ hd := h.apart lineages once hd
  retried _ _ ht _ goesOn _ hm := h.spares lineages once ht goesOn hm

/-- Sessions have constant defaults, clients insert first attempts only, and only agents settle
data. -/
def settlesWithin (defaults : SessionId → Options) (event : Event) : Prop :=
  constantDefaults defaults event ∧ settledByAgents event

/-- In every state that agents reach from first attempts and no settled data, results are settled
one way. -/
theorem results_settled_one_way (hi : start.Initial) (first : FirstAttempts start.shared.store)
    (available : start.shared.store.available = .empty)
    (aborted : start.shared.store.aborted = .empty)
    (hr : Reaches fleet (settlesWithin defaults) start c) (once : c.shared.store.ExpectedOnce) :
    OneWay c.shared.store := by
  have lineages : Lineages defaults c.shared.store := (hr.mono fun _ h => h.1).lineages hi first
  have settled : SettledByEnds c.shared.store := by
    refine (hr.mono fun _ h => h.2).settledByEnds hi ⟨fun data hd => ?_, fun data hd => ?_⟩
    · rw [available] at hd
      exact absurd hd IdSet.not_mem_empty
    · rw [aborted] at hd
      exact absurd hd IdSet.not_mem_empty
  exact settled.oneWay lineages once

/-! A task with a result. -/

/-- Surroundings in which sessions have some defaults and the worker answers as given. -/
def trying (options : Options) (answer : Except WorkerError Output) :
    (operation : Operation) → Option operation.Reply
  | .agent (.readSession session) =>
    some (Except.ok (some { SessionRecord.running session with defaults := options }))
  | .agent (.awaitReply ..) => some answer
  | operation => plainly morning operation

/-- The next job is a handler, and is answered some of its calls. -/
def handling (message : DeliveryId) (task : TaskId) (number : Nat)
    (choice : (operation : Operation) → Option operation.Reply) (answers : Nat) : List Event :=
  [.move (.pull 1), .start ⟨"first"⟩ (.handle message task)] ++
    List.replicate answers (.answer number choice)

/-- The worker breaks down, and the session allows no retry. -/
def failedCluster : State :=
  (fruitfulStart.play plainFleet
    (handling 1 plainTask.id 0 (trying {} (.error (.fault "worker broke down"))) 36)).getD
      fruitfulStart

/-- The worker of the first attempt breaks down, and that of the second one succeeds. -/
def recoveredCluster : State :=
  (fruitfulStart.play plainFleet (breakdownEvents ++
    handling 2 (.ofNat 2) 1 (trying oneRetry (.ok .success)) 33)).getD fruitfulStart

theorem handling_settles {message : DeliveryId} {task : TaskId} {number : Nat} {options : Options}
    {answer : Except WorkerError Output} {answers : Nat} :
    ∀ event ∈ handling message task number (trying options answer) answers,
      settlesWithin (fun _ => options) event := by
  intro event hm
  rcases List.mem_append.mp hm with hm | hm
  · rcases List.mem_pair.mp hm with rfl | rfl <;> exact ⟨trivial, trivial⟩
  · obtain rfl := List.eq_of_mem_replicate hm
    refine ⟨fun session found hc => ?_, trivial⟩
    obtain rfl := Option.some.inj (Except.ok.inj (Option.some.inj hc))
    rfl

theorem breakdownEvents_settle : ∀ event ∈ breakdownEvents, settledByAgents event := by
  intro event hm
  rcases List.mem_append.mp hm with hm | hm
  · rcases List.mem_pair.mp hm with rfl | rfl <;> exact trivial
  · obtain rfl := List.eq_of_mem_replicate hm
    exact trivial

theorem failedCluster_reached :
    Reaches plainFleet (settlesWithin fun _ => {}) fruitfulStart failedCluster :=
  .of_played handling_settles

theorem recoveredCluster_reached :
    Reaches plainFleet (settlesWithin fun _ => oneRetry) fruitfulStart recoveredCluster := by
  refine .of_played fun event hm => ?_
  rcases List.mem_append.mp hm with hm | hm
  · exact ⟨breakdownEvents_constant event hm, breakdownEvents_settle event hm⟩
  · exact handling_settles event hm

theorem fruitfulStart_firstAttempts : FirstAttempts fruitfulStart.shared.store := by
  refine ⟨?_, ?_, fun task => rfl⟩
  · intro task t ht
    obtain ⟨rfl, rfl⟩ := fruitfulStart_stored ht
    exact ⟨rfl, rfl⟩
  · intro task t ht hs
    obtain ⟨rfl, rfl⟩ := fruitfulStart_stored ht
    cases hs

/-- Where the worker breaks down and no retry is allowed the result is given up; where the second
attempt succeeds it is available. -/
theorem results_settled_one_way_recovered :
    (OneWay failedCluster.shared.store ∧ .ofNat 5 ∈ failedCluster.shared.store.aborted ∧
      .ofNat 5 ∉ failedCluster.shared.store.available) ∧
    OneWay recoveredCluster.shared.store ∧ .ofNat 5 ∈ recoveredCluster.shared.store.available ∧
      .ofNat 5 ∉ recoveredCluster.shared.store.aborted := by
  have failed := results_settled_one_way fruitfulStart_initial fruitfulStart_firstAttempts rfl rfl
    failedCluster_reached (.of_entries fruitfulTask.id (by decide +kernel))
  have recovered := results_settled_one_way fruitfulStart_initial fruitfulStart_firstAttempts rfl rfl
    recoveredCluster_reached (.of_entries fruitfulTask.id (by decide +kernel))
  have given : .ofNat 5 ∈ failedCluster.shared.store.aborted.toList := by decide +kernel
  have here : .ofNat 5 ∈ recoveredCluster.shared.store.available.toList := by decide +kernel
  exact ⟨⟨failed, given, fun both => failed.apart _ both given⟩, recovered, here,
    recovered.apart _ here⟩

end Cluster

end GridAgent
