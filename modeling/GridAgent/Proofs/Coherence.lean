import GridAgent.Proofs.Cluster.Looks
import GridAgent.Proofs.Cluster.Revisions

/-!
# Owners are coherent

A task in creation and a submitted one have no owner, and nothing is left of a claim; a dispatched
task and a processing one have an owner, its name and the date of its claim. However the calls of any
number of agents interleave, this stays so: a task changes hands only by the claim of a submitted task
and by going back to submitted. So the outcomes of an acquisition for records whose owner contradicts
their status never come up.
-/

namespace GridAgent

namespace TaskRecord

/-- Nobody holds the task, and nothing is left of a claim. -/
structure IsUnclaimed (t : TaskRecord) : Prop where
  /-- There is no owner. -/
  owner : t.owner = none
  /-- There is no name of an owner. -/
  ownerName : t.ownerName = none
  /-- There is no date of a claim. -/
  acquired : t.acquired = none

/-- A pod holds the task, and the claim is recorded. -/
structure IsClaimed (t : TaskRecord) : Prop where
  /-- There is an owner. -/
  owner : t.owner.isSome = true
  /-- The name of the owner is recorded. -/
  ownerName : t.ownerName.isSome = true
  /-- The date of the claim is recorded. -/
  acquired : t.acquired.isSome = true

/-- The owner fits the status. -/
structure IsCoherent (t : TaskRecord) : Prop where
  /-- Whoever waits is held by nobody. -/
  unclaimed : t.status = .creating ∨ t.status = .submitted → t.IsUnclaimed
  /-- Whoever is taken is held by a pod. -/
  claimed : t.status = .dispatched ∨ t.status = .processing → t.IsClaimed

variable {t : TaskRecord}

/-- The name of the owner after an update. -/
theorem apply_ownerName (t : TaskRecord) (u : TaskUpdate) :
    (t.apply u).ownerName = match u.owner with
      | .keep => t.ownerName
      | .assign _ name => some name
      | .clear => none := by
  unfold apply changeOwner
  cases u.owner <;> cases u.ended <;> rfl

/-- The date of the claim after an update. -/
theorem apply_acquired (t : TaskRecord) (u : TaskUpdate) :
    (t.apply u).acquired = u.acquired.or (match u.owner with
      | .clear => none
      | _ => t.acquired) := by
  unfold apply changeOwner
  cases u.owner <;> cases u.ended <;> rfl

/-- An update that keeps the owner leaves what is recorded of a claim. -/
theorem apply_keeps (t : TaskRecord) {u : TaskUpdate} (keeps : u.owner = .keep)
    (undated : u.acquired = none) : (t.apply u).owner = t.owner ∧
      (t.apply u).ownerName = t.ownerName ∧ (t.apply u).acquired = t.acquired := by
  refine ⟨?_, ?_, ?_⟩
  · rw [apply_owner, keeps]
  · rw [apply_ownerName, keeps]
  · rw [apply_acquired, keeps, undated]
    rfl

/-- An update that is no claim leaves a task unclaimed. -/
theorem IsUnclaimed.apply (h : t.IsUnclaimed) {u : TaskUpdate} (keeps : u.owner = .keep)
    (undated : u.acquired = none) : (t.apply u).IsUnclaimed := by
  obtain ⟨owner, name, date⟩ := t.apply_keeps keeps undated
  exact ⟨owner.trans h.owner, name.trans h.ownerName, date.trans h.acquired⟩

/-- An update that keeps the owner leaves a task claimed. -/
theorem IsClaimed.apply (h : t.IsClaimed) {u : TaskUpdate} (keeps : u.owner = .keep)
    (undated : u.acquired = none) : (t.apply u).IsClaimed := by
  obtain ⟨owner, name, date⟩ := t.apply_keeps keeps undated
  exact ⟨owner ▸ h.owner, name ▸ h.ownerName, date ▸ h.acquired⟩

/-- What an unclaimed task waits for does not matter. -/
theorem IsUnclaimed.waitingFor (h : t.IsUnclaimed) (remaining : IdSet .data) :
    { t with remaining }.IsUnclaimed :=
  ⟨h.owner, h.ownerName, h.acquired⟩

/-- What a coherent task waits for does not matter. -/
theorem IsCoherent.waitingFor (h : t.IsCoherent) (remaining : IdSet .data) :
    { t with remaining }.IsCoherent where
  unclaimed hs := (h.unclaimed hs).waitingFor remaining
  claimed hs := ⟨(h.claimed hs).owner, (h.claimed hs).ownerName, (h.claimed hs).acquired⟩

/-- A claim is recorded. -/
theorem isClaimed_dispatch (t : TaskRecord) (pod : PodId) (name : String) (now : Date) :
    (t.apply (.dispatch pod name now)).IsClaimed := ⟨rfl, rfl, rfl⟩

/-- Nothing is left of a claim once a task is handed back. -/
theorem isUnclaimed_release (t : TaskRecord) (now : Date) :
    (t.apply (.release now)).IsUnclaimed := ⟨rfl, rfl, rfl⟩

/-- A task that neither waits nor is taken is coherent. -/
theorem isCoherent_of_status
    (h : t.status ∉ [TaskStatus.creating, .submitted, .dispatched, .processing]) :
    t.IsCoherent := by
  simp only [List.mem_cons, List.not_mem_nil, or_false, not_or] at h
  obtain ⟨creating, submitted, dispatched, processing⟩ := h
  exact ⟨fun hs => (hs.elim creating submitted).elim, fun hs => (hs.elim dispatched processing).elim⟩

/-- An unclaimed task that waits is coherent. -/
theorem IsUnclaimed.isCoherent (h : t.IsUnclaimed) (hs : t.status = .creating ∨ t.status = .submitted) :
    t.IsCoherent :=
  ⟨fun _ => h, fun taken => by rcases hs with e | e <;> rw [e] at taken <;> simp at taken⟩

/-- A claimed task that is taken is coherent. -/
theorem IsClaimed.isCoherent (h : t.IsClaimed) (hs : t.status = .dispatched ∨ t.status = .processing) :
    t.IsCoherent :=
  ⟨fun waits => by rcases hs with e | e <;> rw [e] at waits <;> simp at waits, fun _ => h⟩

/-- The owner of a coherent record does not contradict its status. -/
theorem IsCoherent.not_contradicts (h : t.IsCoherent) : ¬ Acquisition.Contradicts t := by
  rintro (⟨submitted, held⟩ | ⟨owned, free⟩)
  · exact held (h.unclaimed (.inr submitted)).owner
  · have taken : t.status = .dispatched ∨ t.status = .processing := by
      cases hs : t.status <;> rw [hs] at owned <;> simp_all [TaskStatus.isOwned]
    have claimed := (h.claimed taken).owner
    rw [free] at claimed
    cases claimed

end TaskRecord

namespace Cluster

open Agent Acquisition

variable {fleet : Fleet} {start c c' : State} {record record' : TaskRecord}

/-! One event. -/

/-- What an agent writes is coherent if it finds a coherent record as it expects it. -/
theorem Write.isCoherent {pod : PodId} {k : Track} {expected : Expectation} {change : TaskUpdate}
    (hw : Write pod k expected change) (holds : expected.holds record = true)
    (h : record.IsCoherent) : (record.apply change).IsCoherent := by
  have status := Expectation.status_mem holds
  have elsewhere (wanted : TaskStatus) (hc : change.status = wanted)
      (hn : wanted ∉ [TaskStatus.creating, .submitted, .dispatched, .processing]) :
      (record.apply change).IsCoherent :=
    TaskRecord.isCoherent_of_status (by rwa [TaskRecord.apply_status, hc])
  cases hw with
  | claim name now stage => exact (record.isClaimed_dispatch pod name now).isCoherent (.inl rfl)
  | reset owner now stage detached => exact (record.isUnclaimed_release now).isCoherent (.inr rfl)
  | recover owner plan reason now stage =>
    exact elsewhere plan.failedStatus rfl (by cases plan <;> decide)
  | bury now stage detached => exact elsewhere .cancelled rfl (by decide)
  | start run now stage =>
    have claimed := h.claimed (.inl (List.mem_singleton.mp status))
    exact (claimed.apply rfl rfl).isCoherent (.inr rfl)
  | release expected now held idle => exact (record.isUnclaimed_release now).isCoherent (.inr rfl)
  | fail expected plan reason now held idle =>
    exact elsewhere plan.failedStatus rfl (by cases plan <;> decide)
  | conclude run wanted output now outcome stage =>
    exact elsewhere wanted rfl (by rcases outcome with ⟨rfl, -⟩ | ⟨rfl, -⟩ <;> decide)
  | cancel now idle cause => exact elsewhere .cancelled rfl (by decide)
  | stop run stage => exact elsewhere .cancelling rfl (by decide)

/-- Every change of a record keeps it coherent. -/
theorem Revises.isCoherent (hv : Revises fleet c c' record record') (h : record.IsCoherent) :
    record'.IsCoherent := by
  cases hv with
  | kept remaining => exact h.waitingFor remaining
  | readied remaining now status =>
    have unclaimed := (h.unclaimed (.inl status)).waitingFor remaining
    exact (unclaimed.apply rfl rfl).isCoherent (.inr rfl)
  | failed data now status => exact TaskRecord.isCoherent_of_status (by simp [TaskUpdate.finish])
  | marked status => exact TaskRecord.isCoherent_of_status (by simp)
  | written number a expected change own applies write holds => exact write.isCoherent holds h

/-- A task changes hands by the update of an agent that works on it. -/
inductive ChangesHands (fleet : Fleet) (c c' : State) (record record' : TaskRecord) : Prop where
  /-- The agent claims the submitted task, which nobody holds. -/
  | claimed (number : Nat) (a : Actor) (name : String) (now : Date) (own : record.id = a.job.task)
    (applies : Applies fleet c number a (Expectation.status .submitted).unowned
      (.dispatch a.pod name now) c')
    (before : record.status = .submitted ∧ record.owner = none)
    (after : record'.status = .dispatched ∧ record'.owner = some a.pod)
  /-- The agent hands the task back, which a pod holds. -/
  | released (number : Nat) (a : Actor) (expected : Expectation) (now : Date)
    (own : record.id = a.job.task) (applies : Applies fleet c number a expected (.release now) c')
    (before : ∃ owner, record.owner = some owner)
    (after : record'.status = .submitted ∧ record'.owner = none)

/-- An update that keeps the owner keeps it. -/
theorem owner_of_keep {change : TaskUpdate} (keeps : change.owner = .keep) :
    (record.apply change).owner = record.owner := by
  rw [TaskRecord.apply_owner, keeps]

/-- The owner of a record stays, or the task changes hands. -/
theorem Revises.changesHands (hv : Revises fleet c c' record record')
    (changed : record'.owner ≠ record.owner) : ChangesHands fleet c c' record record' := by
  cases hv with
  | kept remaining => exact absurd rfl changed
  | readied remaining now status => exact absurd (owner_of_keep rfl) changed
  | failed data now status => exact absurd (owner_of_keep rfl) changed
  | marked status => exact absurd (owner_of_keep rfl) changed
  | written number a expected change own applies write holds =>
    have owned {pod : PodId} (ho : expected.owner = .is pod) : ∃ owner, record.owner = some owner :=
      ⟨pod, Expectation.owner_of_holds holds ho⟩
    have status := Expectation.status_mem holds
    cases write with
    | claim name now stage =>
      have free : record.owner = none := by
        simp only [Expectation.holds, Expectation.unowned, OwnerMatch.holds, Bool.and_eq_true,
          Option.isNone_iff_eq_none] at holds
        exact holds.1
      exact .claimed number a name now own applies ⟨List.mem_singleton.mp status, free⟩ ⟨rfl, rfl⟩
    | reset owner now stage detached =>
      exact .released number a _ now own applies (owned rfl) ⟨rfl, rfl⟩
    | release expected now held idle =>
      rcases held with rfl | rfl <;>
        exact .released number a _ now own applies (owned rfl) ⟨rfl, rfl⟩
    | _ => exact absurd (owner_of_keep rfl) changed

/-! Whole runs. -/

/-- Clients insert coherent records only. -/
def insertsCoherent : Event → Prop
  | .move (.insert record) => record.IsCoherent
  | _ => True

/-- What enters the store is coherent. -/
theorem Enters.isCoherent {event : Event} {s : Store} (permitted : insertsCoherent event)
    (he : Enters event s record) : record.IsCoherent := by
  cases he with
  | inserted new here status =>
    subst here
    have h : new.IsCoherent := permitted
    exact h.waitingFor _
  | succeeds parent id now => exact TaskRecord.IsUnclaimed.isCoherent ⟨rfl, rfl, rfl⟩ (.inl rfl)

theorem Reaches.coherent (hr : Reaches fleet insertsCoherent start c) (hi : start.Initial)
    (first : ∀ task record, start.shared.store.get? task = some record → record.IsCoherent) :
    ∀ task record, c.shared.store.get? task = some record → record.IsCoherent :=
  hr.every_record hi first (fun _ _ _ permitted enters => enters.isCoherent permitted)
    fun _ _ _ _ h revised => revised.isCoherent h

/-- From coherent records every reached state has coherent records only. There every event lets each
record keep its owner, or an agent claims the submitted task or hands it back. And no acquisition has
returned one of the outcomes for records whose owner contradicts their status, neither on its own nor
for a message. -/
theorem owners_coherent (hi : start.Initial)
    (first : ∀ task record, start.shared.store.get? task = some record → record.IsCoherent)
    (hr : Reaches fleet insertsCoherent start c) :
    (∀ task record, c.shared.store.get? task = some record → record.IsCoherent) ∧
    (∀ event c', c.perform fleet event = some c' →
      ∀ task record, c.shared.store.get? task = some record →
        ∃ record', c'.shared.store.get? task = some record' ∧
          (record'.owner = record.owner ∨ ChangesHands fleet c c' record record')) ∧
    ∀ a ∈ c.actors, ∀ acquired, a.acquisition? = some (.ok acquired) ∨
        a.HasAcquired (fleet.settings a.pod) acquired →
      acquired.outcome ≠ .podIdEmptyAfterAcquisition ∧
        acquired.outcome ≠ .taskIsProcessingPodIdEmpty ∧ acquired.outcome ≠ .processingHere := by
  refine ⟨hr.coherent hi first, fun event c' hp task record stored => ?_, ?_⟩
  · obtain ⟨record', stored', revised⟩ := (hr.sound hi).revises hp stored
    refine ⟨record', stored', ?_⟩
    by_cases same : record'.owner = record.owner
    · exact .inl same
    · exact .inr (revised.changesHands same)
  · intro a ha acquired returned
    have has : a.HasAcquired (fleet.settings a.pod) acquired :=
      returned.elim (hr.hasAcquired hi ha) id
    have seen := hr.shown hi (fun d hd => hd.coherent hi first) a ha
    have never : acquired.outcome.isContradiction ≠ true := by
      intro contradiction
      obtain ⟨task, record, shown, contradicts⟩ := has.contradicts contradiction
      exact (seen task record shown).not_contradicts contradicts
    refine ⟨?_, ?_, ?_⟩ <;> exact fun e => never (by rw [e]; rfl)

/-- A task that is dispatched by the handler of its message has been submitted without an owner; it has
one now, its name and the date of its claim. -/
theorem owners_coherent_plain :
    ∃ c record, Reaches plainFleet insertsCoherent plainStart c ∧
      c.shared.store.get? plainTask.id = some record ∧ record.status = .dispatched ∧
      record.IsClaimed := by
  have run : Reaches plainFleet insertsCoherent plainStart (plainCluster 10) :=
    .of_played (forall_plainEvents trivial trivial trivial 10)
  have first : ∀ task record, plainStart.shared.store.get? task = some record → record.IsCoherent := by
    intro task record stored
    obtain ⟨-, rfl⟩ := plainStart_stored stored
    exact TaskRecord.IsUnclaimed.isCoherent ⟨rfl, rfl, rfl⟩ (.inr rfl)
  have dispatched : ((plainCluster 10).shared.store.get? plainTask.id).map TaskRecord.status =
      some .dispatched := by decide +kernel
  obtain ⟨record, stored, status⟩ := Option.map_eq_some_iff.mp dispatched
  have coherent := (owners_coherent plainStart_initial first run).1 plainTask.id record stored
  exact ⟨_, record, run, stored, status, coherent.claimed (.inl status)⟩

end Cluster

end GridAgent
