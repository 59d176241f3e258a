import GridAgent.Proofs.Cluster.Looks
import GridAgent.Proofs.Cluster.Revisions
import GridAgent.Proofs.Exclusivity

/-!
# Claims that are reset

An agent takes a dispatched task from another pod when it has looked at the task, the claim had
outlived the timeout at the clock reading that followed, and the pod was found dead. The update that
does so names the status and the owner, not the claim. So it hits the claim that was judged unless the
task was claimed again since the look; and if it was, by the same pod, a young claim is reset.
-/

namespace GridAgent.Cluster

open Agent Track Acquisition

variable {fleet : Fleet} {allowed : Event → Prop} {start c c' : State} {task : TaskId}
  {t record record' : TaskRecord}

/-! Claims in the log. -/

/-- How often the task was claimed. -/
def Shared.claimsOf (s : Shared) (task : TaskId) : Nat :=
  (s.store.transitionsOf task).count .dispatched

/-- Claims are not forgotten. -/
theorem Sound.claimsOf_perform (h : Sound c) {event : Event} (hp : c.perform fleet event = some c')
    (task : TaskId) : c.shared.claimsOf task ≤ c'.shared.claimsOf task :=
  count_of_log (h.log_perform hp) task .dispatched

/-- Claims are not forgotten over a run. -/
theorem Sound.claimsOf_run (h : Sound c) (run : Reaches fleet allowed c c') (task : TaskId) :
    c.shared.claimsOf task ≤ c'.shared.claimsOf task := by
  refine h.along run (Nat.le_refl _) fun d d' event _ sound more performed => ?_
  exact Nat.le_trans more (sound.claimsOf_perform performed task)

/-- An update that is applied is logged. -/
theorem Applies.log {number : Nat} {a : Actor} {expected : Expectation} {change : TaskUpdate}
    (hu : Applies fleet c number a expected change c') (hs : Sound c) :
    c'.shared.store.log = c.shared.store.log ++ [(a.job.task, change.status)] := by
  obtain ⟨b, stored, ha⟩ := hu.answers hs
  have effect := ha.effect
  generalize c'.shared = s' at effect
  cases effect with
  | silent silent alike => cases silent
  | written task expected change record found holds => rfl

/-- A claim that is applied is counted. -/
theorem Applies.claimsOf {number : Nat} {a : Actor} {expected : Expectation} {change : TaskUpdate}
    (hu : Applies fleet c number a expected change c') (hs : Sound c)
    (claims : change.status = .dispatched) :
    c'.shared.claimsOf a.job.task = c.shared.claimsOf a.job.task + 1 := by
  unfold Shared.claimsOf Store.transitionsOf
  rw [hu.log hs, claims, List.filter_append, List.map_append, List.count_append]
  simp

/-! Claims last. -/

theorem SameClaim.refl (t : TaskRecord) : SameClaim t t := ⟨rfl, rfl, rfl⟩

theorem SameClaim.trans (h : SameClaim t record) (h' : SameClaim record record') :
    SameClaim t record' :=
  ⟨h.status.trans h'.status, h.owner.trans h'.owner, h.acquired.trans h'.acquired⟩

/-- What has outlived the timeout is the claim. -/
theorem SameClaim.claimOutlived (h : SameClaim t record) (seen : Date) (timeout : Span) :
    claimOutlived t seen timeout = claimOutlived record seen timeout := by
  unfold Acquisition.claimOutlived
  rw [h.acquired]

/-- A change after which a task is dispatched leaves the claim as it is, or is a new one. -/
theorem Revises.claim_cases (hv : Revises fleet c c' record record')
    (hs : record'.status = .dispatched) :
    SameClaim record record' ∨ ∃ number a expected change, record.id = a.job.task ∧
      Applies fleet c number a expected change c' ∧ change.status = .dispatched := by
  cases hv with
  | kept remaining => exact .inl ⟨rfl, rfl, rfl⟩
  | written number a expected change own applies write holds =>
    rw [TaskRecord.apply_status] at hs
    exact .inr ⟨number, a, expected, change, own, applies, hs⟩
  | _ =>
    rw [TaskRecord.apply_status] at hs
    cases hs

/-- What enters the store is not dispatched. -/
theorem Enters.not_dispatched {event : Event} {s : Store} (he : Enters event s record) :
    record.status ≠ .dispatched := by
  intro hs
  cases he with
  | inserted new here status =>
    have dispatched : new.status = .dispatched := hs
    rw [dispatched] at status
    exact absurd status (by decide)
  | succeeds parent id now => cases hs

/-- After an event that claims no task, a dispatched task was dispatched before, under the same claim. -/
theorem Sound.claim_step (h : Sound c) {event : Event} (hp : c.perform fleet event = some c')
    (unclaimed : c'.shared.claimsOf task ≤ c.shared.claimsOf task)
    (stored : c'.shared.store.get? task = some record') (hs : record'.status = .dispatched) :
    ∃ record, c.shared.store.get? task = some record ∧ SameClaim record record' := by
  cases before : c.shared.store.get? task with
  | none => exact absurd hs (h.enters hp before stored).not_dispatched
  | some record =>
    obtain ⟨found, hf, revised⟩ := h.revises hp before
    obtain rfl := Option.some.inj (hf.symm.trans stored)
    rcases revised.claim_cases hs with same | ⟨number, a, expected, change, own, applies, claims⟩
    · exact ⟨record, rfl, same⟩
    · have counted := applies.claimsOf h claims
      rw [← own, h.keyed _ _ before] at counted
      omega

/-- After a run in which the task is not claimed, a dispatched task was dispatched before, under the
same claim. -/
theorem Sound.claim_run (h : Sound c) (run : Reaches fleet allowed c c')
    (unclaimed : c'.shared.claimsOf task ≤ c.shared.claimsOf task)
    (stored : c'.shared.store.get? task = some record') (hs : record'.status = .dispatched) :
    ∃ record, c.shared.store.get? task = some record ∧ SameClaim record record' := by
  have same : c'.shared.claimsOf task ≤ c.shared.claimsOf task → ∀ record',
      c'.shared.store.get? task = some record' → record'.status = .dispatched →
      ∃ record, c.shared.store.get? task = some record ∧ SameClaim record record' := by
    refine h.along run (fun _ record stored _ => ⟨record, stored, .refl record⟩) ?_
    intro d d' event before sound same performed unclaimed record' stored hs
    have more := h.claimsOf_run before task
    have step := sound.claimsOf_perform performed task
    obtain ⟨between, hb, last⟩ := sound.claim_step performed (Nat.le_trans unclaimed more) stored hs
    obtain ⟨record, hr, first⟩ :=
      same (Nat.le_trans step unclaimed) between hb (last.status.trans hs)
    exact ⟨record, hr, first.trans last⟩
  exact same unclaimed record' stored hs

/-! Resets. -/

/-- When an agent resets the claim of another pod, its last look was taken in a state on the way, the
claim that it showed was of the same pod and had outlived the timeout at the clock reading that
followed. The record that is overwritten is dispatched under that pod. It is the claim that was judged,
and has outlived the timeout at that reading, if the task was not claimed between the look and the
reset. -/
theorem reset_hits_judged_claim (hi : start.Initial) (hr : Reaches fleet anyEvent start c)
    {number : Nat} {a : Actor} {owner : PodId} {now : Date}
    (resets : Applies fleet c number a ((Expectation.status .dispatched).ownedBy owner)
      (.release now) c')
    (other : owner ≠ a.pod) :
    ∃ d l seen record, Reaches fleet anyEvent start d ∧ Reaches fleet anyEvent d c ∧
      a.look = some l ∧ l.TakenIn d number a ∧ l.clock = some seen ∧
      l.record.status = .dispatched ∧ l.record.owner = some owner ∧
      claimOutlived l.record seen (fleet.settings a.pod).dispatchTimeout = true ∧
      c.shared.store.get? a.job.task = some record ∧
      record.status = .dispatched ∧ record.owner = some owner ∧
      (c.shared.claimsOf a.job.task = d.shared.claimsOf a.job.task →
        record.acquired = l.record.acquired ∧
          claimOutlived record seen (fleet.settings a.pod).dispatchTimeout = true) := by
  have sound := hr.sound hi
  obtain ⟨-, record, stored, holds⟩ := resets.found sound
  obtain ⟨b, result, answers⟩ := resets.answers sound
  have status : record.status = .dispatched := List.mem_singleton.mp (Expectation.status_mem holds)
  obtain ⟨l, look, seen, clock, dispatched, held, outlived⟩ :=
    hr.questions hi (List.mem_of_getElem? resets.actor) answers.asks other
  obtain ⟨d, reached, onwards, taken⟩ := hr.look_takenIn hi resets.actor look
  refine ⟨d, l, seen, record, reached, onwards, look, taken, clock, dispatched, held, outlived, stored,
    status, Expectation.owner_of_holds holds rfl, fun unclaimed => ?_⟩
  obtain ⟨found, hf, same⟩ :=
    (reached.sound hi).claim_run onwards (Nat.le_of_eq unclaimed) stored status
  obtain rfl := Option.some.inj (hf.symm.trans taken.stored)
  exact ⟨same.acquired.symm, (same.claimOutlived seen _).symm.trans outlived⟩

/-! A reset on the small cluster. -/

/-- A task was claimed in the morning. At noon a second pod handles another message about it, finds the
first pod dead and is about to reset the claim. -/
def questionedEvents : List Event := plainEvents 15 ++ anotherMessage ⟨"second"⟩ 2 1 6

/-- The first pod cannot reach its worker and hands the task back. Then it claims the task again for
another message. -/
def reclaimEvents : List Event :=
  List.replicate 6 (.answer 0 outOfReach) ++ anotherMessage ⟨"first"⟩ 3 2 6

/-- The small cluster before the reset. -/
def questionedCluster : State := (plainStart.play plainFleet questionedEvents).getD plainStart

/-- The small cluster before the reset of a task that was claimed again. -/
def reclaimedCluster : State :=
  (plainStart.play plainFleet (questionedEvents ++ reclaimEvents)).getD plainStart

/-- The small cluster after the update that the second pod is about to make. -/
def State.afterReset (c : State) : State := (c.play plainFleet [.answer 1 (plainly noon)]).getD c

/-- A claim that was made once is reset as it was judged. -/
theorem reset_hits_judged_claim_once :
    ∃ c c' a l record, Reaches plainFleet anyEvent plainStart c ∧
      Applies plainFleet c 1 a ((Expectation.status .dispatched).ownedBy ⟨"first"⟩) (.release noon) c' ∧
      a.look = some l ∧ c.shared.store.get? a.job.task = some record ∧
      record.acquired = l.record.acquired := by
  have run : Reaches plainFleet anyEvent plainStart questionedCluster := .of_played fun _ _ => trivial
  have resets : Applies plainFleet questionedCluster 1 (plainActor questionedCluster 1)
      ((Expectation.status .dispatched).ownedBy ⟨"first"⟩) (.release noon)
      questionedCluster.afterReset :=
    ⟨rfl, ⟨plainly noon, rfl⟩, plainActor questionedCluster.afterReset 1, _, rfl, rfl⟩
  obtain ⟨d, l, seen, record, reached, onwards, look, taken, -, dispatched, -, -, stored, -, -,
    judged⟩ := reset_hits_judged_claim plainStart_initial run resets (by decide)
  have last : questionedCluster.shared.claimsOf plainTask.id = 1 := by decide +kernel
  have none : plainStart.shared.claimsOf plainTask.id = 0 := by decide +kernel
  have most := (reached.sound plainStart_initial).claimsOf_run onwards plainTask.id
  -- the task was submitted at first, and dispatched when the second pod looked
  have least : d.shared.claimsOf plainTask.id ≠ 0 := by
    intro unclaimed
    obtain ⟨found, hf, same⟩ := plainStart_initial.sound.claim_run reached
      (Nat.le_of_eq (unclaimed.trans none.symm)) taken.stored dispatched
    obtain ⟨-, rfl⟩ := plainStart_stored hf
    exact nomatch same.status.trans dispatched
  have unclaimed : questionedCluster.shared.claimsOf plainTask.id = d.shared.claimsOf plainTask.id := by
    omega
  exact ⟨_, _, _, l, record, run, resets, look, stored, (judged unclaimed).1⟩

/-- Not every reset hits the claim that was judged: the claim of a pod that has claimed the task again
is reset however young it is. -/
theorem not_always_judged :
    ¬ ∀ (fleet : Fleet) (start c c' : State) (number : Nat) (a : Actor) (owner : PodId) (now : Date)
        (l : Look) (seen : Date) (record : TaskRecord), start.Initial →
      Reaches fleet anyEvent start c →
      Applies fleet c number a ((Expectation.status .dispatched).ownedBy owner) (.release now) c' →
      owner ≠ a.pod → a.look = some l → l.clock = some seen →
      c.shared.store.get? a.job.task = some record →
      record.acquired = l.record.acquired ∧
        claimOutlived record seen (fleet.settings a.pod).dispatchTimeout = true := by
  intro always
  have run : Reaches plainFleet anyEvent plainStart reclaimedCluster := .of_played fun _ _ => trivial
  have resets : Applies plainFleet reclaimedCluster 1 (plainActor reclaimedCluster 1)
      ((Expectation.status .dispatched).ownedBy ⟨"first"⟩) (.release noon)
      reclaimedCluster.afterReset :=
    ⟨rfl, ⟨plainly noon, rfl⟩, plainActor reclaimedCluster.afterReset 1, _, rfl, rfl⟩
  have young : (reclaimedCluster.shared.store.get? plainTask.id).map
      (fun record => claimOutlived record noon (plainFleet.settings ⟨"second"⟩).dispatchTimeout) =
        some false := by decide +kernel
  obtain ⟨record, stored, young⟩ := Option.map_eq_some_iff.mp young
  have judged := (always _ _ _ _ _ _ _ _ _ noon record plainStart_initial run resets (by decide)
    (rfl : (plainActor reclaimedCluster 1).look = some _) rfl stored).2
  exact absurd (judged.symm.trans young) (by decide)

end GridAgent.Cluster
