import GridAgent.Proofs.Cluster.Lodgings
import GridAgent.Proofs.Ownership

/-!
# Scratch directories are not shared

All handlers of a task on a pod use one scratch directory. At most one of them is registered at a time,
and no registration is ended by anyone but the handler that made it. So a handler is alone in the
directory, and the worker finds every file of which it is told, as long as nobody registers the task
while another handler has ended its registration and has still to remove the directory.

That gap is real: the registration is ended before the directory is removed. A handler that comes in
between registers, writes its files, and loses them to the removal.
-/

namespace GridAgent.Cluster

open Agent

variable {fleet : Fleet} {start c : State} {pod : PodId} {task : TaskId}

/-- At most one handler of the task is registered on the pod, and the registry shows its execution. -/
def State.RegistersOne (pod : PodId) (task : TaskId) (c : State) : Prop :=
  ∀ (i : Nat) (a : Actor) (run : RunId), c.actors[i]? = some a → a.IsAt pod task →
    a.lodging.run? = some run →
      (c.shared.registries pod).running.get? task = some run ∧
      ∀ (j : Nat) (b : Actor), c.actors[j]? = some b → b.IsAt pod task →
        b.lodging.run?.isSome = true → i = j

/-- Whenever a registration of the task goes from the registry of the pod, the handler that made it has
been answered the call that ends it. -/
def State.EndsOwn (fleet : Fleet) (pod : PodId) (task : TaskId) (c : State) : Prop :=
  ∀ (event : Event) (c' : State) (run : RunId), c.perform fleet event = some c' →
    (c.shared.registries pod).running.get? task = some run →
    (c'.shared.registries pod).running.get? task ≠ some run →
      ∃ number choice a, event = .answer number choice ∧ c.actors[number]? = some a ∧
        a.IsAt pod task ∧ a.Asks (.agent (.unregister run)) ∧
        (⟨.agent (.register task), some run⟩ : Answered) ∈ a.past

/-- Nobody else is about to remove the directory that a handler is in. -/
def State.SparesOthers (pod : PodId) (task : TaskId) (c : State) : Prop :=
  ∀ (i j : Nat) (a b : Actor), c.actors[i]? = some a → c.actors[j]? = some b → a.IsAt pod task →
    a.lodging.isInside = true → b.pod = pod → b.Asks (.agent (.clearScratch task)) → i = j

/-- What a handler has written is in the directory, and so is every file of which it has told the worker
or is about to: the worker finds it at the path that it is told. -/
def State.FindsFiles (fleet : Fleet) (pod : PodId) (task : TaskId) (c : State) : Prop :=
  ∀ a ∈ c.actors, a.IsAt pod task →
    (∀ data bytes, a.lodging.files.get? data = some bytes →
      (c.shared.scratches pod).file? task data = some bytes) ∧
    ∀ data path, (a.HasSent (.data data path) ∧ a.lodging.isInside = true ∨
        ∃ run stream, a.Asks (.agent (.send run stream (.data data path)))) →
      path = Scratch.filePath (fleet.settings pod).scratchRoot task data ∧
        ∃ bytes, a.lodging.files.get? data = some bytes ∧
          (c.shared.scratches pod).file? task data = some bytes

theorem Reaches.registersOne (hr : Reaches fleet anyEvent start c) (hi : start.Initial) :
    c.RegistersOne pod task := by
  rintro i a run ha ⟨rfl, rfl⟩ hrun
  have track := hr.run?_lodging hi
  have own := track a (List.mem_of_getElem? ha)
  refine ⟨?_, fun j b hb atb registered => ?_⟩
  · exact (hr.registered hi).running a (List.mem_of_getElem? ha) run (own.symm.trans hrun)
  · rw [track b (List.mem_of_getElem? hb)] at registered
    refine (hr.registered hi).unique ha hb atb.1.symm atb.2.symm ?_ registered
    rw [← own, hrun]
    rfl

theorem Reaches.endsOwn (hr : Reaches fleet anyEvent start c) (hi : start.Initial) :
    c.EndsOwn fleet pod task := by
  intro event c' run hp before after
  obtain ⟨number, choice, a, rfl, ha, asks, rfl, rfl, own⟩ :=
    (hr.registered hi).ends (hr.sound hi) hp before after
  have hm := List.mem_of_getElem? ha
  have registered := hr.registers hi a hm run ((hr.run?_lodging hi a hm).trans own)
  exact ⟨number, choice, a, rfl, ha, ⟨rfl, rfl⟩, asks, registered⟩

theorem State.Lodged.sparesOthers (h : c.Lodged pod task) (hr : Reaches fleet anyEvent start c)
    (hi : start.Initial) : c.SparesOthers pod task := by
  intro i j a b ha hb ata inside here asks
  obtain ⟨about, leaving⟩ := hr.may_lodging hi (List.mem_of_getElem? hb) asks
  exact h.alone i j a b ha hb
    ⟨ata, ⟨here, about.symm⟩, inside, Lodging.isInside_of_leaving leaving⟩

theorem State.Lodged.findsFiles (h : c.Lodged pod task) (hr : Reaches fleet anyEvent start c)
    (hi : start.Initial) : c.FindsFiles fleet pod task := by
  intro a ha ata
  have there := h.files a ha ata
  refine ⟨there, fun data path told => ?_⟩
  have named : Names (fleet.settings a.pod).scratchRoot a.job.task (.data data path)
      a.lodging.files := by
    rcases told with ⟨sent, inside⟩ | ⟨run, stream, asks⟩
    · exact (hr.told hi a ha _ sent).2 inside
    · exact (hr.may_lodging hi ha asks).2
  rw [ata.1, ata.2] at named
  obtain ⟨bytes, written⟩ := Option.isSome_iff_exists.mp named.2
  exact ⟨named.1, bytes, written, there data bytes written⟩

/-- In every reached cluster at most one handler of a task is registered on a pod, and a registration
ends only by the handler that made it. Where on the way no handler has registered the task before all
others of the pod had removed the directory, nobody else is about to remove the directory that a handler
is in, what it has written is there, and so is every file at the path of which the worker is told. -/
theorem scratch_isolated (hi : start.Initial) (hr : Reaches fleet anyEvent start c) (pod : PodId)
    (task : TaskId) :
    c.RegistersOne pod task ∧ c.EndsOwn fleet pod task ∧
      (Passes fleet anyEvent (State.CleansFirst pod task) start c →
        c.SparesOthers pod task ∧ c.FindsFiles fleet pod task) := by
  refine ⟨hr.registersOne hi, hr.endsOwn hi, fun cleans => ?_⟩
  have lodged := cleans.lodged hi
  exact ⟨lodged.sparesOthers hr hi, lodged.findsFiles hr hi⟩

/-! One handler after the other. -/

/-- A handler finds the worker out of reach, hands the task back, and has removed the directory when
another message about the task comes to a second handler of the pod, which claims the task, registers
it, writes the payload and tells the worker of it. -/
def successiveEvents : List Event :=
  plainEvents 15 ++ List.replicate 9 (.answer 0 outOfReach) ++ anotherMessage ⟨"first"⟩ 2 1 20

/-- The small cluster with two handlers on one pod. -/
def successiveCluster : State := (plainStart.play plainFleet successiveEvents).getD plainStart

/-- The first handler is gone, the second one is registered, and the payload of which it has told the
worker is there. -/
theorem scratch_isolated_successive :
    ∃ c first second, Reaches plainFleet anyEvent plainStart c ∧ c.actors = [first, second] ∧
      first.lodging = .gone ∧
      (c.shared.registries ⟨"first"⟩).running.get? plainTask.id = some 1 ∧
      second.HasSent (.data plainTask.payload
        (Scratch.filePath "" plainTask.id plainTask.payload)) ∧
      (c.shared.scratches ⟨"first"⟩).file? plainTask.id plainTask.payload = some [] := by
  have passes : Passes plainFleet anyEvent (State.CleansFirst ⟨"first"⟩ plainTask.id) plainStart
      successiveCluster :=
    Passes.of_play successiveEvents (fun _ _ => trivial) (by decide +kernel) rfl
  have ha : successiveCluster.actors[1]? = some (plainActor successiveCluster 1) := rfl
  have sent : (plainActor successiveCluster 1).HasSent (.data plainTask.payload
      (Scratch.filePath "" plainTask.id plainTask.payload)) :=
    ⟨1, 0, _, List.mem_of_getElem? (rfl : (plainActor successiveCluster 1).past[0]? = some _)⟩
  obtain ⟨one, -, isolated⟩ :=
    scratch_isolated plainStart_initial passes.reaches ⟨"first"⟩ plainTask.id
  obtain ⟨registered, -⟩ := one 1 _ 1 ha ⟨rfl, rfl⟩ rfl
  obtain ⟨-, bytes, written, there⟩ :=
    ((isolated passes).2 _ (List.mem_of_getElem? ha) ⟨rfl, rfl⟩).2 _ _ (.inl ⟨sent, rfl⟩)
  have payload : (plainActor successiveCluster 1).lodging.files.get? plainTask.payload = some [] :=
    rfl
  obtain rfl := Option.some.inj (payload.symm.trans written)
  exact ⟨_, plainActor successiveCluster 0, _, passes.reaches, rfl, rfl, registered, sent, there⟩

/-! The gap. -/

/-- A handler finds the worker out of reach, hands the task back and ends its registration. Before it
removes the directory another message about the task comes to a second handler of the pod, which claims
the task, registers it and writes the payload. Then the first handler removes the directory, and the
second one tells the worker of the payload. -/
def lateEvents : List Event :=
  plainEvents 15 ++ List.replicate 6 (.answer 0 outOfReach) ++ anotherMessage ⟨"first"⟩ 2 1 11 ++
    [.answer 0 outOfReach] ++ List.replicate 9 (.answer 1 (plainly noon))

/-- The small cluster after a late removal. -/
def lateCluster : State := (plainStart.play plainFleet lateEvents).getD plainStart

/-- Not every handler keeps what it has written: one is registered, has written the payload and has told
the worker where it is, and it is not there. -/
theorem not_always_isolated :
    ∃ c a, Reaches plainFleet anyEvent plainStart c ∧ a ∈ c.actors ∧
      a.lodging.run? = some 1 ∧ a.lodging.files.get? plainTask.payload = some [] ∧
      a.HasSent (.data plainTask.payload
        (Scratch.filePath "" plainTask.id plainTask.payload)) ∧
      (c.shared.scratches a.pod).file? plainTask.id plainTask.payload = none ∧
      ¬ c.FindsFiles plainFleet ⟨"first"⟩ plainTask.id := by
  have run : Reaches plainFleet anyEvent plainStart lateCluster := .of_played fun _ _ => trivial
  have ha : plainActor lateCluster 1 ∈ lateCluster.actors :=
    List.mem_of_getElem? (rfl : lateCluster.actors[1]? = some _)
  have sent : (plainActor lateCluster 1).HasSent (.data plainTask.payload
      (Scratch.filePath "" plainTask.id plainTask.payload)) :=
    ⟨1, 0, _, List.mem_of_getElem? (rfl : (plainActor lateCluster 1).past[0]? = some _)⟩
  have written : (plainActor lateCluster 1).lodging.files.get? plainTask.payload = some [] := rfl
  have missing : (lateCluster.shared.scratches ⟨"first"⟩).file? plainTask.id plainTask.payload =
      none := rfl
  refine ⟨_, _, run, ha, rfl, written, sent, missing, fun finds => ?_⟩
  exact nomatch missing.symm.trans ((finds _ ha ⟨rfl, rfl⟩).1 _ _ written)

end GridAgent.Cluster
