import GridAgent.Proofs.Cluster.Holding
import GridAgent.Proofs.Cluster.Succession
import GridAgent.Proofs.Handler.Repair

/-!
# Lineages that are repaired

A handler that begins when its task is retried, and to which nothing goes wrong, has seen the
successor of the task out of creation when it returns; and what handlers see of successors stays so.
-/

namespace GridAgent.Cluster

open Agent Program

variable {fleet : Fleet} {start first c c' : State} {task heir : TaskId} {number : Nat} {a b : Actor}
  {operation : Operation} {reply : operation.Reply} {k : Sighting}

/-- Nothing goes wrong in an answered call: the store and the queue are reached, the session runs,
and the agent does not shut down. -/
def Answered.isHealthy : Answered → Bool
  | ⟨.agent (.readTask _), .error _⟩ => false
  | ⟨.agent (.readSession _), .ok (some (session : SessionRecord))⟩ => session.status = .running
  | ⟨.agent (.readSession _), _⟩ => false
  | ⟨.agent .shutdownRequested, asked⟩ => !asked
  | ⟨.agent (.findSuccessor _), .error _⟩ => false
  | ⟨.agent (.createSuccessor ..), .error _⟩ => false
  | ⟨.agent (.updateTask ..), .error (.unavailable _)⟩ => false
  | ⟨.agent (.push _), .error _⟩ => false
  | _ => true

/-! Sightings. -/

/-- What was seen of the successor of a task is so. -/
def Sighting.Fits (task : TaskId) (s : Store) : Sighting → Prop
  | unseen => True
  | creating heir => s.successors.get? task = some heir
  | secured heir => s.successors.get? task = some heir ∧
    ∃ t, s.get? heir = some t ∧ t.status ≠ .creating

/-- What was seen of a successor stays so. -/
theorem Sighting.Fits.perform (h : k.Fits task c.shared.store) (hs : Sound c)
    (hc : Successions c.shared.store) {event : Event} (hp : c.perform fleet event = some c') :
    k.Fits task c'.shared.store := by
  cases k with
  | unseen => trivial
  | creating heir => exact hc.heirsStored.recorded_step hs hp h
  | secured heir =>
    obtain ⟨recorded, t, ht, left⟩ := h
    obtain ⟨t', ht', same | next⟩ := hs.status_step hp ht
    · exact ⟨hc.heirsStored.recorded_step hs hp recorded, t', ht', fun e => left (same.symm.trans e)⟩
    · refine ⟨hc.heirsStored.recorded_step hs hp recorded, t', ht', fun e => ?_⟩
      rw [e] at next
      exact TaskStatus.creating_not_mem_next _ next

/-- A stored successor that is seen is the recorded one. -/
theorem Sighting.fits_of (hs : Sound c) {t : TaskRecord}
    (found : c.shared.store.successor? task = some t) :
    (Sighting.of t).Fits task c.shared.store := by
  obtain ⟨recorded, stored⟩ := hs.of_successor? found
  unfold Sighting.of
  split
  · exact recorded
  · next left => exact ⟨recorded, t, stored, left⟩

/-- A task that is stored is found by an update. -/
theorem update_ne_notFound {pod : PodId} {s s' : Shared} {expected : Expectation}
    {change : TaskUpdate} {t : TaskRecord} (stored : s.store.get? task = some t) {other : TaskId}
    {choice : Option (Request.updateTask task expected change).Reply} :
    s.answer pod (.agent (.updateTask task expected change)) choice ≠
      some (.error (.notFound other), s') := by
  intro h
  have answer : (Store.update task expected change s.store).1 = .error (.notFound other) :=
    congrArg Prod.fst (Option.some.inj h)
  rcases Store.update_cases task expected change s.store with
    ⟨reason, failed, -⟩ | ⟨missing, -⟩ | ⟨_, -, -, lost⟩ | ⟨_, -, -, written⟩
  · cases failed.symm.trans answer
  · cases missing.symm.trans stored
  · rw [lost] at answer
    cases answer
  · rw [written] at answer
    cases answer

/-- Whoever does not find a task in a status lost it to another one. -/
theorem Expectation.status_ne {status : TaskStatus} {t : TaskRecord}
    (h : (Expectation.status status).holds t = false) : t.status ≠ status := by
  rintro rfl
  simp [Expectation.status, Expectation.holds, OwnerMatch.holds] at h

/-! Handlers that repair. -/

/-- What an actor has seen of the successor of a task. -/
def Actor.sighting (task : TaskId) (a : Actor) : Sighting :=
  a.books (withFinalizers (repairing task) False) .unseen

/-- The actor repairs the lineage of a task, and what it has seen is so. -/
structure Actor.IsRepairing (s : Store) (task : TaskId) (a : Actor) : Prop where
  /-- It does not return before the successor was seen out of creation. -/
  obeys : a.Obeys (withFinalizers (repairing task) False) .unseen fun _ _ k => k.IsSecured
  /-- What it has seen is so. -/
  fits : (a.sighting task).Fits task s

/-- A healthy answer is counted on, as long as what was seen is so. -/
theorem Answers.credible_repair (ha : Answers c number a b operation reply c') (hs : Sound c)
    (hc : Successions c.shared.store) {choice : Option operation.Reply}
    (answered : c.shared.answer a.pod operation choice = some (reply, c'.shared))
    (retried : c.shared.Has task fun t => t.status = .retried)
    (may : (withFinalizers (repairing task) False).may k operation)
    (fits : k.Fits task c.shared.store) (healthy : Answered.isHealthy ⟨operation, reply⟩ = true) :
    (withFinalizers (repairing task) False).credible operation reply := by
  rcases operation with request | request
  · cases request with
    | readTask other =>
      obtain rfl : other = task := may
      rcases reply with cause | found
      · cases healthy
      · obtain ⟨t, ht, retried⟩ := retried
        obtain ⟨rfl, -⟩ := read_of_effect ha.effect
        exact ⟨t, congrArg Except.ok ht, hs.keyed other t ht, retried⟩
    | updateTask other expected change =>
      obtain ⟨rfl, -, -⟩ := may
      obtain ⟨-, t, stored, -⟩ := hc.recorded task other fits
      rcases reply with (missing | found | reason) | t
      · exact absurd answered (update_ne_notFound stored)
      · exact .inr ⟨found, rfl⟩
      · cases healthy
      · exact .inl ⟨t, rfl⟩
    | readSession other =>
      rcases reply with _ | _ | session
      · cases healthy
      · cases healthy
      · exact ⟨session, rfl, of_decide_eq_true healthy⟩
    | shutdownRequested =>
      rcases reply with _ | _
      · rfl
      · cases healthy
    | findSuccessor other =>
      rcases reply with _ | found
      · cases healthy
      · exact ⟨found, rfl⟩
    | createSuccessor parent candidate =>
      rcases reply with _ | t
      · cases healthy
      · exact ⟨t, rfl⟩
    | push tasks =>
      rcases reply with _ | _
      · cases healthy
      · rfl
    | _ => exact trivial
  · exact trivial

/-- The successor that is created, or found in its place, is seen as it is. -/
theorem Answers.fits_created {parent candidate t : TaskRecord}
    (ha : Answers c number a b (.agent (.createSuccessor parent candidate)) (.ok t) c') (hs : Sound c)
    (kept : ∀ k : Sighting, k.Fits parent.id c.shared.store → k.Fits parent.id c'.shared.store) :
    (Sighting.of t).Fits parent.id c'.shared.store := by
  obtain ⟨now, hc⟩ := ha.may.2.2.2.2
  have effect := ha.effect
  generalize c'.shared = s' at effect kept
  cases effect with
  | silent silent => cases silent
  | existing _ _ _ found => exact kept _ (Sighting.fits_of hs found)
  | created _ _ missing =>
    have new : candidate.status = .creating := by rw [hc]; rfl
    have seen : Sighting.of candidate = .creating candidate.id := if_pos new
    rw [seen]
    exact (Table.get?_set ..).trans (if_pos rfl)

/-- A promotion is lost when someone else has taken the successor out of creation. -/
theorem Answers.fits_lost {change : TaskUpdate} {found : LostUpdate}
    (ha : Answers c number a b (.agent (.updateTask heir (.status .creating) change))
      (.error (.conflict found)) c')
    (recorded : c.shared.store.successors.get? task = some heir) :
    (Sighting.secured heir).Fits task c.shared.store := by
  have effect := ha.effect
  generalize c'.shared = s' at effect
  cases effect with
  | silent silent => cases silent
  | lost _ _ _ record stored unexpected =>
    exact ⟨recorded, record, stored, Expectation.status_ne unexpected⟩

/-- What is noted of an answer is so. -/
theorem Answers.fits_repair (ha : Answers c number a b operation reply c') (hs : Sound c)
    {choice : Option operation.Reply}
    (answered : c.shared.answer a.pod operation choice = some (reply, c'.shared))
    (kept : ∀ k : Sighting, k.Fits task c.shared.store → k.Fits task c'.shared.store)
    (may : (withFinalizers (repairing task) False).may k operation)
    (fits : k.Fits task c.shared.store) :
    ((withFinalizers (repairing task) False).note k operation reply).Fits task c'.shared.store := by
  rcases operation with request | request
  · cases request with
    | findSuccessor other =>
      obtain rfl : other = task := may
      rcases reply with _ | _ | t
      · exact kept k fits
      · exact kept k fits
      · exact kept _ (Sighting.fits_of hs (successor_of_answer answered))
    | createSuccessor parent candidate =>
      obtain rfl : parent.id = task := may
      rcases reply with _ | t
      · exact kept k fits
      · exact ha.fits_created hs kept
    | updateTask other expected change =>
      obtain ⟨rfl, rfl, promoted⟩ := may
      have recorded : c'.shared.store.successors.get? task = some other := kept _ fits
      rcases reply with (missing | found | reason) | t
      · exact recorded
      · exact kept _ (ha.fits_lost fits)
      · exact recorded
      · obtain ⟨⟨found, -, -, rfl⟩, stored⟩ := written_of_effect ha.effect
        refine ⟨recorded, _, stored, ?_⟩
        rw [TaskRecord.apply_status, promoted]
        nofun
    | _ => exact kept k fits
  · exact kept k fits

/-- A repairing actor goes on so after a healthy answer. -/
theorem Actor.IsRepairing.advance {next : operation.Reply → Program operations a.job.Result}
    (h : a.IsRepairing c.shared.store task) (asks : a.rest = .call operation next)
    (ha : Answers c number a (a.advance operation reply (next reply)) operation reply c') (hs : Sound c)
    (hc : Successions c.shared.store) {choice : Option operation.Reply}
    (answered : c.shared.answer a.pod operation choice = some (reply, c'.shared))
    (kept : ∀ k : Sighting, k.Fits task c.shared.store → k.Fits task c'.shared.store)
    (retried : c.shared.Has task fun t => t.status = .retried)
    (healthy : Answered.isHealthy ⟨operation, reply⟩ = true) :
    (a.advance operation reply (next reply)).IsRepairing c'.shared.store task := by
  have may := h.obeys.may asks
  refine ⟨h.obeys.advance asks ?_, ?_⟩
  · exact ha.credible_repair hs hc answered retried may h.fits healthy
  · exact ha.fits_repair hs answered kept may h.fits

/-- From a state in which a task is retried, every handler of the task that begins and to which
nothing goes wrong repairs its lineage. -/
theorem Reaches.repairing (hf : Reaches fleet insertsFirst start first) (hi : start.Initial)
    (h : Successions start.shared.store) (retried : first.shared.Has task fun t => t.status = .retried)
    (hr : Reaches fleet insertsFirst first c) :
    ∀ i x message, c.actors[i]? = some x → first.actors.length ≤ i → x.job = .handle message task →
      (∀ y ∈ x.past, y.isHealthy = true) → x.IsRepairing c.shared.store task := by
  obtain ⟨t₀, stored, still⟩ := retried
  induction hr with
  | refl =>
    intro i x message hx hi
    exact absurd (List.getElem?_eq_some_iff.mp hx).1 (Nat.not_lt_of_le hi)
  | step event before permitted performed ih =>
    rename_i c c'
    intro i x message hx late job healthy
    have run := hf.trans before
    have sound := run.sound hi
    have successions := run.successions hi h
    have kept (k : Sighting) (hk : k.Fits task c.shared.store) : k.Fits task c'.shared.store :=
      hk.perform sound successions performed
    have old {x : Actor} (hx : x.IsRepairing c.shared.store task) :
        x.IsRepairing c'.shared.store task := ⟨hx.obeys, kept _ hx.fits⟩
    cases event with
    | start pod job' =>
      obtain ⟨-, rfl⟩ := State.of_start performed
      rcases getElem?_started hx with hx | ⟨-, rfl⟩
      · exact old (ih i x message hx late job healthy)
      · obtain rfl : job' = .handle message task := job
        exact ⟨handle_repairs _ message task, trivial⟩
    | answer number choice =>
      obtain ⟨a, operation, next, reply, asks, ha, answered⟩ := sound.advances performed
      rcases ha.cases hx with ⟨rfl, rfl⟩ | ⟨-, hx⟩
      · have here := ih i a message ha.actor late job fun y hy =>
          healthy y (List.mem_cons_of_mem _ hy)
        obtain ⟨t, ht, -, stays⟩ := (hf.sound hi).record_run stored before
        exact here.advance asks ha sound successions answered kept ⟨t, ht, stays still⟩
          (healthy _ List.mem_cons_self)
      · exact old (ih i x message hx late job healthy)
    | handBack message =>
      obtain ⟨-, rfl⟩ := State.of_handBack performed
      exact old (ih i x _ hx late job healthy)
    | move m =>
      obtain ⟨shared, -, rfl⟩ := State.of_move performed
      exact old (ih i x message hx late job healthy)

/-- Such a handler has secured the successor when it returns. -/
theorem Actor.IsRepairing.secured {s : Store} (h : a.IsRepairing s task) {value : a.job.Result}
    (returned : a.rest = .done value) :
    ∃ heir t, s.successors.get? task = some heir ∧ s.get? heir = some t ∧ t.status ≠ .creating := by
  obtain ⟨heir, seen⟩ := h.obeys.returned returned
  have fits := h.fits
  rw [Actor.sighting, seen] at fits
  obtain ⟨recorded, t, ht, left⟩ := fits
  exact ⟨heir, t, recorded, ht, left⟩

end GridAgent.Cluster
