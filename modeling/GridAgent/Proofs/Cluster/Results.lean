import GridAgent.Proofs.Cluster.Lineages
import GridAgent.Proofs.Handler.Settling

/-!
# Settled results along a run

An end that is stored stays, and so do the expected outputs of a task. So what an agent has seen of
an end still holds when it settles results for it, however late that is. Where nobody but agents
settles data, available data is what a completed task was to produce, and data that was given up is
what a failed task was to produce.
-/

namespace GridAgent

namespace Store

variable {s s' later : Store} {P : TaskStatus → Bool} {data : DataId}

/-- Whatever is stored stays stored with the same expected outputs, and an end stays. -/
def ComesTo (s later : Store) : Prop :=
  ∀ task t, s.get? task = some t → later.Expects task t.outputs ∧ later.Confirms task t.status

theorem ComesTo.trans (h : s.ComesTo s') (h' : s'.ComesTo later) : s.ComesTo later := by
  intro task t ht
  obtain ⟨⟨u, hu, outputs⟩, confirms⟩ := h task t ht
  obtain ⟨expects, confirms'⟩ := h' task u hu
  refine ⟨outputs ▸ expects, fun ends => ?_⟩
  obtain ⟨found, hf, same⟩ := confirms ends
  obtain rfl := Option.some.inj (hu.symm.trans hf)
  rw [beq_iff_eq.mp same] at confirms'
  exact confirms' ends

/-- What tasks that have ended yield they yield later too. -/
theorem Yields.comesTo (h : s.Yields P data)
    (ends : ∀ {status}, P status = true → status.isTerminal = true) (hc : s.ComesTo later) :
    later.Yields P data := by
  obtain ⟨task, t, ht, hp, hm⟩ := h
  obtain ⟨expects, confirms⟩ := hc task t ht
  exact (confirms.isStored (ends hp) hp).yields expects data hm

end Store

namespace Cluster

open Agent Program

variable {fleet : Fleet} {allowed : Event → Prop} {start c c' : State} {pod : PodId} {s s' : Shared}
  {later : Store} {number : Nat} {a b : Actor} {operation : Operation} {reply : operation.Reply}
  {data : DataId}

/-- Every event lets the store come to the next one. -/
theorem Sound.comesTo (h : Sound c) {event : Event} (hp : c.perform fleet event = some c') :
    c.shared.store.ComesTo c'.shared.store := by
  intro task t ht
  obtain ⟨t', ht', same, next⟩ := h.record_step hp ht
  refine ⟨⟨t', ht', congrArg Heritage.outputs same⟩, fun ends => ⟨t', ht', beq_iff_eq.mpr ?_⟩⟩
  rw [TaskStatus.next_of_isTerminal ends] at next
  exact next.resolve_right List.not_mem_nil

/-! Agents and results. -/

/-- Answers can be counted on as those who settle results count on them. -/
theorem settlement_credible (h : Sound c) {choice : Option operation.Reply}
    (ha : Answers c number a b operation reply c')
    (hs : c.shared.answer a.pod operation choice = some (reply, c'.shared))
    (hc : c'.shared.store.ComesTo later) : (settlement later).credible operation reply := by
  have effect := ha.effect
  have confirmed {task : TaskId} {t : TaskRecord} (ht : c'.shared.store.get? task = some t) :
      IsConfirmed later task t := ⟨h.keyed_of_answers ha task t ht, (hc task t ht).2⟩
  rcases operation with request | request
  · cases request with
    | readTask task =>
      rintro t rfl
      exact confirmed (shown_of_effect effect)
    | updateTask task expected change =>
      constructor
      · rintro t rfl
        obtain ⟨⟨record, -, -, rfl⟩, stored⟩ := written_of_effect effect
        exact ⟨confirmed stored, TaskRecord.apply_status record change⟩
      · rintro found rfl
        obtain ⟨record, stored, rfl⟩ := lost_of_effect effect
        exact (confirmed stored).status
    | _ => exact trivial
  · cases request with
    | readTask task =>
      rintro t rfl
      obtain ⟨found, same⟩ := Prod.mk.inj (Option.some.inj hs)
      rw [← same] at hc
      rcases Store.read_cases task c.shared.store with ⟨reason, failed, -⟩ | read
      · cases found.symm.trans failed
      · have stored : c.shared.store.get? task = some t :=
          Except.ok.inj ((congrArg Prod.fst read).symm.trans found)
        have still : (c.shared.onStore (Store.read task)).2.store.get? task = some t := by
          rw [Shared.onStore, read]
          exact stored
        exact (hc task t still).1
    | giveUp data now =>
      intro task hm
      obtain ⟨t, ht, failed⟩ := failed_of_effect effect hm
      have ends := (hc task t ht).2
      rw [failed] at ends
      exact ends.isStored rfl rfl
    | _ => exact trivial

/-- Every actor follows the rules of settlement, for any store that is to come. -/
theorem Reaches.settles (hr : Reaches fleet allowed start c) (hi : start.Initial) :
    ∀ a ∈ c.actors, ∀ later, c.shared.store.ComesTo later →
      a.Obeys (settlement later) () fun _ _ _ => True := by
  refine hr.obey hi (fun _ _ later => settlement later) (fun s _ later => s.store.ComesTo later)
    ?_ ?_ ?_
  · exact fun pod job later => settlement_followed _ job
  · exact fun hr hp job later hc => ((hr.sound hi).comesTo hp).trans hc
  · exact fun hr _ ha hs later hc => settlement_credible (hr.sound hi) ha hs hc

/-! What is settled. -/

/-- A call makes data available only if a finalizer settles it so. -/
theorem available_of_effect (h : Effect pod s operation reply s')
    (hd : data ∈ s'.store.available) :
    data ∈ s.store.available ∨ ∃ now, operation = .finalizer (.resolve data now) := by
  cases h with
  | silent silent alike =>
    obtain ⟨failures, scratches, rfl⟩ := alike
    exact .inl hd
  | resolved other now =>
    have added : data ∈ s.store.available.insert other := hd
    exact (IdSet.mem_insert.mp added).elim (fun e => .inr ⟨now, by rw [e]⟩) .inl
  | _ => exact .inl hd

/-- A call gives data up only if a finalizer settles it so. -/
theorem aborted_of_effect (h : Effect pod s operation reply s') (hd : data ∈ s'.store.aborted) :
    data ∈ s.store.aborted ∨ ∃ now, operation = .finalizer (.giveUp data now) := by
  cases h with
  | silent silent alike =>
    obtain ⟨failures, scratches, rfl⟩ := alike
    exact .inl hd
  | gaveUp other now =>
    have added : data ∈ s.store.aborted.insert other := hd
    exact (IdSet.mem_insert.mp added).elim (fun e => .inr ⟨now, by rw [e]⟩) .inl
  | _ => exact .inl hd

/-- Only agents settle data. -/
def settledByAgents : Event → Prop
  | .move (.resolve ..) => False
  | .move (.giveUp ..) => False
  | _ => True

/-- What happens outside the agents settles no data. -/
theorem settled_of_move {m : Move} (permitted : settledByAgents (.move m))
    (hm : s.move m = some s') :
    s'.store.available = s.store.available ∧ s'.store.aborted = s.store.aborted := by
  obtain ⟨effect, -⟩ := effect_of_move hm
  generalize s'.store = store at effect ⊢
  cases effect with
  | aside same =>
    obtain ⟨failures, rfl⟩ := same
    exact ⟨rfl, rfl⟩
  | resolved => exact permitted.elim
  | gaveUp => exact permitted.elim
  | _ => exact ⟨rfl, rfl⟩

/-- Data is settled as the tasks have ended that were to produce it. -/
structure SettledByEnds (s : Store) : Prop where
  /-- What is available a completed task was to produce. -/
  available : ∀ data ∈ s.available, s.Yields TaskStatus.isSuccess data
  /-- What was given up a failed task was to produce. -/
  aborted : ∀ data ∈ s.aborted, s.Yields TaskStatus.isFailure data

/-- Data stays settled as tasks have ended where it is settled no further. -/
theorem SettledByEnds.kept {s s' : Store} (h : SettledByEnds s) (hc : s.ComesTo s')
    (available : ∀ data ∈ s'.available, data ∈ s.available ∨ s'.Yields TaskStatus.isSuccess data)
    (aborted : ∀ data ∈ s'.aborted, data ∈ s.aborted ∨ s'.Yields TaskStatus.isFailure data) :
    SettledByEnds s' := by
  refine ⟨fun data hd => (available data hd).elim (fun old => ?_) id,
    fun data hd => (aborted data hd).elim (fun old => ?_) id⟩
  · exact (h.available data old).comesTo TaskStatus.isTerminal_of_isSuccess hc
  · exact (h.aborted data old).comesTo TaskStatus.isTerminal_of_isFailure hc

/-- Data stays settled as tasks have ended when an actor is answered. -/
theorem SettledByEnds.answered (h : SettledByEnds c.shared.store)
    (hc : c.shared.store.ComesTo c'.shared.store) (ha : Answers c number a b operation reply c')
    (obeys : a.Obeys (settlement c'.shared.store) () fun _ _ _ => True) :
    SettledByEnds c'.shared.store := by
  obtain ⟨next, asks⟩ := ha.asks
  have may := obeys.may asks
  refine h.kept hc (fun data hd => ?_) fun data hd => ?_
  · rcases available_of_effect ha.effect hd with old | ⟨now, rfl⟩
    · exact .inl old
    · exact .inr may
  · rcases aborted_of_effect ha.effect hd with old | ⟨now, rfl⟩
    · exact .inl old
    · exact .inr may

/-- Where only agents settle data, it is settled as the tasks have ended that were to produce it. -/
theorem Reaches.settledByEnds (hr : Reaches fleet settledByAgents start c) (hi : start.Initial)
    (h : SettledByEnds start.shared.store) : SettledByEnds c.shared.store := by
  apply hr.invariant h
  intro c c' event hr h permitted hp
  have sound := hr.sound hi
  have hc := sound.comesTo hp
  rcases sound.store_cases hp with same | ⟨number, a, b, operation, reply, ha⟩ | ⟨m, rfl, hm⟩
  · exact same ▸ h
  · exact h.answered hc ha (hr.settles hi a (List.mem_of_getElem? ha.actor) _ hc)
  · obtain ⟨available, aborted⟩ := settled_of_move permitted hm
    exact h.kept hc (fun data hd => .inl (available ▸ hd)) fun data hd => .inl (aborted ▸ hd)

end Cluster

end GridAgent
