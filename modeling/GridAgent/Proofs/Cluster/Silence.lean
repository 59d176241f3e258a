import GridAgent.Proofs.Cluster.Solo

/-!
# Calls that are not made

Surroundings may be silent on some calls. A job that comes to its end in spite of it has made none of
those calls, so it comes to the same end in surroundings that do answer them.
-/

namespace GridAgent.Cluster

/-- A call that is answered as the surroundings choose, and not at all if they do not. -/
structure Operation.IsFree (operation : Operation) : Prop where
  /-- It takes an answer. -/
  solid : ∀ wait, operation ≠ .agent (.pause wait)
  /-- Nobody else answers it. -/
  unanswered : ∀ (shared : Shared) (pod : PodId), shared.answer pod operation none = none

namespace Surroundings

variable {σ : Surroundings} {α : Type} {w w' : Scene} {operation : Operation}
  {reply : operation.Reply} {on : Operation → Bool}

/-- The surroundings, silent on some calls. -/
def silent (σ : Surroundings) (on : Operation → Bool) : Surroundings where
  pod := σ.pod
  replies past operation := if on operation then none else σ.replies past operation
  exposes := σ.exposes
  reads_sessions past session reason := by
    split
    · nofun
    · exact σ.reads_sessions past session reason

/-- Surroundings choose as before on other calls. -/
theorem replies_silent (past : List Answered) (spoken : on operation = false) :
    (σ.silent on).replies past operation = σ.replies past operation := by
  show (if on operation = true then none else σ.replies past operation) = _
  rw [spoken, if_neg Bool.false_ne_true]

/-- From one scene to the other some calls were answered, none of them in silence. -/
def SpokeOnly (on : Operation → Bool) (w w' : Scene) : Prop :=
  ∃ calls, w'.past = calls ++ w.past ∧ ∀ x ∈ calls, on x.operation = false

theorem SpokeOnly.refl (on : Operation → Bool) (w : Scene) : SpokeOnly on w w :=
  ⟨[], rfl, fun _ called => absurd called List.not_mem_nil⟩

theorem SpokeOnly.trans {w'' : Scene} (h : SpokeOnly on w w') (h' : SpokeOnly on w' w'') :
    SpokeOnly on w w'' := by
  obtain ⟨calls, past, spoken⟩ := h
  obtain ⟨calls', past', spoken'⟩ := h'
  refine ⟨calls' ++ calls, ?_, fun x hx => ?_⟩
  · rw [past', past, List.append_assoc]
  · exact (List.mem_append.mp hx).elim (spoken' x) (spoken x)

/-- A call that comes through in spite of the silence is none of those. -/
theorem grant_of_silent (free : ∀ operation, on operation = true → operation.IsFree)
    (h : (σ.silent on).grant w operation = some (reply, w')) :
    σ.grant w operation = some (reply, w') ∧ SpokeOnly on w w' := by
  unfold grant at h ⊢
  split at h
  · cases h
    exact ⟨rfl, .refl on _⟩
  · by_cases hushed : on operation = true
    · have unchosen : (σ.silent on).replies w.past operation = none := if_pos hushed
      rw [unchosen, (free operation hushed).unanswered] at h
      cases h
    · have spoken : on operation = false := Bool.eq_false_iff.mpr hushed
      rw [replies_silent w.past spoken] at h
      refine ⟨h, ?_⟩
      obtain ⟨⟨answer, shared⟩, -, same⟩ := Option.map_eq_some_iff.mp h
      cases same
      exact ⟨[⟨operation, reply⟩], rfl, by simpa using spoken⟩

/-- A call that is answered or refused in spite of the silence is none of those. -/
theorem meet_of_silent (free : ∀ operation, on operation = true → operation.IsFree)
    (h : (σ.silent on).meet w operation = some (reply, w')) :
    σ.meet w operation = some (reply, w') ∧ SpokeOnly on w w' := by
  have passed (w₁ : Scene) (past : w₁.past = w.past)
      (h : (σ.silent on).grant w₁ operation = some (reply, w')) :
      σ.grant w₁ operation = some (reply, w') ∧ SpokeOnly on w w' := by
    obtain ⟨granted, calls, later, spoken⟩ := grant_of_silent free h
    exact ⟨granted, calls, past ▸ later, spoken⟩
  unfold meet at h ⊢
  split at h
  · split at h
    · next exposed =>
      cases h
      rw [if_pos (show σ.exposes operation = true from exposed)]
      exact ⟨rfl, .refl on _⟩
    · next covered =>
      rw [if_neg (show ¬ σ.exposes operation = true from covered)]
      exact passed w.next rfl h
  · exact passed w.next rfl h
  · exact passed w rfl h

/-- A job that comes to its end in spite of the silence does so without it, and has made none of
those calls. -/
theorem solo_of_silent (free : ∀ operation, on operation = true → operation.IsFree)
    {p : Program operations α} {value : α} (h : (σ.silent on).solo p w = some (value, w')) :
    σ.solo p w = some (value, w') ∧ SpokeOnly on w w' := by
  induction p generalizing w with
  | done value =>
    cases h
    exact ⟨rfl, .refl on _⟩
  | call operation next ih =>
    obtain ⟨⟨reply, w₁⟩, met, rest⟩ := Option.bind_eq_some_iff.mp h
    obtain ⟨met', spoke⟩ := meet_of_silent free met
    obtain ⟨rest', spoke'⟩ := ih reply rest
    refine ⟨?_, spoke.trans spoke'⟩
    show (σ.meet w operation).bind _ = _
    rw [met']
    exact rest'

end Surroundings

end GridAgent.Cluster
