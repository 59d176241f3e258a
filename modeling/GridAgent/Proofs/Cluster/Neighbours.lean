import GridAgent.Proofs.Cluster.Effect
import GridAgent.Proofs.Cluster.Lodgings
import GridAgent.Proofs.Cluster.Solo

/-!
# What a job alone leaves to others

A job works on the executions and files of its own pod, and makes up the identifiers that its
surroundings choose. So other pods, and agents that make up other identifiers, find after it what they
would have found before.
-/

namespace GridAgent.Cluster

namespace Surroundings

variable {σ : Surroundings} {α : Type} {w w' : Scene} {s s' s'' : Shared} {operation : Operation}
  {reply : operation.Reply} {past : List Answered}

/-- The identifier may be made up. -/
def MakesUp (σ : Surroundings) (id : TaskId) : Prop :=
  ∃ past, σ.replies past (.agent .newTaskId) = some id

/-- Nothing has changed on other pods, and other identifiers were not made up. -/
structure StaysHome (σ : Surroundings) (s s' : Shared) : Prop where
  /-- Other pods have the same executions. -/
  registries : ∀ pod, pod ≠ σ.pod → s'.registries pod = s.registries pod
  /-- They have the same files. -/
  scratches : ∀ pod, pod ≠ σ.pod → s'.scratches pod = s.scratches pod
  /-- What was made up could be. -/
  issued : ∀ id ∈ s'.issued, id ∈ s.issued ∨ σ.MakesUp id

theorem StaysHome.refl (σ : Surroundings) (s : Shared) : σ.StaysHome s s :=
  ⟨fun _ _ => rfl, fun _ _ => rfl, fun _ made => .inl made⟩

theorem StaysHome.trans (h : σ.StaysHome s s') (h' : σ.StaysHome s' s'') : σ.StaysHome s s'' where
  registries pod other := (h'.registries pod other).trans (h.registries pod other)
  scratches pod other := (h'.scratches pod other).trans (h.scratches pod other)
  issued id made := (h'.issued id made).elim (h.issued id) .inr

/-- Work on the files of a pod is not seen on others. -/
theorem scratches_of_onScratch {work : Scratch → Except StorageError Unit × Scratch}
    {choice : Option (Except StorageError Unit)} {done : Except StorageError Unit} {pod other : PodId}
    (h : s.onScratch pod work choice = (done, s')) (elsewhere : other ≠ pod) :
    s'.scratches other = s.scratches other := by
  rcases choice with _ | _ | _ <;> cases h
  · exact if_neg elsewhere
  · rfl
  · exact if_neg elsewhere

theorem scratches_of_elsewhere {pod other : PodId} {choice : Option operation.Reply}
    (h : s.answer pod operation choice = some (reply, s')) (elsewhere : other ≠ pod) :
    s'.scratches other = s.scratches other := by
  cases files : operation.isOnFiles with
  | false => rw [scratches_of_answer h files]
  | true =>
    unfold Operation.isOnFiles at files
    split at files
    · exact scratches_of_onScratch (Option.some.inj h) elsewhere
    · exact scratches_of_onScratch (Option.some.inj h) elsewhere
    · cases h
      exact if_neg elsewhere
    · cases files

/-- An answered call stays home. -/
theorem staysHome_of_answer
    (h : s.answer σ.pod operation (σ.replies past operation) = some (reply, s')) :
    σ.StaysHome s s' := by
  refine ⟨fun pod other => ?_, fun pod other => scratches_of_elsewhere h other, fun id made => ?_⟩
  · cases effect_of_answer h with
    | silent _ alike =>
      obtain ⟨failures, scratches, rfl⟩ := alike
      rfl
    | registered | unregistered | stopAsked => exact if_neg other
    | _ => rfl
  · cases effect_of_answer h with
    | silent _ alike =>
      obtain ⟨failures, scratches, rfl⟩ := alike
      exact .inl made
    | newTaskId task new =>
      rcases List.mem_cons.mp made with rfl | earlier
      · obtain ⟨chosen, choice, given⟩ := Option.bind_eq_some_iff.mp h
        split at given
        · cases given
          exact .inr ⟨past, choice⟩
        · cases given
      · exact .inl earlier
    | _ => exact .inl made

theorem staysHome_of_grant (h : σ.grant w operation = some (reply, w')) :
    σ.StaysHome w.shared w'.shared := by
  rcases of_grant h with rfl | ⟨shared, answered, rfl⟩
  · exact .refl σ w'.shared
  · exact staysHome_of_answer answered

theorem staysHome_of_meet (h : σ.meet w operation = some (reply, w')) :
    σ.StaysHome w.shared w'.shared := by
  rcases σ.meet_cases w operation with ⟨_, _, _, _, _, refused⟩ | ⟨w₁, rfl | rfl, met⟩
  · rw [refused] at h
    cases h
    exact .refl σ w.shared
  · exact staysHome_of_grant (met ▸ h)
  · exact staysHome_of_grant (w := w.next) (met ▸ h)

/-- A job alone stays home. -/
theorem staysHome_of_solo {p : Program operations α} {value : α} (h : σ.solo p w = some (value, w')) :
    σ.StaysHome w.shared w'.shared := by
  induction p generalizing w with
  | done value =>
    cases h
    exact .refl σ _
  | call operation next ih =>
    obtain ⟨⟨reply, w₁⟩, met, rest⟩ := Option.bind_eq_some_iff.mp h
    exact (staysHome_of_meet met).trans (ih reply rest)

end Surroundings

end GridAgent.Cluster
