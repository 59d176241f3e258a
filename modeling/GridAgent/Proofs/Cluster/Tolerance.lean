import GridAgent.Proofs.Cluster.Solo

/-!
# Tolerating refusals

A program tolerates refusals if it ends as though there were none: with the same value, and leaving
everything shared the same. Whatever makes no exposed call to the store does, and so does a call to
the store that is tried often enough. Tolerance is compositional.
-/

namespace GridAgent.Cluster

open Agent Surroundings

/-- However calls to the store are refused, if never so many in a row, the program ends as though
none were. -/
def Tolerates (σ : Surroundings) (attempts : Nat) {α : Type} (p : Program operations α) : Prop :=
  ∀ w : Scene, w.Bearable attempts → (σ.solo p w).map calmedEnd = σ.solo p w.calmed

section
variable {σ : Surroundings} {attempts : Nat} {α β : Type}

theorem tolerates_done (value : α) : Tolerates σ attempts (.done value) := fun _ _ => rfl

/-- One program after another tolerates refusals if both do. -/
theorem Tolerates.bind {p : Program operations α} {f : α → Program operations β}
    (hp : Tolerates σ attempts p) (hf : ∀ value, Tolerates σ attempts (f value)) :
    Tolerates σ attempts (p.bind f) := by
  intro w hw
  have first := hp w hw
  cases hs : σ.solo p w with
  | none =>
    rw [hs] at first
    simp only [solo_bind, hs, ← first, Option.map_none, Option.bind_none]
  | some ended =>
    obtain ⟨value, w'⟩ := ended
    rw [hs] at first
    have second := hf value w' (bearable_of_solo hw hs)
    simp only [solo_bind, hs, ← first, Option.map_some, Option.bind_some]
    exact second

/-- A call that cannot be refused tolerates what is refused elsewhere. -/
theorem tolerates_call {operation : Operation}
    (safe : operation.refusal? = none ∨ σ.exposes operation = false) :
    Tolerates σ attempts (.call operation .done) := by
  intro w _
  rw [solo_single, solo_single]
  rcases σ.meet_cases w operation with ⟨refuse, reason, hr, -, he, -⟩ | ⟨w₁, hw, hm⟩
  · rcases safe with h | h
    · rw [h] at hr
      cases hr
    · rw [h] at he
      cases he
  · exact calm_of_granted hw hm

/-- The work of a finalizer tolerates refusals of other calls. -/
theorem tolerates_finalizerCalls (sheltered : ∀ request, σ.exposes (.finalizer request) = false)
    (p : Finalizer.Action α) : Tolerates σ attempts (finalizerCalls p) := by
  suffices every : ∀ q : Program Finalizer.collaborators (Except AgentError α),
      Tolerates σ attempts (q.expand fun request => .call (.finalizer request) .done) from every p.run
  intro q
  induction q with
  | done value => exact tolerates_done value
  | call request next ih => exact (tolerates_call (.inr (sheltered request))).bind ih

/-- A single try of a call to the store: it is refused, or it is answered as though nothing were
refused, and then not as a store that is out of reach. -/
def IsTry (σ : Surroundings) (p : Program operations (Except StoreError α)) : Prop :=
  ∀ w : Scene, w.shared.store.failures = 0 →
    (∃ reason, w.refusals 0 = some reason ∧
      σ.solo p w = some (.error (.unavailable reason), w.next)) ∨
    (σ.solo p w).map calmedEnd = σ.solo p w.calmed ∧
      ∀ answer w' reason, σ.solo p w = some (answer, w') → answer ≠ .error (.unavailable reason)

/-- Each of the calls to the store is a single try. -/
theorem isTry_call (operation : Operation) {refuse : String → operation.Reply}
    (hr : operation.refusal? = some refuse) (w : Scene) (healthy : w.shared.store.failures = 0) :
    (∃ reason, w.refusals 0 = some reason ∧
      σ.solo (.call operation .done) w = some (refuse reason, w.next)) ∨
    (σ.solo (.call operation .done) w).map calmedEnd = σ.solo (.call operation .done) w.calmed ∧
      ∀ answer w' reason, σ.solo (.call operation .done) w = some (answer, w') →
        answer ≠ refuse reason := by
  simp only [solo_single]
  rcases σ.meet_cases w operation with ⟨refuse', reason, hr', hn, -, hm⟩ | ⟨w₁, hw, hm⟩
  · obtain rfl := Option.some.inj (hr.symm.trans hr')
    exact .inl ⟨reason, hn, hm⟩
  · have sound : w₁.shared.store.failures = 0 := by rcases hw with rfl | rfl <;> exact healthy
    refine .inr ⟨calm_of_granted hw hm, fun answer w' reason h => ?_⟩
    exact ne_refusal_of_grant sound hr (hm ▸ h) reason

end

/-! Programs of an agent. -/

section
variable {σ : Surroundings} {attempts : Nat} {α β ε ε' : Type} {s : Settings}

/-- A program of an agent tolerates refusals. -/
abbrev Withstands (σ : Surroundings) (attempts : Nat) {α : Type} (p : Action α) : Prop :=
  Tolerates σ attempts (agentCalls p)

/-- A program of an agent that may fail tolerates refusals. -/
abbrev WithstandsOr (σ : Surroundings) (attempts : Nat) {ε α : Type} (p : Fallible ε α) : Prop :=
  Withstands σ attempts (α := Except ε α) p

theorem withstands_done (value : α) : Withstands σ attempts (.done value : Action α) :=
  tolerates_done value

theorem Withstands.bind {p : Action α} {f : α → Action β} (hp : Withstands σ attempts p)
    (hf : ∀ value, Withstands σ attempts (f value)) : Withstands σ attempts (p.bind f) := by
  show Tolerates σ attempts (agentCalls (p.bind f))
  rw [agentCalls_bind]
  exact Tolerates.bind hp hf

/-- A call whose failures end what follows it. -/
theorem WithstandsOr.andThen {p : Fallible ε α} {f : α → Fallible ε β}
    (hp : WithstandsOr σ attempts p) (hf : ∀ value, WithstandsOr σ attempts (f value)) :
    WithstandsOr σ attempts (p >>= f) := by
  refine Withstands.bind hp ?_
  rintro (cause | value)
  · exact withstands_done _
  · exact hf value

/-- A call that cannot fail. -/
theorem Withstands.andThen {p : Action α} {f : α → Fallible ε β} (hp : Withstands σ attempts p)
    (hf : ∀ value, WithstandsOr σ attempts (f value)) :
    WithstandsOr σ attempts (liftM p >>= f) := by
  refine WithstandsOr.andThen (Withstands.bind hp fun value => ?_) hf
  exact withstands_done _

theorem WithstandsOr.attempted {p : Fallible ε α} {f : Except ε α → Fallible ε' β}
    (hp : WithstandsOr σ attempts p) (hf : ∀ outcome, WithstandsOr σ attempts (f outcome)) :
    WithstandsOr σ attempts (attempt p >>= f) := by
  refine WithstandsOr.andThen (Withstands.bind hp fun outcome => ?_) hf
  exact withstands_done _

theorem WithstandsOr.orFail {p : Fallible ε α} {cause : ε → AgentError}
    (hp : WithstandsOr σ attempts p) : WithstandsOr σ attempts (orFail cause p) := by
  refine Withstands.bind hp ?_
  rintro (e | value) <;> exact withstands_done _

theorem WithstandsOr.mapped {p : Fallible ε α} {f : α → β} (hp : WithstandsOr σ attempts p) :
    WithstandsOr σ attempts (f <$> p) := by
  refine Withstands.bind hp ?_
  rintro (e | value) <;> exact withstands_done _

theorem withstandsOr_resume (outcome : Except ε α) : WithstandsOr σ attempts (resume outcome) :=
  withstands_done _

/-- A request tolerates what the call behind it tolerates. -/
theorem withstands_ask {request : Request} (h : Tolerates σ attempts (agentCall request)) :
    Withstands σ attempts (ask request) := by
  have behind : agentCalls (ask request) = agentCall request :=
    Program.bind_done_right (agentCall request)
  show Tolerates σ attempts (agentCalls (ask request))
  rwa [behind]

theorem withstands_pause (wait : Span) : Withstands σ attempts (Call.pause wait) :=
  withstands_ask (tolerates_call (.inl rfl))

/-- A call that withstands refusals once does so however often it is tried. -/
theorem WithstandsOr.retried [Transient ε] {p : Fallible ε α} (hp : WithstandsOr σ attempts p) :
    WithstandsOr σ attempts (retrying s p) := by
  suffices every : ∀ left failures,
      WithstandsOr σ attempts (s.retryPolicy.tryFrom Call.pause p left failures) from every _ _
  intro left
  induction left with
  | zero => exact fun _ => hp
  | succ left ih =>
    intro failures
    refine Withstands.bind hp ?_
    rintro (cause | value)
    · simp only
      split
      · exact Withstands.bind (withstands_pause _) fun _ => ih _
      · exact withstands_done _
    · exact withstands_done _

/-! Calls to the store that are tried again. -/

variable {call : Fallible StoreError α} {w w' : Scene}

/-- What is done with the answer to a try. -/
theorem solo_tryFrom_succ (left failures : Nat) :
    σ.solo (agentCalls (s.retryPolicy.tryFrom Call.pause call (left + 1) failures)) w =
      (σ.solo (agentCalls call) w).bind fun (answer, w) =>
        match answer with
        | .ok value => some (.ok value, w)
        | .error cause =>
          if isTransient cause then
            σ.solo (agentCalls (s.retryPolicy.tryFrom Call.pause call left (failures + 1))) w
          else some (.error cause, w) := by
  have parts : agentCalls (s.retryPolicy.tryFrom Call.pause call (left + 1) failures) =
      (agentCalls call).bind _ := agentCalls_bind call _
  rw [parts, solo_bind]
  refine congrArg _ (funext fun (answer, w) => ?_)
  rcases answer with cause | value
  · simp only
    split <;> rfl
  · rfl

/-- A call that is not refused is made once. -/
theorem solo_tryFrom_settled (left failures : Nat)
    (settled : ∀ answer w' reason, σ.solo (agentCalls call) w = some (answer, w') →
      answer ≠ .error (.unavailable reason)) :
    σ.solo (agentCalls (s.retryPolicy.tryFrom Call.pause call left failures)) w =
      σ.solo (agentCalls call) w := by
  cases left with
  | zero => rfl
  | succ left =>
    rw [solo_tryFrom_succ]
    cases hs : σ.solo (agentCalls call) w with
    | none => rfl
    | some ended =>
      obtain ⟨(_ | _ | reason) | value, w'⟩ := ended
      · rfl
      · rfl
      · exact absurd rfl (settled _ w' reason hs)
      · rfl

/-- A call to the store ends as though it were never refused, if it is tried until it is not. -/
theorem IsTry.persists (tries : IsTry σ (agentCalls call)) (left failures : Nat)
    (healthy : w.shared.store.failures = 0) (spared : ∃ j ≤ left, w.refusals j = none) :
    (σ.solo (agentCalls (s.retryPolicy.tryFrom Call.pause call left failures)) w).map calmedEnd =
      σ.solo (agentCalls call) w.calmed := by
  induction left generalizing failures w with
  | zero =>
    obtain ⟨j, hj, hn⟩ := spared
    obtain rfl := Nat.le_zero.mp hj
    rcases tries w healthy with ⟨reason, hr, -⟩ | ⟨calm, -⟩
    · rw [hn] at hr
      cases hr
    · exact calm
  | succ left ih =>
    rcases tries w healthy with ⟨reason, hr, hs⟩ | ⟨calm, settled⟩
    · -- the refused try is not the one that is spared
      have later : ∃ j ≤ left, w.next.refusals j = none := by
        obtain ⟨j, hj, hn⟩ := spared
        cases j with
        | zero =>
          rw [hn] at hr
          cases hr
        | succ j => exact ⟨j, Nat.le_of_succ_le_succ hj, hn⟩
      rw [solo_tryFrom_succ, hs]
      exact ih (failures + 1) healthy later
    · rw [solo_tryFrom_settled _ _ settled]
      exact calm

/-- A call to the store that is tried again tolerates that it is refused, though never so often. -/
theorem withstands_tried (tries : IsTry σ (agentCalls call)) :
    WithstandsOr σ s.retryMaxAttempts (retrying s call) := by
  intro w hw
  have last : ∃ j ≤ s.retryMaxAttempts - 1, w.refusals j = none := by
    obtain ⟨j, hj, hn⟩ := hw.spared 0
    exact ⟨j, Nat.le_sub_one_of_lt hj, (congrArg w.refusals (Nat.zero_add j)).symm.trans hn⟩
  have once : σ.solo (agentCalls (retrying s call)) w.calmed =
      σ.solo (agentCalls call) w.calmed := by
    refine solo_tryFrom_settled _ _ ?_
    rcases tries w.calmed hw.healthy with ⟨_, hr, -⟩ | ⟨-, settled⟩
    · cases hr
    · exact settled
  exact (tries.persists _ _ hw.healthy last).trans once.symm

end

end GridAgent.Cluster
