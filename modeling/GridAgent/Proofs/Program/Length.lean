import GridAgent.Agent.Infrastructure

/-!
# Bounds on the length of a program

A program comes to its end within a number of requests if it does so however it is answered. Bounds of
programs one after another add up.
-/

namespace GridAgent

namespace Program

variable {I : Interface} {α β : Type} {m n : Nat}

/-- However it is answered, the program makes at most so many requests. -/
def Within : Program I α → Nat → Prop
  | .done _, _ => True
  | .call _ _, 0 => False
  | .call _ next, n + 1 => ∀ reply, (next reply).Within n

theorem within_single {request : I.Request} : (call request done : Program I _).Within 1 :=
  fun _ => trivial

/-- A bound may be raised. -/
theorem Within.mono {p : Program I α} (h : p.Within m) (hmn : m ≤ n) : p.Within n := by
  induction p generalizing m n with
  | done value => trivial
  | call request next ih =>
    cases m with
    | zero => exact h.elim
    | succ m =>
      cases n with
      | zero => exact absurd hmn (Nat.not_succ_le_zero m)
      | succ n => exact fun reply => ih reply (h reply) (Nat.le_of_succ_le_succ hmn)

/-- A value put to use takes no request. -/
theorem Within.map {p : Program I α} (hp : p.Within n) (f : α → Program I β)
    (ends : ∀ value, ∃ result, f value = done result) : (p.bind f).Within n := by
  induction p generalizing n with
  | done value =>
    obtain ⟨result, same⟩ := ends value
    rw [bind_done, same]
    trivial
  | call request next ih =>
    cases n with
    | zero => exact hp.elim
    | succ n => exact fun reply => ih reply (hp reply)

/-- Bounds add up. -/
theorem Within.bind {p : Program I α} {f : α → Program I β} (hp : p.Within m)
    (hf : ∀ value, (f value).Within n) : (p.bind f).Within (m + n) := by
  induction p generalizing m with
  | done value => exact (hf value).mono (Nat.le_add_left n m)
  | call request next ih =>
    cases m with
    | zero => exact hp.elim
    | succ m =>
      rw [Nat.succ_add]
      exact fun reply => ih reply (hp reply)

end Program

namespace Agent

open Program

variable {ε ε' α β : Type} {s : Settings} {m n : Nat}

/-- The same of a program that may fail. -/
abbrev WithinOr (p : Fallible ε α) (n : Nat) : Prop :=
  Within (I := collaborators) (α := Except ε α) p n

namespace WithinOr

theorem pure {value : α} : WithinOr (Pure.pure value : Fallible ε α) n := trivial

theorem failed {cause : ε} : WithinOr (throw cause : Fallible ε α) n := trivial

theorem andThen {p : Fallible ε α} {f : α → Fallible ε β} (hp : WithinOr p m)
    (hf : ∀ value, WithinOr (f value) n) : WithinOr (p >>= f) (m + n) := by
  refine Within.bind hp ?_
  rintro (cause | value)
  · trivial
  · exact hf value

/-- After a request that cannot fail. -/
theorem asked (request : Request) {f : request.Reply → Fallible ε β}
    (hf : ∀ reply, WithinOr (f reply) n) :
    WithinOr (liftM (ask request : Action request.Reply) >>= f) (n + 1) :=
  fun reply => hf reply

theorem attempted {p : Fallible ε α} {f : Except ε α → Fallible ε' β} (hp : WithinOr p m)
    (hf : ∀ outcome, WithinOr (f outcome) n) : WithinOr (attempt p >>= f) (m + n) := by
  refine Within.bind (Within.map hp _ fun _ => ⟨_, rfl⟩) ?_
  rintro (cause | outcome)
  · trivial
  · exact hf outcome

theorem orFail {p : Fallible ε α} {cause : ε → AgentError} (hp : WithinOr p n) :
    WithinOr (orFail cause p) n :=
  Within.map hp _ fun _ => ⟨_, rfl⟩

theorem mapped {p : Fallible ε α} (hp : WithinOr p n) (f : α → β) : WithinOr (f <$> p) n := by
  refine Within.map hp _ ?_
  rintro (cause | value) <;> exact ⟨_, rfl⟩

end WithinOr

/-- The most requests that a call to the infrastructure makes: each try but the last may be followed by
a pause. -/
def tries (s : Settings) : Nat := 2 * (s.retryPolicy.maxAttempts - 1) + 1

/-- A call is tried as often as the settings allow. -/
theorem within_retrying [Transient ε] {p : Fallible ε α} (hp : WithinOr p 1) :
    WithinOr (retrying s p) (tries s) := by
  suffices h : ∀ left failures,
      Within (s.retryPolicy.tryFrom Call.pause p left failures) (2 * left + 1) from h _ 0
  intro left
  induction left with
  | zero => exact fun _ => hp
  | succ left ih =>
    intro failures
    rw [show 2 * (left + 1) + 1 = 1 + (1 + (2 * left + 1)) from by omega]
    refine Within.bind hp ?_
    rintro (cause | value)
    · simp only
      split
      · exact Within.bind within_single fun _ => ih (failures + 1)
      · trivial
    · trivial

end Agent

end GridAgent
