import GridAgent.Proofs.Program.Conduct
import GridAgent.Proofs.Program.Length

/-!
# Programs that are answered

Whoever answers a program may go by everything that was asked and answered before, so an answer can
depend on whatever happens elsewhere in the meantime. A program that is answered as long as the
respondent goes on comes to its end or to a request that is left unanswered.

A program shares what answers its requests with others, who may do anything to it between two requests
as long as they leave it in a state that is allowed. What a program keeps to on the assumption that
replies are credible it keeps to beside all of them.
-/

namespace GridAgent

/-- A request and what it was answered. -/
structure Exchange (I : Interface) where
  /-- The request. -/
  request : I.Request
  /-- The answer. -/
  reply : I.Reply request

/-- Whoever answers: the exchanges so far, the latest first, and the next request decide on the answer,
if there is one. -/
abbrev Respondent (I : Interface) : Type :=
  List (Exchange I) → (request : I.Request) → Option (I.Reply request)

namespace Program

variable {I : Interface} {α σ : Type} {C : Conduct I σ} {s : σ}

/-- The exchanges of a program with a respondent after earlier ones, and what is left of the program
when it has ended or is left unanswered. -/
def meet (respond : Respondent I) : Program I α → List (Exchange I) → List (Exchange I) × Program I α
  | .done value, past => (past, .done value)
  | .call request next, past =>
    match respond past request with
    | some reply => (next reply).meet respond (⟨request, reply⟩ :: past)
    | none => (past, .call request next)

/-- The books after some exchanges, the latest first. -/
def booksAfter (C : Conduct I σ) (s : σ) (past : List (Exchange I)) : σ :=
  past.foldr (fun x s => C.note s x.request x.reply) s

/-- Where a program stops it has ended, or the respondent does not answer. -/
theorem meet_stops (respond : Respondent I) (p : Program I α) (past : List (Exchange I)) :
    (∃ value, (p.meet respond past).2 = .done value) ∨
      ∃ request next, (p.meet respond past).2 = .call request next ∧
        respond (p.meet respond past).1 request = none := by
  induction p generalizing past with
  | done value => exact .inl ⟨value, rfl⟩
  | call request next ih =>
    simp only [meet]
    split
    · next reply _ => exact ih reply _
    · next silent => exact .inr ⟨request, next, rfl, silent⟩

/-- What is left of a program that follows rules, which count on no answer, follows them in the books
after the exchanges. -/
theorem Follows.meet {p : Program I α} {Q : α → σ → Prop} (respond : Respondent I)
    (credible : ∀ request reply, C.credible request reply) {past : List (Exchange I)}
    (h : p.Follows C (booksAfter C s past) Q) :
    (p.meet respond past).2.Follows C (booksAfter C s (p.meet respond past).1) Q := by
  induction p generalizing past with
  | done value => exact h
  | call request next ih =>
    simp only [Program.meet]
    split
    · next reply _ => exact ih reply (h.2 reply (credible request reply))
    · exact h

end Program

/-! Programs beside others. -/

/-- How requests are answered in a state, and the state after it. -/
abbrev Service (I : Interface) (τ : Type) : Type :=
  τ → (request : I.Request) → I.Reply request → τ → Prop

/-- An answered request, with the states before and after it. -/
structure Moment (I : Interface) (τ : Type) extends Exchange I where
  /-- The state in which the request was answered. -/
  before : τ
  /-- The state after it. -/
  after : τ

namespace Program

variable {I : Interface} {α σ τ : Type} {service : Service I τ} {others : τ → Prop} {C : Conduct I σ}
  {p rest : Program I α} {t t' : τ} {past : List (Moment I τ)} {b : σ} {n : Nat}

/-- A program that was started in a state has had its requests answered, the latest first; the state is
another one now, and so much of the program is left. Others may have left the state as they are allowed
to at any time. -/
inductive Beside (service : Service I τ) (others : τ → Prop) (p : Program I α) (t : τ) :
    List (Moment I τ) → τ → Program I α → Prop where
  /-- Nothing has happened. -/
  | start : Beside service others p t [] t p
  /-- Others were busy. -/
  | moved {past : List (Moment I τ)} {t' t'' : τ} {rest : Program I α}
    (run : Beside service others p t past t' rest) (allowed : others t'') :
    Beside service others p t past t'' rest
  /-- A request was answered. -/
  | answered {past : List (Moment I τ)} {t' t'' : τ} {request : I.Request}
    {next : I.Reply request → Program I α} {reply : I.Reply request}
    (run : Beside service others p t past t' (.call request next))
    (answer : service t' request reply t'') :
    Beside service others p t (⟨⟨request, reply⟩, t', t''⟩ :: past) t'' (next reply)

/-- A bound on the length of a program is one on what is left of it and what is not together. -/
theorem Beside.within (run : Beside service others p t past t' rest) (h : p.Within n) :
    ∃ left, past.length + left = n ∧ rest.Within left := by
  induction run with
  | start => exact ⟨n, Nat.zero_add n, h⟩
  | moved _ _ ih => exact ih
  | answered _ _ ih =>
    obtain ⟨left, sum, within⟩ := ih
    cases left with
    | zero => exact within.elim
    | succ left => exact ⟨left, by rw [List.length_cons]; omega, within _⟩

/-- The books after some moments, the latest first. -/
abbrev booksAt (C : Conduct I σ) (b : σ) (past : List (Moment I τ)) : σ :=
  booksAfter C b (past.map Moment.toExchange)

/-- Every request was one that the rules allow, and was answered in an allowed state. -/
def Obeyed (service : Service I τ) (others : τ → Prop) (C : Conduct I σ) (b : σ) :
    List (Moment I τ) → Prop
  | [] => True
  | m :: past =>
    (C.may (booksAt C b past) m.request ∧ others m.before ∧
      service m.before m.request m.reply m.after) ∧ Obeyed service others C b past

/-- The service is as the rules count on, and leaves the state as others may. -/
def Honours (service : Service I τ) (others : τ → Prop) (C : Conduct I σ) : Prop :=
  ∀ b t request reply t', C.may b request → others t → service t request reply t' →
    C.credible request reply ∧ others t'

/-- Beside others a program keeps the rules that it follows. -/
theorem Beside.follows (sound : Honours service others C) {Q : α → σ → Prop} (allowed : others t)
    (run : Beside service others p t past t' rest) (h : p.Follows C b Q) :
    others t' ∧ rest.Follows C (booksAt C b past) Q ∧ Obeyed service others C b past := by
  induction run with
  | start => exact ⟨allowed, h, trivial⟩
  | moved _ allowed ih => exact ⟨allowed, ih.2⟩
  | answered _ answer ih =>
    obtain ⟨allowed, ⟨may, follows⟩, kept⟩ := ih
    obtain ⟨credible, allowed'⟩ := sound _ _ _ _ _ may allowed answer
    exact ⟨allowed', follows _ credible, ⟨may, allowed, answer⟩, kept⟩

end Program

end GridAgent
