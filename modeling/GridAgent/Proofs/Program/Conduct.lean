import GridAgent.Agent.Infrastructure

/-!
# Conduct of a program

A program is judged by a bookkeeping of its own: what it may ask in each state of the books, and how
the books go on after each reply. A program follows a conduct if it asks only what it may, whatever
it is replied, and ends as promised. Following is compositional: a sequence follows if its parts do,
and so does a program whose requests are replaced by programs that keep the same books.
-/

namespace GridAgent

/-- Rules for the requests of a program that keeps books. -/
structure Conduct (I : Interface) (σ : Type) where
  /-- What may be asked in a state of the books. -/
  may : σ → I.Request → Prop
  /-- The replies that are counted on. -/
  credible : (request : I.Request) → I.Reply request → Prop
  /-- The books after a reply. -/
  note : σ → (request : I.Request) → I.Reply request → σ

namespace Program

variable {I J : Interface} {α β σ : Type} {C : Conduct I σ} {s : σ}

/-- The program asks only what it may, and ends with a value and books as promised. -/
def Follows (C : Conduct I σ) : Program I α → σ → (α → σ → Prop) → Prop
  | .done value, s, Q => Q value s
  | .call request next, s, Q =>
    C.may s request ∧
      ∀ reply, C.credible request reply → (next reply).Follows C (C.note s request reply) Q

@[simp] theorem follows_done {value : α} {Q : α → σ → Prop} :
    (done value : Program I α).Follows C s Q ↔ Q value s := Iff.rfl

@[simp] theorem follows_call {request : I.Request} {next : I.Reply request → Program I α}
    {Q : α → σ → Prop} :
    (call request next).Follows C s Q ↔ C.may s request ∧
      ∀ reply, C.credible request reply → (next reply).Follows C (C.note s request reply) Q :=
  Iff.rfl

/-- What is promised of the end may be weakened. -/
theorem Follows.mono {p : Program I α} {Q R : α → σ → Prop} (h : p.Follows C s Q)
    (hQR : ∀ value s, Q value s → R value s) : p.Follows C s R := by
  induction p generalizing s with
  | done value => exact hQR value s h
  | call request next ih => exact ⟨h.1, fun reply hr => ih reply (h.2 reply hr)⟩

/-- A sequence follows if the second program follows from wherever the first one ends. -/
theorem follows_bind {p : Program I α} {f : α → Program I β} {Q : β → σ → Prop} :
    (p.bind f).Follows C s Q ↔ p.Follows C s fun value s' => (f value).Follows C s' Q := by
  induction p generalizing s with
  | done value => rfl
  | call request next ih =>
    simp only [bind_call, follows_call]
    exact and_congr_right fun _ => forall₂_congr fun reply _ => ih reply

/-- Requests may be replaced by programs that keep the same books. -/
theorem Follows.expand {D : Conduct J σ}
    {handler : (request : I.Request) → Program J (I.Reply request)}
    (hh : ∀ s request, C.may s request → (handler request).Follows D s fun reply s' =>
      C.credible request reply ∧ s' = C.note s request reply)
    {p : Program I α} {Q : α → σ → Prop} (h : p.Follows C s Q) :
    (p.expand handler).Follows D s Q := by
  induction p generalizing s with
  | done value => exact h
  | call request next ih =>
    refine follows_bind.mpr ((hh s request h.1).mono ?_)
    rintro reply s' ⟨hr, rfl⟩
    exact ih reply (h.2 reply hr)

/-- A program that follows one conduct follows another one that goes along with it: whatever the first
allows the second does, and it counts on no less. -/
theorem Follows.along {τ : Type} {D : Conduct I τ} {J : σ → τ → Prop}
    (hD : ∀ s t request, J s t → C.may s request → D.may t request ∧
      ∀ reply, D.credible request reply →
        C.credible request reply ∧ J (C.note s request reply) (D.note t request reply))
    {p : Program I α} {Q : α → σ → Prop} {t : τ} (h : p.Follows C s Q) (hj : J s t) :
    p.Follows D t fun value t' => ∃ s', J s' t' ∧ Q value s' := by
  induction p generalizing s t with
  | done value => exact ⟨s, hj, h⟩
  | call request next ih =>
    obtain ⟨may, goes⟩ := hD s t request hj h.1
    refine ⟨may, fun reply hr => ?_⟩
    obtain ⟨credible, hj⟩ := goes reply hr
    exact ih reply (h.2 reply credible) hj

/-- The program follows and leaves the books as they are. -/
def Keeps (C : Conduct I σ) (p : Program I α) (s : σ) : Prop := p.Follows C s fun _ s' => s' = s

/-- A request that is not noted keeps the books. -/
theorem keeps_call {request : I.Request} (hm : C.may s request)
    (hn : ∀ reply, C.note s request reply = s) : Keeps C (.call request .done) s :=
  ⟨hm, fun reply _ => hn reply⟩

/-- After a program that keeps the books another one finds them as they were. -/
theorem Keeps.andThen {p : Program I α} {f : α → Program I β} {Q : β → σ → Prop}
    (hp : Keeps C p s) (hf : ∀ value, (f value).Follows C s Q) : (p.bind f).Follows C s Q := by
  refine follows_bind.mpr (Follows.mono hp ?_)
  rintro value s' rfl
  exact hf value

/-! Programs that may fail promise one thing of their value and another of their failure. -/

variable {ε ε' : Type}

/-- The program asks only what it may, and ends with a value or a failure as promised. -/
def FollowsOr (C : Conduct I σ) (p : ExceptT ε (Program I) α) (s : σ) (Q : α → σ → Prop)
    (E : ε → σ → Prop) : Prop :=
  Follows C (I := I) (α := Except ε α) p s fun outcome s' =>
    match outcome with
    | .ok value => Q value s'
    | .error cause => E cause s'

/-- What is promised of the end may be weakened. -/
theorem FollowsOr.mono {p : ExceptT ε (Program I) α} {Q R : α → σ → Prop} {E F : ε → σ → Prop}
    (h : FollowsOr C p s Q E) (hQ : ∀ value s', Q value s' → R value s')
    (hE : ∀ cause s', E cause s' → F cause s') : FollowsOr C p s R F := by
  refine Follows.mono h ?_
  rintro (cause | value) s' h'
  · exact hE cause s' h'
  · exact hQ value s' h'

@[simp] theorem followsOr_pure {value : α} {Q : α → σ → Prop} {E : ε → σ → Prop} :
    FollowsOr C (pure value : ExceptT ε (Program I) α) s Q E ↔ Q value s := Iff.rfl

@[simp] theorem followsOr_throw {cause : ε} {Q : α → σ → Prop} {E : ε → σ → Prop} :
    FollowsOr C (throw cause : ExceptT ε (Program I) α) s Q E ↔ E cause s := Iff.rfl

/-- What may come of a program is what may come of the answer and of the failure. -/
theorem follows_outcome {p : ExceptT ε (Program I) α} {Q : Except ε α → σ → Prop} :
    Program.Follows (α := Except ε α) C p s Q ↔
      FollowsOr C p s (fun value s' => Q (.ok value) s') fun cause s' => Q (.error cause) s' := by
  refine iff_of_eq (congrArg _ ?_)
  funext outcome s'
  cases outcome <;> rfl

@[simp] theorem followsOr_bind {p : ExceptT ε (Program I) α} {f : α → ExceptT ε (Program I) β}
    {Q : β → σ → Prop} {E : ε → σ → Prop} :
    FollowsOr C (p >>= f) s Q E ↔ FollowsOr C p s (fun value s' => FollowsOr C (f value) s' Q E) E :=
  follows_bind.trans follows_outcome

@[simp] theorem followsOr_map {p : ExceptT ε (Program I) α} {f : α → β} {Q : β → σ → Prop}
    {E : ε → σ → Prop} :
    FollowsOr C (f <$> p) s Q E ↔ FollowsOr C p s (fun value s' => Q (f value) s') E :=
  follows_bind.trans follows_outcome

@[simp] theorem followsOr_lift {p : Program I α} {Q : α → σ → Prop} {E : ε → σ → Prop} :
    FollowsOr C (liftM p : ExceptT ε (Program I) α) s Q E ↔ p.Follows C s Q :=
  follows_bind

/-- A failure that is made an answer is promised as one. -/
@[simp] theorem followsOr_exceptLift {p : ExceptT ε (Program I) α} {Q : Except ε α → σ → Prop}
    {E : ε' → σ → Prop} :
    FollowsOr C (ExceptT.lift (m := Program I) p : ExceptT ε' (Program I) (Except ε α)) s Q E ↔
      FollowsOr C p s (fun value s' => Q (.ok value) s') (fun cause s' => Q (.error cause) s') :=
  follows_bind.trans follows_outcome

/-- A failure that is renamed is promised under its new name. -/
@[simp] theorem followsOr_adapt {p : ExceptT ε (Program I) α} {f : ε → ε'} {Q : α → σ → Prop}
    {E : ε' → σ → Prop} :
    FollowsOr C (ExceptT.adapt f p) s Q E ↔ FollowsOr C p s Q fun cause s' => E (f cause) s' :=
  follows_bind.trans follows_outcome

/-- After a program that keeps the books another one finds them as they were, or the failure does. -/
theorem Keeps.orFail {p : ExceptT ε (Program I) α} {f : α → ExceptT ε (Program I) β}
    {Q : β → σ → Prop} {E : ε → σ → Prop} (hp : Keeps C (I := I) (α := Except ε α) p s)
    (hf : ∀ value, FollowsOr C (f value) s Q E) (he : ∀ cause, E cause s) :
    FollowsOr C (p >>= f) s Q E := by
  refine followsOr_bind.mpr (Follows.mono hp ?_)
  rintro (cause | value) s' rfl
  · exact he cause
  · exact hf value

/-- What keeps the books keeps them whether it fails or not. -/
theorem Keeps.followsOr {p : ExceptT ε (Program I) α} {Q : α → σ → Prop} {E : ε → σ → Prop}
    (hp : Keeps C (I := I) (α := Except ε α) p s) (hQ : ∀ value, Q value s)
    (hE : ∀ cause, E cause s) : FollowsOr C p s Q E := by
  refine Follows.mono hp ?_
  rintro (cause | value) s' rfl
  · exact hE cause
  · exact hQ value

/-- What leaves the books as they are with its value and its failure keeps them. -/
theorem keeps_of_followsOr {p : ExceptT ε (Program I) α}
    (h : FollowsOr C p s (fun _ s' => s' = s) fun _ s' => s' = s) :
    Keeps C (I := I) (α := Except ε α) p s := by
  refine Follows.mono h ?_
  rintro (cause | value) s' hs <;> exact hs

/-- After a program that keeps the books and cannot fail. -/
theorem Keeps.lift {p : Program I α} {f : α → ExceptT ε (Program I) β} {Q : β → σ → Prop}
    {E : ε → σ → Prop} (hp : Keeps C p s) (hf : ∀ value, FollowsOr C (f value) s Q E) :
    FollowsOr C (liftM p >>= f) s Q E := by
  refine followsOr_bind.mpr (followsOr_lift.mpr (Follows.mono hp ?_))
  rintro value s' rfl
  exact hf value

end Program

namespace Agent

open Program

variable {α ε ε' σ : Type} {C : Conduct collaborators σ} {s : σ}

@[simp] theorem followsOr_attempt {p : Fallible ε α} {Q : Except ε α → σ → Prop}
    {E : ε' → σ → Prop} :
    FollowsOr C (attempt p : Fallible ε' (Except ε α)) s Q E ↔
      FollowsOr C p s (fun value s' => Q (.ok value) s') (fun cause s' => Q (.error cause) s') :=
  followsOr_exceptLift

@[simp] theorem followsOr_orFail {p : Fallible ε α} {cause : ε → AgentError} {Q : α → σ → Prop}
    {E : AgentError → σ → Prop} :
    FollowsOr C (orFail cause p) s Q E ↔ FollowsOr C p s Q fun e s' => E (cause e) s' :=
  followsOr_adapt

/-- After a program that keeps the books, with its outcome. -/
theorem keeps_attempt {β : Type} {p : Fallible ε α} {f : Except ε α → Fallible ε' β}
    {Q : β → σ → Prop} {E : ε' → σ → Prop} (hp : Keeps C (I := collaborators) (α := Except ε α) p s)
    (hf : ∀ outcome, FollowsOr C (f outcome) s Q E) : FollowsOr C (attempt p >>= f) s Q E :=
  followsOr_bind.mpr (followsOr_attempt.mpr
    (hp.followsOr (fun value => hf (.ok value)) fun cause => hf (.error cause)))

@[simp] theorem followsOr_resume_ok {value : α} {Q : α → σ → Prop} {E : ε → σ → Prop} :
    FollowsOr C (resume (.ok value) : Fallible ε α) s Q E ↔ Q value s := Iff.rfl

@[simp] theorem followsOr_resume_error {cause : ε} {Q : α → σ → Prop} {E : ε → σ → Prop} :
    FollowsOr C (resume (.error cause) : Fallible ε α) s Q E ↔ E cause s := Iff.rfl

/-- A call that is tried again follows if each try does, and a pause after a transient failure leaves
the books as another try needs them. -/
theorem followsOr_retrying [Transient ε] {settings : Settings} {p : Fallible ε α}
    {J K : σ → Prop} {Q : α → σ → Prop} {E : ε → σ → Prop}
    (hp : ∀ s', J s' → FollowsOr C p s' Q fun cause s'' =>
      E cause s'' ∧ (isTransient cause = true → K s''))
    (hpause : ∀ s' wait, K s' → Program.Follows C (Call.pause wait) s' fun _ s'' => J s'')
    (hs : J s) : FollowsOr C (retrying settings p) s Q E := by
  suffices h : ∀ left failures s', J s' → FollowsOr C
      (settings.retryPolicy.tryFrom Call.pause p left failures) s' Q E from h _ _ s hs
  intro left
  induction left with
  | zero => exact fun _ s' hs' => (hp s' hs').mono (fun _ _ h => h) fun _ _ h => h.1
  | succ left ih =>
    intro failures s' hs'
    refine follows_bind.mpr (Follows.mono (hp s' hs') ?_)
    rintro (cause | value) s'' h
    · by_cases ht : isTransient cause = true
      · simp only [ht, if_true]
        refine follows_bind.mpr (Follows.mono (hpause s'' _ (h.2 ht)) ?_)
        exact fun _ s₃ hs₃ => ih _ s₃ hs₃
      · simp only [ht]
        exact h.1
    · exact h

/-- A call whose failures are not transient is made once. -/
theorem followsOr_once [Transient ε] {settings : Settings} {p : Fallible ε α} {Q : α → σ → Prop}
    {E : ε → σ → Prop}
    (h : FollowsOr C p s Q fun cause s' => E cause s' ∧ isTransient cause = false) :
    FollowsOr C (retrying settings p) s Q E := by
  refine followsOr_retrying (J := fun s' => s' = s) (K := fun _ => False) ?_ ?_ rfl
  · rintro _ rfl
    refine h.mono (fun _ _ hq => hq) fun cause s' he => ⟨he.1, fun ht => ?_⟩
    rw [he.2] at ht
    cases ht
  · exact fun _ _ h => h.elim

/-- Trying again keeps the books if each try and each pause does. -/
theorem keeps_retrying [Transient ε] {settings : Settings} {p : Fallible ε α}
    (hp : Keeps C (I := collaborators) (α := Except ε α) p s)
    (hpause : ∀ wait, Keeps C (Call.pause wait) s) :
    Keeps C (I := collaborators) (α := Except ε α) (retrying settings p) s := by
  refine Follows.mono (followsOr_retrying (J := fun s' => s' = s)
    (K := fun s' => s' = s) (Q := fun _ s' => s' = s) (E := fun _ s' => s' = s) ?_ ?_ rfl) ?_
  · rintro s' rfl
    exact hp.followsOr (fun _ => rfl) fun _ => ⟨rfl, fun _ => rfl⟩
  · rintro s' wait rfl
    exact hpause wait
  · rintro (cause | value) s' h <;> exact h

end Agent

end GridAgent
