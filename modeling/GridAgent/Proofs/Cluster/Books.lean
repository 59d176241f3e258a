import GridAgent.Proofs.Cluster.Soundness

/-!
# Books of many kinds

One and the same actor can be judged by several conducts, each with books of its own: what they note
of the calls that the actor was answered. An actor that obeys a conduct goes on obeying it after
every answer that the conduct counts on, and has kept its promise when it returns. Rules for the
calls of an agent are rules for an actor, with what finalizers do for it left out of the books.
-/

namespace GridAgent.Cluster

open Agent Program

variable {σ α : Type} {C : Conduct operations σ} {first : σ} {a : Actor}
  {Q : (job : Job) → job.Result → σ → Prop}

namespace Actor

/-- The books that a conduct keeps of an actor. -/
def books (C : Conduct operations σ) (first : σ) (a : Actor) : σ :=
  a.past.foldr (fun x books => C.note books x.operation x.reply) first

/-- The actor asks only what a conduct allows, and returns as promised. -/
def Obeys (C : Conduct operations σ) (first : σ) (Q : (job : Job) → job.Result → σ → Prop)
    (a : Actor) : Prop :=
  a.rest.Follows C (a.books C first) (Q a.job)

/-- An actor obeys from its first call on if its program does. -/
theorem obeys_start {s : Settings} {job : Job} (h : (job.program s).Follows C first (Q job)) :
    (Actor.start s job).Obeys C first Q := h

variable {operation : Operation} {next : operation.Reply → Program operations a.job.Result}

/-- An actor that obeys may make its next call. -/
theorem Obeys.may (h : a.Obeys C first Q) (hr : a.rest = .call operation next) :
    C.may (a.books C first) operation := by
  unfold Obeys at h
  rw [hr] at h
  exact h.1

/-- An actor that obeys goes on obeying after an answer that is counted on. -/
theorem Obeys.advance (h : a.Obeys C first Q) (hr : a.rest = .call operation next)
    {reply : operation.Reply} (hc : C.credible operation reply) :
    (a.advance operation reply (next reply)).Obeys C first Q := by
  unfold Obeys at h
  rw [hr] at h
  exact h.2 reply hc

/-- An actor that obeys returns as promised. -/
theorem Obeys.returned (h : a.Obeys C first Q) {value : a.job.Result} (hr : a.rest = .done value) :
    Q a.job value (a.books C first) := by
  unfold Obeys at h
  rw [hr] at h
  exact h

end Actor

/-- Rules for the calls of an agent as rules for actors. Finalizers may act for it, if they may at
all, and are not noted. -/
def withFinalizers (C : Conduct collaborators σ) (settles : Prop) : Conduct operations σ where
  may
    | books, .agent request => C.may books request
    | _, .finalizer _ => settles
  credible
    | .agent request, reply => C.credible request reply
    | .finalizer _, _ => True
  note
    | books, .agent request, reply => C.note books request reply
    | books, .finalizer _, _ => books

/-- A program of a finalizer is not noted. -/
theorem keeps_withFinalizers {C : Conduct collaborators σ} {settles : Prop} (hs : settles)
    (p : Finalizer.Action α) (books : σ) :
    Keeps (withFinalizers C settles) (finalizerCalls p) books := by
  -- rules that allow everything and note nothing
  let free : Conduct Finalizer.collaborators σ :=
    ⟨fun _ _ => True, fun _ _ => True, fun books _ _ => books⟩
  have follows : ∀ q : Program Finalizer.collaborators (Except AgentError α),
      q.Follows free books fun _ books' => books' = books := by
    intro q
    induction q with
    | done value => rfl
    | call request next ih => exact ⟨trivial, fun reply _ => ih reply⟩
  refine Follows.expand (C := free) ?_ (follows p.run)
  exact fun _ _ _ => ⟨hs, fun _ _ => ⟨trivial, rfl⟩⟩

/-- Settling results is not noted, whatever comes of it. -/
structure Unnoted (C : Conduct collaborators σ) (settles : Prop) : Prop where
  /-- Making results available. -/
  finalize : ∀ books task, C.may books (.finalize task) → settles ∧
    ∀ reply, C.credible (.finalize task) reply ∧ C.note books (.finalize task) reply = books
  /-- Giving results up. -/
  abandon : ∀ books task, C.may books (.abandon task) → settles ∧
    ∀ reply, C.credible (.abandon task) reply ∧ C.note books (.abandon task) reply = books

/-- Settling results is not noted by rules that count on nothing that comes of it and keep the books. -/
theorem unnoted_of_ignored {C : Conduct collaborators σ}
    (finalize : ∀ books task reply,
      C.credible (.finalize task) reply ∧ C.note books (.finalize task) reply = books)
    (abandon : ∀ books task reply,
      C.credible (.abandon task) reply ∧ C.note books (.abandon task) reply = books) :
    Unnoted C True :=
  ⟨fun books task _ => ⟨trivial, finalize books task⟩,
    fun books task _ => ⟨trivial, abandon books task⟩⟩

/-- A call of an agent that may be made keeps the books of the agent. -/
theorem agentCall_withFinalizers {C : Conduct collaborators σ} {settles : Prop}
    (unnoted : Unnoted C settles) {books : σ} {request : Request} (hm : C.may books request) :
    (agentCall request).Follows (withFinalizers C settles) books fun reply books' =>
      C.credible request reply ∧ books' = C.note books request reply := by
  cases request with
  | finalize task =>
    obtain ⟨hs, hn⟩ := unnoted.finalize books task hm
    refine (keeps_withFinalizers hs (Finalizer.finalize task) books).mono ?_
    rintro reply _ rfl
    exact ⟨(hn reply).1, (hn reply).2.symm⟩
  | abandon task =>
    obtain ⟨hs, hn⟩ := unnoted.abandon books task hm
    refine (keeps_withFinalizers hs (Finalizer.abandon task) books).mono ?_
    rintro reply _ rfl
    exact ⟨(hn reply).1, (hn reply).2.symm⟩
  | _ => exact ⟨hm, fun _ hr => ⟨hr, rfl⟩⟩

/-- What follows rules for an agent follows them call by call. -/
theorem follows_withFinalizers {C : Conduct collaborators σ} {settles : Prop}
    (unnoted : Unnoted C settles) {p : Action α} {books : σ} {Q : α → σ → Prop}
    (h : p.Follows C books Q) : (agentCalls p).Follows (withFinalizers C settles) books Q :=
  Follows.expand (D := withFinalizers C settles)
    (fun _ _ hm => agentCall_withFinalizers unnoted hm) h

section
variable {ι : Type} {first : σ} {Q : (job : Job) → job.Result → σ → Prop} {fleet : Fleet}
  {allowed : Event → Prop} {start c : State}

/-- In every state that a run passes every actor obeys its rules, if their answers can be counted on.
Rules may have parameters that fit what is shared; what fits after an event has fitted before it. -/
theorem Passes.obey {P : State → Prop} (hp : Passes fleet allowed P start c) (hi : start.Initial)
    (rules : PodId → Job → ι → Conduct operations σ) (fits : Shared → Job → ι → Prop)
    (begins : ∀ pod job i,
      (Actor.start (fleet.settings pod) job).Obeys (rules pod job i) first Q)
    (back : ∀ {c c' : State} {event : Event}, Reaches fleet allowed start c →
      c.perform fleet event = some c' → ∀ job i, fits c'.shared job i → fits c.shared job i)
    (credible : ∀ {c c' : State} {number : Nat}
      {choice : (operation : Operation) → Option operation.Reply} {a b : Actor}
      {operation : Operation} {reply : operation.Reply},
      Reaches fleet allowed start c → P c' → allowed (.answer number choice) →
      Answers c number a b operation reply c' →
      c.shared.answer a.pod operation (choice operation) = some (reply, c'.shared) →
      ∀ i, fits c'.shared a.job i → (rules a.pod a.job i).credible operation reply) :
    ∀ a ∈ c.actors, ∀ i, fits c.shared a.job i → a.Obeys (rules a.pod a.job i) first Q := by
  induction hp with
  | refl => exact fun a ha => absurd ha hi.not_mem
  | step event earlier permitted performed here ih =>
    intro x hx i hf
    have hr := earlier.reaches
    have before := back hr performed x.job i hf
    cases event with
    | start pod job =>
      obtain ⟨-, rfl⟩ := State.of_start performed
      rcases List.mem_append.mp hx with hx | hx
      · exact ih x hx i before
      · obtain rfl := List.mem_singleton.mp hx
        have here : (Actor.start (fleet.settings pod) job).pod = pod := fleet.podId_settings pod
        rw [here]
        exact begins pod job i
    | answer number choice =>
      obtain ⟨a, operation, next, reply, asks, ha, hs⟩ := (hr.sound hi).advances performed
      rcases ha.mem_cases hx with rfl | hx
      · have obeys := ih a (List.mem_of_getElem? ha.actor) i before
        exact obeys.advance asks (credible hr here permitted ha hs i hf)
      · exact ih x hx i before
    | handBack message =>
      obtain ⟨-, rfl⟩ := State.of_handBack performed
      exact ih x hx i before
    | move m =>
      obtain ⟨shared, -, rfl⟩ := State.of_move performed
      exact ih x hx i before

/-- The same in every reached cluster. -/
theorem Reaches.obey (hr : Reaches fleet allowed start c) (hi : start.Initial)
    (rules : PodId → Job → ι → Conduct operations σ) (fits : Shared → Job → ι → Prop)
    (begins : ∀ pod job i,
      (Actor.start (fleet.settings pod) job).Obeys (rules pod job i) first Q)
    (back : ∀ {c c' : State} {event : Event}, Reaches fleet allowed start c →
      c.perform fleet event = some c' → ∀ job i, fits c'.shared job i → fits c.shared job i)
    (credible : ∀ {c c' : State} {number : Nat}
      {choice : (operation : Operation) → Option operation.Reply} {a b : Actor}
      {operation : Operation} {reply : operation.Reply},
      Reaches fleet allowed start c → allowed (.answer number choice) →
      Answers c number a b operation reply c' →
      c.shared.answer a.pod operation (choice operation) = some (reply, c'.shared) →
      ∀ i, fits c'.shared a.job i → (rules a.pod a.job i).credible operation reply) :
    ∀ a ∈ c.actors, ∀ i, fits c.shared a.job i → a.Obeys (rules a.pod a.job i) first Q :=
  (hr.passes (P := fun _ => True) trivial fun _ _ _ _ _ _ => trivial).obey hi rules fits begins back
    fun hr _ => credible hr

end

end GridAgent.Cluster
