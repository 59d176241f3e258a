import GridAgent.Proofs.Contest
import GridAgent.Proofs.Handler.Looking

/-!
# Looks of actors

What an actor goes by is its last look at its task, and every look showed a record as it was stored.
An acquisition is a part of what an actor does; when it returns, the actor has been answered as the
calls of the acquisition lead there.
-/

namespace GridAgent.Cluster

open Agent Program Acquisition

variable {fleet : Fleet} {allowed : Event → Prop} {start c c' : State} {a : Actor} {α : Type}

/-! What actors go by. -/

/-- The last look after an answered call. -/
def Look.after (x : Answered) (look : Option Look) : Option Look :=
  match x with
  | ⟨.agent request, reply⟩ => Look.note look request reply
  | ⟨.finalizer _, _⟩ => look

/-- The last look of the actor at its task. -/
def Actor.look (a : Actor) : Option Look := a.past.foldr Look.after none

/-- The rules of looks for the jobs of a pod. -/
abbrev lookRules (pod : PodId) (timeout : Span) : Conduct operations (Option Look) :=
  withFinalizers (looking pod timeout) True

theorem looking_unnoted (pod : PodId) (timeout : Span) : Unnoted (looking pod timeout) True :=
  unnoted_of_ignored (fun _ _ _ => ⟨trivial, rfl⟩) fun _ _ _ => ⟨trivial, rfl⟩

/-- The books of looks after some calls. -/
theorem noted_look (pod : PodId) (timeout : Span) (past : List Answered) :
    past.foldr (fun x look => (lookRules pod timeout).note look x.operation x.reply) none =
      past.foldr Look.after none := by
  induction past with
  | nil => rfl
  | cons x past ih =>
    obtain ⟨request | request, reply⟩ := x
    · simp only [List.foldr_cons, ih]
      rfl
    · exact ih

theorem Actor.books_look (a : Actor) (pod : PodId) (timeout : Span) :
    a.books (lookRules pod timeout) none = a.look := noted_look pod timeout a.past

/-- Every job keeps to the rules of looks. -/
theorem looking_followed (s : Settings) (job : Job) :
    (Actor.start s job).Obeys (lookRules s.podId s.dispatchTimeout) none fun _ _ _ => True := by
  refine Actor.obeys_start (Follows.mono (Q := fun _ _ => True) ?_ fun _ _ _ => trivial)
  have call {ε α : Type} {p : Fallible ε α} (h : Heeding s p) :
      (agentCalls p.run).Follows (lookRules s.podId s.dispatchTimeout) none fun _ _ => True :=
    follows_withFinalizers (looking_unnoted ..) (Follows.mono (h none) fun _ _ _ => trivial)
  cases job with
  | handle message task => exact call Heeding.handleMessage
  | acquire task => exact call Heeding.acquire
  | stop run task => exact call (Heeding.errands (RunsErrands.letsChores s.podId).stopExecution)
  | watch run task =>
    exact follows_withFinalizers (looking_unnoted ..) (Heeding.lookForCancellation none)

/-- Every actor keeps to the rules of looks. -/
theorem Reaches.looks (hr : Reaches fleet allowed start c) (hi : start.Initial) : ∀ a ∈ c.actors,
    a.Obeys (lookRules a.pod (fleet.settings a.pod).dispatchTimeout) none fun _ _ _ => True := by
  have obeys := hr.obey (ι := Unit) hi
    (fun pod _ _ => lookRules pod (fleet.settings pod).dispatchTimeout) (fun _ _ _ => True)
    (fun pod job _ => by
      have followed := looking_followed (fleet.settings pod) job
      rw [fleet.podId_settings] at followed
      exact followed)
    (fun _ _ _ _ _ => trivial)
    (fun {_ _ _ _ _ _ operation _} _ _ _ _ _ _ => by cases operation <;> trivial)
  exact fun a ha => obeys a ha () trivial

/-- An actor resets the claim of another pod only if its last look questions that claim. -/
theorem Reaches.questions (hr : Reaches fleet allowed start c) (hi : start.Initial)
    (ha : a ∈ c.actors) {task : TaskId} {owner : PodId} {change : TaskUpdate}
    (asks : a.Asks (.agent (.updateTask task ((Expectation.status .dispatched).ownedBy owner) change)))
    (other : owner ≠ a.pod) :
    ∃ l, a.look = some l ∧ l.Questions owner (fleet.settings a.pod).dispatchTimeout := by
  obtain ⟨next, rest⟩ := asks
  have may := (hr.looks hi a ha).may rest
  rw [a.books_look] at may
  exact may owner rfl other

/-! What looks showed. -/

/-- Every record that an actor was shown was stored when it was shown: what is true of every record in
every reached state is true of it. -/
theorem Reaches.shown {P : TaskRecord → Prop} (hr : Reaches fleet allowed start c)
    (hi : start.Initial) (stored : ∀ d, Reaches fleet allowed start d →
      ∀ task record, d.shared.store.get? task = some record → P record) :
    ∀ a ∈ c.actors, ∀ task record,
      (⟨.agent (.readTask task), .ok (some record)⟩ : Answered) ∈ a.past → P record := by
  refine hr.all_actors hi (fun _ _ _ _ _ hm => absurd hm List.not_mem_nil) ?_
  intro d d' number a b operation reply hd ha shown task record hm
  rw [ha.past] at hm
  rcases List.mem_cons.mp hm with e | hm
  · have effect := ha.effect
    cases e
    exact stored d hd task record (read_of_effect effect).1.symm
  · exact shown task record hm

/-- The answered call is a look at a task. -/
def Answered.IsLook : Answered → Prop
  | ⟨.agent (.readTask _), _⟩ => True
  | _ => False

/-- The last look is the last read, and showed what the actor was answered then. -/
theorem Look.of_past {past : List Answered} {l : Look}
    (h : past.foldr Look.after none = some l) :
    ∃ task later earlier,
      past = later ++ ⟨.agent (.readTask task), .ok (some l.record)⟩ :: earlier ∧
        ∀ x ∈ later, ¬ x.IsLook := by
  induction past generalizing l with
  | nil => cases h
  | cons x past ih =>
    have later {l' : Look} (aside : ¬ x.IsLook) (h' : past.foldr Look.after none = some l')
        (same : l'.record = l.record) :
        ∃ task later earlier,
          x :: past = later ++ ⟨.agent (.readTask task), .ok (some l.record)⟩ :: earlier ∧
            ∀ x ∈ later, ¬ x.IsLook := by
      obtain ⟨task, later, earlier, hp, hl⟩ := ih h'
      refine ⟨task, x :: later, earlier, ?_, ?_⟩
      · rw [hp, same]
        rfl
      · intro y hy
        rcases List.mem_cons.mp hy with rfl | hy
        · exact aside
        · exact hl y hy
    rw [List.foldr_cons] at h
    obtain ⟨request | request, reply⟩ := x
    · cases request with
      | readTask task =>
        rcases reply with cause | _ | record
        · cases h
        · cases h
        · obtain rfl := Option.some.inj h
          exact ⟨task, [], past, rfl, fun _ hx => absurd hx List.not_mem_nil⟩
      | now =>
        obtain ⟨l', h', rfl⟩ := Option.map_eq_some_iff.mp h
        exact later id h' rfl
      | _ => exact later id h rfl
    · exact later id h rfl

/-- The last look showed a record that the actor was answered. -/
theorem Look.mem_past {past : List Answered} {l : Look}
    (h : past.foldr Look.after none = some l) :
    ∃ task, (⟨.agent (.readTask task), .ok (some l.record)⟩ : Answered) ∈ past := by
  obtain ⟨task, later, earlier, hp, -⟩ := Look.of_past h
  exact ⟨task, hp ▸ List.mem_append_right _ List.mem_cons_self⟩

/-- On the way to a state the actor of a job was answered a call after some earlier ones. -/
inductive WasAnswered (fleet : Fleet) (allowed : Event → Prop) (start c : State) (number : Nat)
    (job : Job) (x : Answered) (earlier : List Answered) : Prop where
  /-- The states before and after the answer, and the actor before and after it. -/
  | intro (d d' : State) (b b' : Actor) (before : Reaches fleet allowed start d)
    (answers : Answers d number b b' x.operation x.reply d') (reached : Reaches fleet allowed start d')
    (onwards : Reaches fleet allowed d' c) (past : b'.past = x :: earlier) (same : b'.job = job)

/-- Whatever an actor remembers it was answered on the way. -/
theorem Reaches.wasAnswered (hr : Reaches fleet allowed start c) (hi : start.Initial) :
    ∀ number a, c.actors[number]? = some a → ∀ x later earlier, a.past = later ++ x :: earlier →
      WasAnswered fleet allowed start c number a.job x earlier := by
  apply hr.invariant
  · exact fun _ a ha => absurd (List.mem_of_getElem? ha) hi.not_mem
  intro e e' event he before permitted performed number a ha x later earlier hp
  -- what was answered before this event was answered on the way
  have goesOn {y : Actor} {later : List Answered} (hy : e.actors[number]? = some y)
      (hp : y.past = later ++ x :: earlier) (job : y.job = a.job) :
      WasAnswered fleet allowed start e' number a.job x earlier := by
    obtain ⟨d, d', b, b', hd, answers, hd', run, past, same⟩ := before number y hy x later earlier hp
    exact ⟨d, d', b, b', hd, answers, hd', run.step event permitted performed, past, same.trans job⟩
  cases event with
  | start pod job =>
    obtain ⟨-, rfl⟩ := State.of_start performed
    rcases getElem?_started ha with hb | ⟨-, rfl⟩
    · exact goesOn hb hp rfl
    · exact absurd hp.symm (List.append_ne_nil_of_right_ne_nil _ (List.cons_ne_nil _ _))
  | answer other choice =>
    obtain ⟨b, b', operation, reply, answers, -⟩ := (he.sound hi).answers performed
    rcases answers.cases ha with ⟨rfl, rfl⟩ | ⟨-, hb⟩
    · rw [answers.past] at hp
      cases later with
      | nil =>
        obtain ⟨rfl, rfl⟩ := List.cons.inj hp
        exact ⟨e, e', b, a, he, answers, he.step _ permitted performed, .refl, answers.past, rfl⟩
      | cons y later =>
        obtain ⟨-, hp⟩ := List.cons.inj hp
        exact goesOn answers.actor hp answers.job.symm
    · exact goesOn hb hp rfl
  | handBack message =>
    obtain ⟨-, rfl⟩ := State.of_handBack performed
    exact goesOn ha hp rfl
  | move m =>
    obtain ⟨shared, -, rfl⟩ := State.of_move performed
    exact goesOn ha hp rfl

/-- A state shows an actor its last look: there it was answered with the stored record of its task, and
it has not looked since. -/
structure Look.TakenIn (d : State) (number : Nat) (a : Actor) (l : Look) : Prop where
  /-- The record is stored. -/
  stored : d.shared.store.get? a.job.task = some l.record
  /-- The actor has just been answered with it, and has not looked since. -/
  actor : ∃ b later earlier, d.actors[number]? = some b ∧ a.past = later ++ b.past ∧
    b.past = ⟨.agent (.readTask a.job.task), .ok (some l.record)⟩ :: earlier ∧
    ∀ x ∈ later, ¬ x.IsLook

/-- The last look of an actor was taken on the way. -/
theorem Reaches.look_takenIn (hr : Reaches fleet allowed start c) (hi : start.Initial) {number : Nat}
    (ha : c.actors[number]? = some a) {l : Look} (look : a.look = some l) :
    ∃ d, Reaches fleet allowed start d ∧ Reaches fleet allowed d c ∧ l.TakenIn d number a := by
  obtain ⟨task, later, earlier, past, since⟩ := Look.of_past look
  obtain ⟨d, d', b, b', -, answers, reached, onwards, past', same⟩ :=
    hr.wasAnswered hi number a ha _ later earlier past
  have may := answers.may
  have own : task = a.job.task := may.2.1.trans ((congrArg Job.task answers.job).symm.trans
    (congrArg Job.task same))
  subst own
  refine ⟨d', reached, onwards, ?_, b', later, earlier, answers.self, ?_, past', since⟩
  · obtain ⟨found, kept⟩ := read_of_effect answers.effect
    rw [kept]
    exact found.symm
  · rw [past, past']

/-! Acquisitions. -/

/-- Answered calls lead from a program to what is left of it; the latest call comes first. -/
inductive Leads (p : Program operations α) : List Answered → Program operations α → Prop where
  /-- Nothing is answered yet. -/
  | nothing : Leads p [] p
  /-- One more call is answered. -/
  | answered {past : List Answered} {operation : Operation}
    {next : operation.Reply → Program operations α} (before : Leads p past (.call operation next))
    (reply : operation.Reply) : Leads p (⟨operation, reply⟩ :: past) (next reply)

/-- A program that follows a conduct that counts on nothing goes on following it. -/
theorem Leads.follows {σ : Type} {C : Conduct operations σ} {first : σ} {p rest : Program operations α}
    {past : List Answered} {Q : α → σ → Prop} (h : Leads p past rest)
    (credible : ∀ operation reply, C.credible operation reply) (hp : p.Follows C first Q) :
    rest.Follows C (past.foldr (fun x books => C.note books x.operation x.reply) first) Q := by
  induction h with
  | nothing => exact hp
  | answered before reply ih => exact ih.2 reply (credible _ reply)

/-- The calls that an actor was answered lead to what is left of its program. -/
theorem Reaches.leads (hr : Reaches fleet allowed start c) (hi : start.Initial) :
    ∀ a ∈ c.actors, Leads (a.job.program (fleet.settings a.pod)) a.past a.rest := by
  apply hr.invariant
  · exact fun a ha => absurd ha hi.not_mem
  intro d d' event hd leads _ performed x hx
  cases event with
  | start pod job =>
    obtain ⟨-, rfl⟩ := State.of_start performed
    rcases List.mem_append.mp hx with hx | hx
    · exact leads x hx
    · rw [List.mem_singleton.mp hx]
      have here : (Actor.start (fleet.settings pod) job).pod = pod := fleet.podId_settings pod
      rw [here]
      exact .nothing
  | answer number choice =>
    obtain ⟨a, operation, next, reply, rest, ha, -⟩ := (hd.sound hi).advances performed
    rcases ha.mem_cases hx with rfl | hx
    · have before := leads a (List.mem_of_getElem? ha.actor)
      rw [rest] at before
      exact before.answered reply
    · exact leads x hx
  | handBack message =>
    obtain ⟨-, rfl⟩ := State.of_handBack performed
    exact leads x hx
  | move m =>
    obtain ⟨shared, -, rfl⟩ := State.of_move performed
    exact leads x hx

/-- The actor has acquired its task, for a message or on its own, and this is what its acquisition
returned. -/
structure Actor.HasAcquired (s : Settings) (a : Actor) (acquired : Acquired) : Prop where
  /-- Acquisition is a part of the job. -/
  job : a.job = .acquire a.job.task ∨ ∃ message, a.job = .handle message a.job.task
  /-- The first calls are those of an acquisition that has returned. -/
  returned : ∃ earlier, earlier <:+ a.past ∧
    Leads (agentCalls (acquire s a.job.task).run) earlier (.done (.ok acquired))

/-- An actor that acquires a task on its own has acquired it as it returned. -/
theorem Reaches.hasAcquired (hr : Reaches fleet allowed start c) (hi : start.Initial)
    (ha : a ∈ c.actors) {acquired : Acquired} (returned : a.acquisition? = some (.ok acquired)) :
    a.HasAcquired (fleet.settings a.pod) acquired := by
  have leads := hr.leads hi a ha
  obtain ⟨pod, job, past, rest⟩ := a
  cases job with
  | acquire task =>
    cases rest with
    | done outcome =>
      obtain rfl : outcome = .ok acquired := Option.some.inj returned
      exact ⟨.inl rfl, past, List.suffix_rfl, leads⟩
    | call operation next => cases returned
  | _ => cases returned

/-- An acquisition whose outcome is for contradictory records was shown such a record. -/
theorem Actor.HasAcquired.contradicts {s : Settings} {acquired : Acquired}
    (h : a.HasAcquired s acquired) (contradiction : acquired.outcome.isContradiction = true) :
    ∃ task record, (⟨.agent (.readTask task), .ok (some record)⟩ : Answered) ∈ a.past ∧
      Contradicts record := by
  obtain ⟨earlier, suffix, leads⟩ := h.returned
  have goes : (agentCalls (acquire s a.job.task).run).Follows
      (lookRules s.podId s.dispatchTimeout) none fun outcome look =>
        match outcome with
        | .ok acquired => Sees acquired look
        | .error _ => True :=
    follows_withFinalizers (looking_unnoted ..)
      (Follows.mono acquire_goes.looking fun outcome _ h => by cases outcome <;> exact h)
  have sees := leads.follows (fun operation _ => by cases operation <;> trivial) goes
  obtain ⟨l, hl, contradicts⟩ := sees contradiction
  rw [noted_look] at hl
  obtain ⟨task, hm⟩ := Look.mem_past hl
  exact ⟨task, l.record, suffix.subset hm, contradicts⟩

end GridAgent.Cluster
