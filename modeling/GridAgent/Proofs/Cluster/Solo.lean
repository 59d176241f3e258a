import GridAgent.Proofs.Cluster.Reliability

/-!
# A job alone

One job is done while nobody else does anything. The store, the queue, the registry and the scratch
area answer as they stand, as they do in a cluster; what is free to answer goes by the calls that
came through so far. Calls to the store may be refused, each for a reason of its own: a refused call
leaves everything as it was, and neither it nor a pause is remembered. Every run of a job alone is a
run of a cluster.
-/

namespace GridAgent.Cluster

open Agent

/-- The answer of a store that is out of reach; none for a call that goes elsewhere. -/
def Operation.refusal? : (operation : Operation) → Option (String → operation.Reply)
  | .agent (.readTask _) => some fun reason => .error (.unavailable reason)
  | .agent (.updateTask ..) => some fun reason => .error (.unavailable reason)
  | .agent (.createSuccessor ..) => some fun reason => .error (.unavailable reason)
  | .agent (.findSuccessor _) => some fun reason => .error (.unavailable reason)
  | .agent (.readSession _) => some fun reason => .error (.unavailable reason)
  | .finalizer (.readTask _) => some fun reason => .error (.unavailable reason)
  | _ => none

/-- What a job alone meets. -/
structure Surroundings where
  /-- Where the job is done. -/
  pod : PodId
  /-- What is free to answer, by the calls that came through so far. -/
  replies : List Answered → (operation : Operation) → Option operation.Reply
  /-- A refusal can reach the call. -/
  exposes : Operation → Bool
  /-- Nothing but a refusal keeps a session from being read. -/
  reads_sessions : ∀ past session reason,
    replies past (.agent (.readSession session)) ≠ some (Except.error (.unavailable reason))

/-- Where a job alone has come to. -/
structure Scene where
  /-- The store and whatever else agents share. -/
  shared : Shared
  /-- The calls that came through, the latest first. -/
  past : List Answered := []
  /-- Why each of the next calls to the store is refused, if it is. -/
  refusals : Nat → Option String := fun _ => none

namespace Scene

/-- The scene with one call to the store behind it. -/
def next (w : Scene) : Scene := { w with refusals := fun k => w.refusals (k + 1) }

/-- The scene without any refusals to come. -/
def calmed (w : Scene) : Scene := { w with refusals := fun _ => none }

@[simp] theorem calmed_calmed (w : Scene) : w.calmed.calmed = w.calmed := rfl

@[simp] theorem calmed_next (w : Scene) : w.next.calmed = w.calmed := rfl

@[simp] theorem next_calmed (w : Scene) : w.calmed.next = w.calmed := rfl

/-- The store is sound, and of any so many calls to it in a row one comes through. -/
structure Bearable (attempts : Nat) (w : Scene) : Prop where
  /-- The store itself refuses nothing. -/
  healthy : w.shared.store.failures = 0
  /-- Refusals do not go on for so long. -/
  spared : ∀ k, ∃ j < attempts, w.refusals (k + j) = none

theorem Bearable.next {attempts : Nat} {w : Scene} (h : w.Bearable attempts) :
    w.next.Bearable attempts where
  healthy := h.healthy
  spared k := by
    obtain ⟨j, hj, hn⟩ := h.spared (k + 1)
    refine ⟨j, hj, ?_⟩
    show w.refusals (k + j + 1) = none
    rwa [Nat.add_right_comm]

end Scene

/-- An outcome that comes with a scene, seen as if nothing had been refused. -/
abbrev calmedEnd {α : Type} : α × Scene → α × Scene := Prod.map id Scene.calmed

namespace Surroundings

variable (σ : Surroundings) {α β : Type}

/-- A call comes through and is answered. A pause is as good as nothing. -/
def grant (w : Scene) : (operation : Operation) → Option (operation.Reply × Scene)
  | .agent (.pause _) => some ((), w)
  | operation =>
    (w.shared.answer σ.pod operation (σ.replies w.past operation)).map fun (reply, shared) =>
      (reply, { w with shared, past := ⟨operation, reply⟩ :: w.past })

/-- A call is answered or refused. -/
def meet (w : Scene) (operation : Operation) : Option (operation.Reply × Scene) :=
  match operation.refusal?, w.refusals 0 with
  | some refuse, some reason =>
    if σ.exposes operation then some (refuse reason, w.next) else σ.grant w.next operation
  | some _, none => σ.grant w.next operation
  | none, _ => σ.grant w operation

/-- The program with nobody else about: its value, and the scene at its end. -/
def solo (p : Program operations α) (w : Scene) : Option (α × Scene) :=
  match p with
  | .done value => some (value, w)
  | .call operation next => (σ.meet w operation).bind fun (reply, w) => solo (next reply) w

variable {σ} {w w' : Scene} {operation : Operation} {reply : operation.Reply} {attempts : Nat}

@[simp] theorem solo_done (value : α) : σ.solo (.done value) w = some (value, w) := rfl

@[simp] theorem solo_call (next : operation.Reply → Program operations α) :
    σ.solo (.call operation next) w =
      (σ.meet w operation).bind fun (reply, w) => σ.solo (next reply) w := rfl

/-- A single call does what its answer brings. -/
theorem solo_single : σ.solo (.call operation .done) w = σ.meet w operation := by
  show (σ.meet w operation).bind some = σ.meet w operation
  exact Option.bind_fun_some _

/-- One program after another goes on where the first one ends. -/
@[simp] theorem solo_bind (p : Program operations α) (f : α → Program operations β) :
    σ.solo (p.bind f) w = (σ.solo p w).bind fun (value, w) => σ.solo (f value) w := by
  induction p generalizing w with
  | done value => rfl
  | call operation next ih =>
    calc σ.solo ((Program.call operation next).bind f) w
      _ = (σ.meet w operation).bind fun (reply, w) => σ.solo ((next reply).bind f) w := rfl
      _ = (σ.meet w operation).bind fun (reply, w) =>
            (σ.solo (next reply) w).bind fun (value, w) => σ.solo (f value) w :=
          congrArg (Option.bind _) (funext fun (reply, w) => ih reply)
      _ = _ := (Option.bind_assoc ..).symm

/-! What a call leaves behind. -/

/-- A granted call is answered from what is shared, or it is a pause. -/
theorem of_grant (h : σ.grant w operation = some (reply, w')) :
    w' = w ∨ ∃ shared,
      w.shared.answer σ.pod operation (σ.replies w.past operation) = some (reply, shared) ∧
        w' = { w with shared, past := ⟨operation, reply⟩ :: w.past } := by
  unfold grant at h
  split at h
  · cases h
    exact .inl rfl
  · obtain ⟨⟨answer, shared⟩, hs, he⟩ := Option.map_eq_some_iff.mp h
    cases he
    exact .inr ⟨shared, hs, rfl⟩

/-- What was answered does not depend on what will be refused. -/
theorem grant_calmed : σ.grant w.calmed operation = (σ.grant w operation).map calmedEnd := by
  unfold grant
  split
  · rfl
  · rw [Option.map_map]
    rfl

theorem bearable_of_grant (hw : w.Bearable attempts) (h : σ.grant w operation = some (reply, w')) :
    w'.Bearable attempts := by
  rcases of_grant h with rfl | ⟨shared, hs, rfl⟩
  · exact hw
  · have kept : shared.store.failures ≤ w.shared.store.failures := failures_of_answer hs
    exact ⟨Nat.le_zero.mp (hw.healthy ▸ kept), hw.spared⟩

/-- A call is refused, or it comes through, and counts as one of the calls to the store or not. -/
theorem meet_cases (w : Scene) (operation : Operation) :
    (∃ refuse reason, operation.refusal? = some refuse ∧ w.refusals 0 = some reason ∧
      σ.exposes operation = true ∧ σ.meet w operation = some (refuse reason, w.next)) ∨
    ∃ w₁, (w₁ = w ∨ w₁ = w.next) ∧ σ.meet w operation = σ.grant w₁ operation := by
  unfold meet
  split
  · next refuse reason hr hn =>
    split
    · next he => exact .inl ⟨refuse, reason, hr, hn, he, rfl⟩
    · exact .inr ⟨w.next, .inr rfl, rfl⟩
  · exact .inr ⟨w.next, .inr rfl, rfl⟩
  · exact .inr ⟨w, .inl rfl, rfl⟩

theorem bearable_of_meet (hw : w.Bearable attempts) (h : σ.meet w operation = some (reply, w')) :
    w'.Bearable attempts := by
  rcases σ.meet_cases w operation with ⟨_, _, _, _, _, hm⟩ | ⟨w₁, rfl | rfl, hm⟩
  · rw [hm] at h
    cases h
    exact hw.next
  · exact bearable_of_grant hw (hm ▸ h)
  · exact bearable_of_grant hw.next (hm ▸ h)

/-- A call uses up one refusal at most. -/
theorem refusals_of_meet (h : σ.meet w operation = some (reply, w')) :
    w'.refusals = w.refusals ∨ w'.refusals = w.next.refusals := by
  rcases σ.meet_cases w operation with ⟨_, _, _, _, _, hm⟩ | ⟨w₁, hw, hm⟩
  · rw [hm] at h
    cases h
    exact .inr rfl
  · have kept : w'.refusals = w₁.refusals := by
      rcases of_grant (hm ▸ h) with rfl | ⟨shared, -, rfl⟩ <;> rfl
    rcases hw with rfl | rfl
    · exact .inl kept
    · exact .inr kept

/-- What can be borne stays so, whatever is done. -/
theorem bearable_of_solo {p : Program operations α} {value : α} (hw : w.Bearable attempts)
    (h : σ.solo p w = some (value, w')) : w'.Bearable attempts := by
  induction p generalizing w with
  | done value =>
    cases h
    exact hw
  | call operation next ih =>
    obtain ⟨⟨reply, w₁⟩, hm, hs⟩ := Option.bind_eq_some_iff.mp h
    exact ih reply (bearable_of_meet hw hm) hs

/-- What comes through is answered as though nothing were ever refused. -/
theorem calm_of_granted {w₁ : Scene} (hw : w₁ = w ∨ w₁ = w.next)
    (hm : σ.meet w operation = σ.grant w₁ operation) :
    (σ.meet w operation).map calmedEnd = σ.meet w.calmed operation := by
  have calm : w₁.calmed = w.calmed := by rcases hw with rfl | rfl <;> rfl
  have through : σ.meet w.calmed operation = σ.grant w.calmed operation := by
    rcases σ.meet_cases w.calmed operation with ⟨_, _, _, hn, _, _⟩ | ⟨w₂, rfl | rfl, h₂⟩
    · cases hn
    · exact h₂
    · exact h₂
  rw [through, hm, ← grant_calmed, calm]

/-- A healthy store answers none of its calls as if it were out of reach. -/
theorem ne_refusal_of_grant (healthy : w.shared.store.failures = 0)
    {refuse : String → operation.Reply} (hr : operation.refusal? = some refuse)
    (h : σ.grant w operation = some (reply, w')) (reason : String) : reply ≠ refuse reason := by
  -- every call to the store of tasks answers as the store stands
  have stands {α : Type} {call : Store.Call α} {answer : Except StoreError α}
      (hc : (call.fallible w.shared.store).1 = answer)
      (hs : ∀ reason, (call w.shared.store).1 ≠ .error (.unavailable reason)) :
      answer ≠ .error (.unavailable reason) := by
    rw [← hc, Store.fallible_of_healthy _ healthy]
    exact hs reason
  rcases operation with request | request
  · cases request with
    | readTask task =>
      cases hr
      cases h
      exact stands rfl nofun
    | updateTask task expected change =>
      cases hr
      cases h
      exact Store.update_ne_unavailable healthy expected change reason
    | createSuccessor parent candidate =>
      cases hr
      cases h
      refine stands rfl fun reason => ?_
      split <;> nofun
    | findSuccessor task =>
      cases hr
      cases h
      exact stands rfl nofun
    | readSession session =>
      cases hr
      obtain ⟨_, hs, he⟩ := Option.map_eq_some_iff.mp h
      obtain ⟨_, chosen, rfl⟩ := Option.map_eq_some_iff.mp hs
      cases he
      rintro rfl
      exact σ.reads_sessions w.past session reason chosen
    | _ => cases hr
  · cases request with
    | readTask task =>
      cases hr
      cases h
      exact stands rfl nofun
    | _ => cases hr

end Surroundings

/-! A job alone in a cluster. -/

section
open Surroundings
variable {σ : Surroundings} {w w' : Scene} {fleet : Fleet} {actors : List Actor} {number : Nat}
  {job : Job} {past : List Answered}

/-- The words of a store that refuses a call on purpose. -/
def injected : String := "injected failure"

/-- No session can be read. -/
def sessionsDown : (operation : Operation) → Option operation.Reply
  | .agent (.readSession _) => some (Except.error (.unavailable injected))
  | _ => none

/-- The actor after an answer, in its place. -/
theorem State.answer_of_rest {shared shared' : Shared} {operation : Operation}
    {next : operation.Reply → Program operations job.Result} {reply : operation.Reply}
    {choice : (operation : Operation) → Option operation.Reply}
    (ha : actors[number]? = some ⟨σ.pod, job, past, .call operation next⟩)
    (hs : shared.answer σ.pod operation (choice operation) = some (reply, shared')) :
    State.perform fleet ⟨shared, actors⟩ (.answer number choice) =
      some ⟨shared', actors.set number ⟨σ.pod, job, ⟨operation, reply⟩ :: past, next reply⟩⟩ := by
  show State.answer ⟨shared, actors⟩ number choice = _
  unfold State.answer
  simp only [ha, Option.bind_some, hs, Option.map_some]
  rfl

/-- A call to the store can be refused in a cluster. -/
theorem reaches_of_refusal {shared : Shared} {operation : Operation}
    {next : operation.Reply → Program operations job.Result} {refuse : String → operation.Reply}
    (healthy : shared.store.failures = 0) (hr : operation.refusal? = some refuse)
    (ha : actors[number]? = some ⟨σ.pod, job, past, .call operation next⟩) :
    Reaches fleet anyEvent ⟨shared, actors⟩
      ⟨shared, actors.set number
        ⟨σ.pod, job, ⟨operation, refuse injected⟩ :: past, next (refuse injected)⟩⟩ := by
  -- a failure that is ordered for one call, and spent on it
  let ordered : Shared := { shared with store := { shared.store with failures := 1 } }
  have spent : ({ shared with store := { shared.store with failures := 0 } } : Shared) = shared := by
    rw [← healthy]
  have down : Reaches fleet anyEvent ⟨shared, actors⟩ ⟨ordered, actors⟩ :=
    .step (.move (.failStore 1)) .refl trivial rfl
  have onStore (hs : ordered.answer σ.pod operation none = some (refuse injected,
      { shared with store := { shared.store with failures := 0 } })) :
      Reaches fleet anyEvent ⟨shared, actors⟩
        ⟨shared, actors.set number
          ⟨σ.pod, job, ⟨operation, refuse injected⟩ :: past, next (refuse injected)⟩⟩ := by
    rw [spent] at hs
    exact .step (.answer number fun _ => none) down trivial (State.answer_of_rest ha hs)
  rcases operation with request | request
  · cases request with
    | readSession session =>
      cases hr
      exact .step (.answer number sessionsDown) .refl trivial (State.answer_of_rest ha rfl)
    | readTask _ | updateTask _ _ _ | createSuccessor _ _ | findSuccessor _ =>
      cases hr
      exact onStore rfl
    | _ => cases hr
  · cases request with
    | readTask task =>
      cases hr
      exact onStore rfl
    | _ => cases hr

/-- What a job meets alone can happen to an actor of a cluster. -/
theorem reaches_of_meet {operation : Operation}
    {next : operation.Reply → Program operations job.Result} {reply : operation.Reply}
    (healthy : w.shared.store.failures = 0)
    (words : ∀ k reason, w.refusals k = some reason → reason = injected)
    (hm : σ.meet w operation = some (reply, w'))
    (ha : actors[number]? = some ⟨σ.pod, job, past, .call operation next⟩) :
    Reaches fleet anyEvent ⟨w.shared, actors⟩
      ⟨w'.shared, actors.set number ⟨σ.pod, job, ⟨operation, reply⟩ :: past, next reply⟩⟩ := by
  rcases σ.meet_cases w operation with ⟨refuse, reason, hr, hn, -, refused⟩ | ⟨w₁, hw, granted⟩
  · rw [refused] at hm
    cases hm
    obtain rfl := words 0 reason hn
    exact reaches_of_refusal healthy hr ha
  · have same : w₁.shared = w.shared := by rcases hw with rfl | rfl <;> rfl
    rw [granted] at hm
    rw [← same]
    unfold Surroundings.grant at hm
    split at hm
    · cases hm
      let choice : (operation : Operation) → Option operation.Reply
        | .agent (.pause _) => some ()
        | _ => none
      exact .step (.answer number choice) .refl trivial (State.answer_of_rest ha rfl)
    · obtain ⟨⟨answer, shared⟩, hs, he⟩ := Option.map_eq_some_iff.mp hm
      cases he
      exact .step (.answer number (σ.replies w₁.past)) .refl trivial (State.answer_of_rest ha hs)

/-- A job that is done alone is done in a cluster in which only its actor goes on. -/
theorem reaches_of_solo {p : Program operations job.Result} {value : job.Result} {attempts : Nat}
    (hw : w.Bearable attempts) (words : ∀ k reason, w.refusals k = some reason → reason = injected)
    (h : σ.solo p w = some (value, w')) (ha : actors[number]? = some ⟨σ.pod, job, past, p⟩) :
    ∃ answered, Reaches fleet anyEvent ⟨w.shared, actors⟩
      ⟨w'.shared, actors.set number ⟨σ.pod, job, answered, .done value⟩⟩ := by
  induction p generalizing w actors past with
  | done value =>
    cases h
    refine ⟨past, ?_⟩
    obtain ⟨bound, at_⟩ := List.getElem?_eq_some_iff.mp ha
    rw [← at_, List.set_getElem_self]
    exact .refl
  | call operation next ih =>
    obtain ⟨⟨reply, w₁⟩, hm, hs⟩ := Option.bind_eq_some_iff.mp h
    have words' : ∀ k reason, w₁.refusals k = some reason → reason = injected := by
      rcases refusals_of_meet hm with he | he <;> rw [he]
      · exact words
      · exact fun k => words (k + 1)
    have bound := (List.getElem?_eq_some_iff.mp ha).1
    obtain ⟨answered, others⟩ := ih reply (bearable_of_meet hw hm) words' hs
      (List.getElem?_set_self bound)
    rw [List.set_set] at others
    exact ⟨answered, (reaches_of_meet hw.healthy words hm ha).trans others⟩

end

end GridAgent.Cluster
