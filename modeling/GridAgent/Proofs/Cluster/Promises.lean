import GridAgent.Proofs.Cluster.Soundness

/-!
# Promoted tasks and their messages

A task that becomes submitted by an actor has no message yet. The actor owes it one: until the push
it makes no other call to the queue, and the push names every task that is owed. So whoever owes a
task has just promoted it, and comes to the push next whatever it is replied before.
-/

namespace GridAgent.Cluster

open Agent Track

variable {fleet : Fleet} {allowed : Event → Prop} {start c c' : State} {task : TaskId}

namespace Operation

/-- The tasks that a call pushes. -/
def pushed? : Operation → Option (List TaskId)
  | .agent (.push tasks) => some tasks
  | .finalizer (.push tasks) => some tasks
  | _ => none

/-- The call is one to the queue. -/
def isQueueCall : Operation → Bool
  | .agent (.push _) => true
  | .agent (.dispose ..) => true
  | .agent (.settle _) => true
  | .finalizer (.push _) => true
  | _ => false

end Operation

/-- The tasks that became submitted by an answered call, new ones and those that come back apart. -/
def Answered.promoted : Answered → List TaskId
  | ⟨.agent (.updateTask task expected change), .ok _⟩ =>
    if expected = .status .creating ∧ change.status = .submitted then [task] else []
  | ⟨.finalizer (.resolve ..), (tasks : List TaskId)⟩ => tasks
  | _ => []

/-- The tasks that the actor has promoted since it last called the queue. -/
def Actor.justPromoted (a : Actor) : List TaskId :=
  (a.past.takeWhile fun x => !x.operation.isQueueCall).flatMap Answered.promoted

/-- Whatever is replied, the program calls the queue again, and first to push the task. -/
def PushesNext {α : Type} (task : TaskId) : Program operations α → Prop
  | .done _ => False
  | .call operation next =>
    (∃ tasks, operation.pushed? = some tasks ∧ task ∈ tasks) ∨
      (operation.isQueueCall = false ∧ ∀ reply, PushesNext task (next reply))

/-- Programs that owe a task push it next. -/
theorem pushesNext_of_follows {α : Type} {pod : PodId} {job : Job} {k : Track}
    {p : Program operations α} {Q : α → Track → Prop} (h : p.Follows (conduct pod job) k Q)
    (hQ : ∀ value k', Q value k' → k'.owed = []) (ht : task ∈ k.owed) : PushesNext task p := by
  induction p generalizing k with
  | done value =>
    rw [hQ value k h] at ht
    cases ht
  | call operation next ih =>
    obtain ⟨may, then_⟩ := h
    rcases operation with request | request
    · cases request with
      | push tasks => exact .inl ⟨tasks, rfl, may ht⟩
      | _ => exact absurd (may.1 ▸ ht) List.not_mem_nil
    · cases request with
      | now => exact .inr ⟨rfl, fun reply => ih reply (then_ reply trivial) ht⟩
      | resolve data now =>
        refine .inr ⟨rfl, fun (reply : List TaskId) => ?_⟩
        exact ih reply (then_ reply trivial) (List.mem_append_left reply ht)
      | push tasks => exact .inl ⟨tasks, rfl, may ht⟩
      | _ => exact absurd (may ▸ ht) List.not_mem_nil

/-- What an answer does to what is owed. -/
theorem Answers.owed {number : Nat} {a b : Actor} {operation : Operation}
    {reply : operation.Reply} (ha : Answers c number a b operation reply c') :
    (b.track.owed = a.track.owed ∧ (operation.isQueueCall = true → a.track.owed = [])) ∨
    (b.track.owed = [] ∧ ∃ tasks, operation.pushed? = some tasks ∧ a.track.owed ⊆ tasks) ∨
    (operation.isQueueCall = false ∧ a.track.stage.isStopping = false ∧
      a.track.owed ⊆ b.track.owed ∧
      ∀ task ∈ b.track.owed, task ∈ a.track.owed ∨ task ∈ Answered.promoted ⟨operation, reply⟩) := by
  have may := ha.may
  rw [ha.track]
  rcases operation with request | request
  · cases request with
    | push tasks => exact .inr (.inl ⟨rfl, tasks, rfl, may⟩)
    | dispose message disposition => rcases reply with _ | _ <;> exact .inl ⟨rfl, fun _ => may.1⟩
    | settle message => exact .inl ⟨rfl, fun _ => may.1⟩
    | readTask task => rcases reply with _ | _ | _ <;> exact .inl ⟨rfl, nofun⟩
    | updateTask task expected change =>
      rcases may.2 with ⟨-, -, hw⟩ | ⟨promotes, rfl, now, rfl⟩
      · rcases reply with (_ | found | _) | record
        · exact .inl ⟨rfl, nofun⟩
        · have hk := updated_conflict hw.ne_promotion a.track task change found
          exact .inl ⟨(congrArg Track.owed hk).trans rfl, nofun⟩
        · exact .inl ⟨rfl, nofun⟩
        · have hk := updated_ok hw.ne_promotion a.track task change record
          exact .inl ⟨(congrArg Track.owed hk).trans (wrote_owed _ _), nofun⟩
      · rcases reply with cause | record
        · have hk := updated_promotion_error a.track task
            { status := .submitted, submitted := some now } cause
          exact .inl ⟨congrArg Track.owed hk, nofun⟩
        · have hk := updated_promotion_ok a.track task
            { status := .submitted, submitted := some now } record
          have owed : (a.track.note a.pod (.agent (.updateTask task (.status .creating)
              { status := .submitted, submitted := some now })) (.ok record)).owed =
              task :: a.track.owed := congrArg Track.owed hk
          rw [owed]
          refine .inr (.inr ⟨rfl, promotes.2, List.subset_cons_self _ _, fun other ht => ?_⟩)
          rcases List.mem_cons.mp ht with rfl | ht
          · exact .inr List.mem_cons_self
          · exact .inl ht
    | createSuccessor parent candidate => rcases reply with _ | _ <;> exact .inl ⟨rfl, nofun⟩
    | register task => rcases reply with _ | _ <;> exact .inl ⟨rfl, nofun⟩
    | connect run task deadline => rcases reply with _ | _ <;> exact .inl ⟨rfl, nofun⟩
    | _ => exact .inl ⟨rfl, nofun⟩
  · cases request with
    | push tasks => exact .inr (.inl ⟨rfl, tasks, rfl, may⟩)
    | resolve data now =>
      exact .inr (.inr ⟨rfl, may, List.subset_append_left _ _, fun task ht => List.mem_append.mp ht⟩)
    | _ => exact .inl ⟨rfl, nofun⟩

/-- What an actor owes it has just promoted. -/
theorem Reaches.owed_justPromoted (hr : Reaches fleet allowed start c) (hi : start.Initial) :
    ∀ a ∈ c.actors, a.track.owed ⊆ a.justPromoted := by
  refine hr.all_actors hi (fun _ _ _ => List.nil_subset _) ?_
  intro c c' number a b operation reply _ ha before task ht
  have quiet (hq : operation.isQueueCall = false) : b.justPromoted =
      Answered.promoted ⟨operation, reply⟩ ++ a.justPromoted := by
    unfold Actor.justPromoted
    rw [ha.past, List.takeWhile_cons_of_pos (by rw [hq]; rfl), List.flatMap_cons]
  rcases ha.owed with ⟨same, queue⟩ | ⟨none, -⟩ | ⟨hq, -, -, new⟩
  · rw [same] at ht
    have hq : operation.isQueueCall = false := by
      rw [← Bool.not_eq_true]
      intro h
      rw [queue h] at ht
      cases ht
    rw [quiet hq]
    exact List.mem_append_right _ (before ht)
  · rw [none] at ht
    cases ht
  · rw [quiet hq]
    rcases new task ht with ht | ht
    · exact List.mem_append_right _ (before ht)
    · exact List.mem_append_left _ ht

/-- Whoever owes a task pushes it next. -/
theorem Sound.pushesNext (h : Sound c) {a : Actor} (ha : a ∈ c.actors) (ht : task ∈ a.track.owed) :
    PushesNext task a.rest :=
  pushesNext_of_follows (h.follows a ha) (fun _ _ ends => ends.1) ht

end GridAgent.Cluster
