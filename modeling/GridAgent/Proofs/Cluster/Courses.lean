import GridAgent.Proofs.Cluster.Books
import GridAgent.Proofs.Cluster.Custody
import GridAgent.Proofs.Handler.Course

/-!
# The course of every job

The rules of an execution are rules for every job, call by call: the results of a cancelled attempt
are listed by the finalizer and given up one by one. In every reached cluster every actor obeys them,
since decisions on messages are accepted: whoever decides has not decided before.
-/

namespace GridAgent.Cluster

open Agent Program

variable {pod : PodId} {task : TaskId} {k : Course} {f : Bool} {α : Type}

/-! Giving up results. -/

namespace Course

/-- The course after the results of the task were listed. -/
def listed : Course → Option TaskRecord → Course
  | cancelled none, found => cancelled (some ((found.map TaskRecord.outputs).getD []))
  | k, _ => k

/-- The course after data was given up. -/
def gaveUp : Course → DataId → Course
  | cancelled (some pending), data => cancelled (some (pending.filter (· ≠ data)))
  | k, _ => k

/-- What a finalizer may be asked: a cancelled attempt lists its own results. -/
def MaySettle (task : TaskId) (k : Course) : Finalizer.Request → Prop
  | .readTask other => k = cancelled none → other = task
  | _ => True

/-- The course after a reply to a finalizer. -/
def noteFinalizer (k : Course) : (request : Finalizer.Request) → request.Reply → Course
  | .readTask _, .ok found => k.listed found
  | .readTask _, .error _ => k.abandoned false
  | .giveUp data _, _ => k.gaveUp data
  | _, _ => k

end Course

/-- The rules of an execution for a finalizer. -/
def settlementRules (task : TaskId) : Conduct Finalizer.collaborators Course :=
  ⟨Course.MaySettle task, fun _ _ => True, Course.noteFinalizer⟩

/-- Out of an execution a finalizer does what it likes. -/
theorem keeps_settlement (p : Program Finalizer.collaborators α) :
    Keeps (settlementRules task) p (.idle f) := by
  induction p with
  | done value => rfl
  | call request next ih =>
    have may : Course.MaySettle task (.idle f) request := by
      cases request <;> first | trivial | exact fun h => nomatch h
    refine ⟨may, fun reply _ => ?_⟩
    have kept : (settlementRules task).note (.idle f) request reply = .idle f := by
      cases request with
      | readTask other => rcases reply with _ | _ <;> rfl
      | _ => rfl
    rw [kept]
    exact ih reply

/-- What is given up is not pending any more. -/
theorem giveUpAll_settles (all pending : List DataId) :
    (Finalizer.giveUpAll all).Follows (settlementRules task) (.cancelled (some pending))
      fun _ k => ∃ left, k = .cancelled (some left) ∧
        ∀ data ∈ left, data ∈ pending ∧ data ∉ all := by
  induction all generalizing pending with
  | nil => exact ⟨pending, rfl, fun data hd => ⟨hd, List.not_mem_nil⟩⟩
  | cons first rest ih =>
    have clock : Keeps (settlementRules task) Finalizer.readClock (.cancelled (some pending)) :=
      ⟨trivial, fun _ _ => rfl⟩
    refine clock.andThen fun now => ?_
    have given : (Finalizer.giveUp first now).Follows (settlementRules task)
        (.cancelled (some pending)) fun _ k =>
          k = .cancelled (some (pending.filter (· ≠ first))) := ⟨trivial, fun _ _ => rfl⟩
    refine follows_bind.mpr (given.mono ?_)
    rintro failed _ rfl
    refine follows_bind.mpr ((ih _).mono ?_)
    rintro more k ⟨left, rfl, hl⟩
    refine ⟨left, rfl, fun data hd => ?_⟩
    obtain ⟨hp, hr⟩ := hl data hd
    obtain ⟨hp, hne⟩ := List.mem_filter.mp hp
    exact ⟨hp, fun h => (List.mem_cons.mp h).elim (by simpa using hne) hr⟩

/-- The results of one task are given up: all that is pending if they are what is pending, or the
task is the cancelled one. -/
theorem abandonOne_settles (other : TaskId) (hk : k = .cancelled none ∧ other = task ∨
    k = .cancelled (some [])) :
    FollowsOr (settlementRules task) (Finalizer.abandonOne other) k
      (fun _ k' => k' = .cancelled (some [])) fun _ k' => k' = .idle true := by
  have may : Course.MaySettle task k (.readTask other) := fun h => by
    rcases hk with ⟨-, h'⟩ | rfl
    · exact h'
    · cases h
  have failed (cause : StoreError) :
      k.noteFinalizer (.readTask other) (.error cause) = .idle true := by
    rcases hk with ⟨rfl, -⟩ | rfl <;> rfl
  have listed (found : Option TaskRecord) : ∃ pending,
      k.noteFinalizer (.readTask other) (.ok found) = .cancelled (some pending) ∧
        ∀ data ∈ pending, data ∈ (found.map TaskRecord.outputs).getD [] := by
    rcases hk with ⟨rfl, -⟩ | rfl
    · exact ⟨_, rfl, fun data hd => hd⟩
    · exact ⟨[], rfl, fun data hd => nomatch hd⟩
  refine ⟨may, fun reply _ => ?_⟩
  rcases reply with cause | found
  · exact failed cause
  · obtain ⟨pending, hk', hp⟩ := listed found
    have note : (settlementRules task).note k (.readTask other) (.ok found) =
      .cancelled (some pending) := hk'
    rw [note]
    cases found with
    | none =>
      obtain rfl : pending = [] := List.eq_nil_iff_forall_not_mem.mpr fun data hd => nomatch hp data hd
      exact rfl
    | some t =>
      refine followsOr_lift.mpr ((giveUpAll_settles t.outputs pending).mono ?_)
      rintro failed k' ⟨left, rfl, hl⟩
      have empty : left = [] := List.eq_nil_iff_forall_not_mem.mpr fun data hd =>
        (hl data hd).2 (hp data (hl data hd).1)
      rw [empty]

theorem abandonWithin_settles (rounds : Nat) (pending : List TaskId) :
    FollowsOr (settlementRules task) (Finalizer.abandonWithin rounds pending) (.cancelled (some []))
      (fun _ k' => k' = .cancelled (some [])) fun _ k' => k' = .idle true := by
  induction rounds generalizing pending with
  | zero => exact rfl
  | succ rounds ih =>
    unfold Finalizer.abandonWithin
    split
    · exact rfl
    · next other _ =>
      refine followsOr_bind.mpr ((abandonOne_settles other (.inr rfl)).mono ?_ fun _ _ h => h)
      rintro failed _ rfl
      exact ih _

/-- A cancelled attempt gives up its results, and those of the tasks that fail for it. -/
theorem abandon_settles : FollowsOr (settlementRules task) (Finalizer.abandon task) (.cancelled none)
    (fun _ k' => k' = .cancelled (some [])) fun _ k' => k' = .idle true := by
  refine ⟨trivial, fun tasks _ => ?_⟩
  refine followsOr_bind.mpr
    ((abandonOne_settles task (.inl ⟨rfl, rfl⟩)).mono ?_ fun _ _ h => h)
  rintro failed _ rfl
  exact abandonWithin_settles _ _

/-! Call by call. -/

/-- The rules of an execution for an actor. -/
def courseConduct (pod : PodId) (task : TaskId) : Conduct operations Course where
  may
    | k, .agent request => k.May pod task request
    | k, .finalizer request => k.MaySettle task request
  credible
    | .agent request, reply => Course.Credible request reply
    | .finalizer _, _ => True
  note
    | k, .agent request, reply => k.note request reply
    | k, .finalizer request, reply => k.noteFinalizer request reply

/-- What a finalizer does by the rules it does by them call by call. -/
theorem finalizerCalls_course {p : Finalizer.Action α} {Q : Except AgentError α → Course → Prop}
    (h : p.run.Follows (settlementRules task) k Q) :
    (finalizerCalls p).Follows (courseConduct pod task) k Q := by
  refine Follows.expand (C := settlementRules task) ?_ h
  exact fun _ _ hm => ⟨hm, fun _ _ => ⟨trivial, rfl⟩⟩

/-- What follows the rules of an execution follows them call by call. -/
theorem agentCalls_course {p : Action α} {Q : α → Course → Prop}
    (h : p.Follows (courseRules pod task) k Q) :
    (agentCalls p).Follows (courseConduct pod task) k Q := by
  refine Follows.expand (fun k request hm => ?_) h
  cases request with
  | finalize other =>
    obtain ⟨f, rfl⟩ : k.IsIdle := hm
    refine (finalizerCalls_course (keeps_settlement (f := f) (Finalizer.finalize other).run)).mono ?_
    rintro reply _ rfl
    exact ⟨trivial, rfl⟩
  | abandon other =>
    rcases hm with ⟨f, rfl⟩ | ⟨rfl, rfl⟩
    · refine (finalizerCalls_course (keeps_settlement (f := f) (Finalizer.abandon other).run)).mono ?_
      rintro reply _ rfl
      exact ⟨trivial, by rcases reply with _ | _ <;> rfl⟩
    · refine (finalizerCalls_course (Follows.mono abandon_settles fun _ _ h => h)).mono ?_
      rintro (cause | _) k' hk'
      · exact ⟨trivial, hk'⟩
      · exact ⟨trivial, hk'⟩
  | _ => exact ⟨hm, fun _ hr => ⟨hr, rfl⟩⟩

/-- What a job ends with: a message is handled out of an execution or its task is reported as
cancelled, or the handling fails out of an execution or before the task is succeeded. -/
def Course.Closes : (job : Job) → job.Result → Course → Prop
  | .handle .., .ok report, k => Reports report k
  | .handle .., .error _, k => Fails k
  | _, _, _ => True

/-- Every job follows the rules of an execution. -/
theorem course_obeyed (s : Settings) (job : Job) :
    (Actor.start s job).Obeys (courseConduct s.podId job.task) (.idle false) Course.Closes := by
  have rules := courseRules_retries s.podId job.task false
  refine Actor.obeys_start ?_
  cases job with
  | handle message task =>
    refine agentCalls_course (Follows.mono (handleMessage_course message) ?_)
    rintro (cause | report) k hk <;> exact hk
  | acquire task => exact agentCalls_course (Follows.mono (rules.acquireWithin _) fun _ _ _ => trivial)
  | stop run task =>
    exact agentCalls_course (Follows.mono (rules.stopExecution (E := never) run) fun _ _ _ => trivial)
  | watch run task =>
    exact agentCalls_course ((rules.lookForCancellation run).mono fun _ _ _ => trivial)

/-! In a cluster. -/

variable {fleet : Fleet} {allowed : Event → Prop} {start c c' : State} {number : Nat} {a b : Actor}
  {operation : Operation} {reply : operation.Reply}

/-- The course of an actor. -/
def Actor.course (a : Actor) : Course := a.books (courseConduct a.pod a.job.task) (.idle false)

/-- An answer is noted. -/
theorem Answers.course (ha : Answers c number a b operation reply c') :
    b.course = (courseConduct a.pod a.job.task).note a.course operation reply := by
  unfold Actor.course Actor.books
  rw [ha.past, ha.pod, ha.job]
  rfl

/-- The answers that the rules of an execution count on are given. -/
theorem Reaches.credible_course (hr : Reaches fleet allowed start c) (hi : start.Initial)
    (ha : Answers c number a b operation reply c') :
    (courseConduct a.pod a.job.task).credible operation reply := by
  have credible := ha.credible
  rcases operation with request | request
  · cases request with
    | readTask task => rcases reply with _ | _ | record <;> trivial
    | updateTask task expected change =>
      rcases reply with cause | record
      · trivial
      · obtain ⟨⟨found, -, -, hf⟩, -⟩ := written_of_effect ha.effect
        exact ⟨credible, (congrArg TaskRecord.status hf).trans (TaskRecord.apply_status _ _)⟩
    | createSuccessor parent candidate =>
      rcases reply with cause | record
      · exact credible
      · trivial
    | dispose message disposition => exact hr.dispose_accepted hi ha
    | settle message =>
      have effect := ha.effect
      generalize c'.shared = s' at effect
      cases effect with
      | silent silent alike => cases silent
      | settled => exact rfl
    | _ => trivial
  · trivial

/-- In every reached cluster every job keeps to the course of an execution. -/
theorem Reaches.courses (hr : Reaches fleet allowed start c) (hi : start.Initial) :
    ∀ a ∈ c.actors, a.Obeys (courseConduct a.pod a.job.task) (.idle false) Course.Closes := by
  intro a ha
  refine hr.obey hi (fun pod job _ => courseConduct pod job.task) (fun _ _ _ => True)
    (fun pod job _ => ?_) (fun _ _ _ _ _ => trivial) (fun hr _ ha _ _ _ => hr.credible_course hi ha)
    a ha () trivial
  have obeyed := course_obeyed (fleet.settings pod) job
  rw [fleet.podId_settings pod] at obeyed
  exact obeyed

/-- A handler that reports has left the execution, or reports its task as cancelled; one that fails
has left it, or has not succeeded the task. -/
theorem Reaches.closes (hr : Reaches fleet allowed start c) (hi : start.Initial) (ha : a ∈ c.actors)
    {outcome : Except AgentError HandlerReport} (h : a.outcome? = some outcome) :
    match outcome with
    | .ok report => Reports report a.course
    | .error _ => Fails a.course := by
  have obeys := hr.courses hi a ha
  obtain ⟨pod, job, past, rest⟩ := a
  cases job with
  | handle message task =>
    cases rest with
    | done value =>
      obtain rfl := Option.some.inj h
      have closes := obeys.returned rfl
      rcases value with cause | report <;> exact closes
    | call operation next => cases h
  | _ => cases h

end GridAgent.Cluster
