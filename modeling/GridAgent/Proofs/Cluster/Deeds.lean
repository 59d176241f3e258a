import GridAgent.Proofs.Cluster.Soundness

/-!
# What an actor has done

Of what an actor does, five kinds of deeds tell how far the execution of its task is: it starts the
execution by its own update of the record, opens a stream to the worker, talks to the worker, and
hangs up. An exchange is a stream on which the worker is talked to. An actor starts its execution
once at most, talks to the worker only between its start and the end of the stream, and has no more
exchanges than it has starts.
-/

namespace GridAgent.Cluster

open Agent Track

/-- What an answered call means for the execution of a task. -/
inductive Deed where
  /-- The task was changed from dispatched to processing. -/
  | starts
  /-- A stream to the worker was opened. -/
  | opens
  /-- The worker was talked to. -/
  | talks
  /-- The stream was closed. -/
  | hangsUp
  /-- Anything else. -/
  | other
  deriving DecidableEq, Repr

/-- What an answered call means for the execution of a task. -/
def Answered.deed (task : TaskId) : Answered → Deed
  | ⟨.agent (.updateTask updated expected change), .ok _⟩ =>
    if updated = task ∧ expected.statuses = [.dispatched] ∧ change.status = .processing then .starts
    else .other
  | ⟨.agent (.connect ..), .ok _⟩ => .opens
  | ⟨.agent (.send ..), _⟩ => .talks
  | ⟨.agent (.finishSending ..), _⟩ => .talks
  | ⟨.agent (.awaitReply ..), _⟩ => .talks
  | ⟨.agent (.hangUp _), _⟩ => .hangsUp
  | _ => .other

/-- The call is part of an exchange with the worker. -/
def Operation.isTalk : Operation → Bool
  | .agent (.send ..) => true
  | .agent (.finishSending ..) => true
  | .agent (.awaitReply ..) => true
  | _ => false

/-- The streams on which there was talk, of deeds with the latest first; whether there was talk
since. -/
def exchangesIn (talked : Bool) : List Deed → Nat
  | [] => 0
  | .talks :: deeds => exchangesIn true deeds
  | .opens :: deeds => talked.toNat + exchangesIn false deeds
  | _ :: deeds => exchangesIn talked deeds

namespace Actor

/-- What the actor has done for the execution of its task, the latest first. -/
def deeds (a : Actor) : List Deed := a.past.map (Answered.deed a.job.task)

/-- How often the actor has started the execution. -/
def starts (a : Actor) : Nat := a.deeds.count .starts

/-- How often the actor has talked to the worker on a stream. -/
def exchanges (a : Actor) : Nat := exchangesIn false a.deeds

/-- The actor has started the execution, and has not hung up since. -/
def isExchanging (a : Actor) : Bool := (a.deeds.takeWhile (· ≠ .hangsUp)).contains .starts

end Actor

/-- What each deed requires of the books, and what it does to them. -/
inductive Turn (k k' : Track) : Deed → Prop where
  /-- An execution starts. -/
  | starts (run : RunId) (before : k.stage = .executing run) (after : k'.stage = .talking run)
    (released : k'.released = false) : Turn k k' .starts
  /-- A stream is opened before the start. -/
  | opens (run : RunId) (before : k.stage = .executing run) (after : k'.stage = k.stage) :
    Turn k k' .opens
  /-- The worker is talked to after the start. -/
  | talks (run : RunId) (before : k.stage = .talking run) (after : k'.stage = k.stage)
    (released : k'.released = k.released) : Turn k k' .talks
  /-- The stream is closed. -/
  | hangsUp (after : k'.stage = k.stage.hungUp) : Turn k k' .hangsUp
  /-- The stage stays. -/
  | stays (after : k'.stage = k.stage)
    (released : k.stage.isTalking = true → k'.released = k.released) : Turn k k' .other
  /-- An execution is registered. -/
  | registers (run : RunId) (before : k.stage = .acquiring) (after : k'.stage = .executing run) :
    Turn k k' .other
  /-- An execution ends. -/
  | leaves (run : RunId) (before : k.stage = .executing run ∨ k.stage = .answered run)
    (after : k'.stage = .left) : Turn k k' .other

/-- An answer that changes neither the stage nor whether the task was handed back. -/
theorem Turn.of_same {k k' : Track} (hs : k'.stage = k.stage) (hr : k'.released = k.released) :
    Turn k k' .other :=
  .stays hs fun _ => hr

section
variable {c c' : State} {number : Nat} {a b : Actor}

/-- Only the start of an execution makes a task processing. -/
theorem Write.processing {pod : PodId} {k : Track} {expected : Expectation} {change : TaskUpdate}
    (hw : Write pod k expected change) (hp : change.status = .processing) :
    expected = claimedBy pod ∧ ∃ run, k.stage = .executing run := by
  cases hw with
  | start run now stage => exact ⟨rfl, run, stage⟩
  | recover owner plan reason now stage => cases plan <;> cases hp
  | fail expected plan reason now he idle => cases plan <;> cases hp
  | conclude run status output now outcome stage =>
    rcases outcome with ⟨rfl, -⟩ | ⟨rfl, -⟩ <;> cases hp
  | _ => cases hp

/-- While the worker is being talked to, the task is not written. -/
theorem Write.not_talking {pod : PodId} {k : Track} {expected : Expectation} {change : TaskUpdate}
    (hw : Write pod k expected change) : k.stage.isTalking = false := by
  rcases hw.stage with stage | ⟨run, stage | stage⟩ | ⟨⟨run, stage⟩, -⟩ <;> rw [stage] <;> rfl

/-- The turn that an update gives. -/
theorem turn_of_update {pod : PodId} {job : Job} {k : Track} {task : TaskId}
    {expected : Expectation} {change : TaskUpdate}
    (may : k.May pod job (.agent (.updateTask task expected change)))
    (reply : Except StoreError TaskRecord) :
    Turn k (k.updated task expected change reply)
      (Answered.deed job.task ⟨.agent (.updateTask task expected change), reply⟩) := by
  have promotion (change : TaskUpdate) (h : change.status = .submitted) (record : TaskRecord) :
      Answered.deed job.task
        ⟨.agent (.updateTask task (.status .creating) change), .ok record⟩ = .other := by
    refine if_neg ?_
    rintro ⟨-, -, hp⟩
    rw [h] at hp
    cases hp
  rcases may.2 with ⟨rfl, free, hw⟩ | ⟨-, rfl, now, rfl⟩
  · rcases reply with (_ | found | _) | record
    · exact .of_same rfl rfl
    · rw [updated_conflict hw.ne_promotion]
      exact .of_same rfl rfl
    · exact .of_same rfl rfl
    · rw [updated_ok hw.ne_promotion]
      by_cases hp : change.status = .processing
      · obtain ⟨rfl, run, hk⟩ := hw.processing hp
        have hd : Answered.deed job.task
            ⟨.agent (.updateTask job.task (claimedBy pod) change), .ok record⟩ = .starts :=
          if_pos ⟨rfl, rfl, hp⟩
        rw [hd, hp]
        exact .starts run hk (congrArg Stage.started hk) free.released
      · have hd : Answered.deed job.task
            ⟨.agent (.updateTask job.task expected change), .ok record⟩ = .other :=
          if_neg fun h => hp h.2.2
        rw [hd]
        exact .stays (wrote_stage _ _ hp) fun hk => nomatch hk.symm.trans hw.not_talking
  · rcases reply with cause | record
    · rw [updated_promotion_error]
      exact .of_same rfl rfl
    · rw [promotion _ rfl, updated_promotion_ok]
      exact .of_same rfl rfl

/-- What an answered actor does is a turn of its books. -/
theorem Answers.turn {operation : Operation} {reply : operation.Reply}
    (ha : Answers c number a b operation reply c') :
    Turn a.track b.track (Answered.deed a.job.task ⟨operation, reply⟩) := by
  have may := ha.may
  rw [ha.track]
  rcases operation with request | request
  · cases request with
    | readTask task =>
      rcases reply with _ | _ | _ <;> exact .of_same rfl rfl
    | updateTask task expected change => exact turn_of_update may reply
    | createSuccessor parent candidate => rcases reply with cause | record <;> exact .of_same rfl rfl
    | register task =>
      rcases reply with _ | run
      · exact .of_same rfl rfl
      · exact .registers run may.2.2.1 rfl
    | unregister run => exact .leaves run may.2 rfl
    | connect run task deadline =>
      rcases reply with cause | stream
      · exact .of_same rfl rfl
      · exact .opens run may.2.2 rfl
    | send run stream request => exact .talks run may.2.1 rfl rfl
    | finishSending run stream => exact .talks run may.2.1 rfl rfl
    | awaitReply run stream => exact .talks run may.2.1 rfl rfl
    | hangUp stream => exact .hangsUp rfl
    | dispose message disposition => rcases reply with cause | _ <;> exact .of_same rfl rfl
    | _ => exact .of_same rfl rfl
  · cases request <;> exact .of_same rfl rfl

end

/-- What the deeds of an actor are at each stage. -/
structure Chronicle (a : Actor) : Prop where
  /-- Before the start there is none, and no talk. -/
  early : a.track.stage.isEarly = true → a.starts = 0 ∧ .talks ∉ a.deeds
  /-- After the start there is one. -/
  started : a.track.stage.hasStarted = true → a.starts = 1
  /-- There is never a second one. -/
  starts_le : a.starts ≤ 1
  /-- The exchange lasts from the start until the stream is closed. -/
  exchanging : a.isExchanging = a.track.stage.isTalking
  /-- The task is not handed back during the exchange. -/
  unreleased : a.track.stage.isTalking = true → a.track.released = false
  /-- There is talk on one stream at most. -/
  talked : exchangesIn true a.deeds ≤ 1
  /-- There is no talk without a start. -/
  exchanges_le : a.exchanges ≤ a.starts

section
variable {c c' : State} {number : Nat} {a b : Actor} {deed : Deed}

/-- An answered call is the latest deed. -/
theorem Answers.deeds {operation : Operation} {reply : operation.Reply}
    (ha : Answers c number a b operation reply c') :
    b.deeds = Answered.deed a.job.task ⟨operation, reply⟩ :: a.deeds := by
  unfold Actor.deeds
  rw [ha.past, ha.job]
  rfl

theorem starts_of_cons (h : b.deeds = deed :: a.deeds) :
    b.starts = a.starts + if deed = .starts then 1 else 0 := by
  unfold Actor.starts
  rw [h, List.count_cons]
  simp only [beq_iff_eq]

theorem isExchanging_of_cons (h : b.deeds = deed :: a.deeds) :
    b.isExchanging = (deed ≠ .hangsUp && (deed = .starts || a.isExchanging)) := by
  unfold Actor.isExchanging
  rw [h, List.takeWhile_cons]
  cases deed <;> simp

/-- Without talk there is no exchange. -/
theorem exchangesIn_of_quiet {deeds : List Deed} (h : .talks ∉ deeds) :
    exchangesIn false deeds = 0 := by
  induction deeds with
  | nil => rfl
  | cons deed deeds ih =>
    have quiet : .talks ∉ deeds := fun m => h (List.mem_cons_of_mem _ m)
    cases deed with
    | talks => exact absurd List.mem_cons_self h
    | opens => exact (Nat.zero_add _).trans (ih quiet)
    | _ => exact ih quiet

/-- Deeds that are neither talk nor the opening of a stream add no exchange. -/
theorem Chronicle.of_cons (h : Chronicle a) (hd : b.deeds = deed :: a.deeds)
    (ht : deed ≠ .talks) (ho : deed ≠ .opens)
    (early : b.track.stage.isEarly = true → a.track.stage.isEarly = true ∧ deed ≠ .starts)
    (started : b.track.stage.hasStarted = true → b.starts = 1) (starts_le : b.starts ≤ 1)
    (exchanging : b.isExchanging = b.track.stage.isTalking)
    (unreleased : b.track.stage.isTalking = true → b.track.released = false) : Chronicle b := by
  have same (talked : Bool) : exchangesIn talked b.deeds = exchangesIn talked a.deeds := by
    rw [hd]
    cases deed with
    | talks => exact absurd rfl ht
    | opens => exact absurd rfl ho
    | _ => rfl
  refine ⟨fun he => ?_, started, starts_le, exchanging, unreleased, ?_, ?_⟩
  · obtain ⟨ha, hs⟩ := early he
    obtain ⟨none, quiet⟩ := h.early ha
    constructor
    · rw [starts_of_cons hd, none, if_neg hs]
    · rw [hd]
      exact fun m => (List.mem_cons.mp m).elim (fun e => ht e.symm) quiet
  · rw [same]
    exact h.talked
  · have le := h.exchanges_le
    unfold Actor.exchanges at le ⊢
    rw [same, starts_of_cons hd]
    exact Nat.le_add_right_of_le le

/-- The chronicle goes on when a stream is opened: there was no talk before. -/
theorem Chronicle.opens (h : Chronicle a) {run : RunId} (before : a.track.stage = .executing run)
    (after : b.track.stage = a.track.stage) (hd : b.deeds = .opens :: a.deeds) : Chronicle b := by
  have starts : b.starts = a.starts := starts_of_cons hd
  have exchanging : b.isExchanging = a.isExchanging := isExchanging_of_cons hd
  obtain ⟨none, quiet⟩ := h.early (by rw [before]; rfl)
  have silent : exchangesIn false a.deeds = 0 := exchangesIn_of_quiet quiet
  refine ⟨fun _ => ⟨starts.trans none, ?_⟩, fun hs => ?_, starts ▸ h.starts_le, ?_, fun hs => ?_,
    ?_, ?_⟩
  · rw [hd]
    exact fun m => (List.mem_cons.mp m).elim nofun quiet
  · rw [after] at hs
    exact starts.trans (h.started hs)
  · rw [exchanging, after]
    exact h.exchanging
  · rw [after, before] at hs
    cases hs
  · have first : exchangesIn true b.deeds = 1 + exchangesIn false a.deeds := by
      rw [hd]
      rfl
    omega
  · have first : b.exchanges = 0 + exchangesIn false a.deeds := by
      unfold Actor.exchanges
      rw [hd]
      rfl
    omega

/-- The chronicle goes on with talk: the execution has started. -/
theorem Chronicle.talks (h : Chronicle a) {run : RunId} (before : a.track.stage = .talking run)
    (after : b.track.stage = a.track.stage) (released : b.track.released = a.track.released)
    (hd : b.deeds = .talks :: a.deeds) : Chronicle b := by
  have starts : b.starts = a.starts := starts_of_cons hd
  have exchanging : b.isExchanging = a.isExchanging := isExchanging_of_cons hd
  have one : a.starts = 1 := h.started (by rw [before]; rfl)
  refine ⟨fun he => ?_, fun _ => starts.trans one, starts ▸ h.starts_le, ?_, fun _ => ?_, ?_, ?_⟩
  · rw [after, before] at he
    cases he
  · rw [exchanging, after]
    exact h.exchanging
  · exact released.trans (h.unreleased (by rw [before]; rfl))
  · rw [hd]
    exact h.talked
  · unfold Actor.exchanges
    rw [hd, starts, one]
    exact h.talked

/-- The chronicle goes on with the start of the execution: there was none before. -/
theorem Chronicle.begins (h : Chronicle a) {run : RunId} (before : a.track.stage = .executing run)
    (after : b.track.stage = .talking run) (released : b.track.released = false)
    (hd : b.deeds = .starts :: a.deeds) : Chronicle b := by
  have none : a.starts = 0 := (h.early (by rw [before]; rfl)).1
  have one : b.starts = 1 := by
    rw [starts_of_cons hd, none]
    rfl
  refine h.of_cons hd nofun nofun (fun he => ?_) (fun _ => one) (Nat.le_of_eq one) ?_
    fun _ => released
  · rw [after] at he
    cases he
  · rw [isExchanging_of_cons hd, after]
    rfl

/-- The chronicle goes on when the stream is closed: the exchange is over. -/
theorem Chronicle.hangsUp (h : Chronicle a) (after : b.track.stage = a.track.stage.hungUp)
    (hd : b.deeds = .hangsUp :: a.deeds) : Chronicle b := by
  have starts : b.starts = a.starts := starts_of_cons hd
  have silent : b.track.stage.isTalking = false := by rw [after, Stage.isTalking_hungUp]
  refine h.of_cons hd nofun nofun (fun he => ⟨?_, nofun⟩) (fun hs => ?_) (starts ▸ h.starts_le) ?_
    fun hs => ?_
  · rw [after, Stage.isEarly_hungUp] at he
    exact he
  · rw [after, Stage.hasStarted_hungUp] at hs
    exact starts.trans (h.started hs)
  · rw [isExchanging_of_cons hd, silent]
    rfl
  · rw [silent] at hs
    cases hs

/-- The chronicle goes on while an execution is registered or ends, outside any exchange. -/
theorem Chronicle.aside (h : Chronicle a) (hd : b.deeds = .other :: a.deeds)
    (silent : a.track.stage.isTalking = false) (silent' : b.track.stage.isTalking = false)
    (early : b.track.stage.isEarly = true → a.track.stage.isEarly = true)
    (started : b.track.stage.hasStarted = false) : Chronicle b := by
  have starts : b.starts = a.starts := starts_of_cons hd
  refine h.of_cons hd nofun nofun (fun he => ⟨early he, nofun⟩) (fun hs => ?_)
    (starts ▸ h.starts_le) ?_ fun hs => ?_
  · rw [started] at hs
    cases hs
  · rw [isExchanging_of_cons hd, h.exchanging, silent, silent']
    rfl
  · rw [silent'] at hs
    cases hs

/-- The chronicle goes on with every turn. -/
theorem Chronicle.turn (h : Chronicle a) (turn : Turn a.track b.track deed)
    (hd : b.deeds = deed :: a.deeds) : Chronicle b := by
  cases turn with
  | starts run before after released => exact h.begins before after released hd
  | opens run before after => exact h.opens before after hd
  | talks run before after released => exact h.talks before after released hd
  | hangsUp after => exact h.hangsUp after hd
  | stays after released =>
    have starts : b.starts = a.starts := starts_of_cons hd
    have exchanging : b.isExchanging = a.isExchanging := isExchanging_of_cons hd
    refine h.of_cons hd nofun nofun (fun he => ⟨after ▸ he, nofun⟩) (fun hs => ?_)
      (starts ▸ h.starts_le) ?_ fun hs => ?_
    · exact starts.trans (h.started (after ▸ hs))
    · rw [exchanging, after]
      exact h.exchanging
    · rw [after] at hs
      exact (released hs).trans (h.unreleased hs)
  | registers run before after =>
    exact h.aside hd (by rw [before]; rfl) (by rw [after]; rfl) (fun _ => by rw [before]; rfl)
      (by rw [after]; rfl)
  | leaves run before after =>
    have silent : a.track.stage.isTalking = false := by
      rcases before with before | before <;> rw [before] <;> rfl
    refine h.aside hd silent (by rw [after]; rfl) (fun he => ?_) (by rw [after]; rfl)
    rw [after] at he
    cases he

/-- The chronicle of a job that has not begun. -/
theorem Chronicle.start (settings : Settings) (job : Job) : Chronicle (Actor.start settings job) := by
  refine ⟨fun _ => ⟨rfl, nofun⟩, fun hs => ?_, Nat.zero_le 1, ?_, fun _ => rfl, Nat.zero_le 1,
    Nat.le_refl 0⟩
  · cases job <;> cases hs
  · cases job <;> rfl

end

/-- The chronicle of every actor is kept. -/
theorem Reaches.chronicle {fleet : Fleet} {allowed : Event → Prop} {start c : State}
    (hr : Reaches fleet allowed start c) (hi : start.Initial) : ∀ a ∈ c.actors, Chronicle a :=
  hr.all_actors hi (fun _ job _ => .start _ job) fun _ ha h => h.turn ha.turn ha.deeds

end GridAgent.Cluster
