import GridAgent.Proofs.Cluster.Deeds
import GridAgent.Proofs.Cluster.Reliability

/-!
# Cancellation wins

A handler has registered the execution of its task, its pod has held the task ever since, and now the
task is marked for cancellation. Whatever the handler is about to do and whatever it is answered, its
next update of the task is lost to the mark, or ends the task as cancelled. So the handler gives up
the results, reports the task as cancelled, and creates no successor.
-/

namespace GridAgent.Cluster

open Agent Program Track

variable {fleet : Fleet} {allowed : Event → Prop} {start c c' : State} {task : TaskId}
  {record : TaskRecord} {number : Nat} {a b : Actor} {operation : Operation}
  {reply : operation.Reply} {started : Bool}

/-- The pod holds the task: it is dispatched to the pod or processing under it. -/
def Shared.HeldOn (s : Shared) (pod : PodId) (task : TaskId) : Prop :=
  s.Has task fun record => record.status ∈ heldStatuses ∧ record.owner = some pod

instance (s : Shared) (pod : PodId) (task : TaskId) : Decidable (s.HeldOn pod task) :=
  decidable_of_iff ((s.store.get? task).any fun record =>
    decide (record.status ∈ heldStatuses ∧ record.owner = some pod)) <| by
    simp only [Shared.HeldOn, Shared.Has, Option.any_eq_true, decide_eq_true_eq]

/-- The actor has not asked for a successor of any task. -/
def Actor.CreatesNone (a : Actor) : Prop :=
  ∀ parent candidate reply, ⟨.agent (.createSuccessor parent candidate), reply⟩ ∉ a.past

theorem exists_isHeld {pod : PodId} (h : record.status ∈ heldStatuses)
    (owner : record.owner = some pod) : ∃ started, IsHeld pod started record := by
  rcases List.mem_cons.mp h with h | h
  · exact ⟨false, owner, h⟩
  · exact ⟨true, owner, List.mem_singleton.mp h⟩

/-! Successors. -/

/-- A closed task stays so in the books. -/
theorem Answers.closed (ha : Answers c number a b operation reply c')
    (h : a.track.closed = true) : b.track.closed = true := by
  rw [ha.track]
  rcases news_of_effect a.track ha.effect with same | ⟨task, rfl, -, hk⟩ |
    ⟨task, expected, change, found, -, -, -, -, -, hk⟩ |
    ⟨task, expected, change, found, -, -, -, -, -, hk⟩
  · exact same.closed.trans h
  · rw [hk]
    cases c.shared.store.get? task <;> simp [Track.read, h]
  · rw [hk]
    simp [Track.lost, h]
  · rw [hk]
    cases change.status <;> simp [Track.wrote, h]

/-- Successors are created by those only who know their task as closed. -/
theorem Reaches.createsNone (hr : Reaches fleet allowed start c) (hi : start.Initial) :
    ∀ a ∈ c.actors, a.track.closed = false → a.CreatesNone := by
  refine hr.all_actors hi (fun _ _ _ _ _ _ _ hx => nomatch hx) ?_
  intro c c' number a b operation reply _ ha before closed parent candidate reply' hx
  have unclosed : a.track.closed = false := by
    cases h : a.track.closed with
    | false => rfl
    | true => cases (ha.closed h).symm.trans closed
  rw [ha.past] at hx
  rcases List.mem_cons.mp hx with e | hx
  · cases e
    cases unclosed.symm.trans ha.may.2.2.1
  · exact before unclosed _ _ _ hx

/-- An execution is pursued, or an update of it was lost to a cancellation, or the attempt is
cancelled. -/
def Course.isEngaged : Course → Bool
  | going _ => true
  | lost => true
  | cancelled _ => true
  | _ => false

/-- Whoever is engaged in an execution asks for no successor. -/
theorem Answers.createsNone (ha : Answers c number a b operation reply c')
    (may : (courseConduct a.pod a.job.task).may a.course operation)
    (engaged : a.course.isEngaged = true) (h : a.CreatesNone) : b.CreatesNone := by
  intro parent candidate reply' hx
  rw [ha.past] at hx
  rcases List.mem_cons.mp hx with e | hx
  · cases e
    rcases (may : a.course.IsIdle ∨ a.course.IsTorn) with ⟨failed, hk⟩ | ⟨failed, hk⟩ <;>
      · rw [hk] at engaged
        cases engaged
  · exact h _ _ _ hx

/-! Before the mark. -/

/-- The actor of a number pursues an execution, and its pod holds the task as the actor left it. -/
def State.Pursued (c : State) (number : Nat) (pod : PodId) (job : Job) : Prop :=
  ∃ x started, c.actors[number]? = some x ∧ x.pod = pod ∧ x.job = job ∧
    x.course = .going started ∧ x.CreatesNone ∧ c.shared.Has job.task (IsHeld pod started)

/-- Whoever registers a task that its pod holds pursues the execution. -/
theorem Reaches.pursued (hr : Reaches fleet storeUp start c) (hi : start.Initial)
    (healthy : start.shared.store.failures = 0) (ha : c.actors[number]? = some a)
    (registered : a.JustRegistered) (held : c.shared.HeldOn a.pod a.job.task) :
    c.Pursued number a.pod a.job := by
  have hm : a ∈ c.actors := List.mem_of_getElem? ha
  obtain ⟨going, attached, -⟩ := hr.of_justRegistered hi a hm registered
  obtain ⟨record, found, status, owner⟩ := held
  have unclosed : a.track.closed = false := by
    cases hc : a.track.closed with
    | false => rfl
    | true =>
      obtain ⟨stored, hs, closed⟩ := (hr.truthful hi a hm).closed hc
      obtain rfl := Option.some.inj (found.symm.trans hs)
      rcases List.mem_cons.mp status with h | h
      · rw [h] at closed
        cases closed
      · rw [List.mem_singleton.mp h] at closed
        cases closed
  have none := hr.createsNone hi a hm unclosed
  obtain ⟨started, isHeld⟩ := exists_isHeld status owner
  cases started with
  | false => exact ⟨a, false, ha, rfl, rfl, going, none, record, found, isHeld⟩
  | true =>
    exfalso
    rcases hr.isStarted hi healthy a.pod a.job.task ⟨record, found, isHeld⟩ with
      ⟨x, hx, hp, ht, hk⟩ | unattached
    · obtain ⟨i, hi'⟩ := List.mem_iff_getElem?.mp hx
      obtain rfl : i = number := (hr.registered hi).unique hi' ha hp ht
        (hr.run_of_going hi x hx true hk) (hr.run_of_going hi a hm false going)
      obtain rfl := Option.some.inj (ha.symm.trans hi')
      cases going.symm.trans hk
    · cases (unattached a hm rfl rfl).symm.trans attached

/-- A record that its pod holds goes on as it is. -/
theorem IsHeld.goesOn {pod : PodId} {record' : TaskRecord} (h : IsHeld pod started record)
    (goes : Store.GoesOn record record') : IsHeld pod started record' := by
  refine ⟨goes.owner.trans h.owner, ?_⟩
  rcases goes.status with same | ⟨waits, -⟩
  · exact same.trans h.status
  · rw [h.status] at waits
    cases started <;> rcases waits with h | h <;> cases h

/-- An answer to another actor leaves a task as it is held, if it leaves it held by the pod. -/
theorem Reaches.isHeld_other (hr : Reaches fleet storeUp start c) (hi : start.Initial) {x : Actor}
    (hx : c.actors[number]? = some x) (going : x.course = .going started)
    (isHeld : c.shared.Has x.job.task (IsHeld x.pod started)) {other : Nat}
    (ha : Answers c other a b operation reply c') (hne : other ≠ number)
    (held : c'.shared.HeldOn x.pod x.job.task) :
    c'.shared.Has x.job.task (IsHeld x.pod started) := by
  obtain ⟨record, found, isHeld⟩ := isHeld
  obtain ⟨record', hr', status, -⟩ := held
  rcases record_of_effect ha.effect ((hr.sound hi).candidate_new ha) found with
    ⟨stored, hs, goes, -⟩ | ⟨expected, change, rfl, holds, hs, -⟩
  · exact ⟨stored, hs, isHeld.goesOn goes⟩
  · exfalso
    obtain rfl := Option.some.inj (hr'.symm.trans hs)
    rw [TaskRecord.apply_status] at status
    have next := next_of_may ha.may holds
    -- only a start leaves the task held, and the pod has another actor executing it
    have starts : change.status = .processing := by
      rw [isHeld.status] at next
      rcases List.mem_cons.mp status with h | h
      · rw [h] at next
        cases started <;> simp [TaskStatus.next] at next
      · exact List.mem_singleton.mp h
    rcases ha.may.2 with ⟨ht, -, write⟩ | ⟨-, -, now, rfl⟩
    · obtain ⟨rfl, run, stage⟩ := write.processing starts
      have owner := Expectation.owner_of_holds holds rfl
      have pods : a.pod = x.pod := Option.some.inj (owner.symm.trans isHeld.owner)
      refine hne ((hr.registered hi).unique ha.actor hx pods ht.symm (by rw [stage]; rfl) ?_)
      exact hr.run_of_going hi x (List.mem_of_getElem? hx) started going
    · cases starts

/-- An execution is pursued as long as the pod holds the task. -/
theorem Reaches.pursued_step (hr : Reaches fleet storeUp start c) (hi : start.Initial)
    (healthy : start.shared.store.failures = 0) {pod : PodId} {job : Job}
    (h : c.Pursued number pod job) {event : Event} (hp : c.perform fleet event = some c')
    (held : c'.shared.HeldOn pod job.task) : c'.Pursued number pod job := by
  obtain ⟨x, started, hx, rfl, rfl, going, none, isHeld⟩ := h
  have stays (same : c'.actors[number]? = some x)
      (isHeld : c'.shared.Has x.job.task (IsHeld x.pod started)) :
      c'.Pursued number x.pod x.job := ⟨x, started, same, rfl, rfl, going, none, isHeld⟩
  cases event with
  | start pod job =>
    obtain ⟨-, rfl⟩ := State.of_start hp
    refine stays ?_ isHeld
    exact (List.getElem?_append_left (List.getElem?_eq_some_iff.mp hx).1).trans hx
  | answer other choice =>
    obtain ⟨a, b, operation, reply, ha, hs⟩ := (hr.sound hi).answers hp
    rcases ha.stays_cases hx with ⟨rfl, rfl⟩ | ⟨apart, there⟩
    · have obeys := hr.courses hi x (List.mem_of_getElem? hx)
      obtain ⟨next, asks⟩ := ha.asks
      have may := obeys.may asks
      have none' := ha.createsNone may (by rw [going]; rfl) none
      obtain ⟨record, found, isHeld⟩ := isHeld
      rcases ha.of_going (hr.sound hi) (hr.healthy healthy) hs may going found isHeld with
        ⟨going', record', hr', goes⟩ | ⟨going', held'⟩ | ⟨record', hr', gone, -⟩
      · exact ⟨b, started, ha.self, ha.pod, ha.job, going', none', record', hr',
          isHeld.goesOn goes⟩
      · exact ⟨b, true, ha.self, ha.pod, ha.job, going', none', held'⟩
      · obtain ⟨stored, hs', status, -⟩ := held
        obtain rfl := Option.some.inj (hr'.symm.trans hs')
        exact absurd (List.mem_append_left [TaskStatus.cancelling] status) gone
    · exact stays there (hr.isHeld_other hi hx going isHeld ha (Ne.symm apart) held)
  | handBack message =>
    obtain ⟨-, rfl⟩ := State.of_handBack hp
    exact stays hx isHeld
  | move m =>
    obtain ⟨shared, hm, rfl⟩ := State.of_move hp
    refine stays hx ?_
    obtain ⟨record, found, isHeld⟩ := isHeld
    rcases record_of_move hm found with ⟨record', hr', goes, -⟩ | ⟨-, hr'⟩
    · exact ⟨record', hr', isHeld.goesOn goes⟩
    · obtain ⟨stored, hs', status, -⟩ := held
      obtain rfl := Option.some.inj (hr'.symm.trans hs')
      rw [TaskRecord.apply_status] at status
      exact absurd status (by decide)

/-- From its registration on an execution is pursued as long as the pod holds the task. -/
theorem Reaches.pursued_run (hr : Reaches fleet storeUp start c) (hi : start.Initial)
    (healthy : start.shared.store.failures = 0) (ha : c.actors[number]? = some a)
    (registered : a.JustRegistered)
    (held : Passes fleet storeUp (fun d => d.shared.HeldOn a.pod a.job.task) c c') :
    c'.Pursued number a.pod a.job := by
  induction held with
  | refl here => exact hr.pursued hi healthy ha registered here
  | step event earlier _ performed here ih =>
    exact (hr.trans earlier.reaches).pursued_step hi healthy ih performed here

/-! After the mark. -/

/-- The course leads to the cancellation of a task that is marked or cancelled: the results that are
not pending any more are given up. -/
def Course.Yields (store : Store) (record : TaskRecord) : Course → Prop
  | going _ => True
  | lost => True
  | cancelled none => record.status = .cancelled
  | cancelled (some pending) => record.status = .cancelled ∧
      ∀ data ∈ record.outputs, data ∈ pending ∨ data ∈ store.aborted
  | _ => False

/-- The course of the actor of a number leads to the cancellation of its task. -/
def State.Yielding (c : State) (number : Nat) (pod : PodId) (job : Job) : Prop :=
  ∃ x record, c.actors[number]? = some x ∧ x.pod = pod ∧ x.job = job ∧ x.CreatesNone ∧
    c.shared.store.get? job.task = some record ∧ record.status.isCancellation = true ∧
      x.course.Yields c.shared.store record

theorem Course.Yields.isEngaged {k : Course} {store : Store} (h : k.Yields store record) :
    k.isEngaged = true := by
  rcases k with _ | _ | _ | _ | _ <;> first | rfl | exact h.elim

/-- What is given up stays so, and what is cancelled. -/
theorem Course.Yields.mono {k : Course} {store store' : Store} {record' : TaskRecord}
    (h : k.Yields store record) (outputs : record'.outputs = record.outputs)
    (status : record.status = .cancelled → record'.status = .cancelled)
    (aborted : ∀ data ∈ store.aborted, data ∈ store'.aborted) : k.Yields store' record' := by
  rcases k with _ | _ | _ | ⟨_ | pending⟩ | _
  · exact h
  · trivial
  · trivial
  · exact status h
  · refine ⟨status h.1, fun data hd => ?_⟩
    rw [outputs] at hd
    exact (h.2 data hd).imp_right (aborted data)
  · exact h

/-- Whoever pursues the execution of a task that is marked now, or cancelled, is on the way to its
cancellation. -/
theorem Reaches.yielding (hr : Reaches fleet storeUp start c) (hi : start.Initial)
    (healthy : start.shared.store.failures = 0) {pod : PodId} {job : Job}
    (h : c.Pursued number pod job) {event : Event} (hp : c.perform fleet event = some c')
    (marked : c'.shared.Has job.task fun r => r.status = .cancelling ∨ r.status = .cancelled) :
    c'.Yielding number pod job := by
  obtain ⟨x, started, hx, rfl, rfl, going, none, record, found, isHeld⟩ := h
  obtain ⟨record', hr', marked⟩ := marked
  have cancels : record'.status.isCancellation = true := by rcases marked with h | h <;> rw [h] <;> rfl
  rcases (hr.sound hi).stays_or_answered hp hx with stays | ⟨y, operation, reply, choice, ha, hs⟩
  · exact ⟨x, record', stays, rfl, rfl, none, hr', cancels, by rw [going]; trivial⟩
  · have obeys := hr.courses hi x (List.mem_of_getElem? hx)
    obtain ⟨next, asks⟩ := ha.asks
    have may := obeys.may asks
    have unheld {record'' : TaskRecord} {started : Bool}
        (hr'' : c'.shared.store.get? x.job.task = some record'') :
        ¬ IsHeld x.pod started record'' := by
      intro isHeld
      obtain rfl := Option.some.inj (hr'.symm.trans hr'')
      rw [isHeld.status] at cancels
      cases started <;> cases cancels
    rcases ha.of_going (hr.sound hi) (hr.healthy healthy) hs may going found isHeld with
      ⟨-, record'', hr'', goes⟩ | ⟨-, record'', hr'', isHeld'⟩ | ⟨record'', hr'', gone, cancelled⟩
    · exact absurd (isHeld.goesOn goes) (unheld hr'')
    · exact absurd isHeld' (unheld hr'')
    · obtain rfl := Option.some.inj (hr'.symm.trans hr'')
      have ended : record'.status = .cancelled :=
        marked.resolve_left fun h => gone (by rw [h]; decide)
      have engaged : x.course.isEngaged = true := by rw [going]; rfl
      refine ⟨y, record', ha.self, ha.pod, ha.job, ha.createsNone may engaged none, hr', cancels, ?_⟩
      rw [cancelled ended]
      exact ended

section
variable {s s' : Shared} {pod : PodId} {record' : TaskRecord} {expected : Expectation}
  {change : TaskUpdate} {k : Course}

/-- A task that is marked or cancelled already is cancelled by the update that cancels attempts. -/
theorem Course.yields_cancel (healthy : s.store.failures = 0)
    (found : s.store.get? task = some record) (cancels : record.status.isCancellation = true)
    (hc : change.status = .cancelled) (wrote : k.wrote .cancelled = .cancelled none)
    (missed : ∀ lost : LostUpdate, lost.status = .cancelled →
      k.missed .cancelled lost = .cancelled none)
    (hr' : s'.store.get? task = some record')
    (status : record.status = .cancelled → record'.status = .cancelled)
    {reply : (Operation.agent (.updateTask task
      (.anyOf [.dispatched, .processing, .cancelling]) change)).Reply}
    {choice : Option (Operation.agent (.updateTask task
      (.anyOf [.dispatched, .processing, .cancelling]) change)).Reply}
    (hs : s.answer pod (.agent (.updateTask task (.anyOf [.dispatched, .processing, .cancelling])
      change)) choice = some (reply, s')) :
    (k.note (.updateTask task (.anyOf [.dispatched, .processing, .cancelling]) change) reply).Yields
      s'.store record' := by
  by_cases ended : record.status = .cancelled
  · have unexpected : (Expectation.anyOf [.dispatched, .processing, .cancelling]).holds record =
        false := by simp [Expectation.holds, Expectation.anyOf, ended]
    obtain rfl := lost_of_answer healthy found unexpected hs
    have noted : k.missed change.status ⟨record.status, record.owner⟩ = .cancelled none := by
      rw [hc]
      exact missed _ ended
    exact (congrArg (Course.Yields s'.store record') noted).mpr (status ended)
  · have marked : record.status = .cancelling := by
      cases h : record.status with
      | cancelling => rfl
      | cancelled => exact absurd h ended
      | _ =>
        rw [h] at cancels
        cases cancels
    have holds : (Expectation.anyOf [.dispatched, .processing, .cancelling]).holds record = true := by
      simp [Expectation.holds, Expectation.anyOf, OwnerMatch.holds, marked]
    obtain ⟨rfl, written⟩ := written_of_answer healthy found holds hs
    obtain rfl := Option.some.inj (hr'.symm.trans written)
    have noted : k.wrote change.status = .cancelled none := by
      rw [hc]
      exact wrote
    exact (congrArg (Course.Yields s'.store _) noted).mpr
      ((TaskRecord.apply_status record change).trans hc)

/-- An update of a pursued execution that finds a cancellation is lost to it, or cancels the task. -/
theorem Course.yields_update {other : TaskId}
    (may : k.May pod task (.updateTask other expected change)) (healthy : s.store.failures = 0)
    (found : s.store.get? task = some record) (cancels : record.status.isCancellation = true)
    (yields : k.Yields s.store record) (hr' : s'.store.get? task = some record')
    (status : record.status = .cancelled → record'.status = .cancelled)
    {reply : (Operation.agent (.updateTask other expected change)).Reply}
    {choice : Option (Operation.agent (.updateTask other expected change)).Reply}
    (hs : s.answer pod (.agent (.updateTask other expected change)) choice = some (reply, s')) :
    (k.note (.updateTask other expected change) reply).Yields s'.store record' := by
  cases k with
  | idle failed => exact yields.elim
  | going started =>
    obtain ⟨rfl, pursues⟩ := may
    have lost (held : ∀ status ∈ expected.statuses, status.isCancellation = false)
        (hne : change.status ≠ .cancelled) :
        ((Course.going started).note (.updateTask other expected change) reply).Yields s'.store
          record' := by
      have unexpected : expected.holds record = false := by
        cases h : expected.holds record with
        | false => rfl
        | true => cases (held _ (Expectation.status_mem h)).symm.trans cancels
      obtain rfl := lost_of_answer healthy found unexpected hs
      have noted : (Course.going started).missed change.status ⟨record.status, record.owner⟩ =
        .lost := (if_neg hne).trans (if_pos cancels)
      exact (congrArg (Course.Yields s'.store record') noted).mpr trivial
    cases pursues with
    | starts hc =>
      refine lost (fun status h => ?_) (by rw [hc]; nofun)
      rw [List.mem_singleton.mp h]
      rfl
    | ends held hc =>
      refine lost (fun status h => ?_) fun e => by rw [e] at hc; simp at hc
      rcases held with rfl | rfl
      · rcases List.mem_cons.mp h with rfl | h
        · rfl
        · rw [List.mem_singleton.mp h]
          rfl
      · cases started <;>
          · rw [List.mem_singleton.mp h]
            rfl
    | cancels hc =>
      exact yields_cancel healthy found cancels hc rfl (fun lost h => by simp [missed, h]) hr'
        status hs
  | lost =>
    obtain ⟨rfl, rfl, hc⟩ := may
    exact yields_cancel healthy found cancels hc rfl (fun lost h => by simp [missed, h]) hr' status hs
  | cancelled pending => exact may.elim
  | torn failed => exact yields.elim

/-- What a finalizer answers about a cancelled attempt lists its results or gives one up. -/
theorem Course.yields_finalizer {request : Finalizer.Request} {reply : request.Reply}
    (may : k.MaySettle task request) (healthy : s.store.failures = 0)
    (found : s.store.get? task = some record) (yields : k.Yields s.store record)
    (outputs : record'.outputs = record.outputs)
    (status : record.status = .cancelled → record'.status = .cancelled)
    (aborted : ∀ data ∈ s.store.aborted, data ∈ s'.store.aborted) {choice : Option request.Reply}
    (hs : s.answerFinalizer request choice = some (reply, s')) :
    (k.noteFinalizer request reply).Yields s'.store record' := by
  have kept : k.Yields s'.store record' := yields.mono outputs status aborted
  cases request with
  | readTask other =>
    have read : Store.read other s.store = (.ok (s.store.get? other), s.store) :=
      Store.fallible_of_healthy _ healthy
    simp only [Shared.answerFinalizer, Shared.onStore, read] at hs
    cases hs
    rcases k with _ | _ | _ | ⟨_ | pending⟩ | _
    · exact kept
    · exact kept
    · exact kept
    · obtain rfl := may rfl
      refine ⟨kept, fun data hd => .inl ?_⟩
      rw [found]
      rw [outputs] at hd
      exact hd
    · exact kept
    · exact kept
  | giveUp data now =>
    cases hs
    rcases k with _ | _ | _ | ⟨_ | pending⟩ | _
    · exact kept
    · exact kept
    · exact kept
    · exact kept
    · refine ⟨kept.1, fun other hd => ?_⟩
      by_cases e : other = data
      · exact .inr (IdSet.mem_insert.mpr (.inl e))
      · exact (kept.2 other hd).imp_left fun h => List.mem_filter.mpr ⟨h, decide_eq_true e⟩
    · exact kept
  | _ => exact kept

end

/-- Whatever an actor on the way to the cancellation of its task is answered, it stays on the way. -/
theorem Answers.yields (ha : Answers c number a b operation reply c')
    (healthy : c.shared.store.failures = 0) {choice : Option operation.Reply}
    (hs : c.shared.answer a.pod operation choice = some (reply, c'.shared))
    (may : (courseConduct a.pod a.job.task).may a.course operation)
    (found : c.shared.store.get? a.job.task = some record)
    (cancels : record.status.isCancellation = true)
    (yields : a.course.Yields c.shared.store record) {record' : TaskRecord}
    (hr' : c'.shared.store.get? a.job.task = some record')
    (outputs : record'.outputs = record.outputs)
    (status : record.status = .cancelled → record'.status = .cancelled)
    (aborted : ∀ data ∈ c.shared.store.aborted, data ∈ c'.shared.store.aborted) :
    b.course.Yields c'.shared.store record' := by
  have kept : a.course.Yields c'.shared.store record' := yields.mono outputs status aborted
  rw [ha.course]
  rcases operation with request | request
  · cases request with
    | updateTask other expected change =>
      exact Course.yields_update may healthy found cancels yields hr' status hs
    | register other =>
      have idle : a.course = .idle false := may
      rw [idle] at yields
      exact yields.elim
    | createSuccessor parent candidate =>
      rcases (may : a.course.IsIdle ∨ a.course.IsTorn) with ⟨failed, hk⟩ | ⟨failed, hk⟩ <;>
        · rw [hk] at yields
          exact yields.elim
    | push tasks =>
      cases hk : a.course with
      | torn failed =>
        rw [hk] at yields
        exact yields.elim
      | _ =>
        rw [hk] at kept
        rcases reply with _ | _ <;> exact kept
    | abandon other => cases hs
    | _ => exact kept
  · exact Course.yields_finalizer may healthy found yields outputs status aborted hs

/-- Every event leaves an actor on the way to the cancellation of its task. -/
theorem Reaches.yielding_step (hr : Reaches fleet storeUp start c) (hi : start.Initial)
    (healthy : start.shared.store.failures = 0) {pod : PodId} {job : Job}
    (h : c.Yielding number pod job) {event : Event} (hp : c.perform fleet event = some c') :
    c'.Yielding number pod job := by
  obtain ⟨x, record, hx, rfl, rfl, none, found, cancels, yields⟩ := h
  have sound := hr.sound hi
  obtain ⟨record', hr', heritage, hs⟩ := sound.record_step hp found
  have outputs : record'.outputs = record.outputs := congrArg Heritage.outputs heritage
  have cancels' : record'.status.isCancellation = true := by
    rcases hs with same | next
    · rw [same]
      exact cancels
    · exact TaskStatus.isCancellation_next _ _ cancels next
  have ended (h : record.status = .cancelled) : record'.status = .cancelled := by
    rcases hs with same | next
    · exact same.trans h
    · rw [h] at next
      cases next
  have aborted : ∀ data ∈ c.shared.store.aborted, data ∈ c'.shared.store.aborted :=
    (sound.keepsSettled hp).aborted
  rcases sound.stays_or_answered hp hx with stays | ⟨y, operation, reply, choice, ha, answered⟩
  · exact ⟨x, record', stays, rfl, rfl, none, hr', cancels', yields.mono outputs ended aborted⟩
  · have obeys := hr.courses hi x (List.mem_of_getElem? hx)
    obtain ⟨next, asks⟩ := ha.asks
    have may := obeys.may asks
    refine ⟨y, record', ha.self, ha.pod, ha.job, ha.createsNone may yields.isEngaged none, hr',
      cancels', ?_⟩
    exact ha.yields (hr.healthy healthy) answered may found cancels yields hr' outputs ended aborted

/-- An actor stays on the way to the cancellation of its task. -/
theorem Reaches.yielding_run (hr : Reaches fleet storeUp start c) (hi : start.Initial)
    (healthy : start.shared.store.failures = 0) {pod : PodId} {job : Job}
    (h : c.Yielding number pod job) (run : Reaches fleet storeUp c c') :
    c'.Yielding number pod job := by
  induction run with
  | refl => exact h
  | step event earlier _ performed ih =>
    exact (hr.trans earlier).yielding_step hi healthy ih performed

/-- A handler whose course leads to the cancellation of its task has not returned yet, or reports the
task as cancelled with all its results given up. -/
theorem State.Yielding.reported (h : c.Yielding number a.pod a.job) (hr : Reaches fleet storeUp start c)
    (hi : start.Initial) : ∃ b record, c.actors[number]? = some b ∧ b.job = a.job ∧ b.CreatesNone ∧
      c.shared.store.get? a.job.task = some record ∧
      (record.status = .cancelling ∨ record.status = .cancelled) ∧
      ∀ outcome, b.outcome? = some outcome →
        ∃ report, outcome = .ok report ∧ report.status = some .cancelled ∧
          report.disposition = .cancelled ∧ record.status = .cancelled ∧
          ∀ data ∈ record.outputs, data ∈ c.shared.store.aborted := by
  obtain ⟨b, record, hb, -, job, none, found, cancels, yields⟩ := h
  have status : record.status = .cancelling ∨ record.status = .cancelled := by
    cases hs : record.status with
    | cancelling => exact .inl rfl
    | cancelled => exact .inr rfl
    | _ =>
      rw [hs] at cancels
      cases cancels
  refine ⟨b, record, hb, job, none, found, status, fun outcome returned => ?_⟩
  have closes := hr.closes hi (List.mem_of_getElem? hb) returned
  rcases outcome with cause | report
  · rcases (closes : b.course.IsIdle ∨ b.course.IsTorn) with ⟨failed, hk⟩ | ⟨failed, hk⟩ <;>
      · rw [hk] at yields
        exact yields.elim
  · rcases closes with ⟨failed, hk⟩ | ⟨hk, reported, disposed⟩ <;> rw [hk] at yields
    · exact yields.elim
    · refine ⟨report, rfl, reported, disposed, yields.1, fun data hd => ?_⟩
      exact (yields.2 data hd).resolve_left List.not_mem_nil

/-- Cancellation wins. A handler has registered the execution of its task and its pod has held the
task ever since, until the task is marked for cancellation, or cancelled by somebody already. If no
call to the store fails, then whatever the handler is answered it creates no successor and the task
is marked or cancelled from then on; and when the handler returns it reports the task as cancelled,
the task is cancelled, and all its results are given up. -/
theorem cancellation_wins {c₀ c₁ c₂ : State} {event : Event} (hi : start.Initial)
    (healthy : start.shared.store.failures = 0) (before : Reaches fleet storeUp start c)
    (ha : c.actors[number]? = some a) (registered : a.JustRegistered)
    (held : Passes fleet storeUp (fun d => d.shared.HeldOn a.pod a.job.task) c c₀)
    (permitted : storeUp event) (performed : c₀.perform fleet event = some c₁)
    (marked : c₁.shared.Has a.job.task fun r => r.status = .cancelling ∨ r.status = .cancelled)
    (after : Reaches fleet storeUp c₁ c₂) :
    ∃ b record, c₂.actors[number]? = some b ∧ b.job = a.job ∧ b.CreatesNone ∧
      c₂.shared.store.get? a.job.task = some record ∧
      (record.status = .cancelling ∨ record.status = .cancelled) ∧
      ∀ outcome, b.outcome? = some outcome →
        ∃ report, outcome = .ok report ∧ report.status = some .cancelled ∧
          report.disposition = .cancelled ∧ record.status = .cancelled ∧
          ∀ data ∈ record.outputs, data ∈ c₂.shared.store.aborted := by
  -- while the pod holds the task the handler pursues the execution
  have pursued : c₀.Pursued number a.pod a.job :=
    before.pursued_run hi healthy ha registered held
  have reached₀ : Reaches fleet storeUp start c₀ := before.trans held.reaches
  -- from the mark on its course leads to the cancellation
  have yielding : c₁.Yielding number a.pod a.job :=
    reached₀.yielding hi healthy pursued performed marked
  have reached₁ : Reaches fleet storeUp start c₁ := .step event reached₀ permitted performed
  exact (reached₁.yielding_run hi healthy yielding after).reported (reached₁.trans after) hi

/-! A task with a result. Its worker has succeeded when an administrator marks it, before the handler
records the output. -/

/-- The handler is answered some of its calls. -/
def fruitfulCluster (answers : Nat) : State :=
  (fruitfulStart.play plainFleet (plainEvents answers)).getD fruitfulStart

/-- The administrator marks the task. -/
def fruitfulMark : Event :=
  .move (.cancel fruitfulTask.id (.anyOf [.dispatched, .processing]))

/-- The task has just been marked. -/
def markedCluster : State :=
  ((fruitfulCluster 22).perform plainFleet fruitfulMark).getD fruitfulStart

/-- The handler has returned. -/
def yieldedCluster : State :=
  (markedCluster.play plainFleet (.replicate 14 (.answer 0 (plainly morning)))).getD markedCluster

theorem storeUp_plainEvents (answers : Nat) : ∀ event ∈ plainEvents answers, storeUp event := by
  intro event he
  rcases List.mem_append.mp he with he | he
  · rcases List.mem_cons.mp he with rfl | he
    · trivial
    · rw [List.mem_singleton.mp he]
      trivial
  · rw [List.eq_of_mem_replicate he]
    trivial

theorem storeUp_replicate (answers : Nat) :
    ∀ event ∈ List.replicate answers (.answer 0 (plainly morning)), storeUp event := by
  intro event he
  rw [List.eq_of_mem_replicate he]
  trivial

/-- The handler records a success when the task has been marked, and reports it as cancelled. -/
theorem cancellation_wins_fruitful :
    Reaches plainFleet storeUp fruitfulStart (fruitfulCluster 7) ∧
    (plainActor (fruitfulCluster 7) 0).JustRegistered ∧
    Passes plainFleet storeUp (fun d => d.shared.HeldOn ⟨"first"⟩ fruitfulTask.id)
      (fruitfulCluster 7) (fruitfulCluster 22) ∧
    (fruitfulCluster 22).perform plainFleet fruitfulMark = some markedCluster ∧
    Reaches plainFleet storeUp markedCluster yieldedCluster ∧
    ∃ b record report, yieldedCluster.actors[0]? = some b ∧ b.outcome? = some (.ok report) ∧
      report.status = some .cancelled ∧
      yieldedCluster.shared.store.get? fruitfulTask.id = some record ∧ record.status = .cancelled ∧
      .ofNat 5 ∈ yieldedCluster.shared.store.aborted := by
  have before : Reaches plainFleet storeUp fruitfulStart (fruitfulCluster 7) :=
    .of_played (storeUp_plainEvents 7)
  have actor : (fruitfulCluster 7).actors[0]? = some (plainActor (fruitfulCluster 7) 0) := rfl
  have registered : (plainActor (fruitfulCluster 7) 0).JustRegistered := ⟨0, _, rfl⟩
  have held : Passes plainFleet storeUp (fun d => d.shared.HeldOn ⟨"first"⟩ fruitfulTask.id)
      (fruitfulCluster 7) (fruitfulCluster 22) := by
    exact .of_play _ (storeUp_replicate 15) (by decide +kernel) rfl
  have marked : markedCluster.shared.Has fruitfulTask.id fun r =>
      r.status = .cancelling ∨ r.status = .cancelled := ⟨_, rfl, .inl rfl⟩
  have mark : (fruitfulCluster 22).perform plainFleet fruitfulMark = some markedCluster := rfl
  have after : Reaches plainFleet storeUp markedCluster yieldedCluster :=
    .of_played (storeUp_replicate 14)
  have returned : (yieldedCluster.actors[0]?.bind Actor.outcome?).isSome = true := by decide +kernel
  have fruitful : (yieldedCluster.shared.store.get? fruitfulTask.id).map TaskRecord.outputs =
      some [.ofNat 5] := by decide +kernel
  have up : storeUp fruitfulMark := trivial
  obtain ⟨b, record, hb, -, -, found, -, reported⟩ := cancellation_wins fruitfulStart_initial rfl
    before actor registered held up mark marked after
  rw [hb] at returned
  obtain ⟨outcome, ended⟩ := Option.isSome_iff_exists.mp returned
  obtain ⟨report, rfl, status, -, cancelled, givenUp⟩ := reported outcome ended
  obtain ⟨stored, hs, outputs⟩ := Option.map_eq_some_iff.mp fruitful
  obtain rfl := Option.some.inj (found.symm.trans hs)
  refine ⟨before, registered, held, mark, after, b, record, report, hb, ended, status, found,
    cancelled, givenUp _ ?_⟩
  rw [outputs]
  exact List.mem_cons_self

end GridAgent.Cluster
