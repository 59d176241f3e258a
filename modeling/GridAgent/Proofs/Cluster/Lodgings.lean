import GridAgent.Proofs.Cluster.Courses
import GridAgent.Proofs.Cluster.Executions
import GridAgent.Proofs.Handler.Lodging

/-!
# Scratch directories in a cluster

The scratch directory of a task on a pod is shared by all handlers of the task there. At most one of
them has an execution registered, and it alone ends that registration. Whoever has ended one still has
to remove the files. As long as nobody registers the task in between, the files that a handler has
written are there until it removes them itself, and so is every file of which it has told the worker.
-/

namespace GridAgent

namespace Scratch

/-- The content of a file in the directory of a task, if it is there. -/
def file? (s : Scratch) (task : TaskId) (data : DataId) : Option (List UInt8) :=
  (s.dirs.get? task).bind fun files => files.get? data

variable (s : Scratch) (task other : TaskId) (data : DataId)

/-- A directory that is made holds no file, and one that is there is left alone. -/
@[simp] theorem file?_make : (s.make task).2.file? other data = s.file? other data := by
  unfold make
  split
  · rfl
  · split
    · rfl
    · next missing =>
      simp only [file?, Table.get?_set]
      split
      · next e =>
        subst e
        have none : s.dirs.get? other = none := by simpa [Table.contains] using missing
        rw [none]
        rfl
      · rfl

/-- A file that is written is there, and every other one is left alone. -/
theorem file?_save {bytes : List UInt8} (saved : DataId)
    (h : (s.save task saved bytes).1 = .ok ()) : (s.save task saved bytes).2.file? other data =
      if other = task ∧ data = saved then some bytes else s.file? other data := by
  unfold save at h ⊢
  split
  · next blocked =>
    rw [if_pos blocked] at h
    cases h
  · next open' =>
    rw [if_neg open'] at h
    split
    · next missing =>
      rw [missing] at h
      cases h
    · next files found =>
      simp only [file?, Table.get?_set]
      by_cases e : other = task
      · subst e
        by_cases d : data = saved <;> simp [d, found]
      · simp [e]

/-- A file that cannot be written changes nothing. -/
theorem save_of_error {bytes : List UInt8} {saved : DataId} {cause : StorageError}
    (h : (s.save task saved bytes).1 = .error cause) : (s.save task saved bytes).2 = s := by
  unfold save at h ⊢
  split
  · rfl
  · next open' =>
    rw [if_neg open'] at h
    split
    · rfl
    · next files found =>
      rw [found] at h
      cases h

/-- A directory is removed with its files, and every other one is left alone. -/
@[simp] theorem file?_clear : (s.clear task).file? other data =
    if other = task then none else s.file? other data := by
  simp only [clear, file?, Table.get?_erase]
  split <;> rfl

end Scratch

namespace Cluster

open Agent Program

variable {fleet : Fleet} {allowed : Event → Prop} {start c c' : State} {number : Nat} {a b : Actor}
  {operation : Operation} {reply : operation.Reply} {pod p : PodId} {s s' : Shared} {task : TaskId}
  {data : DataId} {bytes : List UInt8}

/-! The scratch areas. -/

/-- A change of the scratch area of a pod is seen there and nowhere else. -/
theorem Shared.file?_setScratch (s : Shared) (pod p : PodId) (scratch : Scratch) (task : TaskId)
    (data : DataId) :
    ((s.setScratch pod scratch).scratches p).file? task data =
      if p = pod then scratch.file? task data else (s.scratches p).file? task data := by
  show (if p = pod then scratch else s.scratches p).file? task data = _
  split <;> rfl

/-- What is in a file of a pod after a call of an actor there was answered. -/
def Answered.fileAfter (task : TaskId) (data : DataId) (x : Answered)
    (before : Option (List UInt8)) : Option (List UInt8) :=
  match x with
  | ⟨.agent (.saveScratch other saved bytes), .ok _⟩ =>
    if task = other ∧ data = saved then some bytes else before
  | ⟨.agent (.clearScratch other), _⟩ => if task = other then none else before
  | _ => before

/-- A file is written, or the attempt changes nothing. -/
theorem fileAfter_save (s : Scratch) (task other : TaskId) (data saved : DataId)
    (bytes : List UInt8) : (s.save other saved bytes).2.file? task data =
      Answered.fileAfter task data
        ⟨.agent (.saveScratch other saved bytes), (s.save other saved bytes).1⟩
        (s.file? task data) := by
  cases hr : (s.save other saved bytes).1 with
  | error cause =>
    rw [Scratch.save_of_error _ _ hr]
    rfl
  | ok done => exact Scratch.file?_save s other task data saved hr

/-- The call works on a scratch directory. -/
def Operation.isOnFiles : Operation → Bool
  | .agent (.makeScratch _) => true
  | .agent (.saveScratch ..) => true
  | .agent (.clearScratch _) => true
  | _ => false

/-- All other calls leave the scratch areas alone. -/
theorem scratches_of_answer {choice : Option operation.Reply}
    (h : s.answer pod operation choice = some (reply, s')) (other : operation.isOnFiles = false) :
    s'.scratches = s.scratches := by
  have chosen {α : Type} {choice : Option α} {x : α}
      (h : choice.map (fun reply => (reply, s)) = some (x, s')) : s'.scratches = s.scratches := by
    obtain ⟨_, -, hc⟩ := Option.map_eq_some_iff.mp h
    cases hc
    rfl
  rcases operation with request | request
  · cases request with
    | newTaskId =>
      obtain ⟨task, -, h⟩ := Option.bind_eq_some_iff.mp h
      split at h <;> cases h
      rfl
    | push tasks => rcases choice with _ | _ | _ <;> cases h <;> rfl
    | makeScratch task => cases other
    | saveScratch task data bytes => cases other
    | clearScratch task => cases other
    | finalize task => cases h
    | abandon task => cases h
    | _ => first | (cases h; rfl) | exact chosen h
  · cases request with
    | now => exact chosen h
    | countTasks =>
      obtain ⟨count, -, h⟩ := Option.bind_eq_some_iff.mp h
      split at h <;> cases h
      rfl
    | push tasks => rcases choice with _ | _ | _ <;> cases h <;> rfl
    | _ =>
      cases h
      rfl

/-- All other calls tell nothing of files. -/
theorem fileAfter_of_other (task : TaskId) (data : DataId) (reply : operation.Reply)
    (other : operation.isOnFiles = false) (before : Option (List UInt8)) :
    Answered.fileAfter task data ⟨operation, reply⟩ before = before := by
  rcases operation with request | request
  · cases request <;> first | rfl | cases other
  · rfl

/-- What answered calls do to a file. -/
theorem file?_of_answer {choice : Option operation.Reply}
    (h : s.answer pod operation choice = some (reply, s')) (p : PodId) (task : TaskId)
    (data : DataId) : (s'.scratches p).file? task data =
      if p = pod then
        Answered.fileAfter task data ⟨operation, reply⟩ ((s.scratches pod).file? task data)
      else (s.scratches p).file? task data := by
  have same (hs : s'.scratches = s.scratches)
      (hf : ∀ before, Answered.fileAfter task data ⟨operation, reply⟩ before = before) :
      (s'.scratches p).file? task data =
        if p = pod then
          Answered.fileAfter task data ⟨operation, reply⟩ ((s.scratches pod).file? task data)
        else (s.scratches p).file? task data := by
    rw [hs, hf]
    split
    · next here => rw [here]
    · rfl
  cases other : operation.isOnFiles with
  | false => exact same (scratches_of_answer h other) (fileAfter_of_other task data reply other)
  | true =>
    rcases operation with request | request
    · cases request with
      | makeScratch own =>
        have made := s.file?_setScratch pod p ((s.scratches pod).make own).2 task data
        rw [Scratch.file?_make] at made
        rcases choice with _ | _ | _ <;> cases h <;> first
          | exact made
          | exact same rfl fun _ => rfl
      | saveScratch own saved bytes =>
        have written := s.file?_setScratch pod p ((s.scratches pod).save own saved bytes).2 task data
        rw [fileAfter_save] at written
        rcases choice with _ | _ | _ <;> cases h <;> first
          | exact written
          | exact same rfl fun _ => rfl
      | clearScratch own =>
        have cleared := s.file?_setScratch pod p ((s.scratches pod).clear own) task data
        rw [Scratch.file?_clear] at cleared
        cases h
        exact cleared
      | _ => cases other
    · cases other

/-! What the actors have in the directories. -/

/-- What a job has in the directory after a call was answered. -/
def Lodging.after (k : Lodging) : Answered → Lodging
  | ⟨.agent request, reply⟩ => k.note request reply
  | ⟨.finalizer _, _⟩ => k

/-- What an actor has in the scratch directory of its task. -/
def Actor.lodging (a : Actor) : Lodging := a.past.foldr (fun x k => k.after x) .away

/-- The rules of the scratch directories for an actor. -/
abbrev lodgingConduct (root : String) (task : TaskId) : Conduct operations Lodging :=
  withFinalizers (lodgingRules root task) True

theorem Actor.books_lodging (root : String) (a : Actor) :
    a.books (lodgingConduct root a.job.task) .away = a.lodging := by
  unfold Actor.books Actor.lodging
  congr 1
  funext x k
  rcases x with ⟨_ | _, _⟩ <;> rfl

/-- An answer is noted. -/
theorem Answers.lodging (ha : Answers c number a b operation reply c') :
    b.lodging = a.lodging.after ⟨operation, reply⟩ := by
  unfold Actor.lodging
  rw [ha.past]
  rfl

/-- The answers that the rules of the scratch directories count on are given. -/
theorem Reaches.credible_lodging (hr : Reaches fleet allowed start c) (hi : start.Initial)
    (ha : Answers c number a b operation reply c') (root : String) :
    (lodgingConduct root a.job.task).credible operation reply := by
  have credible := hr.credible_course hi ha
  rcases operation with request | request
  · exact credible
  · trivial

/-- In every reached cluster every job follows the rules of the scratch directories. -/
theorem Reaches.lodgings (hr : Reaches fleet allowed start c) (hi : start.Initial) :
    ∀ a ∈ c.actors, a.Obeys (lodgingConduct (fleet.settings a.pod).scratchRoot a.job.task) .away
      fun _ _ _ => True := by
  intro a ha
  exact hr.obey hi
    (fun pod job (_ : Unit) => lodgingConduct (fleet.settings pod).scratchRoot job.task)
    (fun _ _ _ => True) (fun pod job _ => lodgingRules_followed (fleet.settings pod) job)
    (fun _ _ _ _ _ => trivial) (fun hr _ ha _ _ _ => hr.credible_lodging hi ha _) a ha () trivial

/-- Whoever is at a call may make it. -/
theorem Reaches.may_lodging (hr : Reaches fleet allowed start c) (hi : start.Initial)
    (ha : a ∈ c.actors) (asks : a.Asks operation) :
    (lodgingConduct (fleet.settings a.pod).scratchRoot a.job.task).may a.lodging operation := by
  obtain ⟨next, hn⟩ := asks
  have may := (hr.lodgings hi a ha).may hn
  rw [Actor.books_lodging] at may
  exact may

/-- The registered execution after a call was answered. -/
def Answered.runAfter (x : Answered) (before : Option RunId) : Option RunId :=
  match x with
  | ⟨.agent (.register _), some run⟩ => some run
  | ⟨.agent (.unregister _), _⟩ => none
  | _ => before

theorem Lodging.run?_after (k : Lodging) (x : Answered) : (k.after x).run? = x.runAfter k.run? := by
  obtain ⟨request | request, reply⟩ := x
  · cases request with
    | register task => cases reply <;> rfl
    | unregister run => cases k <;> rfl
    | saveScratch task data bytes => rcases reply with _ | _ <;> cases k <;> rfl
    | clearScratch task => cases k <;> rfl
    | _ => rfl
  · rfl

theorem Track.run?_note (pod : PodId) (k : Track) (x : Answered) :
    (k.note pod x.operation x.reply).stage.run? = x.runAfter k.stage.run? := by
  obtain ⟨request | request, reply⟩ := x
  · cases request with
    | register task => cases reply <;> rfl
    | readTask task => rcases reply with _ | _ | _ <;> rfl
    | updateTask task expected change => exact Track.updated_run? k task expected change reply
    | createSuccessor parent candidate => rcases reply with _ | _ <;> rfl
    | connect run task deadline => rcases reply with _ | _ <;> rfl
    | hangUp stream => exact Stage.run?_hungUp k.stage
    | dispose message disposition => rcases reply with _ | _ <;> rfl
    | _ => rfl
  · cases request <;> rfl

/-- The books of the execution and those of the directory show the same registration. -/
theorem Reaches.run?_lodging (hr : Reaches fleet allowed start c) (hi : start.Initial) :
    ∀ a ∈ c.actors, a.lodging.run? = a.track.stage.run? := by
  refine hr.all_actors hi (fun pod job _ => (Job.run?_start job).symm) ?_
  intro c c' number a b operation reply _ ha same
  rw [ha.lodging, ha.track, Lodging.run?_after, Track.run?_note a.pod a.track ⟨operation, reply⟩, same]

/-- Who has an execution has registered it. -/
theorem Reaches.registers (hr : Reaches fleet allowed start c) (hi : start.Initial) :
    ∀ a ∈ c.actors, ∀ run, a.lodging.run? = some run →
      (⟨.agent (.register a.job.task), some run⟩ : Answered) ∈ a.past := by
  refine hr.all_actors hi (fun _ _ _ _ h => nomatch h) ?_
  intro c c' number a b operation reply _ ha before run h
  rw [ha.job, ha.past]
  rw [ha.lodging, Lodging.run?_after] at h
  unfold Answered.runAfter at h
  split at h
  · next e =>
    obtain rfl := Option.some.inj h
    cases e
    exact ha.may.2.1 ▸ List.mem_cons_self
  · cases h
  · exact List.mem_cons_of_mem _ (before run h)

/-! Who is in a directory. -/

/-- The job of the actor is done on the pod and is about the task. -/
def Actor.IsAt (pod : PodId) (task : TaskId) (a : Actor) : Prop := a.pod = pod ∧ a.job.task = task

instance (a : Actor) : Decidable (a.IsAt pod task) :=
  inferInstanceAs (Decidable (a.pod = pod ∧ a.job.task = task))

theorem Answers.isAt (ha : Answers c number a b operation reply c') (h : b.IsAt pod task) :
    a.IsAt pod task :=
  ⟨ha.pod ▸ h.1, ha.job ▸ h.2⟩

/-- While an execution of the task is registered on the pod, nobody has still to remove the files of
another one. -/
def State.CleansFirst (pod : PodId) (task : TaskId) (c : State) : Prop :=
  ∀ a ∈ c.actors, ∀ b ∈ c.actors, a.IsAt pod task → b.IsAt pod task →
    a.lodging.isLeaving = true → b.lodging.run? = none

instance : DecidablePred (State.CleansFirst pod task) := fun c =>
  inferInstanceAs (Decidable (∀ a ∈ c.actors, ∀ b ∈ c.actors, a.IsAt pod task → b.IsAt pod task →
    a.lodging.isLeaving = true → b.lodging.run? = none))

/-- The actors are both in the directory of the task on the pod. -/
def Actor.SharesLodging (pod : PodId) (task : TaskId) (x y : Actor) : Prop :=
  x.IsAt pod task ∧ y.IsAt pod task ∧ x.lodging.isInside = true ∧ y.lodging.isInside = true

theorem Actor.SharesLodging.symm {x y : Actor} (h : x.SharesLodging pod task y) :
    y.SharesLodging pod task x :=
  ⟨h.2.1, h.1, h.2.2.2, h.2.2.1⟩

namespace Lodging

variable {k : Lodging}

/-- Whoever is inside has an execution or has still to remove its files. -/
theorem isInside_cases (h : k.isInside = true) : k.isLeaving = true ∨ k.run?.isSome = true := by
  cases k with
  | away => cases h
  | staying => exact .inr rfl
  | leaving => exact .inl rfl
  | gone => cases h

theorem isInside_of_run (h : k.run?.isSome = true) : k.isInside = true := by
  cases k <;> first | rfl | cases h

theorem isInside_of_leaving (h : k.isLeaving = true) : k.isInside = true := by
  cases k <;> first | rfl | cases h

/-- Whoever has written files is inside. -/
theorem isInside_of_file (h : k.files.get? data = some bytes) : k.isInside = true := by
  cases k with
  | away => cases h
  | staying => rfl
  | leaving => rfl
  | gone => cases h

/-- Whoever is inside after an answer was inside before, or has registered an execution. -/
theorem isInside_after {x : Answered} (h : (k.after x).isInside = true) :
    k.isInside = true ∨ (k.after x).run?.isSome = true := by
  obtain ⟨request | request, reply⟩ := x
  · cases request with
    | register other =>
      cases reply with
      | none => exact .inl h
      | some run => exact .inr rfl
    | unregister run => cases k <;> first | exact .inl rfl | cases h
    | saveScratch other data bytes =>
      rcases reply with _ | _
      · exact .inl h
      · cases k <;> first | exact .inl rfl | cases h
    | clearScratch other => cases k <;> first | exact .inl rfl | cases h
    | _ => exact .inl h
  · exact .inl h

/-- Whoever is not inside leaves the files alone. -/
theorem fileAfter_of_outside {root : String} {own : TaskId} {operation : Operation}
    (may : (lodgingConduct root own).may k operation) (outside : task = own → k.isInside = false)
    (reply : operation.Reply) (before : Option (List UInt8)) :
    Answered.fileAfter task data ⟨operation, reply⟩ before = before := by
  rcases operation with request | request
  · cases request with
    | saveScratch other saved bytes =>
      rcases reply with cause | _
      · rfl
      · refine if_neg fun here => ?_
        obtain ⟨rfl, registered⟩ := may
        exact Bool.false_ne_true ((outside here.1).symm.trans (isInside_of_run registered))
    | clearScratch other =>
      refine if_neg fun here => ?_
      obtain ⟨rfl, leaving⟩ := may
      exact Bool.false_ne_true ((outside here).symm.trans (isInside_of_leaving leaving))
    | _ => rfl
  · rfl

/-- What is written after an answer is there if what was written before was there. -/
theorem fileAfter_of_inside {root : String} {operation : Operation} {reply : operation.Reply}
    (may : (lodgingConduct root task).may k operation)
    (h : (k.after ⟨operation, reply⟩).files.get? data = some bytes)
    {before : Option (List UInt8)}
    (hb : ∀ bytes, k.files.get? data = some bytes → before = some bytes) :
    Answered.fileAfter task data ⟨operation, reply⟩ before = some bytes := by
  rcases operation with request | request
  · cases request with
    | register other =>
      cases reply with
      | none => exact hb bytes h
      | some run => cases h
    | unregister run =>
      cases k with
      | staying run files => exact hb bytes h
      | leaving files => exact hb bytes h
      | _ => cases h
    | saveScratch other saved written =>
      rcases reply with cause | _
      · exact hb bytes h
      · obtain ⟨rfl, registered⟩ := may
        cases k with
        | staying run files =>
          replace h : (files.set saved written).get? data = some bytes := h
          rw [Table.get?_set] at h
          by_cases e : data = saved
          · rw [if_pos e] at h
            exact (if_pos ⟨rfl, e⟩).trans h
          · rw [if_neg e] at h
            exact (if_neg fun here => e here.2).trans (hb bytes h)
        | _ => cases registered
    | clearScratch other =>
      obtain ⟨rfl, leaving⟩ := may
      cases k with
      | leaving files => cases h
      | _ => cases leaving
    | _ => exact hb bytes h
  · exact hb bytes h

end Lodging

/-- What is known of the directory of the task on the pod. -/
structure State.Lodged (pod : PodId) (task : TaskId) (c : State) : Prop where
  /-- At most one actor is in it. -/
  alone : c.Apart (Actor.SharesLodging pod task)
  /-- What the actor has written is there. -/
  files : ∀ a ∈ c.actors, a.IsAt pod task → ∀ data bytes,
    a.lodging.files.get? data = some bytes →
      (c.shared.scratches pod).file? task data = some bytes

/-- A registration comes after all that had to be cleaned before: nobody else is inside. -/
theorem Reaches.alone_of_run (hr : Reaches fleet allowed start c) (hi : start.Initial)
    (cleans : c.CleansFirst pod task) {i j : Nat} {x y : Actor} (hx : c.actors[i]? = some x)
    (hy : c.actors[j]? = some y) (atx : x.IsAt pod task) (aty : y.IsAt pod task)
    (registered : x.lodging.run?.isSome = true) (inside : y.lodging.isInside = true) : i = j := by
  have mx := List.mem_of_getElem? hx
  have my := List.mem_of_getElem? hy
  rcases Lodging.isInside_cases inside with leaving | also
  · rw [cleans y my x mx aty atx leaving] at registered
    cases registered
  · rw [hr.run?_lodging hi x mx] at registered
    rw [hr.run?_lodging hi y my] at also
    exact (hr.registered hi).unique hx hy (atx.1.trans aty.1.symm) (atx.2.trans aty.2.symm)
      registered also

theorem State.Lodged.alone_answered (h : c.Lodged pod task) (hr : Reaches fleet allowed start c')
    (hi : start.Initial) (cleans : c'.CleansFirst pod task)
    (ha : Answers c number a b operation reply c') :
    c'.Apart (Actor.SharesLodging pod task) := by
  refine h.alone.answered (fun _ _ => Actor.SharesLodging.symm) ha ?_
  rintro i x hx ⟨atb, atx, inside, insidex⟩
  rw [ha.lodging] at inside
  rcases Lodging.isInside_after inside with before | registered
  · exact h.alone i number x a hx ha.actor ⟨atx, ha.isAt atb, insidex, before⟩
  · rcases ha.stays_cases hx with ⟨same, -⟩ | ⟨-, stays⟩
    · exact same
    · rw [← ha.lodging] at registered
      exact (hr.alone_of_run hi cleans ha.self stays atb atx registered insidex).symm

theorem State.Lodged.files_answered (h : c.Lodged pod task) (hr : Reaches fleet allowed start c)
    (hi : start.Initial) {choice : Option operation.Reply}
    (ha : Answers c number a b operation reply c')
    (hs : c.shared.answer a.pod operation choice = some (reply, c'.shared)) :
    ∀ x ∈ c'.actors, x.IsAt pod task → ∀ data bytes, x.lodging.files.get? data = some bytes →
      (c'.shared.scratches pod).file? task data = some bytes := by
  intro x hx atx data bytes written
  have may := hr.may_lodging hi (List.mem_of_getElem? ha.actor) ha.asks
  rw [file?_of_answer hs]
  obtain ⟨i, hx⟩ := List.mem_iff_getElem?.mp hx
  rcases ha.cases hx with ⟨rfl, rfl⟩ | ⟨other, hx⟩
  · obtain ⟨rfl, rfl⟩ := ha.isAt atx
    rw [ha.lodging] at written
    rw [if_pos rfl]
    exact Lodging.fileAfter_of_inside may written
      fun bytes => h.files a (List.mem_of_getElem? ha.actor) ⟨rfl, rfl⟩ data bytes
  · have before := h.files x (List.mem_of_getElem? hx) atx data bytes written
    split
    · next here =>
      -- the answered actor is elsewhere or outside, since the other one is inside
      rw [Lodging.fileAfter_of_outside may (fun about => ?_), ← here, before]
      refine Bool.eq_false_iff.mpr fun inside => other ?_
      exact h.alone i number x a hx ha.actor
        ⟨atx, ⟨here.symm, about.symm⟩, Lodging.isInside_of_file written, inside⟩
    · exact before

theorem State.Lodged.perform (h : c.Lodged pod task) (hr : Reaches fleet anyEvent start c)
    (hi : start.Initial) {event : Event} (hp : c.perform fleet event = some c')
    (cleans : c'.CleansFirst pod task) : c'.Lodged pod task := by
  cases event with
  | start other job =>
    obtain ⟨-, rfl⟩ := State.of_start hp
    refine ⟨h.alone.started (fun _ _ => Actor.SharesLodging.symm) ?_, ?_⟩
    · rintro x - ⟨-, -, inside, -⟩
      cases inside
    · intro x hx atx data bytes written
      rcases List.mem_append.mp hx with hx | hx
      · exact h.files x hx atx data bytes written
      · obtain rfl := List.mem_singleton.mp hx
        cases written
  | answer number choice =>
    obtain ⟨a, b, operation, reply, ha, hs⟩ := (hr.sound hi).answers hp
    have hr' : Reaches fleet anyEvent start c' := .step (.answer number choice) hr trivial hp
    exact ⟨h.alone_answered hr' hi cleans ha, h.files_answered hr hi ha hs⟩
  | handBack message =>
    obtain ⟨-, rfl⟩ := State.of_handBack hp
    exact ⟨h.alone, h.files⟩
  | move m =>
    obtain ⟨shared, hm, rfl⟩ := State.of_move hp
    have same := (pods_of_move hm).2
    refine ⟨h.alone, fun x hx atx data bytes written => ?_⟩
    rw [same]
    exact h.files x hx atx data bytes written

/-- Where registrations wait for the cleaning, whoever is in a directory is alone in it, and finds what
it has written. -/
theorem Passes.lodged (hp : Passes fleet anyEvent (State.CleansFirst pod task) start c)
    (hi : start.Initial) : c.Lodged pod task := by
  induction hp with
  | refl => exact ⟨hi.apart, fun a ha => absurd ha hi.not_mem⟩
  | step event before _ performed here ih => exact ih.perform before.reaches hi performed here

/-! What the worker is told. -/

/-- Whatever an actor does, its files grow until it leaves the directory, and it does not come again. -/
theorem Lodging.grown_after {k : Lodging} {root : String} {operation : Operation}
    (may : (lodgingConduct root task).may k operation) (reply : operation.Reply) (h : k ≠ .away) :
    k.after ⟨operation, reply⟩ ≠ .away ∧ ((k.after ⟨operation, reply⟩).isInside = true →
      k.isInside = true ∧ Grown k.files (k.after ⟨operation, reply⟩).files) := by
  have same : k ≠ .away ∧ (k.isInside = true → k.isInside = true ∧ Grown k.files k.files) :=
    ⟨h, fun inside => ⟨inside, fun _ hd => hd⟩⟩
  rcases operation with request | request
  · cases request with
    | register other => exact absurd may.2 h
    | unregister run =>
      cases k with
      | staying run files => exact ⟨nofun, fun _ => ⟨rfl, fun _ hd => hd⟩⟩
      | _ => exact same
    | saveScratch other data bytes =>
      rcases reply with _ | _
      · exact same
      · cases k with
        | staying run files => exact ⟨nofun, fun _ => ⟨rfl, grown_set files data bytes⟩⟩
        | _ => exact same
    | clearScratch other =>
      cases k with
      | leaving files => exact ⟨nofun, nofun⟩
      | _ => exact same
    | _ => exact same
  · exact same

/-- The actor has sent the worker the request. -/
def Actor.HasSent (request : WorkRequest) (a : Actor) : Prop :=
  ∃ run stream reply, (⟨.agent (.send run stream request), reply⟩ : Answered) ∈ a.past

/-- What the worker was told of files is true until the files are removed. -/
theorem Reaches.told (hr : Reaches fleet allowed start c) (hi : start.Initial) :
    ∀ a ∈ c.actors, ∀ request, a.HasSent request → a.lodging ≠ .away ∧
      (a.lodging.isInside = true →
        Names (fleet.settings a.pod).scratchRoot a.job.task request a.lodging.files) := by
  refine hr.all_actors hi (fun _ _ _ _ h => ?_) ?_
  · obtain ⟨run, stream, reply, h⟩ := h
    cases h
  · rintro c c' number a b operation reply hr ha before request ⟨run, stream, reply', h⟩
    have may := hr.may_lodging hi (List.mem_of_getElem? ha.actor) ha.asks
    rw [ha.past] at h
    rw [ha.lodging, ha.pod, ha.job]
    rcases List.mem_cons.mp h with e | h
    · cases e
      obtain ⟨registered, named⟩ := may
      refine ⟨?_, fun _ => named⟩
      intro away
      replace away : a.lodging = .away := away
      rw [away] at registered
      cases registered
    · obtain ⟨stays, named⟩ := before request ⟨run, stream, reply', h⟩
      obtain ⟨stays', grown⟩ := Lodging.grown_after may reply stays
      refine ⟨stays', fun inside => ?_⟩
      obtain ⟨inside, grown⟩ := grown inside
      exact (named inside).grown grown

end Cluster

end GridAgent
