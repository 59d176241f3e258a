import GridAgent.Proofs.Cluster.Tolerance
import GridAgent.Proofs.Store.Trails

/-!
# Where a job alone leads

A job that meets nobody else goes from one stand to another: the records, the messages, the
executions and the files of its pod, and what the worker has been told. What a program leads to is
found call by call, and what a sequence leads to from where its first part ends.
-/

namespace GridAgent.Cluster

open Agent Surroundings

/-- What the worker is told. -/
inductive Word where
  /-- A stream for a task is opened, with the end of the time the call may take. -/
  | connect (task : TaskId) (deadline : Option Date)
  /-- A request is sent. -/
  | send (request : WorkRequest)
  /-- No request follows. -/
  | finish
  /-- The reply is waited for. -/
  | await
  /-- The stream is closed. -/
  | hangUp

/-- What a call tells the worker. -/
def Operation.word? : Operation → Option Word
  | .agent (.connect _ task deadline) => some (.connect task deadline)
  | .agent (.send _ _ request) => some (.send request)
  | .agent (.finishSending ..) => some .finish
  | .agent (.awaitReply ..) => some .await
  | .agent (.hangUp _) => some .hangUp
  | _ => none

/-- What the worker was told by some calls, the latest first. -/
def wordsOf (past : List Answered) : List Word := past.filterMap fun x => x.operation.word?

/-- What a job alone has come to on its pod. -/
structure Stand where
  /-- The store. -/
  store : Store
  /-- The queue. -/
  queue : Queue
  /-- The timer of the queue. -/
  time : Nat
  /-- The executions of the pod. -/
  registry : Registry
  /-- The scratch area of the pod. -/
  scratch : Scratch
  /-- Identifiers made up so far. -/
  issued : List TaskId
  /-- What the worker was told, the latest first. -/
  words : List Word

/-- The stand of a scene on a pod. -/
def Scene.stand (w : Scene) (pod : PodId) : Stand where
  store := w.shared.store
  queue := w.shared.queue
  time := w.shared.time
  registry := w.shared.registries pod
  scratch := w.shared.scratches pod
  issued := w.shared.issued
  words := wordsOf w.past

/-- The stand after a call that tells the worker something, or not. -/
def Stand.tell (a : Stand) (operation : Operation) : Stand :=
  { a with words := operation.word?.toList ++ a.words }

/-- A push that is not chosen to fail. -/
theorem Shared.push_of_works {s : Shared} {tasks : List TaskId}
    {choice : Option (Except QueueError Unit)} (works : ∀ cause, choice ≠ some (.error cause)) :
    s.push tasks choice = (.ok (), { s with queue := s.queue.push tasks }) := by
  rcases choice with _ | cause | _
  · rfl
  · exact absurd rfl (works cause)
  · rfl

/-- Work on the scratch area that is not chosen to fail. -/
theorem Shared.onScratch_of_works {s : Shared} {pod : PodId}
    {work : Scratch → Except StorageError Unit × Scratch} {choice : Option (Except StorageError Unit)}
    (works : ∀ cause, choice ≠ some (.error cause)) :
    s.onScratch pod work choice =
      ((work (s.scratches pod)).1, s.setScratch pod (work (s.scratches pod)).2) := by
  rcases choice with _ | cause | _
  · rfl
  · exact absurd rfl (works cause)
  · rfl

theorem Scene.stand_setScratch (w : Scene) (pod : PodId) (scratch : Scratch) :
    ({ w with shared := w.shared.setScratch pod scratch } : Scene).stand pod =
      { w.stand pod with scratch } := by
  unfold Scene.stand Shared.setScratch
  simp only [if_pos]

theorem Scene.stand_setRegistry (w : Scene) (pod : PodId) (registry : Registry) :
    ({ w with shared := w.shared.setRegistry pod registry } : Scene).stand pod =
      { w.stand pod with registry } := by
  unfold Scene.stand Shared.setRegistry
  simp only [if_pos]

namespace Surroundings

variable {σ : Surroundings} {α β : Type} {a : Stand} {operation : Operation}

/-- No call is refused from here on, and the job stands so. -/
structure At (σ : Surroundings) (a : Stand) (w : Scene) : Prop where
  /-- The stand. -/
  stand : w.stand σ.pod = a
  /-- Nothing is refused. -/
  calm : w.refusals = fun _ => none

/-- Alone, the program goes from the stand to its end, with a value and a stand as described. -/
def Leads (σ : Surroundings) (p : Program operations α) (a : Stand) (Q : α → Stand → Prop) : Prop :=
  ∀ w, σ.At a w → ∃ value w' b, σ.solo p w = some (value, w') ∧ σ.At b w' ∧ Q value b

theorem Leads.done {value : α} {Q : α → Stand → Prop} (h : Q value a) :
    σ.Leads (.done value) a Q :=
  fun w at_ => ⟨value, w, a, rfl, at_, h⟩

theorem Leads.mono {p : Program operations α} {Q R : α → Stand → Prop} (h : σ.Leads p a Q)
    (hQR : ∀ value b, Q value b → R value b) : σ.Leads p a R := by
  intro w at_
  obtain ⟨value, w', b, ends, at', q⟩ := h w at_
  exact ⟨value, w', b, ends, at', hQR value b q⟩

/-- A sequence leads where its second part leads from the end of the first. -/
theorem Leads.bind {p : Program operations α} {f : α → Program operations β} {Q : β → Stand → Prop}
    (h : σ.Leads p a fun value b => σ.Leads (f value) b Q) : σ.Leads (p.bind f) a Q := by
  intro w at_
  obtain ⟨value, w', b, ends, at', rest⟩ := h w at_
  obtain ⟨result, w'', c, ends', at'', q⟩ := rest w' at'
  exact ⟨result, w'', c, by rw [solo_bind, ends]; exact ends', at'', q⟩

/-- A call leads to wherever it is answered from the stand. -/
theorem Leads.call {Q : operation.Reply → Stand → Prop}
    (solid : ∀ wait, operation ≠ .agent (.pause wait))
    (answered : ∀ w : Scene, w.stand σ.pod = a → ∃ reply shared,
      w.shared.answer σ.pod operation (σ.replies w.past operation) = some (reply, shared) ∧
        Q reply (({ w with shared } : Scene).stand σ.pod |>.tell operation)) :
    σ.Leads (.call operation .done) a Q := by
  intro w at_
  obtain ⟨w₁, same, calm, met⟩ : ∃ w₁ : Scene, w₁.stand σ.pod = a ∧
      (w₁.refusals = fun _ => none) ∧ σ.meet w operation = σ.grant w₁ operation := by
    rcases σ.meet_cases w operation with ⟨_, _, _, refused, -⟩ | ⟨w₁, rfl | rfl, met⟩
    · rw [at_.calm] at refused
      cases refused
    · exact ⟨w₁, at_.stand, at_.calm, met⟩
    · exact ⟨w.next, at_.stand, by unfold Scene.next; rw [at_.calm], met⟩
  obtain ⟨reply, shared, answers, q⟩ := answered w₁ same
  have granted : σ.grant w₁ operation =
      some (reply, { w₁ with shared, past := ⟨operation, reply⟩ :: w₁.past }) := by
    unfold grant
    split
    · exact absurd rfl (solid _)
    · rw [answers]
      rfl
  refine ⟨reply, _, _, solo_single.trans (met.trans granted), ⟨rfl, calm⟩, ?_⟩
  have words : wordsOf (⟨operation, reply⟩ :: w₁.past) =
      operation.word?.toList ++ wordsOf w₁.past := by
    unfold wordsOf
    rw [List.filterMap_cons]
    cases operation.word? <;> rfl
  have stands : ({ w₁ with shared, past := ⟨operation, reply⟩ :: w₁.past } : Scene).stand σ.pod =
      (({ w₁ with shared } : Scene).stand σ.pod).tell operation := by
    unfold Scene.stand Stand.tell
    rw [words]
  exact stands ▸ q

/-- A call that is free to be answered changes nothing. -/
theorem Leads.free {Q : operation.Reply → Stand → Prop}
    (solid : ∀ wait, operation ≠ .agent (.pause wait))
    (free : ∀ (shared : Shared) choice,
      shared.answer σ.pod operation choice = choice.map fun reply => (reply, shared))
    (answered : ∀ past, ∃ reply, σ.replies past operation = some reply ∧ Q reply (a.tell operation)) :
    σ.Leads (.call operation .done) a Q := by
  refine .call solid fun w same => ?_
  obtain ⟨reply, chosen, q⟩ := answered w.past
  refine ⟨reply, w.shared, by rw [free, chosen]; rfl, ?_⟩
  rw [← same] at q
  exact q

/-! Programs of an agent. -/

section
variable {ε ε' : Type} {s : Settings}

/-- The same for a program of an agent. -/
abbrev LeadsTo (σ : Surroundings) (p : Action α) (a : Stand) (Q : α → Stand → Prop) : Prop :=
  σ.Leads (agentCalls p) a Q

/-- The same for a program of an agent that may fail. -/
abbrev Comes (σ : Surroundings) (p : Fallible ε α) (a : Stand)
    (Q : Except ε α → Stand → Prop) : Prop :=
  σ.LeadsTo (α := Except ε α) p a Q

/-- The program comes to a value. -/
abbrev Succeeds (σ : Surroundings) (p : Fallible ε α) (a : Stand) (Q : α → Stand → Prop) : Prop :=
  σ.Comes p a fun outcome b => ∃ value, outcome = .ok value ∧ Q value b

theorem LeadsTo.bind {p : Action α} {f : α → Action β} {Q : β → Stand → Prop}
    (h : σ.LeadsTo p a fun value b => σ.LeadsTo (f value) b Q) : σ.LeadsTo (p.bind f) a Q := by
  show σ.Leads (agentCalls (p.bind f)) a Q
  rw [agentCalls_bind]
  exact Leads.bind h

/-- A request leads to where its calls do. -/
theorem LeadsTo.ask {request : Request} {Q : request.Reply → Stand → Prop}
    (h : σ.Leads (agentCall request) a Q) : σ.LeadsTo (ask request) a Q :=
  Leads.bind (h.mono fun _ _ q => Leads.done q)

/-- After a program that comes to a value. -/
theorem Comes.andThen {p : Fallible ε α} {f : α → Fallible ε β} {Q : Except ε β → Stand → Prop}
    (h : σ.Succeeds p a fun value b => σ.Comes (f value) b Q) : σ.Comes (p >>= f) a Q := by
  refine LeadsTo.bind (Leads.mono h ?_)
  rintro _ b ⟨value, rfl, rest⟩
  exact rest

/-- After a program that cannot fail. -/
theorem Comes.after {p : Action α} {f : α → Fallible ε β} {Q : Except ε β → Stand → Prop}
    (h : σ.LeadsTo p a fun value b => σ.Comes (f value) b Q) : σ.Comes (liftM p >>= f) a Q :=
  Comes.andThen (LeadsTo.bind (h.mono fun value _ rest => Leads.done ⟨value, rfl, rest⟩))

/-- With the outcome of a program. -/
theorem Comes.attempted {p : Fallible ε α} {f : Except ε α → Fallible ε' β}
    {Q : Except ε' β → Stand → Prop} (h : σ.Comes p a fun outcome b => σ.Comes (f outcome) b Q) :
    σ.Comes (attempt p >>= f) a Q :=
  Comes.andThen (LeadsTo.bind (h.mono fun outcome _ rest => Leads.done ⟨outcome, rfl, rest⟩))

/-- With the outcome of a program that comes to a value. -/
theorem Comes.achieved {p : Fallible ε α} {f : Except ε α → Fallible ε' β}
    {Q : Except ε' β → Stand → Prop} (h : σ.Succeeds p a fun value b => σ.Comes (f (.ok value)) b Q) :
    σ.Comes (attempt p >>= f) a Q := by
  refine Comes.attempted (Leads.mono h ?_)
  rintro _ b ⟨value, rfl, rest⟩
  exact rest

/-- A value counts as one whatever a failure counts as. -/
theorem Succeeds.orFail {p : Fallible ε α} {cause : ε → AgentError} {Q : α → Stand → Prop}
    (h : σ.Succeeds p a Q) : σ.Succeeds (orFail cause p) a Q := by
  refine LeadsTo.bind (Leads.mono h ?_)
  rintro _ b ⟨value, rfl, q⟩
  exact Leads.done ⟨value, rfl, q⟩

theorem Succeeds.mapped {p : Fallible ε α} {f : α → β} {Q : β → Stand → Prop}
    (h : σ.Succeeds p a fun value b => Q (f value) b) : σ.Succeeds (f <$> p) a Q := by
  refine LeadsTo.bind (Leads.mono h ?_)
  rintro _ b ⟨value, rfl, q⟩
  exact Leads.done ⟨f value, rfl, q⟩

theorem Succeeds.mono {p : Fallible ε α} {Q R : α → Stand → Prop} (h : σ.Succeeds p a Q)
    (hQR : ∀ value b, Q value b → R value b) : σ.Succeeds p a R :=
  Leads.mono h fun _ b ⟨value, same, q⟩ => ⟨value, same, hQR value b q⟩

/-- What is answered for good is tried once. -/
theorem Comes.once [Transient ε] {p : Fallible ε α} {Q : Except ε α → Stand → Prop}
    (h : σ.Comes p a fun outcome b =>
      Q outcome b ∧ ∀ cause, outcome = .error cause → isTransient cause = false) :
    σ.Comes (retrying s p) a Q := by
  unfold retrying RetryPolicy.retrying
  cases s.retryPolicy.maxAttempts - 1 with
  | zero => exact Leads.mono h fun _ _ h => h.1
  | succ left =>
    refine LeadsTo.bind (Leads.mono h ?_)
    rintro (cause | value) b ⟨q, final⟩
    · simp only [final cause rfl]
      exact Leads.done q
    · exact Leads.done q

theorem Succeeds.once [Transient ε] {p : Fallible ε α} {Q : α → Stand → Prop}
    (h : σ.Succeeds p a Q) : σ.Succeeds (retrying s p) a Q := by
  refine Comes.once (Leads.mono h ?_)
  rintro _ b ⟨value, rfl, q⟩
  exact ⟨⟨value, rfl, q⟩, nofun⟩

/-! Single requests. -/

variable {request : Request} {task : TaskId}

/-- The request is put to others: nothing that is shared is looked at or changed, and no time passes. -/
def isOutward : Request → Bool
  | .now | .readSession _ | .isAlive .. | .fetch _ | .shutdownRequested | .probeLiveness => true
  | .cancel _ | .beginWatch _ | .endWatch _ | .connect .. | .send .. | .finishSending .. => true
  | .awaitReply .. | .hangUp _ | .breakOff _ => true
  | _ => false

/-- A request to others is free to be answered. -/
theorem LeadsTo.free {Q : request.Reply → Stand → Prop} (outward : isOutward request = true)
    (answered : ∀ past, ∃ reply, σ.replies past (.agent request) = some reply ∧
      Q reply (a.tell (.agent request))) :
    σ.LeadsTo (Agent.ask request) a Q := by
  have own : agentCall request = .call (.agent request) .done := by
    cases request <;> first | rfl | cases outward
  have solid : ∀ wait, Operation.agent request ≠ .agent (.pause wait) := by
    rintro wait same
    cases same
    cases outward
  have free : ∀ (shared : Shared) choice, shared.answerAgent σ.pod request choice =
      choice.map fun reply => (reply, shared) := by
    intro shared choice
    cases request <;> first | rfl | cases outward
  exact .ask (own ▸ Leads.free solid free answered)

/-- A record is read. -/
theorem LeadsTo.read {Q : Except StoreError (Option TaskRecord) → Stand → Prop}
    (healthy : a.store.failures = 0) (h : Q (.ok (a.store.get? task)) a) :
    σ.LeadsTo (Agent.ask (.readTask task)) a Q := by
  refine .ask (Leads.call nofun ?_)
  rintro w rfl
  have read : Store.read task w.shared.store = (.ok (w.shared.store.get? task), w.shared.store) :=
    Store.fallible_of_healthy _ healthy
  refine ⟨_, _, rfl, ?_⟩
  show Q (Store.read task w.shared.store).1 { w.stand σ.pod with
    store := (Store.read task w.shared.store).2 }
  rw [read]
  exact h

/-- A successor is looked for. -/
theorem LeadsTo.findSuccessor {Q : Except StoreError (Option TaskRecord) → Stand → Prop}
    (healthy : a.store.failures = 0) (h : Q (.ok (a.store.successor? task)) a) :
    σ.LeadsTo (Agent.ask (.findSuccessor task)) a Q := by
  refine .ask (Leads.call nofun ?_)
  rintro w rfl
  have looked : Store.findSuccessor task w.shared.store =
      (.ok (w.shared.store.successor? task), w.shared.store) := Store.fallible_of_healthy _ healthy
  refine ⟨_, _, rfl, ?_⟩
  show Q (Store.findSuccessor task w.shared.store).1 { w.stand σ.pod with
    store := (Store.findSuccessor task w.shared.store).2 }
  rw [looked]
  exact h

/-- An update that is expected is written. -/
theorem LeadsTo.update {Q : Except StoreError TaskRecord → Stand → Prop} {r : TaskRecord}
    {expected : Expectation} {change : TaskUpdate} (healthy : a.store.failures = 0)
    (stored : a.store.get? task = some r) (holds : expected.holds r = true)
    (h : Q (.ok (r.apply change)) { a with store := a.store.write task (r.apply change) }) :
    σ.LeadsTo (Agent.ask (.updateTask task expected change)) a Q := by
  refine .ask (Leads.call nofun ?_)
  rintro w rfl
  have written := Store.update_of_holds healthy stored holds change
  refine ⟨_, _, rfl, ?_⟩
  show Q (Store.update task expected change w.shared.store).1 { w.stand σ.pod with
    store := (Store.update task expected change w.shared.store).2 }
  rw [show Store.update task expected change w.shared.store = _ from written]
  exact h

/-- A successor is created where there is none. -/
theorem LeadsTo.create {Q : Except StoreError TaskRecord → Stand → Prop}
    {parent candidate : TaskRecord} (healthy : a.store.failures = 0)
    (first : a.store.successor? parent.id = none)
    (h : Q (.ok candidate) { a with
      store := { a.store with
        successors := a.store.successors.set parent.id candidate.id }.insert candidate }) :
    σ.LeadsTo (Agent.ask (.createSuccessor parent candidate)) a Q := by
  refine .ask (Leads.call nofun ?_)
  rintro w rfl
  have sound : w.shared.store.failures = 0 := healthy
  have missing : w.shared.store.successor? parent.id = none := first
  have created : Store.createSuccessor parent candidate w.shared.store = (.ok candidate,
      { w.shared.store with
        successors := w.shared.store.successors.set parent.id candidate.id }.insert candidate) := by
    unfold Store.createSuccessor
    rw [Store.fallible_of_healthy _ sound]
    simp only [missing]
  refine ⟨_, _, rfl, ?_⟩
  show Q (Store.createSuccessor parent candidate w.shared.store).1 { w.stand σ.pod with
    store := (Store.createSuccessor parent candidate w.shared.store).2 }
  rw [created]
  exact h

/-- A push that is not made to fail. -/
theorem LeadsTo.push {Q : Except QueueError Unit → Stand → Prop} {tasks : List TaskId}
    (works : ∀ past cause, σ.replies past (.agent (.push tasks)) ≠ some (Except.error cause))
    (h : Q (.ok ()) { a with queue := a.queue.push tasks }) :
    σ.LeadsTo (Agent.ask (.push tasks)) a Q := by
  refine .ask (Leads.call nofun ?_)
  rintro w rfl
  have pushed : w.shared.push tasks (σ.replies w.past (.agent (.push tasks))) =
      (.ok (), { w.shared with queue := w.shared.queue.push tasks }) :=
    Shared.push_of_works (works w.past)
  exact ⟨_, _, congrArg some pushed, h⟩

/-- A directory is made, unless that is made to fail. -/
theorem LeadsTo.makeScratch {Q : Except StorageError Unit → Stand → Prop}
    (works : ∀ past cause, σ.replies past (.agent (.makeScratch task)) ≠ some (Except.error cause))
    (h : Q (a.scratch.make task).1 { a with scratch := (a.scratch.make task).2 }) :
    σ.LeadsTo (Agent.ask (.makeScratch task)) a Q := by
  refine .ask (Leads.call nofun ?_)
  rintro w rfl
  refine ⟨_, _, congrArg some (Shared.onScratch_of_works (works w.past)), ?_⟩
  rw [Scene.stand_setScratch]
  exact h

/-- A file is written, unless that is made to fail. -/
theorem LeadsTo.saveScratch {Q : Except StorageError Unit → Stand → Prop} {data : DataId}
    {bytes : List UInt8}
    (works : ∀ past cause,
      σ.replies past (.agent (.saveScratch task data bytes)) ≠ some (Except.error cause))
    (h : Q (a.scratch.save task data bytes).1
      { a with scratch := (a.scratch.save task data bytes).2 }) :
    σ.LeadsTo (Agent.ask (.saveScratch task data bytes)) a Q := by
  refine .ask (Leads.call nofun ?_)
  rintro w rfl
  refine ⟨_, _, congrArg some (Shared.onScratch_of_works (works w.past)), ?_⟩
  rw [Scene.stand_setScratch]
  exact h

/-- The directory is removed. -/
theorem LeadsTo.clearScratch {Q : Unit → Stand → Prop}
    (h : Q () { a with scratch := a.scratch.clear task }) :
    σ.LeadsTo (Agent.ask (.clearScratch task)) a Q := by
  refine .ask (Leads.call nofun ?_)
  rintro w rfl
  refine ⟨(), _, rfl, ?_⟩
  rw [Scene.stand_setScratch]
  exact h

theorem LeadsTo.register {Q : Option RunId → Stand → Prop}
    (h : Q (a.registry.register task).1 { a with registry := (a.registry.register task).2 }) :
    σ.LeadsTo (Agent.ask (.register task)) a Q := by
  refine .ask (Leads.call nofun ?_)
  rintro w rfl
  refine ⟨_, _, rfl, ?_⟩
  rw [Scene.stand_setRegistry]
  exact h

theorem LeadsTo.unregister {Q : Unit → Stand → Prop} {run : RunId}
    (h : Q () { a with registry := a.registry.unregister run }) :
    σ.LeadsTo (Agent.ask (.unregister run)) a Q := by
  refine .ask (Leads.call nofun ?_)
  rintro w rfl
  refine ⟨(), _, rfl, ?_⟩
  rw [Scene.stand_setRegistry]
  exact h

theorem LeadsTo.stopRequested {Q : Bool → Stand → Prop} {run : RunId}
    (h : Q (a.registry.stopRequested run) a) :
    σ.LeadsTo (Agent.ask (.stopRequested run)) a Q := by
  refine .ask (Leads.call nofun ?_)
  rintro w rfl
  exact ⟨_, _, rfl, h⟩

/-- An identifier is made up that is new. -/
theorem LeadsTo.newTaskId {Q : TaskId → Stand → Prop}
      (fresh : ∀ past, ∃ id : TaskId, σ.replies past (.agent .newTaskId) = some id ∧
      a.store.get? id = none ∧ id ∉ a.issued ∧ Q id { a with issued := id :: a.issued }) :
    σ.LeadsTo (Agent.ask .newTaskId) a Q := by
  refine .ask (Leads.call nofun ?_)
  rintro w rfl
  obtain ⟨id, chosen, unknown, unissued, q⟩ := fresh w.past
  refine ⟨id, { w.shared with issued := id :: w.shared.issued }, ?_, q⟩
  show Option.bind (α := TaskId) (σ.replies w.past (.agent .newTaskId)) _ = _
  rw [show σ.replies w.past (.agent .newTaskId) = some id from chosen]
  exact if_pos (Shared.isNew_iff.mpr ⟨unknown, unissued⟩)

theorem LeadsTo.dispose {Q : Except QueueError Unit → Stand → Prop} {message : DeliveryId}
    {disposition : Disposition} (h : Q (a.queue.dispose message disposition).1
      { a with queue := (a.queue.dispose message disposition).2 }) :
    σ.LeadsTo (Agent.ask (.dispose message disposition)) a Q := by
  refine .ask (Leads.call nofun ?_)
  rintro w rfl
  exact ⟨_, _, rfl, h⟩

theorem LeadsTo.settle {Q : Except QueueError Unit → Stand → Prop} {message : DeliveryId}
    (h : Q (.ok ()) { a with queue := a.queue.settle message a.time }) :
    σ.LeadsTo (Agent.ask (.settle message)) a Q := by
  refine .ask (Leads.call nofun ?_)
  rintro w rfl
  exact ⟨_, _, rfl, h⟩

end

end Surroundings

end GridAgent.Cluster
