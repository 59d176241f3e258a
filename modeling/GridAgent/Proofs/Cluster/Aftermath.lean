import GridAgent.Proofs.Cluster.Stand

/-!
# Results settled alone

The finalizer works on nothing but the store and the queue. With nobody else about, a task that has
ended makes its outputs available and pushes whomever they freed, all at once, or gives its outputs
up, and with them those of whoever fails for it.
-/

namespace GridAgent

/-- Pushing nothing changes nothing. -/
theorem Queue.push_nil (q : Queue) : q.push [] = q := by
  unfold push
  rw [List.append_nil]

namespace Cluster

open Agent Surroundings

/-- Calls of a finalizer, one by one. -/
def finalizerSteps {α : Type} (p : Program Finalizer.collaborators α) : Program operations α :=
  Program.expand (I := Finalizer.collaborators) (J := operations)
    (fun request => .call (.finalizer request) .done) p

namespace Surroundings

variable {σ : Surroundings} {α β : Type} {a : Stand} {task : TaskId} {data : DataId}
  {outputs : List DataId} {r : TaskRecord}

/-- Alone, the work of a finalizer leads from a stand to its end. -/
abbrev LeadsBehind (σ : Surroundings) (p : Program Finalizer.collaborators α) (a : Stand)
    (Q : α → Stand → Prop) : Prop :=
  σ.Leads (finalizerSteps p) a Q

/-- What a finalizer finds besides the store: a clock, and a queue that takes what is pushed. -/
structure Equips (σ : Surroundings) : Prop where
  /-- The clock can be read. -/
  clock : ∀ past, ∃ now : Date, σ.replies past (.finalizer .now) = some now
  /-- Pushes work. -/
  pushes : ∀ past tasks cause,
    σ.replies past (.finalizer (.push tasks)) ≠ some (Except.error cause)

/-- The tasks can be counted, and no count is behind. -/
def Counts (σ : Surroundings) (s : Store) : Prop :=
  ∀ past, ∃ count : Nat, σ.replies past (.finalizer .countTasks) = some count ∧
    s.tasks.keys.length ≤ count

/-- Another version of a record counts the same. -/
theorem Counts.write {s : Store} (counts : σ.Counts s) (stored : s.get? task = some r)
    (r' : TaskRecord) : σ.Counts (s.write task r') := by
  unfold Counts
  rw [Store.keys_write stored]
  exact counts

theorem LeadsBehind.bind {p : Program Finalizer.collaborators α}
    {f : α → Program Finalizer.collaborators β} {Q : β → Stand → Prop}
    (h : σ.LeadsBehind p a fun value b => σ.LeadsBehind (f value) b Q) :
    σ.LeadsBehind (p.bind f) a Q := by
  have parts : finalizerSteps (p.bind f) =
      (finalizerSteps p).bind fun value => finalizerSteps (f value) :=
    Program.expand_bind (I := Finalizer.collaborators) (J := operations) _ p f
  show σ.Leads (finalizerSteps (p.bind f)) a Q
  rw [parts]
  exact Leads.bind h

/-- A request of a finalizer leads to where its call does. -/
theorem LeadsBehind.ask {request : Finalizer.Request} {Q : request.Reply → Stand → Prop}
    (h : σ.Leads (.call (.finalizer request) .done) a Q) :
    σ.LeadsBehind (Finalizer.ask request) a Q := h

theorem LeadsBehind.clock {Q : Date → Stand → Prop} (equips : σ.Equips) (h : ∀ now, Q now a) :
    σ.LeadsBehind Finalizer.readClock a Q :=
  .ask (.free nofun (fun _ _ => rfl) fun past =>
    let ⟨now, read⟩ := equips.clock past
    ⟨now, read, h now⟩)

/-- The count is one that is given. -/
theorem LeadsBehind.countTasks {Q : Nat → Stand → Prop} (counts : σ.Counts a.store)
    (h : ∀ count, Q count a) : σ.LeadsBehind Finalizer.countTasks a Q := by
  refine .ask (.call nofun ?_)
  rintro w rfl
  obtain ⟨count, counted, enough⟩ := counts w.past
  refine ⟨count, w.shared, ?_, h count⟩
  have enough : w.shared.store.taskIds.length ≤ count := by
    unfold Store.taskIds
    rw [List.length_mergeSort]
    exact enough
  show Option.bind (α := Nat) (σ.replies w.past (.finalizer .countTasks)) _ = _
  rw [show σ.replies w.past (.finalizer .countTasks) = some count from counted]
  exact if_pos enough

/-- A record is read. -/
theorem LeadsBehind.readTask {Q : Except AgentError (Option TaskRecord) → Stand → Prop}
    (healthy : a.store.failures = 0) (h : Q (.ok (a.store.get? task)) a) :
    σ.LeadsBehind (Finalizer.readTask task) a Q := by
  have read : σ.Leads (.call (.finalizer (.readTask task)) .done) a fun answer b =>
      answer = Except.ok (a.store.get? task) ∧ b = a := by
    refine .call nofun ?_
    rintro w rfl
    have read : Store.read task w.shared.store = (.ok (w.shared.store.get? task), w.shared.store) :=
      Store.fallible_of_healthy _ healthy
    refine ⟨_, _, rfl, congrArg Prod.fst read, ?_⟩
    show { w.stand σ.pod with store := (Store.read task w.shared.store).2 } = w.stand σ.pod
    rw [read]
    rfl
  refine LeadsBehind.bind (p := Finalizer.ask (.readTask task)) (Leads.mono read ?_)
  rintro _ _ ⟨rfl, rfl⟩
  exact Leads.done h

theorem LeadsBehind.resolve {Q : List TaskId → Stand → Prop} {now : Date}
    (h : ∀ visit, Q (a.store.resolveDataIn visit data now).1
      { a with store := (a.store.resolveDataIn visit data now).2 }) :
    σ.LeadsBehind (Finalizer.resolve data now) a Q := by
  refine .ask (.call nofun ?_)
  rintro w rfl
  exact ⟨_, _, rfl, h _⟩

theorem LeadsBehind.giveUp {Q : List TaskId → Stand → Prop} {now : Date}
    (h : ∀ visit, Q (a.store.abortDataIn visit data now).1
      { a with store := (a.store.abortDataIn visit data now).2 }) :
    σ.LeadsBehind (Finalizer.giveUp data now) a Q := by
  refine .ask (.call nofun ?_)
  rintro w rfl
  exact ⟨_, _, rfl, h _⟩

theorem LeadsBehind.push {Q : Except AgentError Unit → Stand → Prop} {tasks : List TaskId}
    (equips : σ.Equips) (h : Q (.ok ()) { a with queue := a.queue.push tasks }) :
    σ.LeadsBehind (Finalizer.push tasks) a Q := by
  have push : σ.Leads (.call (.finalizer (.push tasks)) .done) a fun answer b =>
      answer = Except.ok () ∧ b = { a with queue := a.queue.push tasks } := by
    refine .call nofun ?_
    rintro w rfl
    have pushed : w.shared.push tasks (σ.replies w.past (.finalizer (.push tasks))) =
        (.ok (), { w.shared with queue := w.shared.queue.push tasks }) :=
      Shared.push_of_works (equips.pushes w.past tasks)
    exact ⟨_, _, congrArg some pushed, rfl, rfl⟩
  refine LeadsBehind.bind (p := Finalizer.ask (.push tasks)) (Leads.mono push ?_)
  rintro _ _ ⟨rfl, rfl⟩
  exact Leads.done h

/-- After work of a finalizer that comes to a value. -/
theorem LeadsBehind.andThen {p : Finalizer.Action α} {f : α → Finalizer.Action β}
    {Q : Except AgentError β → Stand → Prop}
    (h : σ.LeadsBehind p.run a fun outcome b =>
      ∃ value, outcome = .ok value ∧ σ.LeadsBehind (f value).run b Q) :
    σ.LeadsBehind (p >>= f).run a Q := by
  refine LeadsBehind.bind (Leads.mono h ?_)
  rintro _ b ⟨value, rfl, rest⟩
  exact rest

/-- After work of a finalizer that cannot fail. -/
theorem LeadsBehind.after {p : Program Finalizer.collaborators α} {f : α → Finalizer.Action β}
    {Q : Except AgentError β → Stand → Prop}
    (h : σ.LeadsBehind p a fun value b => σ.LeadsBehind (f value).run b Q) :
    σ.LeadsBehind (liftM p >>= f : Finalizer.Action β).run a Q :=
  LeadsBehind.andThen (LeadsBehind.bind (h.mono fun value _ rest => Leads.done ⟨value, rfl, rest⟩))

/-! Outputs become available. -/

theorem LeadsBehind.resolveAll (equips : σ.Equips) (outputs : List DataId) :
    σ.LeadsBehind (Finalizer.resolveAll outputs) a fun woken b =>
      ∃ store, b = { a with store } ∧ Store.Produced a.store outputs woken store := by
  induction outputs generalizing a with
  | nil => exact Leads.done ⟨a.store, rfl, .refl _⟩
  | cons data rest ih =>
    refine .bind (.clock equips fun now => .bind (.resolve fun visit => .bind (Leads.mono ih ?_)))
    rintro more _ ⟨store, rfl, produced⟩
    have first := Store.produced_resolveDataIn visit a.store data now
    exact Leads.done ⟨store, rfl, first.trans produced⟩

/-- The outputs of a task become available, and whoever is freed is pushed. -/
theorem LeadsBehind.finalize (equips : σ.Equips) (healthy : a.store.failures = 0)
    (stored : a.store.get? task = some r) :
    σ.LeadsBehind (Finalizer.finalize task).run a fun outcome b =>
      outcome = .ok () ∧ ∃ woken store,
        b = { a with store, queue := a.queue.push woken } ∧
          Store.Produced a.store r.outputs woken store := by
  refine .andThen (.readTask healthy ⟨_, rfl, ?_⟩)
  rw [stored]
  refine .after (Leads.mono (LeadsBehind.resolveAll equips r.outputs) ?_)
  rintro woken _ ⟨store, rfl, produced⟩
  cases woken with
  | nil =>
    refine Leads.done ⟨rfl, [], store, ?_, produced⟩
    rw [Queue.push_nil]
  | cons first others => exact .push equips ⟨rfl, _, store, rfl, produced⟩

/-! Outputs are given up. -/

theorem LeadsBehind.giveUpAll (equips : σ.Equips) (outputs : List DataId) :
    σ.LeadsBehind (Finalizer.giveUpAll outputs) a fun _ b =>
      ∃ store, b = { a with store } ∧ Store.GaveUp a.store store ∧
        ∀ data ∈ outputs, data ∈ store.aborted := by
  induction outputs generalizing a with
  | nil => exact Leads.done ⟨a.store, rfl, .refl _, nofun⟩
  | cons data rest ih =>
    refine .bind (.clock equips fun now => .bind (.giveUp fun visit => .bind (Leads.mono ih ?_)))
    rintro more _ ⟨store, rfl, gaveUp, aborted⟩
    have first := Store.gaveUp_abortDataIn visit a.store data now
    refine Leads.done ⟨store, rfl, first.trans gaveUp, ?_⟩
    rw [List.forall_mem_cons]
    exact ⟨gaveUp.grows data (IdSet.mem_insert.mpr (.inl rfl)), aborted⟩

/-- The outputs of one task are given up, if it is stored. -/
theorem LeadsBehind.abandonOne (equips : σ.Equips) (healthy : a.store.failures = 0) :
    σ.LeadsBehind (Finalizer.abandonOne task).run a fun outcome b =>
      ∃ failed store, outcome = .ok failed ∧ b = { a with store } ∧ Store.GaveUp a.store store ∧
        ∀ r, a.store.get? task = some r → ∀ data ∈ r.outputs, data ∈ store.aborted := by
  refine .andThen (.readTask healthy ⟨_, rfl, ?_⟩)
  cases hr : a.store.get? task with
  | none => exact Leads.done ⟨[], a.store, rfl, rfl, .refl _, fun _ h => nomatch h⟩
  | some r =>
    refine .bind (Leads.mono (LeadsBehind.giveUpAll equips r.outputs) ?_)
    rintro failed _ ⟨store, rfl, gaveUp, aborted⟩
    refine Leads.done ⟨failed, store, rfl, rfl, gaveUp, ?_⟩
    rintro _ ⟨⟩
    exact aborted

theorem LeadsBehind.abandonWithin (equips : σ.Equips) (healthy : a.store.failures = 0)
    (rounds : Nat) (pending : List TaskId) :
    σ.LeadsBehind (Finalizer.abandonWithin rounds pending).run a fun outcome b =>
      outcome = .ok () ∧ ∃ store, b = { a with store } ∧ Store.GaveUp a.store store := by
  induction rounds generalizing a pending with
  | zero => exact Leads.done ⟨rfl, a.store, rfl, .refl _⟩
  | succ rounds ih =>
    unfold Finalizer.abandonWithin
    cases pending.getLast? with
    | none => exact Leads.done ⟨rfl, a.store, rfl, .refl _⟩
    | some task =>
      refine .andThen (Leads.mono (LeadsBehind.abandonOne equips healthy) ?_)
      rintro _ _ ⟨failed, store, rfl, rfl, gaveUp, -⟩
      refine ⟨failed, rfl, Leads.mono (ih (gaveUp.failures.trans healthy) _) ?_⟩
      rintro _ _ ⟨rfl, store', rfl, gaveUp'⟩
      exact ⟨rfl, store', rfl, gaveUp.trans gaveUp'⟩

/-- The outputs of a stored task are given up, and whatever follows from that is done. -/
theorem LeadsBehind.abandon (equips : σ.Equips) (counts : σ.Counts a.store)
    (healthy : a.store.failures = 0) (stored : a.store.get? task = some r) :
    σ.LeadsBehind (Finalizer.abandon task).run a fun outcome b =>
      outcome = .ok () ∧ ∃ store, b = { a with store } ∧ Store.GaveUp a.store store ∧
        ∀ data ∈ r.outputs, data ∈ store.aborted := by
  refine .after (.countTasks counts fun count => ?_)
  unfold Finalizer.abandonWithin
  refine .andThen (Leads.mono (LeadsBehind.abandonOne equips healthy) ?_)
  rintro _ _ ⟨failed, store, rfl, rfl, gaveUp, aborted⟩
  have others := LeadsBehind.abandonWithin (a := { a with store }) equips
    (gaveUp.failures.trans healthy) count failed
  refine ⟨failed, rfl, Leads.mono others ?_⟩
  rintro _ _ ⟨rfl, store', rfl, gaveUp'⟩
  exact ⟨rfl, store', rfl, gaveUp.trans gaveUp', fun data hd =>
    gaveUp'.grows data (aborted r stored data hd)⟩

/-! The same as calls of an agent. -/

theorem Succeeds.finalize (equips : σ.Equips) (healthy : a.store.failures = 0)
    (stored : a.store.get? task = some r) :
    σ.Succeeds (Call.finalize task) a fun _ b => ∃ woken store,
      b = { a with store, queue := a.queue.push woken } ∧
        Store.Produced a.store r.outputs woken store :=
  LeadsTo.ask (Leads.mono (LeadsBehind.finalize equips healthy stored)
    fun _ _ ⟨done, rest⟩ => ⟨(), done, rest⟩)

/-- Results that are given up, whether or not a failure would be let go. -/
theorem Succeeds.abandonResults {ε : Type} (equips : σ.Equips) (counts : σ.Counts a.store)
    (healthy : a.store.failures = 0) (stored : a.store.get? task = some r) :
    σ.Succeeds (abandonResults task : Fallible ε Unit) a fun _ b => ∃ store,
      b = { a with store } ∧ Store.LeftWithout r.outputs a.store store [] := by
  refine Comes.after (LeadsTo.ask (Leads.mono (LeadsBehind.abandon equips counts healthy stored) ?_))
  rintro _ b ⟨rfl, store, rfl, gaveUp, aborted⟩
  exact Leads.done ⟨(), rfl, store, rfl, gaveUp, aborted, rfl⟩

end Surroundings

end Cluster

end GridAgent
