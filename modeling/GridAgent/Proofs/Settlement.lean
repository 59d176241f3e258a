import GridAgent.Proofs.Handler.Bench

/-!
# One settlement of a message

Whatever the store, the sessions, the checker, the storage, the worker and the finalizer answer, and
whatever others do meanwhile, a handler that comes to its end has settled its message once. A report
says how the message was decided on. A handling that failed has left the message undecided, so it is
released: neither done with nor rejected.
-/

namespace GridAgent.Cluster

open Agent Program

variable {s : Settings} {message : DeliveryId} {task : TaskId} {b b' : Bench}

/-- What a handler returns, from how the handling ended and how the settlement was answered: a failure
of the handling outweighs one of the settlement. -/
def concluded (processed : Except AgentError HandlerReport) (settled : Except QueueError Unit) :
    Except AgentError HandlerReport :=
  match processed, settled with
  | .error cause, _ => .error cause
  | .ok report, .ok () => .ok report
  | .ok _, .error cause => .error (.queue cause)

/-- After the handling a handler settles, whatever came of it, and returns. -/
theorem handleMessage_eq :
    (handleMessage s message task).run = (process s message task).run.bind fun processed =>
      .call (.settle message) fun settled => .done (concluded processed settled) := by
  refine (bind_assoc _ _ _).trans (congrArg _ (funext fun processed => ?_))
  refine congrArg (Program.call (I := collaborators) (.settle message)) (funext fun settled => ?_)
  rcases processed with cause | report <;> rcases settled with cause' | _ <;> rfl

/-- The settlement that follows the handling keeps to the rules. -/
theorem settles_follows {processed : Except AgentError HandlerReport} :
    (Program.call (I := collaborators) (.settle message) fun settled =>
      .done (concluded processed settled)).Follows (Docket.rules message) (Docket.after processed)
        fun outcome k => ∃ reply, outcome = concluded processed reply ∧
          k = { Docket.after processed with settled := some reply } := by
  refine ⟨⟨rfl, ?_, ?_⟩, fun reply _ => ⟨reply, rfl, rfl⟩⟩ <;> cases processed <;> rfl

/-- A handler of a message about a task has come to its end at a bench, with one settlement. -/
structure HasSettled (message : DeliveryId) (task : TaskId)
    (processed outcome : Except AgentError HandlerReport) (settling : Settling) (b : Bench) : Prop where
  /-- There was one settlement by the handler. -/
  once : b.settlings = [settling]
  /-- It was one of the message. -/
  own : settling.message = message
  /-- The message was in flight until then. -/
  held : (settling.before.held? message).isSome = true
  /-- It is no longer. -/
  gone : settling.after.held? message = none
  /-- The queue has written down what had been decided. -/
  recorded : settling.after.settlements =
    settling.before.settlements ++ [(task, settling.before.dispositionOf message)]
  /-- The report says what had been decided. -/
  reported : ∀ report, processed = .ok report →
    report.disposition = settling.before.dispositionOf message
  /-- After a failure nothing had been decided, and the message is released. -/
  failed : ∀ cause, processed = .error cause →
    settling.before.dispositionOf message = .waiting ∧
      settling.after.acked = settling.before.acked ∧
      settling.after.deadLetters = settling.before.deadLetters ∧
      (task ∈ settling.after.ready ∨ ∃ r ∈ settling.after.delayed, r.task = task)
  /-- The handler returns the report or the failure, unless the settlement was answered by one. -/
  outcome : outcome = concluded processed settling.reply
  /-- The executions that the handler has registered are not registered. -/
  unregistered : ∀ run ∈ b.runs, b.registry.Lacks run

/-- A settlement that waits touches neither what is done with nor what is rejected. -/
theorem settle_waiting {q : Queue} (held : q.held? message = some { task }) (now : Nat) :
    (q.settle message now).acked = q.acked ∧ (q.settle message now).deadLetters = q.deadLetters ∧
      (task ∈ (q.settle message now).ready ∨ ∃ r ∈ (q.settle message now).delayed, r.task = task) := by
  have back : q.settle message now = Queue.release
      { q with
        held := q.held.erase message
        inFlight := q.inFlight - 1
        settlements := q.settlements ++ [(task, .waiting)] } task now := by
    unfold Queue.settle
    rw [held]
    rfl
  refine ⟨?_, ?_, ?_⟩
  · rw [back, Queue.release_rest]
  · rw [back, Queue.release_rest]
  · rcases q.settle_cases message now with ⟨none, -⟩ | ⟨delivery, hd, -, -, -, -, back⟩
    · cases held.symm.trans none
    · obtain rfl := Option.some.inj (held.symm.trans hd)
      exact back rfl

/-- At the end of a run the docket and the bench say that the message was settled once. -/
theorem Bench.Fits.hasSettled {processed : Except AgentError HandlerReport}
    {reply : Except QueueError Unit}
    (fits : Bench.Fits message task { Docket.after processed with settled := some reply } b) :
    ∃ settling, HasSettled message task processed (concluded processed reply) settling b := by
  obtain ⟨before, now, held, settlings⟩ := fits.settled reply rfl
  have settles := Queue.settle_settles held now
  have disposition : before.dispositionOf message = (Docket.after processed).decided.getD .waiting := by
    unfold Queue.dispositionOf
    rw [held]
    rfl
  refine ⟨_, settlings, rfl, ?_, ?_, ?_, ?_, ?_, rfl, ?_⟩
  · rw [held]
    rfl
  · rw [Queue.held?_settle, if_pos rfl]
  · rw [disposition]
    exact settles.settlements
  · rintro report rfl
    rw [disposition]
    exact (Docket.recorded_getD report.disposition).symm
  · rintro cause rfl
    exact ⟨disposition, settle_waiting held now⟩
  · intro run hm
    refine (fits.runs run hm).resolve_left ?_
    cases processed <;> exact nofun

/-- However a handler is answered and whatever others do, it settles at most once, and when it has come
to its end it has settled its message once: as the report says, or, if the handling failed, undecided,
so that the message is released. Its executions are not registered then or later. Until it ends, or
breaks off, it can be answered. -/
theorem message_settled_once {queue : Queue} {registry : Registry}
    {rest : Program collaborators (Except AgentError HandlerReport)}
    (held : queue.held? message = some { task }) (coherent : registry.Coherent)
    (run : Bench.Runs message (handleMessage s message task).run { queue, registry } b' rest) :
    b'.settlings.length ≤ 1 ∧
    (∀ outcome, rest = .done outcome → ∃ processed between settling,
      Bench.Runs message (process s message task).run { queue, registry } between (.done processed) ∧
        HasSettled message task processed outcome settling b') ∧
    ∀ request next, rest = .call request next →
      (∃ run, request = .breakOff run) ∨ ∃ reply b'', b'.Answers request reply b'' := by
  have fresh : Bench.Fits message task {} { queue, registry } := .fresh held rfl rfl coherent
  rw [handleMessage_eq] at run
  rcases run.of_bind with ⟨first, handled, rfl⟩ | ⟨processed, between, handled, later⟩
  · obtain ⟨k, fits, -⟩ := handled.follows fresh Docket.process_follows
    refine ⟨fits.length_settlings, fun outcome ends => ?_, fun request _ _ => b'.answerable request⟩
    -- the settlement comes after the handling
    cases first <;> cases ends
  · obtain ⟨_, fits, rfl⟩ := handled.follows fresh Docket.process_follows
    obtain ⟨k, fits, follows⟩ := later.follows fits settles_follows
    refine ⟨fits.length_settlings, fun outcome ends => ?_, fun request _ _ => b'.answerable request⟩
    subst ends
    obtain ⟨reply, rfl, rfl⟩ := follows
    obtain ⟨settling, settled⟩ := fits.hasSettled
    exact ⟨processed, between, settling, handled, settled⟩

/-- A message about the plain task in the hands of a handler. -/
def plainBench : Bench := { queue := (({} : Queue).deliver plainTask.id).2 }

/-- A handler registers its execution when the agent shuts down, and the task is gone when it is to be
handed back. The handler fails, its message is released, and the execution is registered no more. -/
theorem message_settled_once_registered :
    ∃ b' cause settling, Bench.Runs 1 (handleMessage (plainFleet.settings ⟨"first"⟩) 1 plainTask.id).run
        plainBench b' (.done (.error cause)) ∧
      b'.settlings = [settling] ∧ settling.before.dispositionOf 1 = .waiting ∧
      settling.after.acked = settling.before.acked ∧
      settling.after.deadLetters = settling.before.deadLetters ∧
      b'.runs = [0] ∧ b'.registry.Lacks 0 := by
  have begins : Bench.Runs 1 (handleMessage (plainFleet.settings ⟨"first"⟩) 1 plainTask.id).run
      plainBench plainBench _ := .start
  have read := begins.answered (.aside (.readTask plainTask.id) rfl (.ok (some plainTask)))
  have known := read.answered (.aside (.readSession plainTask.session) rfl
    (.ok (some (SessionRecord.running plainTask.session))))
  have decided := (known.answered (.aside .now rfl noon)).answered
    (.aside .shutdownRequested rfl false)
  have claimed := (decided.answered (.aside .now rfl noon)).answered (.aside (.updateTask ..) rfl
    (.ok (plainTask.apply (.dispatch ⟨"first"⟩ "first" noon))))
  have registered := claimed.answered (.registered plainTask.id)
  have stops := (registered.answered (.aside .shutdownRequested rfl true)).answered
    (.aside .now rfl noon)
  have fails := stops.answered (.aside (.updateTask ..) rfl (.error (.notFound plainTask.id)))
  have leaves := (fails.answered (.unregistered 0)).answered
    (.aside (.clearScratch plainTask.id) rfl ())
  have run := leaves.answered (.settled 1 0 (.ok ()))
  obtain ⟨processed, between, settling, -, settled⟩ :=
    (message_settled_once rfl Registry.coherent_empty run).2.1 _ rfl
  have outcome := settled.outcome
  cases processed with
  | ok report => cases reply : settling.reply <;> rw [reply] at outcome <;> cases outcome
  | error cause =>
    obtain ⟨waiting, acked, deadLetters, -⟩ := settled.failed cause rfl
    exact ⟨_, _, settling, run, settled.once, waiting, acked, deadLetters, rfl,
      settled.unregistered 0 List.mem_cons_self⟩

end GridAgent.Cluster
