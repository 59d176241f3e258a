import GridAgent.Proofs.Simulation.Wiring

/-!
# Scripts keep the wiring

Every script of a scenario keeps the world wired well. Most leave the controls alone. The others
fire tokens that anyone may fire, name streams that are cut off by such tokens, or run on a seat
whose token for shutting down is such a token.
-/

namespace GridAgent.Simulation

open Agent Script

variable {s : Wired} {α : Type} {token : Token} {seat : Seat}

/-! Collaborators. -/

theorem safe_onStore (call : Store → α × Store) : (onStore call).Safe wired s :=
  safe_of_controls fun _ => rfl

theorem safe_onQueue (call : Queue → α × Queue) : (onQueue call).Safe wired s :=
  safe_of_controls fun _ => rfl

theorem safe_onScratch (call : Scratch → α × Scratch) : (onScratch call).Safe wired s :=
  safe_of_controls fun _ => rfl

theorem safe_onStoreNow (call : Date → Store → α × Store) : (onStoreNow call).Safe wired s :=
  safe_of_controls fun _ => rfl

/-- A call to the worker that opens no stream is safe. -/
theorem safe_onWorker {call : Worker → α × Worker}
    (h : ∀ worker, (call worker).2.connections = worker.connections) :
    (onWorker call).Safe wired s :=
  safe_of_controls fun w =>
    congrArg (fun connections => { w.controls with connections }) (h w.worker)

theorem safe_playPullRequest (cancel : Token) (request : PullRequest) :
    (playPullRequest cancel request).Safe wired s := by
  cases request with
  | look most => exact safe_onQueue fun q => q.take most
  | wait => exact safe_gets.bind fun _ _ _ => safe_gets.bind fun _ _ _ => safe_await

theorem safe_pullMessages (most : Nat) (cancel : Token) :
    (pullMessages most cancel).Safe wired s := by
  unfold pullMessages
  generalize plenty = looks
  induction looks generalizing s with
  | zero => exact safe_pure
  | succ looks ih =>
    refine (safe_playProgram (fun request _ _ => safe_playPullRequest cancel request) _).bind
      fun answer t _ => ?_
    cases answer with
    | none => exact ih
    | some answer => exact safe_pure

theorem connections_close (worker : Worker) (stream : StreamId) :
    (worker.close stream).connections = worker.connections := by
  unfold Worker.close
  split <;> rfl

theorem connections_noteCall (worker : Worker) (stream : StreamId) :
    (worker.noteCall stream).connections = worker.connections := by
  unfold Worker.noteCall
  split <;> rfl

theorem safe_sendOn (stream : StreamId) (request : WorkRequest) :
    (sendOn stream request).Safe wired s := by
  refine safe_of_controls fun w => ?_
  split <;> rfl

theorem safe_replyOn (stream : StreamId) : (replyOn stream).Safe wired s := by
  refine (safe_onWorker fun worker => connections_noteCall worker stream).bind fun _ _ _ => ?_
  refine safe_gets.bind fun reply _ _ => ?_
  cases reply with
  | now answer => exact safe_pure
  | after wait output => exact safe_gets.bind fun _ _ _ => safe_await
  | never => exact safe_await

/-! Steps on the collaborators. -/

/-- A change that leaves the controls alone is safe. -/
theorem safe_change {f : World → World} (h : ∀ w, (f w).controls = w.controls) :
    (change f).Safe wired s :=
  Safe.bind (safe_of_controls h) fun _ _ _ => safe_pure

theorem safe_observe (f : World → Answer) : (observe f).Safe wired s := safe_gets

theorem safe_pullStep (most : Nat) (cancelled : Bool) (base : String) :
    (pullStep most cancelled base).Safe wired s := by
  refine (leads_makeToken none).bind fun cancel t _ plain => ?_
  cases cancelled
  case' true => refine (safe_fire (.inl plain)).bind fun _ _ _ => ?_
  all_goals
    refine safe_gets.bind fun _ _ _ => (safe_pullMessages most cancel).bind fun pulled _ _ => ?_
    cases pulled with
    | error cause => exact safe_pure
    | ok messages => exact Safe.bind (safe_of_controls fun _ => rfl) fun _ _ _ => safe_gets

theorem safe_withMessage (name : String) {f : DeliveryId → World → Answer × World}
    (h : ∀ message w, (f message w).2.controls = w.controls) :
    (withMessage name f).Safe wired s := by
  refine safe_of_controls fun w => ?_
  split
  · exact h _ w
  · rfl

theorem safe_disposeStep (name : String) (disposition : Disposition) :
    (disposeStep name disposition).Safe wired s := by
  refine safe_withMessage name fun _ _ => ?_
  rfl

theorem safe_settleStep (name : String) : (settleStep name).Safe wired s := by
  refine safe_withMessage name fun _ _ => ?_
  rfl

/-- A stream that gets a name is cut off by a token of its own. -/
theorem safe_connectStep (task : TaskId) (name : String) (deadline : Option Date) :
    (connectStep task name deadline).Safe wired s := by
  refine (leads_makeToken none).bind fun abort t _ plain => ?_
  refine (leads_openStream task abort deadline).bind fun opened u hu cuts => ?_
  cases opened with
  | error cause => exact safe_pure
  | ok stream =>
    refine Safe.bind ?_ fun _ _ _ => safe_pure
    refine safe_modify fun v hv => ⟨v.wiring, ?_, .refl _ _⟩
    have named := v.sound.name name ((cuts stream rfl).later hv) (plain.later (wired.trans hu hv))
    refine named.stay ?_
    cases v.world.streams.get? name with
    | none => rfl
    | some old => exact connections_close _ _

/-- Who has the name of a stream may cut it off. -/
theorem safe_withStream (name : String) {f : StreamId → Play Answer}
    (h : ∀ stream token t, t.Cuts token stream → t.Plain token → (f stream).Safe wired t) :
    (withStream name f).Safe wired s := by
  have named : (gets fun w : World => w.streams.get? name).Leads wired s fun found t =>
      ∀ stream, found = some stream → ∃ token, t.Cuts token stream ∧ t.Plain token :=
    leads_gets fun t _ stream found => t.sound.named name stream found
  refine named.bind fun found t _ known => ?_
  cases found with
  | none => exact safe_pure
  | some stream =>
    obtain ⟨token, cuts, plain⟩ := known stream rfl
    exact h stream token t cuts plain

theorem safe_replyStep {stream : StreamId} (cuts : s.Cuts token stream) (plain : s.Plain token)
    (abortAt : Option Nat) : (replyStep stream abortAt).Safe wired s := by
  refine safe_gets.bind fun start t ht => ?_
  have reply (u : Wired) : (replyOn stream >>= fun result => timer >>= fun stop =>
      pure (Answer.replied result (stop - start))).Safe wired u :=
    (safe_replyOn stream).bind fun _ _ _ => safe_gets.bind fun _ _ _ => safe_pure
  cases abortAt with
  | none => exact reply t
  | some millis =>
    have later : (do sleep millis; cutOff stream).Safe wired t :=
      (safe_sleep millis).bind fun _ u hu =>
        safe_cutOff ((cuts.later ht).later hu) ((plain.later ht).later hu)
    exact (safe_spawn later).bind fun _ u _ => reply u

theorem safe_dropStep (name : String) : (dropStep name).Safe wired s := by
  refine Safe.bind (safe_modify fun t _ => ⟨t.wiring, ?_⟩) fun _ _ _ => safe_pure
  cases found : t.world.streams.get? name with
  | none => exact ⟨t.sound, .refl _ _⟩
  | some stream =>
    exact ⟨(t.sound.unname name).stay (connections_close t.world.worker stream), .refl _ _⟩

/-- Every step on the collaborators keeps the wiring. -/
theorem safe_plainStep (step : PlainStep) : (plainStep step).Safe wired s := by
  cases step with
  | read task => exact (safe_onStore _).map _
  | update task expected draft => exact (safe_onStoreNow _).map _
  | createSuccessor parent id => exact (safe_onStoreNow _).map _
  | createAs parent candidate => exact (safe_onStoreNow _).map _
  | findSuccessor task => exact (safe_onStore _).map _
  | resolveData data => exact (safe_onStoreNow _).map _
  | abortData data => exact (safe_onStoreNow _).map _
  | isAlive pod =>
    unfold plainStep
    exact safe_of_controls fun _ => rfl
  | push tasks =>
    unfold plainStep
    exact safe_of_controls fun _ => rfl
  | sleep millis => exact (safe_sleep millis).bind fun _ _ _ => safe_pure
  | shutdown =>
    exact (safe_fireOf (f := World.shutdown) fun t _ => t.sound.shutdown).bind
      fun _ _ _ => safe_pure
  | deliver task message =>
    exact (safe_onQueue _).bind fun _ _ _ => safe_of_controls fun _ => rfl
  | pull most cancelled messages => exact safe_pullStep most cancelled messages
  | setDisposition message disposition => exact safe_disposeStep message disposition
  | settle message => exact safe_settleStep message
  | connect task stream deadline => exact safe_connectStep task stream deadline
  | send stream data path =>
    exact safe_withStream stream fun stream _ _ _ _ => (safe_sendOn stream _).map _
  | finishSending stream => exact safe_withStream stream fun _ _ _ _ _ => safe_pure
  | awaitReply stream abortAt =>
    exact safe_withStream stream fun _ _ _ cuts plain => safe_replyStep cuts plain abortAt
  | abortStream stream =>
    exact safe_withStream stream fun _ _ _ cuts plain =>
      (safe_cutOff cuts plain).bind fun _ _ _ => safe_pure
  | dropStream stream => exact safe_dropStep stream
  | _ => first | exact safe_change fun _ => rfl | exact safe_observe _

theorem safe_plainSteps (steps : List PlainStep) : (plainSteps steps).Safe wired s := by
  induction steps generalizing s with
  | nil => exact safe_pure
  | cons step rest ih =>
    exact (safe_plainStep step).bind fun _ _ _ => ih.bind fun _ _ _ => safe_pure

/-! Calls of the agent. -/

/-- Hooks keep the wiring, and so does a call under hooks if it does itself. -/
theorem safe_hooked (point : Point) {call : Play (Except point.Failure α)}
    (h : ∀ t, wired.Later s t → call.Safe wired t) : (hooked point call).Safe wired s := by
  have hooks (t : Wired) (some : List Hook) : (playHooks point some).Safe wired t :=
    (safe_plainSteps _).bind fun _ _ _ => safe_pure
  have counted : (countCall point).Safe wired s := safe_of_controls fun _ => rfl
  refine counted.bind fun disturbing t ht => (hooks t _).bind fun failure u hu => ?_
  cases failure with
  | some failure => exact safe_pure
  | none =>
    refine (h u (wired.trans ht hu)).bind fun answer v _ => (hooks v _).bind fun failure _ _ => ?_
    cases failure <;> exact safe_pure

theorem safe_playPush (tasks : List TaskId) : (playPush tasks).Safe wired s :=
  safe_hooked .push fun _ _ => safe_of_controls fun _ => rfl

theorem safe_playFinalizer (p : Finalizer.Action α) : (playFinalizer p).Safe wired s := by
  refine safe_playProgram (fun request t _ => ?_) _
  cases request with
  | now => exact safe_gets
  | countTasks => exact safe_gets
  | readTask task => exact safe_onStore (Store.read task)
  | resolve data now => exact safe_onStore fun s => s.resolveData data now
  | giveUp data now => exact safe_onStore fun s => s.abortData data now
  | push tasks => exact safe_playPush tasks

theorem safe_playFinalize (task : TaskId) : (playFinalize task).Safe wired s :=
  safe_hooked .finalize fun _ _ => safe_playFinalizer _

theorem safe_playAbandon (task : TaskId) : (playAbandon task).Safe wired s :=
  safe_hooked .abandon fun _ _ => safe_playFinalizer _

theorem safe_makeTaskId : makeTaskId.Safe wired s := safe_of_controls fun _ => rfl

theorem safe_unlessAborted {run : RunId} {call : Play (Except WorkerError α)}
    (h : ∀ t, wired.Later s t → call.Safe wired t) :
    (unlessAborted seat run call).Safe wired s := by
  refine safe_gets.bind fun tokens t ht => ?_
  refine ((h t ht).interruptible _).bind fun answer _ _ => ?_
  cases answer <;> exact safe_pure

theorem safe_playConnect (run : RunId) (task : TaskId) (deadline : Option Date) :
    (playConnect seat run task deadline).Safe wired s :=
  safe_hooked .connect fun _ _ => safe_gets.bind fun tokens _ _ =>
    (leads_openStream task tokens.abort deadline).safe

theorem safe_playBreakOff (plain : s.Plain seat.shutdown) (run : RunId) :
    (playBreakOff seat run).Safe wired s :=
  (leads_tokensOf plain run).bind fun _ _ _ holds => (safe_fire (.inl holds.done)).bind
    fun _ _ _ => leads_die

theorem safe_playClear (task : TaskId) (listings : Nat) :
    (playClear task listings).Safe wired s := by
  induction listings generalizing s with
  | zero => exact safe_onScratch _
  | succ listings ih =>
    refine safe_await.bind fun _ _ _ => (safe_onScratch _).bind fun more _ _ => ?_
    cases more
    · exact safe_pure
    · exact ih

/-- Every call of the agent keeps the wiring, on a seat whose token for shutting down anyone may
fire. -/
theorem safe_playSimpleCall (plain : s.Plain seat.shutdown) (request : Request) :
    (playSimpleCall seat request).Safe wired s := by
  cases request with
  | pause wait => exact safe_sleep _
  | newTaskId => exact safe_makeTaskId
  | readTask task => exact safe_hooked .readTask fun _ _ => safe_onStore _
  | updateTask task expected change => exact safe_hooked .updateTask fun _ _ => safe_onStore _
  | createSuccessor parent candidate =>
    exact safe_hooked .createSuccessor fun _ _ => safe_onStore _
  | findSuccessor task => exact safe_hooked .findSuccessor fun _ _ => safe_onStore _
  | readSession session => exact safe_hooked .readSession fun _ _ => safe_gets
  | isAlive session task owner =>
    exact safe_hooked .isAlive fun _ _ => safe_of_controls fun _ => rfl
  | push tasks => exact safe_playPush tasks
  | fetch data => exact safe_hooked .fetch fun _ _ => safe_gets
  | finalize task => exact safe_playFinalize task
  | abandon task => exact safe_playAbandon task
  | makeScratch task => exact safe_await.bind fun _ _ _ => safe_onScratch _
  | saveScratch task data bytes => exact safe_await.bind fun _ _ _ => safe_onScratch _
  | clearScratch task => exact safe_playClear task _
  | probeLiveness =>
    unfold playSimpleCall
    exact safe_of_controls fun _ => rfl
  | register task => exact safe_playRegister task
  | unregister run => exact safe_onRegistry fun r => ((), r.unregister run)
  | requestStop run => exact safe_onRegistry fun r => r.requestStop run
  | cancel run => exact safe_fireOf fun t ht => (holds_tokensOf (plain.later ht) run).cancel
  | beginWatch run => exact safe_pure
  | endWatch run => exact safe_fireOf fun t ht => (holds_tokensOf (plain.later ht) run).done
  | connect run task deadline => exact safe_playConnect run task deadline
  | send run stream request =>
    exact safe_unlessAborted fun _ _ => safe_hooked .send fun _ _ => safe_sendOn stream request
  | finishSending run stream =>
    exact safe_unlessAborted fun _ _ => safe_hooked .finishSending fun _ _ => safe_pure
  | awaitReply run stream =>
    exact safe_unlessAborted fun _ _ => safe_hooked .awaitReply fun _ _ => safe_replyOn stream
  | hangUp stream =>
    unfold playSimpleCall
    exact safe_onWorker fun worker => connections_close worker stream
  | dispose message disposition => exact safe_hooked .dispose fun _ _ => safe_onQueue _
  | settle message => exact safe_hooked .settle fun _ _ => safe_of_controls fun _ => rfl
  | breakOff run => exact safe_playBreakOff plain run
  | _ => exact safe_gets

theorem safe_watchStore (done : Token) (interval : Nat) {look : Play Bool} (looks : Nat)
    (h : ∀ t, wired.Later s t → look.Safe wired t) :
    (watchStore done interval look looks).Safe wired s := by
  induction looks generalizing s with
  | zero => exact safe_pure
  | succ looks ih =>
    refine (safe_firesWithin done interval).bind fun fired t ht => ?_
    cases fired with
    | true => exact safe_pure
    | false =>
      refine (h t ht).bind fun again u hu => ?_
      cases again with
      | false => exact safe_pure
      | true => exact ih fun v hv => h v (wired.trans ht (wired.trans hu hv))

/-- Who watches an execution cuts its call off after the cancellation only. -/
theorem safe_beginWatch (plain : s.Plain seat.shutdown) (run : RunId) :
    (beginWatch seat run).Safe wired s := by
  refine safe_gets.bind fun settings t ht => ?_
  refine (leads_tokensOf (plain.later ht) run).bind fun tokens u hu holds => ?_
  refine (safe_spawn (safe_escalate holds _)).bind fun _ v hv => ?_
  refine safe_gets.bind fun task w hw => ?_
  have plain := plain.later (wired.trans ht (wired.trans hu (wired.trans hv hw)))
  cases task with
  | none => exact safe_pure
  | some task =>
    refine safe_spawn ?_
    refine safe_watchStore _ _ _ fun x hx => ?_
    exact safe_playProgram (fun request y hy =>
      safe_playSimpleCall ((plain.later hx).later hy) request) _

/-- A program of the agent keeps the wiring. -/
theorem safe_playAction (plain : s.Plain seat.shutdown) (p : Action α) :
    (playAction seat p).Safe wired s := by
  refine safe_playProgram (fun request t ht => ?_) _
  have plain := plain.later ht
  cases request with
  | beginWatch run => exact safe_beginWatch plain run
  | _ =>
    unfold playCall
    exact safe_playSimpleCall plain _

/-! Calls of the loop. -/

/-- Anyone may shut the loop and its handlers down, and stop the loop. -/
structure Wired.Seats (s : Wired) (seat : LoopSeat) : Prop where
  shutdown : s.Plain seat.handlers.shutdown
  stop : s.Plain seat.stop

theorem Wired.Seats.later {t : Wired} {seat : LoopSeat} (h : s.Seats seat)
    (later : wired.Later s t) : t.Seats seat :=
  ⟨h.shutdown.later later, h.stop.later later⟩

theorem safe_concludeHandler {stop : Token} (plain : s.Plain stop)
    (outcome : Option (Except AgentError HandlerReport)) :
    (Script.modify fun w => concludeHandler stop w outcome).Safe wired s := by
  cases outcome with
  | none => exact safe_of_controls fun _ => rfl
  | some outcome =>
    refine safe_modify fun t ht => ⟨t.wiring, ?_⟩
    unfold concludeHandler
    dsimp only
    split
    · exact ⟨t.sound.fire (.inl (plain.later ht)), Wiring.grows_fire _ _ _⟩
    · exact ⟨t.sound, .refl _ _⟩

theorem safe_playHandler {seat : LoopSeat} (seats : s.Seats seat) (message : DeliveryId) :
    (playHandler seat message).Safe wired s := by
  refine safe_gets.bind fun settings t ht => safe_gets.bind fun task u hu => ?_
  have seats := seats.later (wired.trans ht hu)
  cases task with
  | none => exact safe_pure
  | some task =>
    have handled := safe_playAction seats.shutdown (handleMessage settings message task).run
    exact handled.mortal.bind fun outcome v hv => safe_concludeHandler (seats.stop.later hv) outcome

theorem safe_takeJoined : takeJoined.Safe wired s := by
  refine safe_of_controls fun w => ?_
  split <;> rfl

theorem safe_awaitJoined (looks : Nat) : (awaitJoined looks).Safe wired s := by
  induction looks generalizing s with
  | zero => exact safe_pure
  | succ looks ih =>
    refine safe_await.bind fun _ _ _ => safe_takeJoined.bind fun joined _ _ => ?_
    cases joined with
    | none => exact ih
    | some joined => exact safe_pure

theorem safe_takeSlot (stop : Token) (looks : Nat) : (takeSlot stop looks).Safe wired s := by
  induction looks generalizing s with
  | zero => exact safe_pure
  | succ looks ih =>
    refine safe_await.bind fun free t _ => ?_
    cases free with
    | false => exact safe_pure
    | true =>
      have takes : (modifyGet fun w : World =>
          if 0 < w.slots then (true, { w with slots := w.slots - 1 }) else (false, w)).Safe
          wired t := safe_of_controls fun w => by split <;> rfl
      refine takes.bind fun taken _ _ => ?_
      cases taken with
      | false => exact ih
      | true => exact safe_pure

theorem safe_prepareAt (point : Point) (cause : point.Failure → AgentError) :
    (prepareAt point cause).Safe wired s := by
  refine (safe_hooked point fun _ _ => safe_pure).bind fun outcome _ _ => ?_
  cases outcome <;> exact safe_pure

/-- Every call of the loop keeps the wiring, on a seat whose tokens anyone may fire. -/
theorem safe_playLoopCall {seat : LoopSeat} (seats : s.Seats seat) (request : LoopRequest) :
    (playLoopCall seat request).Safe wired s := by
  cases request with
  | prepare collaborator => cases collaborator <;> exact safe_prepareAt _ _
  | markInitialized =>
    unfold playLoopCall
    exact safe_of_controls fun _ => rfl
  | stop => exact safe_fire (.inl seats.stop)
  | tryJoin => exact safe_takeJoined
  | join => exact safe_awaitJoined _
  | pull most =>
    exact (safe_hooked .pull fun _ _ => safe_pullMessages most _).interruptible _
  | idle => exact safe_gets.bind fun _ _ _ => (safe_firesWithin _ _).bind fun _ _ _ => safe_pure
  | takeSlot => exact safe_takeSlot _ _
  | start message => exact safe_spawn (safe_playHandler seats message)
  | handBack message =>
    exact (safe_hooked .settle fun _ _ => safe_of_controls fun _ => rfl).bind
      fun _ _ _ => safe_pure
  | recordError =>
    unfold playLoopCall
    exact safe_of_controls fun _ => rfl
  | _ => exact safe_gets

theorem safe_playLoop {seat : LoopSeat} (seats : s.Seats seat) (p : LoopAction α) :
    (playLoop seat p).Safe wired s :=
  safe_playProgram (fun request _ ht => safe_playLoopCall (seats.later ht) request) _

/-! Steps of a scenario. -/

/-- Anyone may fire the token for shutting down. -/
theorem leads_shutdown : (gets World.shutdown).Leads wired s fun token t => t.Plain token :=
  leads_gets fun t _ => t.sound.shutdown

theorem leads_singleSeat : singleSeat.Leads wired s fun seat t => t.Plain seat.shutdown :=
  leads_gets fun t _ => t.sound.shutdown

/-- A new token for shutting down, which anyone may fire. -/
theorem safe_beginStep (inEvent shutdown : Bool) : (beginStep inEvent shutdown).Safe wired s := by
  refine safe_modify fun t _ => ?_
  cases inEvent with
  | true =>
    cases shutdown with
    | true => exact ⟨t.wiring, t.sound.fire (.inl t.sound.shutdown), Wiring.grows_fire _ _ _⟩
    | false => exact ⟨t.wiring, t.sound, .refl _ _⟩
  | false =>
    have made : (t.wiring.guarding t.world.tokens none).Sound { t.world.controls with
        tokens := (t.world.tokens.make none).2 } := t.sound.make fun _ h => nomatch h
    have grows := Wiring.grows_make t.wiring t.world.tokens none none
    have plain : (t.wiring.guarding t.world.tokens none).Plain (t.world.tokens.make none).2
        t.world.tokens.count := ⟨Nat.lt_succ_self _, if_pos rfl⟩
    refine ⟨t.wiring.guarding t.world.tokens none, ?_⟩
    cases shutdown with
    | true => exact ⟨(made.renew plain).fire (.inl plain), grows.trans (Wiring.grows_fire _ _ _)⟩
    | false => exact ⟨made.renew plain, grows⟩

theorem safe_playEvent (number moment : Nat) {steps : Play (List Answer)}
    (h : ∀ t, steps.Safe wired t) : (playEvent number moment steps).Safe wired s :=
  (safe_sleep moment).bind fun _ t _ => (h t).bind fun _ _ _ => safe_of_controls fun _ => rfl

theorem safe_startEvents {events : List (Nat × Play (List Answer))}
    (h : ∀ event ∈ events, ∀ t, event.2.Safe wired t) : (startEvents events).Safe wired s := by
  induction events generalizing s with
  | nil => exact safe_pure
  | cons event rest ih =>
    obtain ⟨first, others⟩ := List.forall_mem_cons.mp h
    have started (t : Wired) : (startEvent event.1 event.2).Safe wired t := by
      have counted : (modifyGet fun w : World =>
          (w.eventCount, { w with eventCount := w.eventCount + 1 })).Safe wired t :=
        safe_of_controls fun _ => rfl
      refine counted.bind fun number u _ => ?_
      exact (safe_spawn (safe_playEvent number event.1 first)).bind fun _ _ _ => safe_pure
    exact (started s).bind fun _ _ _ => (ih others).bind fun _ _ _ => safe_pure

theorem safe_besideEvents {events : Option (List (Nat × Play (List Answer)))} {main : Play α}
    (he : ∀ event ∈ events.getD [], ∀ t, event.2.Safe wired t)
    (hm : ∀ t, wired.Later s t → main.Safe wired t) : (besideEvents events main).Safe wired s := by
  refine (safe_startEvents he).bind fun numbers t ht => safe_gets.bind fun _ u hu => ?_
  refine (hm u (wired.trans ht hu)).bind fun _ _ _ => safe_gets.bind fun _ _ _ => ?_
  have answers (v : Wired) : (awaitEvents numbers).Safe wired v :=
    safe_await.bind fun _ _ _ => safe_gets
  exact (answers _).bind fun _ _ _ => safe_pure

theorem safe_acquireStep (task : TaskId) : (acquireStep task).Safe wired s := by
  refine safe_gets.bind fun settings _ _ => leads_singleSeat.bind fun seat _ _ plain => ?_
  refine (safe_playAction plain _).bind fun outcome _ _ => ?_
  cases outcome <;> exact safe_pure

theorem safe_handleMain (task : TaskId) : (handleMain task).Safe wired s := by
  refine safe_gets.bind fun settings _ _ => (safe_onQueue _).bind fun message _ _ => ?_
  refine leads_singleSeat.bind fun seat t _ plain => ?_
  exact (safe_playAction plain (handleMessage settings message task).run).mortal.map _

theorem safe_shutDownLater {shutdown finished : Token} (plain : s.Plain shutdown) (millis : Nat) :
    (shutDownLater shutdown finished millis).Safe wired s := by
  refine (safe_firesWithin finished millis).bind fun fired t ht => ?_
  cases fired with
  | true => exact safe_pure
  | false => exact safe_fire (.inl (plain.later ht))

theorem safe_shutDownWhenDone {shutdown finished : Token} (plain : s.Plain shutdown)
    (millis looks : Nat) : (shutDownWhenDone shutdown finished millis looks).Safe wired s := by
  induction looks generalizing s with
  | zero => exact safe_pure
  | succ looks ih =>
    refine safe_gets.bind fun done t ht => ?_
    have plain := plain.later ht
    cases done with
    | true => exact safe_fire (.inl plain)
    | false =>
      refine (safe_firesWithin finished millis).bind fun fired u hu => ?_
      cases fired with
      | true => exact safe_pure
      | false => exact ih (plain.later hu)

/-- The loop stops by tokens that anyone may fire. -/
theorem safe_runMain {beside : (shutdown finished : Token) → Play Unit}
    (h : ∀ shutdown finished t, t.Plain shutdown → (beside shutdown finished).Safe wired t) :
    (runMain beside).Safe wired s := by
  refine safe_gets.bind fun settings _ _ => leads_shutdown.bind fun shutdown t _ plain => ?_
  refine (leads_makeToken _).bind fun stop u hu stops => ?_
  refine (leads_makeToken _).bind fun finished v hv finishes => ?_
  have plain := plain.later (wired.trans hu hv)
  refine (safe_spawn (h shutdown finished v plain)).bind fun _ w hw => ?_
  have seats : w.Seats ⟨⟨.loop, shutdown⟩, stop⟩ :=
    ⟨plain.later hw, stops.later (wired.trans hv hw)⟩
  refine (safe_playLoop seats _).bind fun outcome x hx => ?_
  refine (safe_fire (.inl (finishes.later (wired.trans hw hx)))).bind fun _ _ _ => ?_
  rcases outcome with cause | _ | exit <;> exact safe_pure

theorem safe_stopOnLoop (task : TaskId) : (stopOnLoop task).Safe wired s := by
  refine safe_gets.bind fun settings _ _ => safe_gets.bind fun run _ _ => ?_
  cases run with
  | none => exact safe_pure
  | some run =>
    refine leads_shutdown.bind fun shutdown t _ plain => ?_
    have stopped : (playAction ⟨.loop, shutdown⟩ (stopExecution settings task run).run).Safe
        wired t := safe_playAction plain _
    refine stopped.bind fun outcome _ _ => ?_
    cases outcome <;> exact safe_pure

theorem safe_stopSingle (task : TaskId) : (stopSingle task).Safe wired s := by
  refine safe_gets.bind fun settings _ _ => safe_gets.bind fun run _ _ => ?_
  cases run with
  | none => exact safe_pure
  | some run =>
    refine safe_gets.bind fun before _ _ => leads_singleSeat.bind fun seat _ _ plain => ?_
    exact (safe_playAction plain _).bind fun _ _ _ => safe_gets.bind fun _ _ _ => safe_pure

theorem safe_initStep : initStep.Safe wired s :=
  leads_singleSeat.bind fun _ _ _ plain => (safe_playLoop ⟨plain, plain⟩ _).map _

theorem safe_prefetchStep (task : TaskId) (cleanup : Bool) :
    (prefetchStep task cleanup).Safe wired s := by
  refine safe_gets.bind fun settings _ _ => safe_gets.bind fun found _ _ => ?_
  cases found with
  | none => exact safe_pure
  | some t =>
    refine leads_singleSeat.bind fun seat u _ plain => ?_
    refine (safe_playAction plain _).bind fun outcome v hv => ?_
    cases outcome with
    | error cause => exact safe_pure
    | ok requests =>
      refine safe_gets.bind fun files w hw => ?_
      have plain := plain.later (wired.trans hv hw)
      cases cleanup with
      | false => exact safe_gets.bind fun _ _ _ => safe_pure
      | true =>
        refine (safe_playAction plain _).bind fun _ x hx => ?_
        refine (safe_playAction (plain.later hx) _).bind fun _ _ _ => ?_
        exact safe_gets.bind fun _ _ _ => safe_pure

mutual

/-- Every step of a scenario keeps the wiring. -/
theorem safe_playStep (inEvent : Bool) (step : Step) (s : Wired) :
    (playStep inEvent step).Safe wired s := by
  cases step with
  | plain step => exact safe_plainStep step
  | hooks hooks => exact safe_change fun _ => rfl
  | acquire task shutdown =>
    exact (safe_beginStep inEvent shutdown).bind fun _ _ _ => safe_acquireStep task
  | handle task shutdown events =>
    refine (safe_beginStep inEvent shutdown).bind fun _ _ _ => ?_
    refine (safe_besideEvents ?_ fun _ _ => safe_handleMain task).bind fun _ _ _ => safe_pure
    cases events with
    | none => exact fun _ he => nomatch he
    | some events => exact safe_playEvents events
  | run shutdown shutdownAt events =>
    refine (safe_beginStep inEvent shutdown).bind fun _ _ _ => ?_
    refine (safe_besideEvents ?_ fun _ _ => ?_).bind fun _ _ _ => safe_pure
    · cases events with
      | none => exact fun _ he => nomatch he
      | some events => exact safe_playEvents events
    · exact safe_runMain fun _ _ _ plain => safe_shutDownLater plain shutdownAt
  | runToEnd lookEvery =>
    refine (safe_beginStep inEvent false).bind fun _ _ _ => ?_
    refine (safe_besideEvents ?_ fun _ _ => ?_).bind fun _ _ _ => safe_pure
    · exact fun _ he => nomatch he
    · exact safe_runMain fun _ _ _ plain => safe_shutDownWhenDone plain lookEvery _
  | stop task side => cases side <;> first | exact safe_stopOnLoop task | exact safe_stopSingle task
  | init => exact safe_initStep
  | check probe =>
    unfold playStep
    exact safe_of_controls fun _ => rfl
  | resetHealth => exact safe_change fun _ => rfl
  | finalize task => exact (safe_playFinalize task).map _
  | abandon task => exact (safe_playAbandon task).map _
  | prefetch task cleanup => exact safe_prefetchStep task cleanup
  | _ => exact safe_observe _

theorem safe_playSteps (steps : List Step) (s : Wired) : (playSteps steps).Safe wired s := by
  cases steps with
  | nil => exact safe_pure
  | cons step rest =>
    exact (safe_playStep true step s).bind fun _ t _ =>
      (safe_playSteps rest t).bind fun _ _ _ => safe_pure

theorem safe_playEvents (events : List (Nat × List Step)) :
    ∀ event ∈ playEvents events, ∀ t : Wired, event.2.Safe wired t := by
  cases events with
  | nil => exact fun _ he => nomatch he
  | cons event rest =>
    obtain ⟨moment, steps⟩ := event
    exact List.forall_mem_cons.mpr ⟨safe_playSteps steps, safe_playEvents rest⟩

end

/-! Scenarios. -/

theorem safe_playScenario (steps : List Step) (s : Wired) : (playScenario steps).Safe wired s := by
  induction steps generalizing s with
  | nil =>
    unfold playScenario
    exact safe_of_controls fun _ => rfl
  | cons step rest ih =>
    refine (safe_playStep false step s).bind fun answer t _ => ?_
    exact Safe.bind (safe_of_controls fun _ => rfl) fun _ u _ => ih u

/-- At first nothing is guarded, and no stream is open. -/
def Setup.wired (setup : Setup) : Wired where
  world := setup.world
  wiring := ⟨fun _ => none, fun _ => none⟩
  sound :=
    { guarded := fun _ _ h => nomatch h
      made := fun _ h => nomatch h
      first := fun _ _ h => nomatch h
      executions := fun _ _ h => nomatch h
      shutdown := ⟨Nat.zero_lt_one, rfl⟩
      streams := fun _ _ h => nomatch h
      named := fun _ _ h => nomatch h
      opened := fun _ _ => rfl }

/-- Whatever the threads of a scenario come to, in any order, is wired well. -/
theorem wired_of_comes {setup : Setup} {steps : List Step} {w : World}
    {threads : List (Thread World)}
    (h : Comes setup.world (playScenario steps {} fun _ => .ended) w threads) :
    ∃ s : Wired, s.world = w := by
  have obeys : (playScenario steps {} fun _ => .ended).Obeys Simulation.wired setup.wired := by
    refine safe_playScenario steps setup.wired _ (Simulation.wired.refl _) {} _ ?_
      fun _ _ _ _ => .ended
    exact ⟨fun _ chosen => (List.not_mem_nil chosen).elim, .ended⟩
  have time (s : Wired) (moment : Nat) : ∃ t : Wired, Simulation.wired.Later s t ∧
      t.world = Timed.advanceTo s.world moment :=
    ⟨⟨Timed.advanceTo s.world moment, s.wiring, s.sound⟩, .refl _ _, rfl⟩
  obtain ⟨s, -, seen, -⟩ := Comes.obeys time h obeys
  exact ⟨s, seen⟩

end GridAgent.Simulation
