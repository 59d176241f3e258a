import GridAgent.Simulation.World

/-!
# Steps on the collaborators

These steps go to the collaborators directly: hooks do not see them and they are not counted.
-/

namespace GridAgent.Simulation

open Agent

/-- Changes the world by a call to the store that uses the clock. -/
def onStoreNow {α : Type} (call : Date → Store → α × Store) : Play α := Script.modifyGet fun w =>
  let (a, store) := call w.clock w.store
  (a, { w with store })

/-- Shows a record, or why there is none. -/
def answerRecord : Except StoreError TaskRecord → Answer
  | .ok t => .record (some t)
  | .error cause => .failed (.store cause)

/-- Shows a record that may be missing, or why it cannot be read. -/
def answerRecord? : Except StoreError (Option TaskRecord) → Answer
  | .ok t => .record t
  | .error cause => .failed (.store cause)

/-- Shows that a call succeeded, or why it did not. -/
def answerWorker {α : Type} : Except WorkerError α → Answer
  | .ok _ => .ok
  | .error cause => .failed (.worker cause)

/-- Changes the world and shows nothing. -/
def change (f : World → World) : Play Answer := do
  Script.modify f
  return .nothing

/-- Shows something of the world. -/
def observe (f : World → Answer) : Play Answer := Script.gets f

/-- Gives messages names, counted from zero. -/
def nameMessages (base : String) (messages : List DeliveryId) (w : World) : World :=
  { w with
    messages := messages.zipIdx.foldl
      (fun names m => names.set (base ++ toString m.2) m.1) w.messages }

/-- The task of a message that is held. -/
def taskOfMessage (w : World) (message : DeliveryId) : Option TaskId :=
  (w.queue.held? message).map Delivery.task

/-- Pulls messages and names them. -/
def pullStep (most : Nat) (cancelled : Bool) (base : String) : Play Answer := do
  let cancel ← makeToken none
  if cancelled then fire cancel
  let start ← timer
  match ← pullMessages most cancel with
  | .error cause => return .failed (.queue cause)
  | .ok messages =>
    Script.modify (nameMessages base messages)
    Script.gets fun w =>
      .pulled (messages.filterMap (taskOfMessage w)) (w.time - start)

/-- Delivers a task as a message with a name. -/
def deliverStep (task : TaskId) (name : String) : Play Answer := do
  let message ← onQueue fun q => q.deliver task
  Script.modifyGet fun w =>
    (.delivery task (w.queue.dispositionOf message),
      { w with messages := w.messages.set name message })

/-- Does something with a message that has a name. -/
def withMessage (name : String) (f : DeliveryId → World → Answer × World) : Play Answer :=
  Script.modifyGet fun w =>
    match w.messages.get? name with
    | some message => f message w
    | none => (.nothing, w)

/-- Decides on a message. -/
def disposeStep (name : String) (disposition : Disposition) : Play Answer :=
  withMessage name fun message w =>
    let (result, queue) := w.queue.dispose message disposition
    (.disposed result (queue.dispositionOf message), { w with queue })

/-- Settles a message, which then has no name. -/
def settleStep (name : String) : Play Answer :=
  withMessage name fun message w =>
    (.ok,
      { w with queue := w.queue.settle message w.time, messages := w.messages.erase name })

/-- Opens a stream and names it; one that had the name is closed. -/
def connectStep (task : TaskId) (name : String) (deadline : Option Date) : Play Answer := do
  let abort ← makeToken none
  match ← openStream task abort deadline with
  | .error cause => return .failed (.worker cause)
  | .ok stream =>
    Script.modify fun w =>
      let worker := match w.streams.get? name with
        | some old => w.worker.close old
        | none => w.worker
      { w with worker, streams := w.streams.set name stream }
    return .ok

/-- Does something with a stream that has a name. -/
def withStream (name : String) (f : StreamId → Play Answer) : Play Answer := do
  match ← Script.gets fun w => w.streams.get? name with
  | some stream => f stream
  | none => return .nothing

/-- Cuts the calls of a stream off. -/
def cutOff (stream : StreamId) : Play Unit := Script.modify fun w =>
  match w.streamTokens.get? stream with
  | some token => w.fire token
  | none => w

/-- Waits for the reply of a stream, whose calls may be cut off after some time. -/
def replyStep (stream : StreamId) (abortAt : Option Nat) : Play Answer := do
  let start ← timer
  match abortAt with
  | some millis => Script.spawn do
    sleep millis
    cutOff stream
  | none => pure ()
  let result ← replyOn stream
  let stop ← timer
  return .replied result (stop - start)

/-- Closes a stream, which then has no name. -/
def dropStep (name : String) : Play Answer :=
  change fun w =>
    match w.streams.get? name with
    | some stream => { w with worker := w.worker.close stream, streams := w.streams.erase name }
    | none => w

/-- Makes a step on the collaborators. -/
def plainStep : PlainStep → Play Answer
  | .session session => change fun w => { w with sessions := w.sessions.set session.id session }
  | .setSession session status => change fun w =>
    { w with sessions := w.sessions.modify session fun s => { s with status } }
  | .readSession session => observe fun w => .session (w.sessions.get? session)
  | .task draft => change fun w => { w with store := w.store.insert (draft.record w.clock) }
  | .get task => observe fun w => .record (w.store.get? task)
  | .read task => answerRecord? <$> onStore (Store.read task)
  | .all => observe fun w => .tasks w.store.taskIds
  | .update task expected draft =>
    answerRecord <$> onStoreNow fun now => Store.update task expected (draft.update now)
  | .createSuccessor parent id =>
    answerRecord <$> onStoreNow fun now =>
      Store.createSuccessor (parent.record now) ((parent.record now).successor id now)
  | .createAs parent candidate =>
    answerRecord <$> onStoreNow fun now =>
      Store.createSuccessor (parent.record now) (candidate.record now)
  | .findSuccessor task => answerRecord? <$> onStore (Store.findSuccessor task)
  | .transitions task => observe fun w => .statuses (w.store.transitionsOf task)
  | .lineage task => observe fun w => .lineage (w.store.lineage task)
  | .resolveData data => Answer.tasks <$> onStoreNow fun now s => s.resolveData data now
  | .abortData data => Answer.tasks <$> onStoreNow fun now s => s.abortData data now
  | .dataState data => observe fun w =>
    .dataState (w.store.available.contains data) (w.store.aborted.contains data)
  | .failStore calls => change fun w => { w with store := { w.store with failures := calls } }
  | .storeHealth report => change fun w => { w with store := { w.store with health := report } }
  | .dead pod => change fun w => { w with pods := w.pods.markDead pod }
  | .alive pod => change fun w => { w with pods := w.pods.markAlive pod }
  | .isAlive pod => Script.modifyGet fun w =>
    let (alive, pods) := w.pods.isAlive pod
    (.flag alive, { w with pods })
  | .questions => observe fun w => .number w.pods.asked
  | .push tasks => Script.modifyGet fun w => (.ok, { w with queue := w.queue.push tasks })
  | .failPulls pulls => change fun w => { w with queue := { w.queue with failures := pulls } }
  | .queueHealth report => change fun w => { w with queue := { w.queue with health := report } }
  | .put data bytes => change fun w => { w with objects := w.objects.put data bytes }
  | .fetch data => observe fun w =>
    match w.objects.fetch data with
    | .ok bytes => .bytes bytes
    | .error cause => .failed (.storage cause)
  | .storageUnavailable unavailable =>
    change fun w => { w with objects := { w.objects with unavailable } }
  | .script behaviours => change fun w =>
    { w with worker := { w.worker with script := w.worker.script ++ behaviours } }
  | .workerHealth report => change fun w => { w with worker := { w.worker with health := report } }
  | .mostActive => observe fun w => .number w.worker.mostActive
  | .calls => observe fun w => .calls w.worker.calls
  | .advance millis => change fun w =>
    { w with clock := (w.clock.shift? (millis * 1000000)).getD w.clock }
  | .setClock date => change fun w => { w with clock := date }
  | .sleep millis => do
    sleep millis
    return .nothing
  | .shutdown => change fun w => w.fire w.shutdown
  | .scratch => observe fun w => .names w.scratch.names
  | .blockScratch => change fun w => { w with scratch := w.scratch.block }
  | .deliver task message => deliverStep task message
  | .pull most cancelled messages => pullStep most cancelled messages
  | .setDisposition message disposition => disposeStep message disposition
  | .settle message => settleStep message
  | .queue => observe fun w => .queue w.queue
  | .connect task stream deadline => connectStep task stream deadline
  | .send stream data path => withStream stream fun s => answerWorker <$> sendOn s (.data data path)
  | .finishSending stream => withStream stream fun _ => return .ok
  | .awaitReply stream abortAt => withStream stream fun s => replyStep s abortAt
  | .abortStream stream => withStream stream fun s => do
    cutOff s
    return .nothing
  | .dropStream stream => dropStep stream

end GridAgent.Simulation
