import GridAgent.Proofs.Cluster.Run
import GridAgent.Proofs.Cluster.Writers
import GridAgent.Proofs.Handler.Bench
import GridAgent.Proofs.Handler.Length

/-!
# An acquisition beside other writers

While an agent acquires a task others may write to the store whatever they want, and as often as they
want. Each round of the acquisition decides on what it has read itself, and only its own update makes
the decision count: one that is lost is made again, at most as often as the settings say, and one that
is applied is the only one.
-/

namespace GridAgent.Cluster

open Agent Program Acquisition

variable {s : Settings} {task : TaskId} {σ σ' : Store} {b : Rounds}

/-! The whole acquisition. -/

/-- Whatever is asked, except to break off, can be answered in any state. -/
theorem storeService_answers (request : Request) (goesOn : ∀ run, request ≠ .breakOff run)
    (σ : Store) : ∃ reply σ', storeService task σ request reply σ' := by
  have ⟨reply⟩ : Nonempty request.Reply := by
    rcases Bench.answerable { queue := {} } request with ⟨run, broken⟩ | ⟨reply, -⟩
    · exact absurd broken (goesOn run)
    · exact ⟨reply⟩
  cases request
  case newTaskId =>
    have two : (.ofNat 1 : TaskId) ≠ .ofNat 0 := by decide
    by_cases first : task = .ofNat 0
    · exact ⟨(.ofNat 1 : TaskId), σ, rfl, fun e => two (e.trans first)⟩
    · exact ⟨(.ofNat 0 : TaskId), σ, rfl, fun e => first e.symm⟩
  case readTask | updateTask | createSuccessor | findSuccessor => exact ⟨_, _, rfl, rfl⟩
  all_goals exact ⟨reply, σ, rfl⟩

/-- What a task is acquired from: it was read and so was its session, and at some moment it was stored
as claimed by this pod. The options are those that were read, and the session fills them in. -/
def Gains (s : Settings) (task : TaskId) (past : List Instant) (acquired : Acquired) : Prop :=
  ∃ look read session m stored,
    past.find? Instant.looks = some look ∧ look.toExchange = ⟨.readTask task, .ok (some read)⟩ ∧
    (∃ x ∈ sinceLook past, x.toExchange = ⟨.readSession read.session, .ok (some session)⟩) ∧
    m ∈ past ∧ m.after.get? task = some stored ∧ IsClaimed s.podId stored ∧
    acquired.task = some { stored with options := read.options.mergedWith session.defaults }

/-- What becomes of an acquisition beside other writers. -/
structure AcquiresBeside (s : Settings) (task : TaskId) (past : List Instant)
    (rest : Action (Except AgentError Acquired)) : Prop where
  /-- It ends after a bounded number of requests. -/
  bounded : past.length ≤ s.maxRounds * requestsPerRound s
  /-- Until then it can be answered, whatever has become of the store. -/
  answerable : (∃ outcome, rest = .done outcome) ∨ ∃ request next, rest = .call request next ∧
    ∀ σ, ∃ reply σ', storeService task σ request reply σ'
  /-- It reads the task no more often than there are rounds. -/
  rounds : past.countP Instant.looks ≤ s.maxRounds
  /-- It updates the task once at most, and does not read it again then. -/
  once : past.Pairwise fun later earlier =>
    earlier.revises task = true → later.revises task = false ∧ later.looks = false
  /-- Nothing else that it asks for touches the record of the task. -/
  untouched : ∀ m ∈ past, m.revises task = false → m.after.get? task = m.before.get? task
  /-- A task that it acquires was claimed by this pod at some moment. -/
  gains : ∀ acquired, rest = .done (.ok acquired) → acquired.outcome = .acquired →
    Gains s task past acquired
  /-- If it has updated the task it says so; an acquired task was free then. -/
  changes : ∀ acquired, rest = .done (.ok acquired) → ∀ m ∈ past, m.revises task = true →
    acquired.outcome ∈ Outcome.changing ∧
      (acquired.outcome = .acquired → ∃ t, m.before.get? task = some t ∧ IsFree t)
  /-- When every round has lost its update nothing is written, and the last one is told of. -/
  gaveUp : ∀ lost earlier, past.filterMap (Instant.lost? task) = lost :: earlier →
    (lost :: earlier).length = s.maxRounds →
    rest = .done (.ok ⟨.messageDuplicated, some lost.status, .postponed, none⟩) ∧
      ∀ m ∈ past, m.IsIdle task

section Returned

variable {most : Nat} {past : List Instant} {acquired : Acquired}

/-- A round that has lost its update does not acquire. -/
theorem concludes_of_returns (returns : Rounds.Returns s most acquired b)
    (h : acquired.outcome = .acquired ∨ b.wrote = true) : Rounds.Concludes s acquired b := by
  rcases returns with ⟨-, concludes⟩ | ⟨lost, earlier, -, -, unwritten, rfl⟩
  · exact concludes
  · rcases h with h | h
    · cases h
    · cases unwritten.symm.trans h

/-- The update that claims a task makes it this pod's. -/
theorem claimed_of_dispatch {t : TaskRecord} {name : String} {now : Date} :
    IsClaimed s.podId (t.apply (.dispatch s.podId name now)) :=
  ⟨TaskRecord.apply_status .., TaskRecord.apply_owner ..⟩

theorem free_of_holds {t : TaskRecord} (h : (Expectation.status .submitted).unowned.holds t = true) :
    IsFree t := by
  refine ⟨List.mem_singleton.mp (Expectation.status_mem h), ?_⟩
  simpa [Expectation.holds, Expectation.unowned, OwnerMatch.holds] using (Bool.and_eq_true_iff.mp h).1

/-- What an update of the task met, and made of it. -/
theorem met_of_kept (kept : KeptRounds task most past) {m : Instant} (hm : m ∈ past)
    {expected : Expectation} {change : TaskUpdate} {record : TaskRecord}
    (same : m.toExchange = ⟨.updateTask task expected change, .ok record⟩) :
    ∃ t, m.before.get? task = some t ∧ expected.holds t = true ∧ record = t.apply change ∧
      m.after.get? task = some record := by
  obtain ⟨b, -, -, answer⟩ := answered_of_kept kept hm
  obtain ⟨x, before, after⟩ := m
  obtain rfl : x = ⟨.updateTask task expected change, .ok record⟩ := same
  obtain ⟨answered, same⟩ := answer
  obtain ⟨t, stored, holds, applied, now⟩ := stored_of_update answered.symm
  exact ⟨t, stored, holds, applied, (congrArg (Store.get? · task) same).trans now⟩

/-- What was read was stored. -/
theorem stored_of_kept (kept : KeptRounds task most past) {m : Instant} (hm : m ∈ past)
    {t : TaskRecord} (same : m.toExchange = ⟨.readTask task, .ok (some t)⟩) :
    m.after.get? task = some t := by
  have untouched := untouched_of_kept kept hm
  obtain ⟨b, -, -, answer⟩ := answered_of_kept kept hm
  obtain ⟨x, before, after⟩ := m
  obtain rfl : x = ⟨.readTask task, .ok (some t)⟩ := same
  exact (untouched rfl).trans (get?_of_read answer.1.symm)

/-- An acquired task was claimed by this pod when it was read, or since the update. -/
theorem gains_of_returns (kept : KeptRounds task most past)
    (returns : Rounds.Returns s most acquired (booksOf task most past))
    (got : acquired.outcome = .acquired) : Gains s task past acquired := by
  have ledger := ledger_of_kept kept
  have concludes := concludes_of_returns returns (.inl got)
  cases revision : (booksOf task most past).revision with
  | none =>
    obtain ⟨read, session, hr, hs, claimed, gained⟩ := concludes.kept revision got
    obtain ⟨look, last, looked⟩ := ledger.read read hr
    obtain ⟨t, ht, x, since, asked⟩ := ledger.session session hs
    obtain rfl := Option.some.inj (hr.symm.trans ht)
    have before := List.mem_of_find?_eq_some last
    exact ⟨look, read, session, look, read, last, looked, ⟨x, since, asked⟩, before,
      stored_of_kept kept before looked, claimed, gained⟩
  | some r =>
    obtain ⟨-, claim⟩ := concludes.revised r revision
    obtain ⟨-, ⟨now, change⟩, read, session, hr, hs, gained⟩ := claim got
    obtain ⟨look, last, looked⟩ := ledger.read read hr
    obtain ⟨t, ht, x, since, asked⟩ := ledger.session session hs
    obtain rfl := Option.some.inj (hr.symm.trans ht)
    obtain ⟨m, hm, updated⟩ := ledger.revision r revision
    obtain ⟨t, -, -, applied, stored⟩ := met_of_kept kept hm updated
    have claimed : IsClaimed s.podId r.record := by
      rw [applied, change]
      exact claimed_of_dispatch
    exact ⟨look, read, session, m, r.record, last, looked, ⟨x, since, asked⟩, hm, stored, claimed,
      gained⟩

/-- An acquisition that has updated the task returns why. -/
theorem changes_of_returns (kept : KeptRounds task most past)
    (returns : Rounds.Returns s most acquired (booksOf task most past)) {m : Instant} (hm : m ∈ past)
    (revises : m.revises task = true) : acquired.outcome ∈ Outcome.changing ∧
      (acquired.outcome = .acquired → ∃ t, m.before.get? task = some t ∧ IsFree t) := by
  have ledger := ledger_of_kept kept
  have wrote : (booksOf task most past).wrote = true := by
    refine Bool.of_not_eq_false fun unwritten => ?_
    cases (ledger.idle unwritten m hm).kept.symm.trans revises
  obtain ⟨r, revision, updated⟩ := ledger.revised m hm revises
  obtain ⟨changing, claim⟩ := (concludes_of_returns returns (.inr wrote)).revised r revision
  refine ⟨changing, fun got => ?_⟩
  obtain ⟨t, stored, holds, -, -⟩ := met_of_kept kept hm updated
  exact ⟨t, stored, free_of_holds ((claim got).1 ▸ holds)⟩

end Returned

/-- An acquisition beside any number of other writers, who leave the store orderly, ends after a
bounded number of requests and no more rounds than the settings allow. It updates the task at most
once, and looks at it no more then; only that update touches the record of the task, and the outcome
says that it was made. A task that is acquired was claimed by this pod at some moment, and is returned
as it was stored then, with the options that were read, which the session fills in. When every round
has lost, nothing is written, and the message is postponed as a duplicate. -/
theorem acquire_beside_writers (atLeast : 1 ≤ s.maxRounds) (orderly : Orderly task σ)
    {past : List Instant} {rest : Action (Except AgentError Acquired)}
    (run : Beside (storeService task) (Orderly task) (acquire s task).run σ past σ' rest) :
    AcquiresBeside s task past rest := by
  obtain ⟨-, left, kept⟩ :=
    run.follows (storeService_sound s.maxRounds) orderly (Rounds.acquire_ends atLeast)
  have ledger := ledger_of_kept kept
  refine
    { bounded := ?_
      answerable := ?_
      rounds := looks_le_of_kept kept
      once := once_of_kept kept
      untouched := fun m hm => untouched_of_kept kept hm
      gains := ?_
      changes := ?_
      gaveUp := ?_ }
  · obtain ⟨unused, sum, -⟩ := run.within (acquire_within atLeast)
    omega
  · cases rest with
    | done outcome => exact .inl ⟨outcome, rfl⟩
    | call request next =>
      refine .inr ⟨request, next, rfl, storeService_answers request ?_⟩
      rintro run rfl
      exact left.1
  · rintro acquired rfl got
    exact gains_of_returns kept left got
  · rintro acquired rfl m hm revises
    exact changes_of_returns kept left hm revises
  · intro lost earlier losses every
    have all : (booksOf task s.maxRounds past).lost = lost :: earlier := ledger.lost.trans losses
    have finished : ¬ (booksOf task s.maxRounds past).lost.length < s.maxRounds := by
      rw [all, every]
      exact Nat.lt_irrefl _
    cases rest with
    | call request next => exact absurd (Rounds.goesOn_of_may left.1) finished
    | done outcome =>
      rcases outcome with cause | acquired
      · exact absurd left finished
      · rcases left with ⟨goesOn, -⟩ | ⟨lost', earlier', same, -, unwritten, rfl⟩
        · exact absurd goesOn finished
        · obtain ⟨rfl, -⟩ := List.cons.inj (all.symm.trans same)
          exact ⟨rfl, ledger.idle unwritten⟩

/-! Acquisitions that are played. -/

/-- The replies of the store, and plain ones otherwise. -/
def storeReply (σ : Store) : (request : Request) → Option (request.Reply × Store)
  | .readTask other => some (Store.read other σ)
  | .updateTask other expected change => some (Store.update other expected change σ)
  | .findSuccessor other => some (Store.findSuccessor other σ)
  | .readSession session => some (.ok (some (.running session)), σ)
  | .now => some (morning, σ)
  | .shutdownRequested => some (false, σ)
  | .push _ => some (.ok (), σ)
  | _ => none

theorem storeService_of_reply {request : Request} {reply : request.Reply}
    (h : storeReply σ request = some (reply, σ')) : storeService task σ request reply σ' := by
  cases request
  case readTask | updateTask | findSuccessor =>
    have same := Option.some.inj h
    exact ⟨congrArg Prod.fst same.symm, congrArg Prod.snd same.symm⟩
  case readSession | now | shutdownRequested | push =>
    exact (congrArg Prod.snd (Option.some.inj h)).symm
  all_goals cases h

/-- The rest of a program, with what has happened. -/
structure Played (α : Type) where
  /-- What has happened, the latest first. -/
  past : List Instant
  /-- The store. -/
  store : Store
  /-- What is left. -/
  rest : Action α

/-- Answers requests, or lets others write to the store, as a script says. -/
def Played.play {α : Type} (p : Played α) : List (Option Store) → Played α
  | [] => p
  | some σ :: script => { p with store := σ : Played α }.play script
  | none :: script =>
    match p.rest with
    | .done _ => p
    | .call request next =>
      match storeReply p.store request with
      | none => p
      | some (reply, σ) =>
        Played.play ⟨⟨⟨request, reply⟩, p.store, σ⟩ :: p.past, σ, next reply⟩ script

theorem Played.beside {α : Type} {program : Action α} {others : Store → Prop}
    {script : List (Option Store)} (allowed : ∀ σ', some σ' ∈ script → others σ') (p : Played α)
    (run : Beside (storeService task) others program σ p.past p.store p.rest) :
    Beside (storeService task) others program σ (p.play script).past (p.play script).store
      (p.play script).rest := by
  induction script generalizing p with
  | nil => exact run
  | cons entry script ih =>
    have later : ∀ σ', some σ' ∈ script → others σ' :=
      fun σ' h => allowed σ' (List.mem_cons_of_mem _ h)
    cases entry with
    | some σ' => exact ih later _ (run.moved (allowed σ' List.mem_cons_self))
    | none =>
      unfold play
      split
      · exact run
      · next request next hr =>
        split
        · exact run
        · next reply σ' h => exact ih later _ ((hr ▸ run).answered (storeService_of_reply h))

/-- The settings of an agent. -/
def plainSettings : Settings := plainFleet.settings ⟨"first"⟩

/-- A store with one task. -/
def storing (t : TaskRecord) : Store := ({} : Store).insert t

/-- The task with other options. -/
def revisedTask : TaskRecord := { plainTask with options := { maxRetries := some 7 } }

/-- An acquisition of the task from a store, played. -/
def Played.acquire (σ : Store) (script : List (Option Store)) : Played (Except AgentError Acquired) :=
  Played.play ⟨[], σ, (Agent.acquire plainSettings plainTask.id).run⟩ script

theorem Played.acquire_beside {others : Store → Prop} {script : List (Option Store)}
    (allowed : ∀ σ', some σ' ∈ script → others σ') :
    Beside (storeService plainTask.id) others (Agent.acquire plainSettings plainTask.id).run σ
      (acquire σ script).past (acquire σ script).store (acquire σ script).rest :=
  Played.beside allowed _ .start

theorem storing_keyed (t : TaskRecord) : KeyedStore (storing t) := by
  have vacant : KeyedStore {} := by
    rintro id t ⟨⟩
  exact vacant.insert t

theorem storing_orderly (t : TaskRecord) : Orderly task (storing t) := ⟨storing_keyed t, nofun⟩

/-- While the task is being decided on somebody replaces it. -/
def overtaking : List (Option Store) :=
  List.replicate 5 none ++ [some (storing revisedTask), none]

theorem overtaking_orderly : ∀ σ, some σ ∈ overtaking → Orderly plainTask.id σ := by
  intro σ h
  simp only [overtaking, List.mem_append, List.mem_replicate, reduceCtorEq, and_false, false_or,
    List.mem_cons, Option.some.injEq, List.not_mem_nil, or_false] at h
  exact h ▸ storing_orderly revisedTask

/-- Somebody replaces the options of a task that is acquired meanwhile. -/
theorem acquire_beside_writers_overtaken :
    ∃ past acquired, AcquiresBeside plainSettings plainTask.id past (.done (.ok acquired)) ∧
      acquired.outcome = .acquired ∧ past.countP (Instant.revises plainTask.id) = 1 :=
  ⟨_, _, acquire_beside_writers (by decide) (storing_orderly plainTask)
    (Played.acquire_beside overtaking_orderly), rfl, by decide +kernel⟩

/-- The task when it was retried. -/
def retriedTask : TaskRecord := { plainTask with status := .retried }

/-- While its successor is looked for somebody makes the task its own. -/
def usurping : List (Option Store) :=
  let creating : TaskRecord := { plainTask with status := .creating }
  let usurped := (Store.createSuccessor retriedTask creating (storing retriedTask)).2
  List.replicate 5 none ++ [some usurped] ++ List.replicate 4 none

theorem usurping_keyed : ∀ σ, some σ ∈ usurping → KeyedStore σ := by
  intro σ h
  simp only [usurping, List.mem_append, List.mem_replicate, reduceCtorEq, and_false, false_or,
    List.mem_cons, Option.some.injEq, List.not_mem_nil, or_false] at h
  subst h
  have keyed : KeyedStore { storing retriedTask with
      successors := Table.empty.set plainTask.id plainTask.id } := storing_keyed retriedTask
  exact keyed.insert _

/-- A stored task that is dispatched has the options that somebody gave it. -/
def givenOptions (σ : Store) : Bool :=
  (σ.get? plainTask.id).all fun t =>
    t.status ≠ .dispatched || t.options.maxRetries = revisedTask.options.maxRetries

/-- Others may get ahead of an acquisition. The record that is returned need not be the stored one
with the options filled in, since the options are those that were read; and a task that has become its
own successor is changed although the outcome is that of a retried task. -/
theorem writers_overtake :
    (∃ past σ acquired, Beside (storeService plainTask.id) (Orderly plainTask.id)
        (Agent.acquire plainSettings plainTask.id).run (storing plainTask) past σ
        (.done (.ok acquired)) ∧
      acquired.outcome = .acquired ∧
      ∀ m ∈ past, ∀ stored, m.before.get? plainTask.id = some stored ∨
        m.after.get? plainTask.id = some stored → IsClaimed plainSettings.podId stored →
        ∀ defaults, acquired.task ≠ some (stored.withDefaults defaults)) ∧
    ∃ past σ acquired, Beside (storeService plainTask.id) KeyedStore
        (Agent.acquire plainSettings plainTask.id).run (storing retriedTask) past σ
        (.done (.ok acquired)) ∧
      acquired.outcome = .taskIsRetried (some .creating) ∧
      ∃ m ∈ past, Instant.revises plainTask.id m = true := by
  have overtaken := @Played.acquire_beside (storing plainTask) _ _ overtaking_orderly
  have usurped := @Played.acquire_beside (storing retriedTask) _ _ usurping_keyed
  refine ⟨⟨_, _, _, overtaken, rfl, ?_⟩, ⟨_, _, _, usurped, rfl, ?_⟩⟩
  · have given : ∀ m ∈ (Played.acquire (storing plainTask) overtaking).past,
        (givenOptions m.before && givenOptions m.after) = true :=
      List.all_eq_true.mp (by decide +kernel)
    intro m hm stored there claimed defaults same
    have kept : stored.options.maxRetries = revisedTask.options.maxRetries := by
      obtain ⟨before, after⟩ := Bool.and_eq_true_iff.mp (given m hm)
      rcases there with there | there
      · simpa [givenOptions, there, claimed.status] using before
      · simpa [givenOptions, there, claimed.status] using after
    have filled := congrArg (Option.map fun t => t.options.maxRetries) same
    simp only [Option.map_some, TaskRecord.withDefaults, Options.mergedWith, kept] at filled
    cases filled
  · exact List.any_eq_true.mp (by decide +kernel)

end GridAgent.Cluster
