import GridAgent.Proofs.Handler.Rounds
import GridAgent.Proofs.Program.Respondent
import GridAgent.Proofs.Store.Records

/-!
# The store beside other writers

An acquisition is answered by a store to which others write as well, whatever they want, as long as
they leave it orderly. The books that the rules keep agree with what has happened, and the requests that
the rules allow touch the record of the task in one way only.
-/

namespace GridAgent.Agent

variable {task : TaskId}

/-- The store was asked for the record, and answered. -/
def Request.looks : (request : Request) → request.Reply → Bool
  | .readTask _, .ok _ => true
  | _, _ => false

/-- The task was updated. -/
def Request.revises (task : TaskId) : (request : Request) → request.Reply → Bool
  | .updateTask other _ _, .ok _ => other = task
  | _, _ => false

/-- The update of the task was lost. -/
def Request.lost? (task : TaskId) : (request : Request) → request.Reply → Option LostUpdate
  | .updateTask other _ _, .error (.conflict lost) => if other = task then some lost else none
  | _, _ => none

end GridAgent.Agent

namespace GridAgent.Cluster

open Agent Program Acquisition

variable {s : Settings} {task : TaskId} {σ σ' : Store} {b : Rounds}

/-! The store answers, and others write to it. -/

/-- The reply and the store after a call. -/
def Gives {α : Type} (call : Store.Call α) (σ : Store) (reply : Except StoreError α)
    (σ' : Store) : Prop :=
  reply = (call σ).1 ∧ σ' = (call σ).2

/-- How the store answers an acquisition. What is none of its business leaves it as it is: whatever
comes of it others do. Identifiers that are made up are new. -/
def storeService (task : TaskId) : Service collaborators Store
  | σ, .readTask other, reply, σ' => Gives (Store.read other) σ reply σ'
  | σ, .updateTask other expected change, reply, σ' =>
    Gives (Store.update other expected change) σ reply σ'
  | σ, .createSuccessor parent candidate, reply, σ' =>
    Gives (Store.createSuccessor parent candidate) σ reply σ'
  | σ, .findSuccessor other, reply, σ' => Gives (Store.findSuccessor other) σ reply σ'
  | σ, .newTaskId, id, σ' => σ' = σ ∧ id ≠ task
  | σ, _, _, σ' => σ' = σ

/-- Records are stored under their own identifiers. -/
def KeyedStore (σ : Store) : Prop := ∀ id t, σ.get? id = some t → t.id = id

/-- All that others have to keep to: records are stored under their own identifiers, and the task does
not succeed itself. -/
structure Orderly (task : TaskId) (σ : Store) : Prop where
  /-- Records are stored under their own identifiers. -/
  keyed : KeyedStore σ
  /-- The successor of the task is another task. -/
  heir : σ.successors.get? task ≠ some task

/-- An answered request of an acquisition. -/
abbrev Instant : Type := Moment collaborators Store

namespace Instant

/-- The store was asked for the record, and answered. -/
def looks (m : Instant) : Bool := Request.looks m.request m.reply

/-- The task was updated. -/
def revises (task : TaskId) (m : Instant) : Bool := Request.revises task m.request m.reply

/-- The update of the task was lost. -/
def lost? (task : TaskId) (m : Instant) : Option LostUpdate := Request.lost? task m.request m.reply

/-- Nothing was written: the store is as it was, and no results were given up. -/
structure IsIdle (task : TaskId) (m : Instant) : Prop where
  /-- The store is as it was. -/
  store : Store.SameContent m.before m.after
  /-- The task was not updated. -/
  kept : m.revises task = false
  /-- No results were given up. -/
  results : ∀ other, m.request ≠ .abandon other

end Instant

/-- What happened since the last look, the latest first. -/
def sinceLook (past : List Instant) : List Instant := past.takeWhile fun m => !m.looks

/-! The service is as the rules of an acquisition count on. -/

section Service

variable {other : TaskId} {parent candidate : TaskRecord}

/-- The store was left orderly, with the records and successors of before. -/
theorem Orderly.same (orderly : Orderly task σ) (h : Store.SameContent σ σ') : Orderly task σ' := by
  obtain ⟨failures, rfl⟩ := h
  exact ⟨orderly.keyed, orderly.heir⟩

/-- A record that is read is stored. -/
theorem get?_of_read {t : TaskRecord} (h : (Store.read other σ).1 = .ok (some t)) :
    σ.get? other = some t := by
  rcases Store.read_cases other σ with ⟨reason, failed, -⟩ | read
  · cases failed.symm.trans h
  · exact Except.ok.inj ((congrArg Prod.fst read).symm.trans h)

/-- A successor that is found is stored; the search is no update. -/
theorem find_cases (other : TaskId) (σ : Store) :
    (∃ reason, (Store.findSuccessor other σ).1 = .error (.unavailable reason)) ∨
      (Store.findSuccessor other σ).1 = .ok (σ.successor? other) := by
  rcases Store.fallible_cases (fun s => (.ok (s.successor? other), s)) σ with
    ⟨reason, failed, -⟩ | found
  · exact .inl ⟨reason, failed⟩
  · exact .inr (congrArg Prod.fst found)

theorem Orderly.succeeds (orderly : Orderly task σ) {t : TaskRecord}
    (h : σ.successor? task = some t) : t.id ≠ task := by
  obtain ⟨heir, hs, ht⟩ := Option.bind_eq_some_iff.mp h
  have own := orderly.keyed heir t ht
  rintro same
  exact orderly.heir (by rw [hs, ← own, same])

/-- An update leaves other records and the successors. -/
theorem update_keeps (other : TaskId) (expected : Expectation) (change : TaskUpdate) (σ : Store) :
    (Store.update other expected change σ).2.successors = σ.successors ∧
      ∀ task, task ≠ other → (Store.update other expected change σ).2.get? task = σ.get? task := by
  rcases Store.update_cases other expected change σ with
    ⟨reason, -, failures, h⟩ | ⟨-, h⟩ | ⟨record, -, -, h⟩ | ⟨record, -, -, h⟩
  all_goals rw [h]
  · exact ⟨rfl, fun _ _ => rfl⟩
  · exact ⟨rfl, fun _ _ => rfl⟩
  · exact ⟨rfl, fun _ _ => rfl⟩
  · exact ⟨rfl, fun task different => (Table.get?_set ..).trans (if_neg different)⟩

theorem Orderly.update (orderly : Orderly task σ) (other : TaskId) (expected : Expectation)
    (change : TaskUpdate) :
    Orderly task (Store.update other expected change σ).2 ∧
      ∀ t, (Store.update other expected change σ).1 = .ok t → t.id = other := by
  rcases Store.update_cases other expected change σ with
    ⟨reason, failed, same⟩ | ⟨-, h⟩ | ⟨record, -, -, h⟩ | ⟨record, stored, -, h⟩
  · exact ⟨orderly.same same, fun t ht => nomatch failed.symm.trans ht⟩
  · rw [h]
    exact ⟨orderly, fun _ e => nomatch e⟩
  · rw [h]
    exact ⟨orderly, fun _ e => nomatch e⟩
  · have own : (record.apply change).id = other :=
      (TaskRecord.apply_id ..).trans (orderly.keyed other record stored)
    rw [h]
    refine ⟨⟨fun id t ht => ?_, orderly.heir⟩, fun t ht => Except.ok.inj ht ▸ own⟩
    rw [Store.get?, Table.get?_set] at ht
    split at ht
    · next same => exact (Option.some.inj ht ▸ own).trans same.symm
    · exact orderly.keyed id t ht

theorem KeyedStore.insert (keyed : KeyedStore σ) (t : TaskRecord) : KeyedStore (σ.insert t) := by
  intro id t' ht
  rw [Store.get?_insert] at ht
  split at ht
  · next same => exact Option.some.inj ht ▸ same.symm
  · exact keyed id t' ht

/-- A successor is stored under its own identifier. -/
theorem KeyedStore.successor (keyed : KeyedStore σ) {task : TaskId} {heir : TaskRecord}
    (found : σ.successor? task = some heir) :
    σ.successors.get? task = some heir.id ∧ σ.get? heir.id = some heir := by
  obtain ⟨id, link, known⟩ := Option.bind_eq_some_iff.mp found
  rw [keyed id heir known]
  exact ⟨link, known⟩

/-- A successor that is created, or was before, is another task. -/
theorem Orderly.create (orderly : Orderly task σ) (own : parent.id = task)
    (new : candidate.id ≠ task) :
    Orderly task (Store.createSuccessor parent candidate σ).2 ∧
      (∀ t, (Store.createSuccessor parent candidate σ).1 = .ok t → t.id ≠ task) ∧
      (∀ lost, (Store.createSuccessor parent candidate σ).1 ≠ .error (.conflict lost)) ∧
      (Store.createSuccessor parent candidate σ).2.get? task = σ.get? task := by
  subst own
  rcases Store.createSuccessor_cases parent candidate σ with
    ⟨reason, failed, same⟩ | ⟨existing, found, h⟩ | ⟨-, h⟩
  · rw [failed]
    refine ⟨orderly.same same, (fun _ e => nomatch e), nofun, ?_⟩
    obtain ⟨failures, same⟩ := same
    rw [same]
    rfl
  · rw [h]
    exact ⟨orderly, fun t e => Except.ok.inj e ▸ orderly.succeeds found, nofun, rfl⟩
  · rw [h]
    refine ⟨⟨fun id t ht => ?_, ?_⟩, fun t e => Except.ok.inj e ▸ new, nofun, ?_⟩
    · have keyed : KeyedStore
          { σ with successors := σ.successors.set parent.id candidate.id } := orderly.keyed
      exact keyed.insert candidate id t ht
    · show (σ.successors.set parent.id candidate.id).get? parent.id ≠ some parent.id
      rw [Table.get?_set, if_pos rfl]
      exact fun e => new (Option.some.inj e)
    · rw [Store.get?_insert, if_neg new.symm]
      rfl

end Service

/-- The store answers as an acquisition counts on, and stays orderly. -/
theorem storeService_sound (most : Nat) :
    Honours (storeService task) (Orderly task) (Rounds.rules task most) := by
  intro b σ request reply σ' may orderly answer
  cases request
  case newTaskId =>
    obtain ⟨rfl, new⟩ := answer
    exact ⟨new, orderly⟩
  case readTask other =>
    obtain ⟨rfl, rfl⟩ := answer
    refine ⟨?_, orderly.same (Store.read_sameContent other σ)⟩
    show Rounds.Credible task (.readTask other) (Store.read other σ).1
    generalize h : (Store.read other σ).1 = reply
    rcases reply with cause | _ | t
    · trivial
    · trivial
    · exact orderly.keyed other t (get?_of_read h)
  case updateTask other expected change =>
    obtain ⟨rfl, rfl⟩ := answer
    obtain ⟨orderly', own⟩ := orderly.update other expected change
    refine ⟨?_, orderly'⟩
    show Rounds.Credible task (.updateTask other expected change)
      (Store.update other expected change σ).1
    generalize (Store.update other expected change σ).1 = reply at own
    rcases reply with cause | t
    · trivial
    · exact own t rfl
  case createSuccessor parent candidate =>
    obtain ⟨rfl, rfl⟩ := answer
    obtain ⟨-, own, new⟩ := may
    obtain ⟨orderly', other, unlost, -⟩ := orderly.create own new
    refine ⟨?_, orderly'⟩
    show Rounds.Credible task (.createSuccessor parent candidate)
      (Store.createSuccessor parent candidate σ).1
    generalize (Store.createSuccessor parent candidate σ).1 = reply at other unlost
    rcases reply with cause | t
    · exact fun lost same => unlost lost (congrArg _ same)
    · exact fun _ _ => other t rfl
  case findSuccessor other =>
    obtain ⟨rfl, rfl⟩ := answer
    refine ⟨?_, orderly.same (Store.findSuccessor_sameContent other σ)⟩
    show Rounds.Credible task (.findSuccessor other) (Store.findSuccessor other σ).1
    rcases find_cases other σ with ⟨reason, failed⟩ | found
    · rw [failed]
      exact nofun
    · rw [found]
      cases h : σ.successor? other with
      | none => trivial
      | some t => exact fun same => orderly.succeeds (same ▸ h)
  all_goals exact ⟨trivial, answer ▸ orderly⟩

/-! What the books say of what has happened. -/

/-- The books agree with what has happened. -/
structure Ledger (task : TaskId) (b : Rounds) (past : List Instant) : Prop where
  /-- The looks are counted. -/
  looks : b.looks = past.countP Instant.looks
  /-- The lost updates are listed. -/
  lost : b.lost = past.filterMap (Instant.lost? task)
  /-- The record was read at the last look. -/
  read : ∀ t, b.read = some t → ∃ m, past.find? Instant.looks = some m ∧
    m.toExchange = ⟨.readTask task, .ok (some t)⟩
  /-- The session of the record was read since. -/
  session : ∀ session, b.session = some session → ∃ t, b.read = some t ∧
    ∃ m ∈ sinceLook past, m.toExchange = ⟨.readSession t.session, .ok (some session)⟩
  /-- The update of the task was applied. -/
  revision : ∀ r, b.revision = some r → ∃ m ∈ past,
    m.toExchange = ⟨.updateTask task r.expected r.change, .ok r.record⟩
  /-- No other update of the task was. -/
  revised : ∀ m ∈ past, m.revises task = true → ∃ r, b.revision = some r ∧
    m.toExchange = ⟨.updateTask task r.expected r.change, .ok r.record⟩
  /-- Until something is written nothing is. -/
  idle : b.wrote = false → ∀ m ∈ past, m.IsIdle task

/-- The books agree after another request if they note it. -/
theorem Ledger.add {b' : Rounds} {past : List Instant} {m : Instant} (ledger : Ledger task b past)
    (unseen : m.looks = false) (looks : b'.looks = b.looks) (read : b'.read = b.read)
    (lost : b'.lost = (m.lost? task).toList ++ b.lost)
    (session : ∀ session, b'.session = some session → b.session = some session ∨
      ∃ t, b.read = some t ∧ m.toExchange = ⟨.readSession t.session, .ok (some session)⟩)
    (revision : b'.revision = b.revision ∧ m.revises task = false ∨
      b.wrote = false ∧ ∃ r, b'.revision = some r ∧
        m.toExchange = ⟨.updateTask task r.expected r.change, .ok r.record⟩)
    (idle : b'.wrote = false → b.wrote = false ∧ m.IsIdle task) : Ledger task b' (m :: past) where
  looks := by rw [looks, ledger.looks, List.countP_cons_of_neg (by simp [unseen])]
  lost := by
    rw [lost, ledger.lost, List.filterMap_cons]
    cases m.lost? task <;> rfl
  read t ht := by
    rw [List.find?_cons_of_neg (by simp [unseen])]
    exact ledger.read t (read ▸ ht)
  session found h := by
    have since : sinceLook (m :: past) = m :: sinceLook past :=
      List.takeWhile_cons_of_pos (by simp [unseen])
    rw [since, read]
    rcases session found h with before | ⟨t, ht, same⟩
    · obtain ⟨t, ht, m', hm, same⟩ := ledger.session found before
      exact ⟨t, ht, m', List.mem_cons_of_mem _ hm, same⟩
    · exact ⟨t, ht, m, List.mem_cons_self, same⟩
  revision r hr := by
    rcases revision with ⟨before, -⟩ | ⟨-, r', now, same⟩
    · obtain ⟨m', hm, same⟩ := ledger.revision r (before ▸ hr)
      exact ⟨m', List.mem_cons_of_mem _ hm, same⟩
    · obtain rfl := Option.some.inj (now.symm.trans hr)
      exact ⟨m, List.mem_cons_self, same⟩
  revised m' hm revises := by
    rcases revision with ⟨before, kept⟩ | ⟨unwritten, r, now, same⟩
    · rcases hm with _ | ⟨_, hm⟩
      · cases kept.symm.trans revises
      · exact before ▸ ledger.revised m' hm revises
    · rcases hm with _ | ⟨_, hm⟩
      · exact ⟨r, now, same⟩
      · cases (ledger.idle unwritten m' hm).kept.symm.trans revises
  idle unwritten := by
    obtain ⟨before, now⟩ := idle unwritten
    rintro m' (_ | ⟨_, hm⟩)
    · exact now
    · exact ledger.idle before m' hm

/-- Another look begins a round. -/
theorem Ledger.look {past : List Instant} {m : Instant} {found : Option TaskRecord}
    (ledger : Ledger task b past) (unwritten : b.wrote = false)
    (same : m.toExchange = ⟨.readTask task, .ok found⟩) (idle : m.IsIdle task) :
    Ledger task { b with looks := b.looks + 1, read := found, session := none } (m :: past) := by
  obtain ⟨x, before, after⟩ := m
  obtain rfl : x = ⟨.readTask task, .ok found⟩ := same
  refine ⟨?_, ?_, fun t ht => ⟨_, rfl, ?_⟩, nofun, fun r hr => ?_, fun m hm revises => ?_,
    fun _ m hm => ?_⟩
  · exact (congrArg (· + 1) ledger.looks).trans (List.countP_cons_of_pos rfl).symm
  · exact ledger.lost.trans (List.filterMap_cons_none rfl).symm
  · obtain rfl : found = some t := ht
    rfl
  · obtain ⟨m, hm, same⟩ := ledger.revision r hr
    exact ⟨m, List.mem_cons_of_mem _ hm, same⟩
  · rcases hm with _ | ⟨_, hm⟩
    · cases idle.kept.symm.trans revises
    · exact ledger.revised m hm revises
  · rcases hm with _ | ⟨_, hm⟩
    · exact idle
    · exact ledger.idle unwritten m hm

/-- A request that is not noted leaves the books in agreement. -/
theorem Ledger.aside {past : List Instant} {m : Instant} (ledger : Ledger task b past)
    (unseen : m.looks = false) (unlost : m.lost? task = none) (idle : m.IsIdle task) :
    Ledger task b (m :: past) :=
  ledger.add unseen rfl rfl (by rw [unlost]; rfl) (fun _ => .inl) (.inl ⟨rfl, idle.kept⟩)
    fun h => ⟨h, idle⟩

/-- Something else than the task was written. -/
theorem Ledger.written {past : List Instant} {m : Instant} (ledger : Ledger task b past)
    (unseen : m.looks = false) (unlost : m.lost? task = none) (kept : m.revises task = false) :
    Ledger task { b with wrote := true } (m :: past) :=
  ledger.add unseen rfl rfl (by rw [unlost]; rfl) (fun _ => .inl) (.inl ⟨rfl, kept⟩) nofun

/-- An update that fails writes nothing. -/
theorem update_fails {other : TaskId} {expected : Expectation} {change : TaskUpdate}
    {cause : StoreError} (h : (Store.update other expected change σ).1 = .error cause) :
    Store.SameContent σ (Store.update other expected change σ).2 := by
  rcases Store.update_cases other expected change σ with
    ⟨reason, failed, same⟩ | ⟨-, same⟩ | ⟨record, -, -, same⟩ | ⟨record, -, -, written⟩
  · exact same
  · exact same ▸ .refl σ
  · exact same ▸ .refl σ
  · rw [written] at h
    cases h

/-- A creation that fails stores nothing. -/
theorem create_fails {parent candidate : TaskRecord} {cause : StoreError}
    (h : (Store.createSuccessor parent candidate σ).1 = .error cause) :
    Store.SameContent σ (Store.createSuccessor parent candidate σ).2 := by
  rcases Store.createSuccessor_cases parent candidate σ with
    ⟨reason, failed, same⟩ | ⟨existing, -, found⟩ | ⟨-, stored⟩
  · exact same
  · exact found ▸ .refl σ
  · rw [stored] at h
    cases h

/-- The books agree after an update, be it written or lost. -/
theorem Ledger.updates {most : Nat} {past : List Instant} {other : TaskId} {expected : Expectation}
    {change : TaskUpdate} {reply : Except StoreError TaskRecord} {before : Store}
    (ledger : Ledger task b past) (may : Rounds.May task most b (.updateTask other expected change))
    (same : (Store.update other expected change before).1 = reply) :
    Ledger task (Rounds.note task b (.updateTask other expected change) reply)
      (⟨⟨.updateTask other expected change, reply⟩, before,
        (Store.update other expected change before).2⟩ :: past) := by
  rcases reply with cause | record
  · have idle : Instant.IsIdle task ⟨⟨.updateTask other expected change, .error cause⟩, before, _⟩ :=
      ⟨update_fails same, rfl, nofun⟩
    cases cause with
    | conflict lost =>
      by_cases own : other = task
      · subst own
        simp only [Rounds.note, if_pos]
        refine ledger.add rfl rfl rfl ?_ (fun _ => .inl) (.inl ⟨rfl, rfl⟩) fun h => ⟨h, idle⟩
        simp [Instant.lost?, Request.lost?]
      · simp only [Rounds.note, if_neg own]
        exact ledger.aside rfl (if_neg own) idle
    | notFound => exact ledger.aside rfl rfl idle
    | unavailable => exact ledger.aside rfl rfl idle
  · by_cases own : other = task
    · subst own
      simp only [Rounds.note, if_pos]
      exact ledger.add rfl rfl rfl rfl (fun _ => .inl) (.inr ⟨(may.2 rfl).2, _, rfl, rfl⟩) nofun
    · simp only [Rounds.note, if_neg own]
      exact ledger.written rfl rfl (decide_eq_false own)

/-- The books agree after an answered request that the rules allow. -/
theorem Ledger.step {most : Nat} {past : List Instant} {request : Request} {reply : request.Reply}
    {before after : Store} (ledger : Ledger task b past) (may : Rounds.May task most b request)
    (answer : storeService task before request reply after) :
    Ledger task (Rounds.note task b request reply) (⟨⟨request, reply⟩, before, after⟩ :: past) := by
  cases request
  case readTask other =>
    obtain ⟨rfl, -, -, unwritten⟩ := may
    obtain ⟨-, rfl⟩ := answer
    have idle : Instant.IsIdle other ⟨⟨.readTask other, reply⟩, before, _⟩ :=
      ⟨Store.read_sameContent other before, rfl, nofun⟩
    rcases reply with cause | found
    · exact ledger.aside rfl rfl idle
    · exact ledger.look unwritten rfl idle
  case readSession session =>
    obtain ⟨-, t, read, rfl⟩ := may
    obtain rfl := answer
    rcases reply with cause | found
    · exact ledger.aside rfl rfl ⟨.refl _, rfl, nofun⟩
    · refine ledger.add rfl rfl rfl rfl ?_ (.inl ⟨rfl, rfl⟩) fun h => ⟨h, .refl _, rfl, nofun⟩
      rintro session same
      obtain rfl : found = some session := same
      exact .inr ⟨t, read, rfl⟩
  case updateTask other expected change =>
    obtain ⟨same, rfl⟩ := answer
    exact ledger.updates may same.symm
  case createSuccessor parent candidate =>
    obtain ⟨same, rfl⟩ := answer
    rcases reply with cause | successor
    · exact ledger.aside rfl rfl ⟨create_fails same.symm, rfl, nofun⟩
    · exact ledger.written rfl rfl rfl
  case findSuccessor other =>
    obtain ⟨-, rfl⟩ := answer
    exact ledger.aside rfl rfl ⟨Store.findSuccessor_sameContent other before, rfl, nofun⟩
  case abandon other => exact ledger.written rfl rfl rfl
  case newTaskId =>
    obtain ⟨rfl, -⟩ := answer
    exact ledger.aside rfl rfl ⟨.refl _, rfl, nofun⟩
  all_goals
    obtain rfl := answer
    exact ledger.aside rfl rfl ⟨.refl _, rfl, nofun⟩

/-! What the rules say of what has happened. -/

/-- What has happened to an acquisition that keeps the rules. -/
abbrev KeptRounds (task : TaskId) (most : Nat) (past : List Instant) : Prop :=
  Obeyed (storeService task) (Orderly task) (Rounds.rules task most) {} past

/-- The books after it. -/
abbrev booksOf (task : TaskId) (most : Nat) (past : List Instant) : Rounds :=
  booksAt (Rounds.rules task most) {} past

section Kept

variable {most : Nat} {past : List Instant} {m : Instant}

theorem ledger_of_kept (kept : KeptRounds task most past) :
    Ledger task (booksOf task most past) past := by
  induction past with
  | nil =>
    refine ⟨rfl, rfl, ?_, ?_, ?_, ?_, fun _ => ?_⟩
    all_goals exact fun _ h => nomatch h
  | cons m past ih => exact (ih kept.2).step kept.1.1 kept.1.2.2

/-- Before a look, and before the update of the task, nothing is written. -/
theorem unwritten_of_may (may : Rounds.May task most b m.request)
    (h : m.looks = true ∨ m.revises task = true) : b.wrote = false := by
  obtain ⟨⟨request, reply⟩, before, after⟩ := m
  cases request
  case readTask other => exact may.2.2.2
  case updateTask other expected change =>
    rcases reply with cause | record
    · rcases h with h | h <;> cases h
    · rcases h with h | h
      · cases h
      · exact (may.2 (of_decide_eq_true h)).2
  all_goals rcases h with h | h <;> cases h

/-- After the update of the task there is no other one, and no other look. -/
theorem once_of_kept (kept : KeptRounds task most past) : past.Pairwise fun later earlier =>
    earlier.revises task = true → later.revises task = false ∧ later.looks = false := by
  induction past with
  | nil => exact .nil
  | cons m past ih =>
    refine .cons (fun earlier before revises => ?_) (ih kept.2)
    have late : ¬ (m.looks = true ∨ m.revises task = true) := by
      intro again
      have unwritten := unwritten_of_may kept.1.1 again
      cases ((ledger_of_kept kept.2).idle unwritten earlier before).kept.symm.trans revises
    rw [not_or, Bool.not_eq_true, Bool.not_eq_true] at late
    exact ⟨late.2, late.1⟩

/-- There are no more looks than rounds. -/
theorem looks_le_of_kept (kept : KeptRounds task most past) : past.countP Instant.looks ≤ most := by
  induction past with
  | nil => exact Nat.zero_le most
  | cons m past ih =>
    rw [List.countP_cons]
    split
    · next again =>
      obtain ⟨⟨request, reply⟩, before, after⟩ := m
      cases request
      case readTask other =>
        obtain ⟨-, goesOn, looks, -⟩ := kept.1.1
        rw [← (ledger_of_kept kept.2).looks, looks]
        exact goesOn
      all_goals cases again
    · exact ih kept.2

/-- What has happened was allowed, and was answered by an orderly store. -/
theorem answered_of_kept (kept : KeptRounds task most past) (hm : m ∈ past) :
    ∃ b, Rounds.May task most b m.request ∧ Orderly task m.before ∧
      storeService task m.before m.request m.reply m.after := by
  induction past with
  | nil => cases hm
  | cons m' past ih =>
    rcases hm with _ | ⟨_, hm⟩
    · exact ⟨_, kept.1⟩
    · exact ih kept.2 hm

/-- Only the update of the task touches the record of the task. -/
theorem untouched_of_kept (kept : KeptRounds task most past) (hm : m ∈ past)
    (same : m.revises task = false) : m.after.get? task = m.before.get? task := by
  obtain ⟨b, may, orderly, answer⟩ := answered_of_kept kept hm
  obtain ⟨⟨request, reply⟩, before, after⟩ := m
  have untouched : ∀ {σ σ'}, Store.SameContent σ σ' → σ'.get? task = σ.get? task := by
    rintro σ _ ⟨failures, rfl⟩
    rfl
  dsimp only at answer may orderly ⊢
  cases request
  case readTask other =>
    obtain ⟨-, rfl⟩ := answer
    exact untouched (Store.read_sameContent other before)
  case updateTask other expected change =>
    obtain ⟨answered, rfl⟩ := answer
    rcases reply with cause | record
    · exact untouched (update_fails answered.symm)
    · exact (update_keeps ..).2 task fun e => of_decide_eq_false same e.symm
  case createSuccessor parent candidate =>
    obtain ⟨-, rfl⟩ := answer
    exact (orderly.create may.2.1 may.2.2).2.2.2
  case findSuccessor other =>
    obtain ⟨-, rfl⟩ := answer
    exact untouched (Store.findSuccessor_sameContent other before)
  case newTaskId => exact congrArg (Store.get? · task) answer.1
  all_goals exact congrArg (Store.get? · task) answer

/-- An update that was applied met the record it expected. -/
theorem stored_of_update {other : TaskId} {expected : Expectation} {change : TaskUpdate}
    {record : TaskRecord} (h : (Store.update other expected change σ).1 = .ok record) :
    ∃ t, σ.get? other = some t ∧ expected.holds t = true ∧ record = t.apply change ∧
      (Store.update other expected change σ).2.get? other = some record := by
  rcases Store.update_cases other expected change σ with
    ⟨reason, failed, -⟩ | ⟨-, same⟩ | ⟨t, -, -, same⟩ | ⟨t, stored, holds, same⟩
  · cases failed.symm.trans h
  · cases (congrArg Prod.fst same).symm.trans h
  · cases (congrArg Prod.fst same).symm.trans h
  · obtain rfl := Except.ok.inj ((congrArg Prod.fst same).symm.trans h)
    exact ⟨t, stored, holds, rfl, by rw [same]; exact (Table.get?_set ..).trans (if_pos rfl)⟩

end Kept

end GridAgent.Cluster
