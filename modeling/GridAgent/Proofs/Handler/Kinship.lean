import GridAgent.Proofs.Cluster.Books
import GridAgent.Proofs.Handler.Routine
import GridAgent.Proofs.Options
import GridAgent.Task.Lineage

/-!
# Attempts of one lineage

An attempt passes on what its lineage is about: session, root, ancestors, payload, dependencies,
expected results, and how many retries the lineage may have once the defaults of the session are
filled in. Whatever record of its task an agent goes on with, it has all of this from the stored one.
So an agent creates successors only of a task that is retried, from a record that passes on the same,
and it makes a task retried only while retries are left. A successor needs the data that its parent
needs and waits for what its parent waits for, and nothing but a successor is promoted.
-/

namespace GridAgent

/-- What an attempt passes on. -/
structure Line where
  /-- Its session. -/
  session : SessionId
  /-- Root of the lineage. -/
  initial : TaskId
  /-- Ancestors in the lineage, oldest first. -/
  ancestors : List TaskId
  /-- The object that the worker is given. -/
  payload : DataId
  /-- Data the task needs. -/
  dependencies : IdSet .data
  /-- Results the task is expected to produce. -/
  outputs : List DataId
  /-- Retries of the lineage, with the default of the session. -/
  limit : Nat

/-- What the record passes on, given the defaults of the sessions. -/
def TaskRecord.line (defaults : SessionId → Options) (t : TaskRecord) : Line :=
  { t with limit := (t.options.mergedWith (defaults t.session)).retryLimit }

namespace TaskRecord

variable {defaults : SessionId → Options} {t t' : TaskRecord}

/-- Defaults that are filled in twice are filled in once. -/
theorem line_withDefaults (t : TaskRecord) :
    (t.withDefaults (defaults t.session)).line defaults = t.line defaults := by
  unfold line withDefaults
  simp only [Options.mergedWith_idem]

/-- A record that takes over the options of another attempt passes on the same. -/
theorem line_adopted (h : t'.line defaults = t.line defaults) :
    { t' with options := t.options }.line defaults = t.line defaults := by
  have session : t'.session = t.session := congrArg Line.session h
  unfold line at h ⊢
  simp only [Line.mk.injEq] at h ⊢
  exact ⟨h.1, h.2.1, h.2.2.1, h.2.2.2.1, h.2.2.2.2.1, h.2.2.2.2.2.1, by rw [session]⟩

/-- A limit of the record itself is no larger than the one with the defaults. -/
theorem retryLimit_le (t : TaskRecord) : t.options.retryLimit ≤ (t.line defaults).limit := by
  show t.options.maxRetries.getD 0 ≤
    (t.options.maxRetries.or (defaults t.session).maxRetries).getD 0
  cases t.options.maxRetries with
  | none => exact Nat.zero_le _
  | some limit => exact Nat.le_refl _

/-- A successor continues the lineage. -/
theorem line_successor (parent : TaskRecord) (id : TaskId) (now : Date) :
    (parent.successor id now).line defaults =
      { parent.line defaults with ancestors := parent.ancestors ++ [parent.id] } := rfl

end TaskRecord

namespace Cluster

open Agent Program

variable {defaults : SessionId → Options} {task : TaskId} {line : Line} {retried : Prop}

/-- What is known of a record of the task: what it passes on, and whether the task may be retried. -/
structure IsKin (defaults : SessionId → Options) (task : TaskId) (line : Line) (retried : Prop)
    (t : TaskRecord) : Prop where
  /-- It is a record of the task. -/
  id : t.id = task
  /-- It passes on what the task passes on. -/
  line : t.line defaults = line
  /-- It is retried only if the task is. -/
  retried : t.status = .retried → retried

/-- The rules of a lineage, for an agent that works on one of its tasks. -/
def kinRules (defaults : SessionId → Options) (task : TaskId) (line : Line) (retried : Prop) :
    Conduct collaborators Unit where
  may
    | _, .updateTask _ _ change => change.status = .retried → line.ancestors.length < line.limit
    | _, .createSuccessor parent candidate =>
      IsKin defaults task line retried parent ∧ parent.status = .retried ∧
        ∃ id now, candidate = parent.successor id now
    | _, _ => True
  credible
    | .readTask other, reply =>
      other = task → ∀ t, reply = .ok (some t) → IsKin defaults task line retried t
    | .updateTask other _ change, reply =>
      other = task → ∀ t, reply = .ok t →
        IsKin defaults task line retried t ∧ t.status = change.status
    | .readSession session, reply =>
      ∀ found : SessionRecord, reply = .ok (some found) → found.defaults = defaults session
    | _, _ => True
  note _ _ _ := ()

/-- A task is retried only while retries are left. -/
theorem lt_limit_of_retry {t : TaskRecord} (ht : IsKin defaults task line retried t)
    (hp : RetryPlan.ofTask t = .retry) : line.ancestors.length < line.limit := by
  have left : t.ancestors.length < t.options.retryLimit := by
    unfold RetryPlan.ofTask at hp
    split at hp
    · cases hp
    · next h => exact Nat.lt_of_not_le h
  rw [← ht.line]
  exact Nat.lt_of_lt_of_le left t.retryLimit_le

/-- The request retries a task or creates a successor. -/
def triesAgain : Request → Bool
  | .updateTask _ _ change => change.status = .retried
  | .createSuccessor .. => true
  | _ => false

/-- Rules that leave an agent free but for retries and successors grant it all its calls, if they show
its task as described, and let it do what follows from the description. -/
theorem executes_of_free {C : Conduct collaborators Unit} {task : TaskId} {R : TaskRecord → Prop}
    (free : ∀ request, triesAgain request = false → C.may () request)
    (id : ∀ t, R t → t.id = task)
    (seen : ∀ t, C.credible (.readTask task) (.ok (some t)) → R t)
    (merged : ∀ t session, R t → C.credible (.readSession t.session) (.ok (some session)) →
      R (t.withDefaults session.defaults))
    (updated : ∀ expected change t, C.credible (.updateTask task expected change) (.ok t) →
      R t ∧ t.status = change.status)
    (adopted : ∀ t t', R t → R t' → R { t' with options := t.options })
    (retry : ∀ expected change t, R t → RetryPlan.ofTask t = .retry →
      C.may () (.updateTask task expected change))
    (succeed : ∀ parent id now, R parent → parent.status = .retried →
      C.may () (.createSuccessor parent (parent.successor id now))) :
    Executes C () task R never := by
  have grants : Grants C () task R :=
    { id
      plain := fun request hr =>
        ⟨free request (by cases request <;> first | rfl | cases hr), fun _ => rfl⟩
      finalize := fun _ _ _ => ⟨free _ rfl, fun _ => rfl⟩
      abandon := fun _ => ⟨free _ rfl, fun _ => rfl⟩
      look := ⟨free _ rfl, fun _ => rfl⟩
      seen
      merged
      update := fun _ _ _ goesOn => ⟨free _ (decide_eq_false goesOn), fun _ => rfl⟩
      updated
      adopted
      promote := fun _ _ _ => ⟨free _ rfl, fun _ => rfl⟩
      succeed := fun parent id now hp hs => ⟨succeed parent id now hp hs, fun _ => rfl⟩ }
  refine grants.executes (fun request hr => free request ?_) (fun _ => free _ rfl)
    (fun expected change starts => free _ (decide_eq_false ?_)) retry
  · cases request <;> first | rfl | cases hr
  · rw [starts]
    nofun

/-- The rules of a lineage grant an agent all its calls: a task with retries left may be retried. -/
theorem kinRules_executes (defaults : SessionId → Options) (task : TaskId) (line : Line)
    (retried : Prop) : Executes (kinRules defaults task line retried) () task
      (IsKin defaults task line retried) never := by
  refine executes_of_free (fun request free => ?_) (fun _ h => h.id) (fun t h => h rfl t rfl)
    (fun t session ht hs => ?_) (fun _ _ t h => h rfl t rfl) (fun t t' ht ht' => ?_)
    (fun _ _ _ ht hp _ => lt_limit_of_retry ht hp) fun _ id now hp hs => ⟨hp, hs, id, now, rfl⟩
  · cases request with
    | updateTask other expected change => exact fun h => absurd h (of_decide_eq_false free)
    | createSuccessor parent candidate => cases free
    | _ => exact trivial
  · rw [hs session rfl]
    exact ⟨ht.id, (TaskRecord.line_withDefaults t).trans ht.line, ht.retried⟩
  · exact ⟨ht'.id, (TaskRecord.line_adopted (ht'.line.trans ht.line.symm)).trans ht.line, ht'.retried⟩

/-- Settling results is not looked at. -/
theorem kinRules_unnoted (defaults : SessionId → Options) (task : TaskId) (line : Line)
    (retried : Prop) : Unnoted (kinRules defaults task line retried) True :=
  unnoted_of_ignored (fun _ _ _ => ⟨trivial, rfl⟩) fun _ _ _ => ⟨trivial, rfl⟩

/-- Every job follows rules under which all its calls are granted, call by call, whatever is done for a
call that settles results. -/
theorem obeys_of_expands {C : Conduct collaborators Unit} {D : Conduct operations Unit}
    {R : TaskRecord → Prop} {job : Job} (rules : Executes C () job.task R never)
    (register : C.may () (.register job.task))
    (expands : ∀ request, C.may () request →
      (agentCall request).Follows D () fun reply _ => C.credible request reply) (s : Settings) :
    (Actor.start s job).Obeys D () fun _ _ _ => True := by
  refine Actor.obeys_start ?_
  have call {α : Type} {p : Action α} {Q : α → Unit → Prop} (h : p.Follows C () Q) :
      (agentCalls p).Follows D () fun _ _ => True := by
    refine (Follows.expand (C := C) (fun _ request hm => ?_) h).mono fun _ _ _ => trivial
    exact (expands request hm).mono fun reply _ credible => ⟨credible, rfl⟩
  cases job with
  | handle message task => exact call (rules.handleMessage ⟨register, fun _ => rfl⟩ message)
  | acquire task => exact call (rules.acquireWithin _)
  | stop run task => exact call (rules.stopExecution (E := never) run)
  | watch run task => exact call (rules.lookForCancellation run)

/-- The same where settling results is not looked at. -/
theorem obeys_of_executes {C : Conduct collaborators Unit} {R : TaskRecord → Prop} {job : Job}
    (rules : Executes C () job.task R never) (unnoted : Unnoted C True)
    (register : C.may () (.register job.task)) (s : Settings) :
    (Actor.start s job).Obeys (withFinalizers C True) () fun _ _ _ => True :=
  obeys_of_expands rules register
    (fun _ hm => (agentCall_withFinalizers unnoted hm).mono fun _ _ h => h.1) s

/-- Every job follows the rules of the lineage of its task. -/
theorem kinRules_followed (s : Settings) (job : Job) :
    (Actor.start s job).Obeys (withFinalizers (kinRules defaults job.task line retried) True) ()
      fun _ _ _ => True :=
  obeys_of_executes (kinRules_executes ..) (kinRules_unnoted ..) trivial s

/-! What successors wait for. A successor waits for what its parent waits for, as the parent was seen
when it was retried. -/

variable {W : IdSet .data → Prop}

/-- What is known of a record of the task: what it waits for if it is retried. -/
structure IsParent (task : TaskId) (W : IdSet .data → Prop) (t : TaskRecord) : Prop where
  /-- It is a record of the task. -/
  id : t.id = task
  /-- While it is retried it waits for what is described. -/
  waits : t.status = .retried → W t.remaining

/-- The rules of a succession, for an agent that works on the task. -/
def successionRules (task : TaskId) (W : IdSet .data → Prop) : Conduct collaborators Unit where
  may
    | _, .createSuccessor parent candidate => parent.id = task ∧ W candidate.remaining
    | _, _ => True
  credible
    | .readTask other, reply => other = task → ∀ t, reply = .ok (some t) → IsParent task W t
    | .updateTask other _ change, reply =>
      other = task → ∀ t, reply = .ok t → IsParent task W t ∧ t.status = change.status
    | _, _ => True
  note _ _ _ := ()

/-- The rules of a succession grant an agent all its calls. -/
theorem successionRules_executes (task : TaskId) (W : IdSet .data → Prop) :
    Executes (successionRules task W) () task (IsParent task W) never := by
  refine executes_of_free (fun request free => ?_) (fun _ h => h.id) (fun t h => h rfl t rfl)
    (fun _ _ ht _ => ⟨ht.id, ht.waits⟩) (fun _ _ t h => h rfl t rfl)
    (fun _ _ _ ht' => ⟨ht'.id, ht'.waits⟩) (fun _ _ _ _ _ => trivial)
    fun _ _ _ hp hs => ⟨hp.id, hp.waits hs⟩
  cases request with
  | createSuccessor parent candidate => cases free
  | _ => exact trivial

/-- Every job follows the rules of the succession of its task. -/
theorem successionRules_followed (s : Settings) (job : Job) :
    (Actor.start s job).Obeys (withFinalizers (successionRules job.task W) True) ()
      fun _ _ _ => True := by
  refine obeys_of_executes (successionRules_executes job.task W) ?_ trivial s
  exact unnoted_of_ignored (fun _ _ _ => ⟨trivial, rfl⟩) fun _ _ _ => ⟨trivial, rfl⟩

/-! What successors need. A successor needs what its parent needs. -/

variable {needs : IdSet .data}

/-- The rules of an agent that works on a task with known needs. -/
def needRules (task : TaskId) (needs : IdSet .data) : Conduct collaborators Unit where
  may
    | _, .createSuccessor parent candidate => parent.id = task ∧ candidate.dependencies = needs
    | _, _ => True
  credible
    | .readTask other, reply =>
      other = task → ∀ t, reply = .ok (some t) → t.id = task ∧ t.dependencies = needs
    | .updateTask other _ change, reply =>
      other = task → ∀ t, reply = .ok t →
        (t.id = task ∧ t.dependencies = needs) ∧ t.status = change.status
    | _, _ => True
  note _ _ _ := ()

/-- The rules of known needs grant an agent all its calls. -/
theorem needRules_executes (task : TaskId) (needs : IdSet .data) :
    Executes (needRules task needs) () task (fun t => t.id = task ∧ t.dependencies = needs)
      never := by
  refine executes_of_free (fun request free => ?_) (fun _ h => h.1) (fun t h => h rfl t rfl)
    (fun _ _ ht _ => ht) (fun _ _ t h => h rfl t rfl) (fun _ _ _ ht' => ht') (fun _ _ _ _ _ => trivial)
    fun _ _ _ hp _ => hp
  cases request with
  | createSuccessor parent candidate => cases free
  | _ => exact trivial

/-- Every job follows the rules of the needs of its task. -/
theorem needRules_followed (s : Settings) (job : Job) :
    (Actor.start s job).Obeys (withFinalizers (needRules job.task needs) True) ()
      fun _ _ _ => True := by
  refine obeys_of_executes (needRules_executes job.task needs) ?_ trivial s
  exact unnoted_of_ignored (fun _ _ _ => ⟨trivial, rfl⟩) fun _ _ _ => ⟨trivial, rfl⟩

/-! What agents promote. Besides its own task an agent updates only what it was shown as a successor. -/

variable {H : TaskId → Prop}

/-- The rules of a promotion, for an agent that works on the task. -/
def promotionRules (task : TaskId) (H : TaskId → Prop) : Conduct collaborators Unit where
  may
    | _, .updateTask other _ _ => other = task ∨ H other
    | _, _ => True
  credible
    | .readTask other, reply => ∀ t, reply = .ok (some t) → t.id = other
    | .updateTask other _ change, reply =>
      ∀ t, reply = .ok t → t.id = other ∧ t.status = change.status
    | .findSuccessor _, reply => ∀ t, reply = .ok (some t) → H t.id
    | .createSuccessor .., reply => ∀ t, reply = .ok t → H t.id
    | _, _ => True
  note _ _ _ := ()

/-- Every successor that is shown may be promoted. -/
theorem promotionRules_shown {t : TaskRecord} (h : IsShown (promotionRules task H) t) : H t.id := by
  cases h with
  | found other shown => exact shown t rfl
  | stored parent candidate shown => exact shown t rfl

/-- The rules of a promotion grant an agent all its calls. -/
theorem promotionRules_executes (task : TaskId) (H : TaskId → Prop) :
    Executes (promotionRules task H) () task (fun t => t.id = task) never := by
  have own (expected : Expectation) (change : TaskUpdate) :
      (promotionRules task H).may () (.updateTask task expected change) ∧
        ∀ reply, (promotionRules task H).note () (.updateTask task expected change) reply = () :=
    ⟨.inl rfl, fun _ => rfl⟩
  have grants : Grants (promotionRules task H) () task (fun t => t.id = task) :=
    { id := fun _ h => h
      plain := fun request hr => by
        refine ⟨?_, fun _ => rfl⟩
        cases request <;> first | exact trivial | cases hr
      finalize := fun _ _ _ => ⟨trivial, fun _ => rfl⟩
      abandon := fun _ => ⟨trivial, fun _ => rfl⟩
      look := ⟨trivial, fun _ => rfl⟩
      seen := fun t h => h t rfl
      merged := fun _ _ ht _ => ht
      update := fun expected change _ _ => own expected change
      updated := fun _ _ t h => h t rfl
      adopted := fun _ _ _ ht' => ht'
      promote := fun _ _ shown => ⟨.inr (promotionRules_shown shown), fun _ => rfl⟩
      succeed := fun _ _ _ _ _ => ⟨trivial, fun _ => rfl⟩ }
  refine grants.executes (fun request hr => ?_) (fun _ => trivial) (fun _ _ _ => .inl rfl)
    fun _ _ _ _ _ => .inl rfl
  cases request <;> first | exact trivial | cases hr

/-- Every job follows the rules of a promotion. -/
theorem promotionRules_followed (s : Settings) (job : Job) :
    (Actor.start s job).Obeys (withFinalizers (promotionRules job.task H) True) ()
      fun _ _ _ => True := by
  refine obeys_of_executes (promotionRules_executes job.task H) ?_ trivial s
  exact unnoted_of_ignored (fun _ _ _ => ⟨trivial, rfl⟩) fun _ _ _ => ⟨trivial, rfl⟩

end Cluster

end GridAgent
