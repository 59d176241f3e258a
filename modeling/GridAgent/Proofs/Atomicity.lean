import GridAgent.Proofs.Store.Trails
import GridAgent.Proofs.Successor

/-!
# Calls that happen at once, and the log of what they write

A call to the store is refused, fails, or is carried out, and in the first two cases the store stays
as it is but for the refusals to come. Everything that is written to a record goes to the log with it:
after any requests the log names exactly the tasks that are stored, and the last that it says of a task
is the status the task has.
-/

namespace GridAgent.Store

variable {s s' : Store} {task : TaskId} {α : Type}

/-! ### One call -/

/-- While failures are left, a call is refused and does nothing but use one of them up. -/
def Refuses (s : Store) (call : Call α) : Prop :=
  0 < s.failures →
    call s = (.error (.unavailable "injected failure"), { s with failures := s.failures - 1 })

theorem refuses_fallible (s : Store) (call : Call α) : s.Refuses call.fallible :=
  fun failing => if_pos failing

/-- A refusal is the only thing that can go wrong with a call. -/
def OnlyRefuses (s : Store) (call : Call α) : Prop :=
  s.failures = 0 → ∃ value, (call s).1 = .ok value

/-- What the store is after an update, whatever came of it. -/
structure Updates (s : Store) (task : TaskId) (expected : Expectation) (change : TaskUpdate) : Prop
    where
  /-- If no record is found there is none of this task, and nothing changes. -/
  missing : ∀ other, (update task expected change s).1 = .error (.notFound other) →
    other = task ∧ s.get? task = none ∧ (update task expected change s).2 = s
  /-- An update that is lost is told the status and the owner of the record, which is not as
  expected, and nothing changes. -/
  lost : ∀ lost, (update task expected change s).1 = .error (.conflict lost) →
    ∃ record, s.get? task = some record ∧ expected.holds record = false ∧
      lost = ⟨record.status, record.owner⟩ ∧ (update task expected change s).2 = s
  /-- An update that succeeds finds a record that is as expected, and answers what it stores in its
  place. No other record changes, and nothing else but the log, which grows by the new status. -/
  written : ∀ stored, (update task expected change s).1 = .ok stored →
    ∃ record, s.get? task = some record ∧ expected.holds record = true ∧
      stored = record.apply change ∧
      (update task expected change s).2.get? task = some stored ∧
      (∀ other, other ≠ task → (update task expected change s).2.get? other = s.get? other) ∧
      (update task expected change s).2 =
        { s with
          tasks := (update task expected change s).2.tasks
          log := s.log ++ [(task, stored.status)] }

theorem updates (s : Store) (task : TaskId) (expected : Expectation) (change : TaskUpdate) :
    s.Updates task expected change := by
  have cases := update_cases task expected change s
  refine ⟨fun other failed => ?_, fun lost failed => ?_, fun stored succeeded => ?_⟩
  · rcases cases with ⟨_, refused, -⟩ | ⟨missing, found⟩ | ⟨_, -, -, lost⟩ | ⟨_, -, -, written⟩
    · cases failed.symm.trans refused
    · rw [found] at failed ⊢
      cases failed
      exact ⟨rfl, missing, rfl⟩
    · rw [lost] at failed
      cases failed
    · rw [written] at failed
      cases failed
  · rcases cases with ⟨_, refused, -⟩ | ⟨-, found⟩ | ⟨record, stored, other, lost⟩ |
      ⟨_, -, -, written⟩
    · cases failed.symm.trans refused
    · rw [found] at failed
      cases failed
    · rw [lost] at failed ⊢
      cases failed
      exact ⟨record, stored, other, rfl, rfl⟩
    · rw [written] at failed
      cases failed
  · rcases cases with ⟨_, refused, -⟩ | ⟨-, found⟩ | ⟨_, -, -, lost⟩ |
      ⟨record, found, holds, written⟩
    · cases succeeded.symm.trans refused
    · rw [found] at succeeded
      cases succeeded
    · rw [lost] at succeeded
      cases succeeded
    · rw [written] at succeeded ⊢
      cases succeeded
      have looked (other : TaskId) := Table.get?_set s.tasks task other (record.apply change)
      refine ⟨record, found, holds, rfl, (looked task).trans (if_pos rfl),
        fun other h => (looked other).trans (if_neg h), ?_⟩
      rw [TaskRecord.apply_status]

/-- Which answer an update gets is decided by the record. -/
structure Decides (s : Store) (task : TaskId) (expected : Expectation) (change : TaskUpdate) : Prop
    where
  /-- It succeeds exactly if the record is as expected. -/
  written : (∃ stored, (update task expected change s).1 = .ok stored) ↔
    ∃ record, s.get? task = some record ∧ expected.holds record = true
  /-- It is lost exactly if the record is not. -/
  lost : (∃ lost, (update task expected change s).1 = .error (.conflict lost)) ↔
    ∃ record, s.get? task = some record ∧ expected.holds record = false
  /-- It finds nothing exactly if there is no record. -/
  missing : (update task expected change s).1 = .error (.notFound task) ↔ s.get? task = none

theorem decides_of_healthy (healthy : s.failures = 0) (task : TaskId) (expected : Expectation)
    (change : TaskUpdate) : s.Decides task expected change := by
  rcases update_cases task expected change s with ⟨reason, refused, -⟩ | ⟨missing, found⟩ |
    ⟨record, stored, other, lost⟩ | ⟨record, stored, holds, written⟩
  · exact absurd refused (update_ne_unavailable healthy expected change reason)
  · constructor <;> simp [found, missing]
  · constructor <;> simp [lost, stored, other]
  · constructor <;> simp [written, stored, holds]

theorem onlyRefuses_createSuccessor (s : Store) (parent candidate : TaskRecord) :
    s.OnlyRefuses (createSuccessor parent candidate) := by
  intro healthy
  unfold createSuccessor
  rw [fallible_of_healthy _ healthy]
  split
  · exact ⟨_, rfl⟩
  · exact ⟨_, rfl⟩

theorem onlyRefuses_read (s : Store) (task : TaskId) : s.OnlyRefuses (read task) := fun healthy =>
  ⟨_, congrArg Prod.fst (fallible_of_healthy _ healthy)⟩

theorem onlyRefuses_findSuccessor (s : Store) (task : TaskId) : s.OnlyRefuses (findSuccessor task) :=
  fun healthy => ⟨_, congrArg Prod.fst (fallible_of_healthy _ healthy)⟩

/-! ### What the log says last -/

/-- The log names a task if and only if it is stored, and says its status last. -/
def Logged (s : Store) : Prop :=
  ∀ task, (s.transitionsOf task).getLast? = (s.get? task).map (·.status)

/-- The last of some entries with one status. -/
theorem getLast?_entries (tasks : List TaskId) (status : TaskStatus) (task : TaskId) :
    (((tasks.map fun x => (x, status)).filter fun e => e.1 = task).map Prod.snd).getLast? =
      if task ∈ tasks then some status else none := by
  have constant : ((tasks.map fun x => (x, status)).filter fun e => e.1 = task).map Prod.snd =
      List.replicate (tasks.count task) status := by
    rw [List.filter_map, List.map_map, List.count_eq_countP, List.countP_eq_length_filter]
    exact List.map_const' ..
  rw [constant, List.getLast?_replicate]
  split
  · next none => exact (if_neg (List.count_eq_zero.mp none)).symm
  · next some => exact (if_pos (not_not.mp (mt List.count_eq_zero.mpr some))).symm

/-- Some records are given a status, which is logged for each of them, and no other record has its
status changed. -/
theorem Logged.written (h : s.Logged) {tasks : List TaskId} {status : TaskStatus}
    (log : s'.log = s.log ++ tasks.map fun task => (task, status))
    (here : ∀ task ∈ tasks, (s'.get? task).map (·.status) = some status)
    (others : ∀ task, task ∉ tasks → (s'.get? task).map (·.status) = (s.get? task).map (·.status)) :
    s'.Logged := by
  intro task
  rw [transitionsOf_of_log log, List.getLast?_append, getLast?_entries]
  by_cases mem : task ∈ tasks
  · rw [if_pos mem, here task mem]
    rfl
  · rw [if_neg mem, others task mem, ← h task]
    rfl

/-- A record that is put in, new or in place of another. -/
theorem Logged.inserted (h : s.Logged) (record : TaskRecord) : (s.insert record).Logged := by
  have log : (s.insert record).log = s.log ++ [record.id].map fun task => (task, record.status) := rfl
  refine h.written log (fun task mem => ?_) fun task other => ?_
  · rw [get?_insert, if_pos (List.mem_singleton.mp mem)]
    rfl
  · rw [get?_insert, if_neg (mt List.mem_singleton.mpr other)]

/-- Nothing but the number of failures to come changes. -/
theorem Logged.sameContent (h : s.Logged) (same : SameContent s s') : s'.Logged := by
  obtain ⟨failures, rfl⟩ := same
  exact h

theorem Logged.updated (h : s.Logged) (task : TaskId) (expected : Expectation) (change : TaskUpdate) :
    (update task expected change s).2.Logged := by
  rcases update_cases task expected change s with
    ⟨_, -, same⟩ | ⟨-, missing⟩ | ⟨_, -, -, lost⟩ | ⟨record, -, -, written⟩
  · exact h.sameContent same
  · rw [missing]
    exact h
  · rw [lost]
    exact h
  · rw [written]
    have looked (x : TaskId) := Table.get?_set s.tasks task x (record.apply change)
    have log : s.log ++ [(task, change.status)] =
        s.log ++ [task].map fun task => (task, change.status) := rfl
    refine h.written log (fun x mem => ?_) fun x other => ?_
    · have status := TaskRecord.apply_status record change
      exact (congrArg _ ((looked x).trans (if_pos (List.mem_singleton.mp mem)))).trans
        (congrArg some status)
    · exact congrArg _ ((looked x).trans (if_neg (mt List.mem_singleton.mpr other)))

theorem Logged.succeeded (h : s.Logged) (parent candidate : TaskRecord) :
    (createSuccessor parent candidate s).2.Logged := by
  rcases createSuccessor_cases parent candidate s with
    ⟨_, -, same⟩ | ⟨_, -, kept⟩ | ⟨-, stored⟩
  · exact h.sameContent same
  · rw [kept]
    exact h
  · rw [stored]
    have noted : Logged { s with successors := s.successors.set parent.id candidate.id } := h
    exact noted.inserted candidate

/-- Whoever becomes submitted when data is produced was in creation; the rest keep their status. -/
theorem Logged.resolved (h : s.Logged) (visit : Visit) (data : DataId) (now : Date) :
    (s.resolveDataIn visit data now).2.Logged := by
  have same (task : TaskId) := (s.unblockedIn_perm visit data).mem_iff (a := task)
  have log : (s.resolveDataIn visit data now).2.log =
      s.log ++ (s.unblockedIn visit data).map fun task => (task, .submitted) := by
    rw [resolveDataIn_eq]
  refine h.written log (fun task mem => ?_) fun task other => ?_
  · have woken := (same task).mp mem
    obtain ⟨record, found, -⟩ := creating_of_unblockedBy woken
    rw [records_resolveDataIn, get?_resolveData, if_pos woken]
    rcases s.get?_satisfy_cases data task with ⟨missing, -⟩ | ⟨_, _, -, found'⟩
    · cases missing.symm.trans found
    · rw [found']
      exact congrArg some (TaskRecord.apply_status _ _)
  · rw [records_resolveDataIn, get?_resolveData, if_neg (mt (same task).mpr other)]
    rcases s.get?_satisfy_cases data task with ⟨missing, missing'⟩ | ⟨_, _, found, found'⟩
    · rw [missing, missing']
    · rw [found, found']
      rfl

/-- Whoever fails when data is given up was in creation or held back; the rest keep their record. -/
theorem Logged.aborted (h : s.Logged) (visit : Visit) (data : DataId) (now : Date) :
    (s.abortDataIn visit data now).2.Logged := by
  have same (task : TaskId) := (s.failedIn_perm visit data).mem_iff (a := task)
  have log : (s.abortDataIn visit data now).2.log =
      s.log ++ (s.failedIn visit data).map fun task => (task, .error) := by
    rw [abortDataIn_eq]
  refine h.written log (fun task mem => ?_) fun task other => ?_
  · have failed := (same task).mp mem
    obtain ⟨record, found, -⟩ := waiting_of_failedBy failed
    rw [records_abortDataIn, get?_abortData, if_pos failed, found]
    exact congrArg some (TaskRecord.apply_status _ _)
  · rw [records_abortDataIn, get?_abortData, if_neg (mt (same task).mpr other)]

/-- Whatever is asked of the store goes to the log with what it writes. -/
theorem Logged.asked (h : s.Logged) (request : Request) : (s.asked request).Logged := by
  cases request with
  | insert record => exact h.inserted record
  | read task => exact h.sameContent (read_sameContent task s)
  | update task expected change => exact h.updated task expected change
  | createSuccessor parent candidate => exact h.succeeded parent candidate
  | findSuccessor task => exact h.sameContent (findSuccessor_sameContent task s)
  | resolve visit data now => exact h.resolved visit data now
  | abort visit data now => exact h.aborted visit data now
  | failNext calls => exact h
  | setHealth health => exact h

/-- The same for several requests. -/
theorem Logged.askedAll (h : s.Logged) (requests : List Request) :
    (requests.foldl Store.asked s).Logged := by
  induction requests generalizing s with
  | nil => exact h
  | cons request rest ih => exact ih (h.asked request)

/-- A status is logged for a task exactly if there is a record of it. -/
theorem Logged.named (h : s.Logged) (task : TaskId) :
    (∃ status, (task, status) ∈ s.log) ↔ ∃ record, s.get? task = some record := by
  have logged : (∃ status, (task, status) ∈ s.log) ↔ s.transitionsOf task ≠ [] := by
    constructor
    · rintro ⟨status, mem⟩ none
      have mem' : status ∈ s.transitionsOf task :=
        List.mem_map_of_mem (List.mem_filter.mpr ⟨mem, decide_eq_true rfl⟩)
      exact List.not_mem_nil (none ▸ mem')
    · intro some
      obtain ⟨status, mem⟩ := List.exists_mem_of_ne_nil _ some
      obtain ⟨⟨other, status⟩, entry, -⟩ := List.mem_map.mp mem
      obtain ⟨entry, same⟩ := List.mem_filter.mp entry
      exact ⟨status, of_decide_eq_true same ▸ entry⟩
  have last := h task
  rw [logged, ← Option.isSome_iff_exists, ← List.getLast?_isSome, last, Option.isSome_map]

/-! ### All calls, and all requests -/

/-- For every store, and for every sequence of requests to a new one. While failures are left each of
the four calls is refused and uses up one of them, and does nothing else; with none left three of them
succeed, and an update succeeds, is lost or finds nothing by the record alone. A record that is missing
and an update that is lost change nothing, and the latter is told status and owner of the record; an
update that succeeds changes one record, from one that is as expected to the one it answers. Whatever
was asked, the log names a task exactly if it is stored, and says last the status that it has. -/
theorem calls_atomic :
    (∀ s : Store,
      (∀ task, s.Refuses (read task) ∧ s.OnlyRefuses (read task)) ∧
      (∀ task expected change, s.Refuses (update task expected change) ∧
        (s.failures = 0 → s.Decides task expected change) ∧ s.Updates task expected change) ∧
      (∀ parent candidate, s.Refuses (createSuccessor parent candidate) ∧
        s.OnlyRefuses (createSuccessor parent candidate)) ∧
      ∀ task, s.Refuses (findSuccessor task) ∧ s.OnlyRefuses (findSuccessor task)) ∧
    ∀ (requests : List Request) (task : TaskId),
      ((∃ status, (task, status) ∈ (requests.foldl asked {}).log) ↔
        ∃ record, (requests.foldl asked {}).get? task = some record) ∧
      ∀ record, (requests.foldl asked {}).get? task = some record →
        ((requests.foldl asked {}).transitionsOf task).getLast? = some record.status := by
  refine ⟨fun s => ⟨fun task => ?_, fun task expected change => ?_, fun parent candidate => ?_,
    fun task => ?_⟩, fun requests task => ?_⟩
  · exact ⟨refuses_fallible s _, onlyRefuses_read s task⟩
  · exact ⟨refuses_fallible s _, fun healthy => decides_of_healthy healthy task expected change,
      updates s task expected change⟩
  · exact ⟨refuses_fallible s _, onlyRefuses_createSuccessor s parent candidate⟩
  · exact ⟨refuses_fallible s _, onlyRefuses_findSuccessor s task⟩
  · have new : Logged {} := fun _ => rfl
    have logged := new.askedAll requests
    refine ⟨logged.named task, fun record found => ?_⟩
    rw [logged task, found]
    rfl

end GridAgent.Store
