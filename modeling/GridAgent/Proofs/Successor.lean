import GridAgent.Proofs.Cluster.Run
import GridAgent.Proofs.Store.Settling
import GridAgent.Proofs.Store.Visits

/-!
# One successor for each parent

A successor is stored under the identifier of its parent, once. Whatever is asked of the store after
that, whoever creates a successor for the same parent is answered the one that is stored and changes
nothing. The call that stores a candidate answers it as it came, though the store keeps it without what
is available already: the answer is what is stored unless the candidate waits for available data.
-/

namespace GridAgent.Store

variable {s s' t : Store} {parent candidate record : TaskRecord} {task heir : TaskId}

/-- What can be asked of a store. Those who wait for data that is settled are visited in an order of
choice. -/
inductive Request where
  | insert (record : TaskRecord)
  | read (task : TaskId)
  | update (task : TaskId) (expected : Expectation) (change : TaskUpdate)
  | createSuccessor (parent candidate : TaskRecord)
  | findSuccessor (task : TaskId)
  | resolve (visit : Visit) (data : DataId) (now : Date)
  | abort (visit : Visit) (data : DataId) (now : Date)
  | failNext (calls : Nat)
  | setHealth (health : Option HealthReport)

/-- The store after it was asked something. -/
def asked (s : Store) : Request → Store
  | .insert record => s.insert record
  | .read task => (read task s).2
  | .update task expected change => (update task expected change s).2
  | .createSuccessor parent candidate => (createSuccessor parent candidate s).2
  | .findSuccessor task => (findSuccessor task s).2
  | .resolve visit data now => (s.resolveDataIn visit data now).2
  | .abort visit data now => (s.abortDataIn visit data now).2
  | .failNext calls => { s with failures := calls }
  | .setHealth health => { s with health }

/-- The store has a record of the successor of a task, under this identifier. -/
structure Succeeded (s : Store) (task heir : TaskId) : Prop where
  /-- The successor is known. -/
  known : s.successors.get? task = some heir
  /-- There is a record of it. -/
  stored : heir ∈ s.tasks.keys

theorem Succeeded.successor? (h : s.Succeeded task heir) :
    ∃ stored, s.get? heir = some stored ∧ s.successor? task = some stored := by
  obtain ⟨stored, found⟩ := Option.isSome_iff_exists.mp (Table.mem_keys.mp h.stored)
  refine ⟨stored, found, ?_⟩
  rw [Store.successor?, h.known]
  exact found

/-- A found successor is known and stored. -/
theorem succeeded_of_successor? (found : s.successor? task = some record) :
    ∃ heir, s.Succeeded task heir := by
  obtain ⟨heir, known, stored⟩ := Option.bind_eq_some_iff.mp found
  exact ⟨heir, known, Table.mem_keys.mpr (Option.isSome_iff_exists.mpr ⟨record, stored⟩)⟩

/-- Nothing but the number of failures to come changes: the successor stays. -/
theorem Succeeded.sameContent (h : s.Succeeded task heir) (same : SameContent s s') :
    s'.Succeeded task heir := by
  obtain ⟨failures, rfl⟩ := same
  exact ⟨h.known, h.stored⟩

/-- A record that is written leaves every record in place. -/
theorem Succeeded.set (h : s.Succeeded task heir) (other : TaskId) (record : TaskRecord) {s' : Store}
    (tasks : s'.tasks = s.tasks.set other record) (successors : s'.successors = s.successors) :
    s'.Succeeded task heir := by
  refine ⟨successors ▸ h.known, ?_⟩
  rw [tasks, Table.mem_keys, Table.get?_set]
  split
  · rfl
  · exact Table.mem_keys.mp h.stored

/-- Records that are changed where they are stay in place. -/
theorem Succeeded.modified (h : s.Succeeded task heir) {s' : Store}
    (keys : s'.tasks.keys = s.tasks.keys) (successors : s'.successors = s.successors) :
    s'.Succeeded task heir :=
  ⟨successors ▸ h.known, keys ▸ h.stored⟩

/-- The known successor is the one of another task, or the candidate is dropped. -/
theorem Succeeded.createSuccessor (h : s.Succeeded task heir) (parent candidate : TaskRecord) :
    (createSuccessor parent candidate s).2.Succeeded task heir := by
  rcases createSuccessor_cases parent candidate s with
    ⟨reason, -, same⟩ | ⟨existing, -, kept⟩ | ⟨missing, stored⟩
  · exact h.sameContent same
  · rw [kept]
    exact h
  · have other : task ≠ parent.id := by
      rintro rfl
      obtain ⟨_, -, found⟩ := h.successor?
      cases missing.symm.trans found
    have known : (s.successors.set parent.id candidate.id).get? task = some heir := by
      rw [Table.get?_set, if_neg other]
      exact h.known
    have moved : ({ s with successors := s.successors.set parent.id candidate.id } : Store).Succeeded
        task heir := ⟨known, h.stored⟩
    rw [stored]
    exact moved.set candidate.id _ rfl rfl

/-- Whatever is asked, a successor stays known under its identifier. -/
theorem Succeeded.asked (h : s.Succeeded task heir) (request : Request) :
    (s.asked request).Succeeded task heir := by
  cases request with
  | insert record => exact h.set record.id _ rfl rfl
  | read other => exact h.sameContent (read_sameContent other s)
  | update other expected change =>
    rw [Store.asked]
    rcases update_cases other expected change s with
      ⟨-, -, same⟩ | ⟨-, missing⟩ | ⟨_, -, -, lost⟩ | ⟨_, -, -, written⟩
    · exact h.sameContent same
    · rw [missing]
      exact h
    · rw [lost]
      exact h
    · rw [written]
      exact h.set other _ rfl rfl
  | createSuccessor parent candidate => exact h.createSuccessor parent candidate
  | findSuccessor other => exact h.sameContent (findSuccessor_sameContent other s)
  | resolve visit data now =>
    exact h.modified ((keys_modifyAll _ _ _).trans (keys_modifyAll _ _ _)) rfl
  | abort visit data now => exact h.modified (keys_modifyAll _ _ _) rfl
  | failNext calls => exact ⟨h.known, h.stored⟩
  | setHealth health => exact ⟨h.known, h.stored⟩

/-- The same for several requests. -/
theorem Succeeded.askedAll (h : s.Succeeded task heir) (requests : List Request) :
    (requests.foldl Store.asked s).Succeeded task heir := by
  induction requests generalizing s with
  | nil => exact h
  | cons request rest ih => exact ih (h.asked request)

/-- Calls that do the same here do the same here if they may fail. -/
theorem fallible_congr {α : Type} {call call' : Call α} (same : call s = call' s) :
    call.fallible s = call'.fallible s := by
  unfold Call.fallible
  rw [same]

/-- A candidate for a task that has a successor is dropped: the call fails for now, or answers the
record that is stored and changes nothing. -/
theorem createSuccessor_of_successor? (found : s.successor? parent.id = some record)
    (candidate : TaskRecord) :
    createSuccessor parent candidate s = Call.fallible (fun s => (.ok record, s)) s := by
  refine fallible_congr ?_
  rw [found]

/-- A look at the store finds the successor. -/
theorem findSuccessor_of_successor? (found : s.successor? task = some record) :
    findSuccessor task s = Call.fallible (fun s => (.ok (some record), s)) s := by
  refine fallible_congr ?_
  rw [found]

/-- A record is put in as it is if it waits for nothing that is available. -/
theorem withoutAvailable_of_missing (missing : ∀ data ∈ record.remaining, data ∉ s.available) :
    s.withoutAvailable record = record := by
  have same : (s.withoutAvailable record).remaining = record.remaining :=
    IdSet.eq_of_mem_iff fun data =>
      mem_withoutAvailable.trans (and_iff_left_of_imp (missing data))
  exact congrArg (fun remaining => { record with remaining }) same

/-- A call that does not fail: no failures were left, and none are. -/
theorem healthy_of_created (created : createSuccessor parent candidate s = (.ok record, s')) :
    s.failures = 0 ∧ s'.failures = 0 := by
  have healthy : s.failures = 0 := by
    refine Nat.eq_zero_of_not_pos fun failing => ?_
    rw [createSuccessor, Call.fallible, if_pos failing] at created
    cases created
  have fewer := failures_createSuccessor_le parent candidate s
  rw [created, healthy] at fewer
  exact ⟨healthy, Nat.le_zero.mp fewer⟩

/-- A call that does not fail answers the record that was stored before, or the candidate, and then the
candidate is stored without what is available. -/
theorem stored_of_created (created : createSuccessor parent candidate s = (.ok record, s')) :
    (s.successor? parent.id = some record ∧ s' = s) ∨
      s.successor? parent.id = none ∧ record = candidate ∧
        s'.successor? parent.id = some (s.withoutAvailable candidate) := by
  rcases createSuccessor_cases parent candidate s with
    ⟨reason, refused, -⟩ | ⟨existing, found, answered⟩ | ⟨missing, stored⟩
  · rw [created] at refused
    cases refused
  · rw [created] at answered
    cases answered
    exact .inl ⟨found, rfl⟩
  · rw [created] at stored
    cases stored
    refine .inr ⟨missing, rfl, ?_⟩
    unfold successor?
    have known : (s.successors.set parent.id candidate.id).get? parent.id = some candidate.id := by
      rw [Table.get?_set, if_pos rfl]
    exact (congrArg (Option.bind · _) known).trans ((get?_insert _ candidate _).trans (if_pos rfl))

/-- A call that creates a successor and does not fail answers the record that a look at the store finds
then, unless it stores a candidate that waits for available data. From then on, whatever is asked of the
store, the successor stays the same task, and whoever creates one for the same parent is answered its
record and changes nothing, or is refused for now. -/
theorem successor_keyed_by_parent
    (created : createSuccessor parent candidate s = (.ok record, s')) :
    ((s.successor? parent.id = none → ∀ data ∈ candidate.remaining, data ∉ s.available) →
        findSuccessor parent.id s' = (.ok (some record), s')) ∧
      ∃ heir, s'.Succeeded parent.id heir ∧ ∀ requests : List Request, ∃ stored,
        (requests.foldl asked s').successors.get? parent.id = some heir ∧
        (requests.foldl asked s').get? heir = some stored ∧
        ∀ other rival : TaskRecord, other.id = parent.id →
          createSuccessor other rival (requests.foldl asked s') =
            Call.fallible (fun t => (.ok stored, t)) (requests.foldl asked s') := by
  obtain ⟨-, healthy⟩ := healthy_of_created created
  have found : ∃ stored, s'.successor? parent.id = some stored ∧
      ((s.successor? parent.id = none → ∀ data ∈ candidate.remaining, data ∉ s.available) →
        stored = record) := by
    rcases stored_of_created created with ⟨found, rfl⟩ | ⟨missing, rfl, found⟩
    · exact ⟨record, found, fun _ => rfl⟩
    · exact ⟨_, found, fun apt => withoutAvailable_of_missing (apt missing)⟩
  obtain ⟨stored, found, same⟩ := found
  obtain ⟨heir, succeeded⟩ := succeeded_of_successor? found
  refine ⟨fun apt => ?_, heir, succeeded, fun requests => ?_⟩
  · obtain rfl := same apt
    rw [findSuccessor_of_successor? found, fallible_of_healthy _ healthy]
  · have later := succeeded.askedAll requests
    obtain ⟨stored, here, found⟩ := later.successor?
    refine ⟨stored, later.known, here, fun other rival e => ?_⟩
    exact createSuccessor_of_successor? (e ▸ found) rival

/-- A retried task that needs data. -/
def needyParent : TaskRecord :=
  { Cluster.plainTask with
    status := .retried, dependencies := .ofList [.ofNat 5], remaining := .ofList [.ofNat 5] }

/-- A candidate for its successor. -/
def needyHeir (id : Nat) : TaskRecord := needyParent.successor (.ofNat id) Cluster.morning

/-- The store with one of them. -/
def needyStore : Store := (createSuccessor needyParent (needyHeir 2) {}).2

/-- The data that the first candidate waits for becomes available, and another candidate is dropped for
the first one, which has been submitted by then. -/
theorem successor_keyed_by_parent_twice :
    findSuccessor needyParent.id needyStore = (.ok (some (needyHeir 2)), needyStore) ∧
      ∃ stored later, later = needyStore.asked (.resolve .ascending (.ofNat 5) Cluster.morning) ∧
        later.get? (.ofNat 2) = some stored ∧ stored.status = .submitted ∧
        createSuccessor needyParent (needyHeir 3) later = (.ok stored, later) := by
  have created : createSuccessor needyParent (needyHeir 2) {} = (.ok (needyHeir 2), needyStore) := rfl
  obtain ⟨answered, heir, -, later⟩ := successor_keyed_by_parent created
  obtain ⟨stored, known, found, dropped⟩ := later [.resolve .ascending (.ofNat 5) Cluster.morning]
  have second : some (.ofNat 2) = some heir := .trans (by decide +kernel) known
  obtain rfl := Option.some.inj second
  have submitted : some stored.status = some .submitted :=
    (congrArg (Option.map TaskRecord.status) found).symm.trans (by decide +kernel)
  refine ⟨answered fun _ data _ => List.not_mem_nil, stored, _, rfl, found,
    Option.some.inj submitted, ?_⟩
  exact (dropped needyParent (needyHeir 3) rfl).trans (fallible_of_healthy _ (by decide +kernel))

/-- What a record that was found waits for. -/
def waits : Except StoreError (Option TaskRecord) × Store → List DataId
  | (.ok (some record), _) => record.remaining.toList
  | _ => []

/-- A candidate that waits for available data is answered as it came, and stored without. -/
theorem not_always_as_stored :
    ¬ ∀ (s s' : Store) (parent candidate record : TaskRecord), s.get? candidate.id = none →
      createSuccessor parent candidate s = (.ok record, s') →
        findSuccessor parent.id s' = (.ok (some record), s') := by
  intro always
  have same := always (({} : Store).resolveData (.ofNat 5) Cluster.morning).2 _ needyParent
    (needyHeir 2) _ (by decide +kernel) rfl
  have answered := congrArg waits same
  exact absurd answered (by decide +kernel)

end GridAgent.Store
