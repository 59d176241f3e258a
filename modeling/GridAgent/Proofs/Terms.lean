import GridAgent.Proofs.Cluster.Terms
import GridAgent.Proofs.Lineage

/-!
# Options are stable along a lineage

Options are filled in again for each attempt, on top of options that were filled in for the attempts
before it, and different agents may have read different defaults. While a session has constant
defaults this makes no difference: every attempt goes by the effective options of the first one.
Whatever the defaults do, what an attempt was stored with is what it and all later attempts go by.
-/

namespace GridAgent

/-- The options of an attempt with the defaults of its session. -/
def TaskRecord.effective (defaults : SessionId → Options) (t : TaskRecord) : Options :=
  t.options.mergedWith (defaults t.session)

namespace Cluster

open Agent Program

variable {fleet : Fleet} {start c : State} {defaults : SessionId → Options}

/-- All attempts of a lineage go by the same options. -/
structure SharesTerms (defaults : SessionId → Options) (c : State) : Prop where
  /-- An attempt has the effective options of the first attempt of its lineage. -/
  effective : ∀ task t, c.shared.store.get? task = some t →
    ∃ first, c.shared.store.get? t.initial = some first ∧ first.ancestors = [] ∧
      t.effective defaults = first.effective defaults
  /-- So what an agent asks for goes by the record of its task with these options. -/
  used : ∀ a ∈ c.actors, ∀ request next, a.rest = .call (.agent request) next →
    request.GoesBy fun used => ∃ t first, c.shared.store.get? a.job.task = some t ∧
      c.shared.store.get? t.initial = some first ∧ first.ancestors = [] ∧ used.id = a.job.task ∧
      used.heritage = { t.heritage with options := first.effective defaults }

/-- What an attempt sets stays for all later attempts of its lineage. -/
structure KeepsTerms (c : State) : Prop where
  /-- It is set alike for the attempt and for those that have it as an ancestor, whatever is filled
  in. -/
  effective : ∀ task t later u, c.shared.store.get? task = some t →
    c.shared.store.get? later = some u → later = task ∨ task ∈ u.ancestors →
      ∀ d, t.options.IsKeptIn (u.options.mergedWith d)
  /-- So what an agent asks for goes by the record of its task, filled in with some defaults, and
  with all of this as it was set. -/
  used : ∀ a ∈ c.actors, ∀ request next, a.rest = .call (.agent request) next →
    request.GoesBy fun used => ∃ u d, c.shared.store.get? a.job.task = some u ∧
      used.id = a.job.task ∧
      used.heritage = { u.heritage with options := u.options.mergedWith d } ∧
      ∀ task t, c.shared.store.get? task = some t → a.job.task = task ∨ task ∈ u.ancestors →
        t.options.IsKeptIn used.options

/-- With constant defaults options that are handed down are filled in once. -/
theorem Descends.effective_eq {s : Store}
    (h : Descends (fun session d => d = defaults session) s) {task : TaskId} {t : TaskRecord}
    (ht : s.get? task = some t) : ∃ first, s.get? t.initial = some first ∧ first.ancestors = [] ∧
      t.effective defaults = first.effective defaults := by
  obtain ⟨first, steps, hf, fa, same, handed⟩ := h.firstAttempt ht
  have session : t.session = first.session := congrArg Heritage.session handed
  have options : t.options = first.options.filledIn steps := congrArg Heritage.options handed
  refine ⟨first, hf, fa, ?_⟩
  unfold TaskRecord.effective
  rw [options, session]
  exact Options.filledIn_mergedWith same

/-- Whatever defaults are filled in, what was set stays. -/
theorem Descends.isKeptIn {usual : SessionId → Options → Prop} {s : Store} (h : Descends usual s)
    {task later : TaskId} {t u : TaskRecord} (ht : s.get? task = some t)
    (hu : s.get? later = some u) (after : later = task ∨ task ∈ u.ancestors) (d : Options) :
    t.options.IsKeptIn (u.options.mergedWith d) := by
  have stored : t.options.IsKeptIn u.options := by
    rcases after with rfl | above
    · obtain rfl := Option.some.inj (ht.symm.trans hu)
      exact .refl t.options
    · obtain ⟨front, back, ha⟩ := List.append_of_mem above
      obtain ⟨p, steps, hp, -, -, handed⟩ := h.ancestor hu ha
      obtain rfl := Option.some.inj (hp.symm.trans ht)
      have options : u.options = p.options.filledIn steps := congrArg Heritage.options handed
      rw [options]
      exact p.options.isKeptIn_filledIn steps
  exact stored.trans (.mergedWith u.options d)

/-- While defaults are constant, all attempts of a lineage go by the same options. -/
theorem Reaches.sharesTerms (hr : Reaches fleet (constantDefaults defaults) start c)
    (hi : start.Initial) (first : FirstAttempts start.shared.store) : SharesTerms defaults c := by
  have usually : Reaches fleet (usualDefaults fun session d => d = defaults session) start c :=
    hr.mono fun _ => usualDefaults_of_constant
  have descends := usually.descends hi first
  refine ⟨fun task t ht => descends.effective_eq ht, ?_⟩
  intro a ha request next asks
  refine (usually.goesBy hi ha asks).mono fun used filled => ?_
  obtain ⟨heir, d, known, rfl, handed⟩ := filled.heritage
  obtain ⟨t, ht, rfl⟩ := Option.map_eq_some_iff.mp known
  obtain ⟨origin, ho, oa, same⟩ := descends.effective_eq ht
  refine ⟨t, origin, ht, ho, oa, filled.id, ?_⟩
  rw [handed, ← same]
  rfl

/-- Whatever the defaults are, what an attempt sets stays for all later attempts of its lineage. -/
theorem Reaches.keepsTerms (hr : Reaches fleet (usualDefaults fun _ _ => True) start c)
    (hi : start.Initial) (first : FirstAttempts start.shared.store) : KeepsTerms c := by
  have descends := hr.descends hi first
  refine ⟨fun task t later u ht hu after d => descends.isKeptIn ht hu after d, ?_⟩
  intro a ha request next asks
  refine (hr.goesBy hi ha asks).mono fun used filled => ?_
  obtain ⟨heir, d, known, -, handed⟩ := filled.heritage
  obtain ⟨u, hu, rfl⟩ := Option.map_eq_some_iff.mp known
  refine ⟨u, d, hu, filled.id, handed, fun task t ht after => ?_⟩
  have options : used.options = u.options.mergedWith d := congrArg Heritage.options handed
  rw [options]
  exact descends.isKeptIn ht hu after d

/-- Filling in options is associative, and the same defaults fill in nothing the second time. So all
attempts of a lineage go by the same options while the defaults of its session are constant; and
whatever the defaults are, what an attempt sets stays for all later ones. -/
theorem terms_stable (hi : start.Initial) (first : FirstAttempts start.shared.store) :
    (∀ t d e : Options, (t.mergedWith d).mergedWith e = t.mergedWith (d.mergedWith e) ∧
      (t.mergedWith d).mergedWith d = t.mergedWith d) ∧
    (∀ defaults c, Reaches fleet (constantDefaults defaults) start c → SharesTerms defaults c) ∧
    ∀ c, Reaches fleet (usualDefaults fun _ _ => True) start c → KeepsTerms c := by
  refine ⟨fun t d e => ⟨Options.mergedWith_assoc t d e, Options.mergedWith_idem t d⟩, ?_, ?_⟩
  · exact fun defaults c run => run.sharesTerms hi first
  · exact fun c run => run.keepsTerms hi first

/-- A task without a limit is retried once because its session says so. Its successor is stored with
that limit and keeps it whatever the session says later; with the same session the two have the same
options. -/
theorem terms_stable_breakdown :
    ∃ c t u, Reaches plainFleet (constantDefaults fun _ => oneRetry) plainStart c ∧
      c.shared.store.get? plainTask.id = some t ∧ c.shared.store.get? (.ofNat 2) = some u ∧
      u.ancestors = [plainTask.id] ∧ t.options.maxRetries = none ∧
      u.options.maxRetries = some 1 ∧
      u.effective (fun _ => oneRetry) = t.effective (fun _ => oneRetry) ∧
      ∀ d, (u.options.mergedWith d).maxRetries = some 1 := by
  have run : Reaches plainFleet (constantDefaults fun _ => oneRetry) plainStart breakdownCluster :=
    .of_played breakdownEvents_constant
  have widely : Reaches plainFleet (usualDefaults fun _ _ => True) plainStart breakdownCluster :=
    run.mono fun _ h => usualDefaults_mono (usualDefaults_of_constant h) fun _ _ _ => trivial
  have stable := @terms_stable plainFleet plainStart plainStart_initial plainStart_firstAttempts
  have attempt : (breakdownCluster.shared.store.get? plainTask.id).map
      (fun t => t.options.maxRetries) = some none := by decide +kernel
  have successor : (breakdownCluster.shared.store.get? (.ofNat 2)).map
      (fun u => (u.initial, u.ancestors, u.options.maxRetries)) =
        some (plainTask.id, [plainTask.id], some 1) := by decide +kernel
  obtain ⟨t, ht, unlimited⟩ := Option.map_eq_some_iff.mp attempt
  obtain ⟨u, hu, facts⟩ := Option.map_eq_some_iff.mp successor
  obtain ⟨initial, rest⟩ := Prod.mk.inj facts
  obtain ⟨ancestors, limit⟩ := Prod.mk.inj rest
  refine ⟨breakdownCluster, t, u, run, ht, hu, ancestors, unlimited, limit, ?_, fun d => ?_⟩
  · obtain ⟨origin, ho, -, same⟩ := (stable.2.1 _ _ run).effective _ u hu
    rw [initial] at ho
    obtain rfl := Option.some.inj (ho.symm.trans ht)
    exact same
  · exact ((stable.2.2 _ widely).effective _ u _ u hu hu (.inl rfl) d).maxRetries 1 limit

end Cluster

end GridAgent
