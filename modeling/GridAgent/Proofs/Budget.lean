import GridAgent.Proofs.Loop.Station

/-!
# The error budget stops the loop

More failures in a row than the budget allows are reported by the failure that exceeds it, and the
report stops the loop, whoever counts the failure. A monitor that an unhealthy answer to a liveness
probe made fail before reports nothing any more: its loop goes on, however many failures there are.
-/

namespace GridAgent.HealthMonitor.Watched

/-- The budget stays what it is. -/
theorem run_budget (budget : Int) (events : List Event) :
    (run budget events).monitor.budget = budget := by
  have kept (w : Watched) (event : Event) : (w.play event).monitor.budget = w.monitor.budget := by
    cases event with
    | error =>
      rcases w.monitor.recordError_cases with ⟨-, answer⟩ | ⟨-, answer⟩
      · exact congrArg (fun counted => counted.2.budget) answer
      · exact congrArg (fun counted => counted.2.budget) answer
    | success => rfl
    | check probe dependencies =>
      rcases w.monitor.check_cases probe dependencies with same | ⟨-, same⟩
      · exact congrArg HealthMonitor.budget same
      · exact (congrArg HealthMonitor.budget same :)
    | reset => rfl
  suffices h : ∀ w : Watched, (events.foldl play w).monitor.budget = w.monitor.budget from h _
  induction events with
  | nil => exact fun w => rfl
  | cons event rest ih => exact fun w => (ih _).trans (kept w event)

end GridAgent.HealthMonitor.Watched

namespace GridAgent.Agent.Loop.Books

/-- A loop pulls when it has found itself not stopped since the last pull. -/
theorem pulls_le {b : Books} {request : LoopRequest} {reply : request.Reply}
    (may : b.May request)
    (stopped : ∀ found : Bool,
      (⟨request, reply⟩ : Cluster.LoopAnswered) = ⟨.isStopped, found⟩ → found = true) :
    (b.note request reply).pulls + (b.note request reply).ahead.toNat ≤ b.pulls + b.ahead.toNat := by
  cases request with
  | isStopped =>
    obtain rfl := stopped reply rfl
    exact Nat.le_add_right _ _
  | pull most =>
    have ahead := (may.ask nofun).2.2
    have more : b.pulls + 1 ≤ b.pulls + b.ahead.toNat := by
      rw [ahead]
      exact Nat.le_refl _
    rcases reply with _ | cause | ids <;> exact more
  | takeSlot => cases reply <;> exact Nat.le_refl _
  | tryJoin => cases reply <;> exact Nat.le_refl _
  | _ => exact Nat.le_refl _

end GridAgent.Agent.Loop.Books

namespace GridAgent.Cluster

open Agent HealthMonitor

variable {fleet : Fleet} {pod : PodId} {start t t' : Station} {s : Settings} {most : Nat}

/-! Reports are heeded. -/

/-- The monitor of an agent is as it should be, and once a failure was reported the loop is stopped
or is about to be. -/
structure Station.Heeds (t : Station) : Prop where
  right : t.health.Right
  heeded : t.health.reported = true → t.stopped = true ∨ t.books.mustStop = true

/-- A loop that must stop is answered no other request. -/
theorem Station.Heeds.stopped_of_ask (h : t.Heeds) {request : LoopRequest}
    (may : t.books.May request) (hn : request ≠ .stop) (reported : t.health.reported = true) :
    t.stopped = true := by
  refine (h.heeded reported).resolve_right fun must => ?_
  rw [(may.resolve_left hn).1] at must
  cases must

/-- Reports are heeded when the loop is answered. -/
theorem Station.Heeds.served (h : t.Heeds) {request : LoopRequest} {reply : request.Reply}
    (may : t.books.May request) (served : LoopServed fleet pod t request reply t') :
    t'.health.Right ∧ (t'.health.reported = true →
      t'.stopped = true ∨ (t.books.note request reply).mustStop = true) := by
  have still := h.stopped_of_ask may
  cases served with
  | stopped => exact ⟨h.right, fun _ => .inl rfl⟩
  | initialized => exact ⟨⟨h.right.failed, h.right.beyond⟩, fun reported => .inl (still nofun reported)⟩
  | counted =>
    refine ⟨h.right.error, fun reported => ?_⟩
    rcases Bool.or_eq_true_iff.mp reported with before | now
    · exact .inl (still nofun before)
    · exact .inr now
  | told request reply tells =>
    refine ⟨h.right, fun reported => .inl (still ?_ reported)⟩
    rintro rfl
    exact tells
  | _ => exact ⟨h.right, fun reported => .inl (still nofun reported)⟩

/-- Reports are heeded as long as the agent works. -/
theorem Works.heeds (h : Works fleet pod start t) (fresh : start.Fresh s most)
    (right : start.health.Right) (silent : start.health.reported = false) : t.Heeds := by
  apply h.invariant
  · refine ⟨right, fun reported => ?_⟩
    rw [silent] at reported
    cases reported
  · intro t t' happening works ih happens
    have follows := works.follows fresh
    cases happens with
    | answered request next reply t₁ asks served =>
      rw [asks] at follows
      obtain ⟨right, heeded⟩ := ih.served follows.1 served
      exact ⟨right, heeded⟩
    | concluded handler a outcome runs actor returned =>
      refine ⟨ih.right.result outcome, fun reported => ?_⟩
      rcases Bool.or_eq_true_iff.mp reported with before | now
      · exact (ih.heeded before).imp_left fun stopped => Bool.or_eq_true_iff.mpr (.inl stopped)
      · exact .inl (Bool.or_eq_true_iff.mpr (.inr now))
    | toldToStop => exact ⟨ih.right, fun _ => .inl rfl⟩
    | checked probe dependencies => exact ⟨ih.right.check probe dependencies, ih.heeded⟩
    | forgotten => exact ⟨.reset _, nofun⟩
    | died handler a runs actor broken => exact ⟨ih.right, ih.heeded⟩
    | elsewhere event cluster spared performed => exact ⟨ih.right, ih.heeded⟩

/-- A loop that must stop is about to. -/
theorem Works.asks_stop (h : Works fleet pod start t) (fresh : start.Fresh s most)
    (must : t.books.mustStop = true) : ∃ next, t.rest = .call .stop next := by
  have follows := h.follows fresh
  cases rest : t.rest with
  | done value =>
    rw [rest] at follows
    have ends : t.books.Ends value := follows
    exact absurd (must.symm.trans ends.free.mustStop) nofun
  | call request next =>
    rw [rest] at follows
    rcases (follows.1 : t.books.May request) with rfl | ⟨calm, -⟩
    · exact ⟨next, rfl⟩
    · exact absurd (must.symm.trans calm) nofun

/-! A stopped loop. -/

/-- A stopped loop pulls once more at most. -/
theorem Works.pulls_le (before : Works fleet pod start t) (fresh : start.Fresh s most)
    (stopped : t.stopped = true) (after : Works fleet pod t t') :
    t'.books.pulls ≤ t.books.pulls + 1 := by
  have bounded : t'.books.pulls + t'.books.ahead.toNat ≤ t.books.pulls + t.books.ahead.toNat := by
    apply after.invariant (Nat.le_refl _)
    intro t₁ t₂ happening works ih happens
    have follows := (before.trans works).follows fresh
    have still := works.stays_stopped stopped
    cases happens with
    | answered request next reply t₃ asks served =>
      rw [asks] at follows
      refine Nat.le_trans (Loop.Books.pulls_le follows.1 fun found e => ?_) ih
      cases e
      cases served with
      | told request reply tells => exact Eq.trans tells still
    | _ => exact ih
  have one : t.books.ahead.toNat ≤ 1 := Bool.toNat_le _
  omega

/-- Unless a liveness probe has made the monitor fail since the last reset: more failures in a row
than the budget allows have been reported, for any monitor; and the loop of an agent, whose monitor
had reported nothing when it began, is stopped by then or is about to be. A stopped loop stays
stopped, and pulls once more at most. -/
theorem budget_stops_loop (fresh : start.Fresh s most) (right : start.health.Right)
    (silent : start.health.reported = false) (works : Works fleet pod start t) :
    (∀ (budget : Int) (events : List HealthMonitor.Event), 0 ≤ budget →
        budget < (Watched.run budget events).monitor.consecutive →
        (Watched.run budget events).latched = false → (Watched.run budget events).reported = true) ∧
      (0 ≤ t.health.monitor.budget → t.health.monitor.budget < t.health.monitor.consecutive →
        t.health.latched = false → t.stopped = true ∨ ∃ next, t.rest = .call .stop next) ∧
      (t.stopped = true → ∀ t', Works fleet pod t t' →
        t'.stopped = true ∧ t'.books.pulls ≤ t.books.pulls + 1) := by
  have unlatched (w : Watched) (h : w.Right) (limited : 0 ≤ w.monitor.budget)
      (beyond : w.monitor.budget < w.monitor.consecutive) (latched : w.latched = false) :
      w.reported = true :=
    (h.reported_or_latched limited beyond).resolve_right (Bool.eq_false_iff.mp latched)
  refine ⟨fun budget events limited beyond latched => ?_, fun limited beyond latched => ?_,
    fun stopped t' after => ?_⟩
  · refine unlatched _ (Watched.run_right budget events) ?_ ?_ latched <;>
      rw [Watched.run_budget]
    · exact limited
    · exact beyond
  · have heeds := works.heeds fresh right silent
    exact (heeds.heeded (unlatched _ heeds.right limited beyond latched)).imp id
      (works.asks_stop fresh)
  · exact ⟨after.stays_stopped stopped, works.pulls_le fresh stopped after⟩

/-! Pulls that fail. -/

/-- An agent that tolerates no failure. -/
def strictStation : Station :=
  { plainStation with health := { monitor := { budget := 0 } } }

/-- The loop is answered; pulls fail. -/
def failedPull : Station.Happening :=
  .answer fun request =>
    match request with
    | .pull _ => some (some (.error (.unavailable "injected failure")))
    | .prepare _ => some (.ok ())
    | _ => none

/-- The first pull has failed, and the failure was counted. -/
def failingStation : Station :=
  (strictStation.play batchFleet ⟨"first"⟩ (List.replicate 10 failedPull)).getD strictStation

/-- The first failure uses the budget up, and the loop is about to be stopped. -/
theorem budget_stops_loop_strict :
    (Watched.run 0 [.error]).reported = true ∧ failingStation.books.pulls = 1 ∧
      failingStation.health.monitor.consecutive = 1 ∧
      (failingStation.stopped = true ∨ ∃ next, failingStation.rest = .call .stop next) := by
  have fresh : strictStation.Fresh (batchFleet.settings ⟨"first"⟩) 9 :=
    ⟨rfl, rfl, rfl, rfl, rfl, rfl, rfl⟩
  have fails : Works batchFleet ⟨"first"⟩ strictStation failingStation := .of_played _
  obtain ⟨reports, stops, -⟩ := budget_stops_loop fresh (Watched.run_right 0 []) rfl fails
  exact ⟨reports 0 [.error] (by decide) (by decide) rfl, rfl, rfl, stops (by decide) (by decide) rfl⟩

/-- An unhealthy answer to a liveness probe, and then pulls that fail. -/
def latchedEarly : List Station.Happening :=
  .check .liveness ⟨.unhealthy, "down"⟩ :: List.replicate 18 failedPull

/-- A monitor that tolerates no failure and was latched by an unhealthy dependency counts a failure
without reporting it, and the loop of its agent goes on after three failed pulls. -/
theorem not_always_reported :
    ¬ (∀ (budget : Int) (events : List HealthMonitor.Event), 0 ≤ budget →
        budget < (Watched.run budget events).monitor.consecutive →
        (Watched.run budget events).reported = true) ∧
      ∃ t, Works batchFleet ⟨"first"⟩ strictStation t ∧ t.health.monitor.budget = 0 ∧
        t.health.monitor.consecutive = 3 ∧ t.books.pulls = 3 ∧ t.stopped = false ∧
        ∃ next, t.rest = .call .idle next := by
  refine ⟨fun always => ?_, _, .of_played latchedEarly, rfl, rfl, rfl, rfl, _, rfl⟩
  have silent := always 0 [.check .liveness ⟨.unhealthy, "down"⟩, .error] (by decide) (by decide)
  cases silent

end GridAgent.Cluster
