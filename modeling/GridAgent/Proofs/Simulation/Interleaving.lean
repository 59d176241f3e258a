import GridAgent.Program
import GridAgent.Simulation.World
import Mathlib.Data.List.Perm.Basic

/-!
# Interleavings of threads

Threads that run beside each other act on the state in any order, one action at a time: any of them
may be the next, time may pass at any moment, and who waits for quiet may find it. The scheduler
chooses one of these orders. What a thread may rely on is what stays true of a state whatever the
others do; a law says what that is, and may keep more in mind than threads see. A thread obeys the
law if each of its actions, made in any later state, leads to a later state in which it goes on
obeying. Then whatever the threads come to is a state of the law. A script leads to a value of which
something is known if its thread obeys wherever whatever comes next does, and sequences lead where
their parts do.
-/

namespace GridAgent.Simulation

variable {σ α β : Type}

/-- Whether a signal can be given. Moments and quiet may come at any time. -/
def Signal.CanCome (w : σ) : Signal σ → Prop
  | .holds condition => condition w = true
  | _ => True

/-- What a thread and all that it starts can come to, in any order: a state, and the threads left.
-/
inductive Comes [Timed σ] (first : σ) (main : Thread σ) : σ → List (Thread σ) → Prop where
  /-- Nothing has happened. -/
  | refl : Comes first main first [main]
  /-- Any thread may be the next. -/
  | shuffle {w : σ} {threads order : List (Thread σ)} (before : Comes first main w threads)
    (same : threads.Perm order) : Comes first main w order
  /-- A thread has ended. -/
  | ends {w : σ} {rest : List (Thread σ)} (before : Comes first main w (.ended :: rest)) :
    Comes first main w rest
  /-- A thread acts. -/
  | acts {w : σ} {effect : σ → σ × Thread σ} {rest : List (Thread σ)}
    (before : Comes first main w (.act effect :: rest)) :
    Comes first main (effect w).1 ((effect w).2 :: rest)
  /-- A thread has waited for one of its signals. -/
  | goesOn {w : σ} {choices : List (Signal σ × (Unit → Thread σ))} {rest : List (Thread σ)}
    (choice : Signal σ × (Unit → Thread σ)) (before : Comes first main w (.wait choices :: rest))
    (chosen : choice ∈ choices) (given : choice.1.CanCome w) :
    Comes first main w (choice.2 () :: rest)
  /-- A thread starts another one. -/
  | spawns {w : σ} {child next : Thread σ} {rest : List (Thread σ)}
    (before : Comes first main w (.spawn child next :: rest)) :
    Comes first main w (child :: next :: rest)
  /-- Time passes. -/
  | elapses {w : σ} {threads : List (Thread σ)} (time : Nat)
    (before : Comes first main w threads) : Comes first main (Timed.advanceTo w time) threads

/-! The scheduler chooses one of the orders. -/

/-- Whoever waits for quiet has a choice for it. -/
theorem mem_of_onQuiet {choices : List (Signal σ × (Unit → Thread σ))} {next : Thread σ}
    (h : Machine.onQuiet choices = some next) :
    ∃ choice ∈ choices, choice.1 = .quiet ∧ choice.2 () = next := by
  obtain ⟨choice, found, rfl⟩ := Option.map_eq_some_iff.mp h
  refine ⟨choice, List.mem_of_find?_eq_some found, ?_, rfl⟩
  have quiet := List.find?_some found
  split at quiet
  · assumption
  · cases quiet

section
variable [Timed σ] {first : σ} {main : Thread σ}

/-- Who is ready, and who waits. -/
def Machine.threads (m : Machine σ) : List (Thread σ) := m.ready ++ m.waiting.map .wait

theorem canCome_of_given {w : σ} {signal : Signal σ} (h : Machine.given w signal = true) :
    signal.CanCome w := by
  cases signal <;> first | exact h | trivial

/-- Whoever becomes ready is still there. -/
theorem Comes.wake {m : Machine σ} (h : Comes first main m.state m.threads) :
    Comes first main m.wake.state m.wake.threads := by
  refine h.shuffle ?_
  unfold Machine.threads Machine.wake
  rw [List.partition_eq_filter_filter, List.append_assoc, ← List.map_append]
  refine List.Perm.append_left _ (List.Perm.map _ ?_)
  exact (List.filter_append_perm (Machine.awake m.state) m.waiting).symm

/-- Those who wait for quiet go on, one after the other. -/
theorem Comes.quiet {w : σ} {ready : List (Thread σ)}
    {waiting : List (List (Signal σ × (Unit → Thread σ)))}
    (h : Comes first main w (ready ++ waiting.map .wait)) :
    Comes first main w (ready ++ (waiting.filterMap Machine.onQuiet ++
      (waiting.filter fun choices => (Machine.onQuiet choices).isNone).map .wait)) := by
  induction waiting generalizing ready with
  | nil => exact h
  | cons choices waiting ih =>
    rw [List.map_cons] at h
    cases hq : Machine.onQuiet choices with
    | none =>
      have moved : Comes first main w (ready ++ [.wait choices] ++ waiting.map .wait) := by
        simpa using h
      have asleep := ih moved
      rw [List.filterMap_cons_none hq, List.filter_cons_of_pos (by simp [hq]), List.map_cons]
      refine asleep.shuffle ?_
      rw [List.append_assoc, List.singleton_append]
      exact List.Perm.append_left _ List.perm_middle.symm
    | some next =>
      obtain ⟨choice, chosen, quiet, rfl⟩ := mem_of_onQuiet hq
      have given : choice.1.CanCome w := by rw [quiet]; trivial
      have goes := (h.shuffle List.perm_middle).goesOn choice chosen given
      have moved : Comes first main w (ready ++ [choice.2 ()] ++ waiting.map .wait) := by
        simpa using goes.shuffle List.perm_middle.symm
      have woken := ih moved
      rw [List.filterMap_cons_some hq, List.filter_cons_of_neg (by simp [hq])]
      simpa using woken

/-- A step of the scheduler is a step of its threads. -/
theorem Comes.step {m m' : Machine σ} (h : Comes first main m.state m.threads)
    (hs : m.step = some m') : Comes first main m'.state m'.threads := by
  obtain ⟨state, ready, waiting⟩ := m
  cases ready with
  | nil =>
    have hs : Machine.settle { state, waiting } = some m' := hs
    simp only [Machine.settle] at hs
    split at hs
    · obtain ⟨time, -, rfl⟩ := Option.map_eq_some_iff.mp hs
      exact Comes.wake (m := { state := Timed.advanceTo state time, waiting }) (h.elapses time)
    · cases hs
      exact h.quiet
  | cons thread rest =>
    cases thread with
    | ended =>
      cases hs
      exact h.ends
    | act effect =>
      cases hs
      exact Comes.wake
        (m := { state := (effect state).1, ready := (effect state).2 :: rest, waiting }) h.acts
    | wait choices =>
      simp only [Machine.step] at hs
      split at hs
      · next choice found =>
        cases hs
        have given := List.find?_some found
        exact h.goesOn choice (List.mem_of_find?_eq_some found) (canCome_of_given given)
      · cases hs
        refine h.shuffle ?_
        simp only [Machine.threads, List.map_append, List.map_cons, List.map_nil, List.cons_append]
        rw [← List.append_assoc]
        exact (List.perm_append_singleton _ _).symm
    | spawn child next =>
      cases hs
      refine h.spawns.shuffle ?_
      simp only [Machine.threads, List.append_assoc, List.cons_append, List.nil_append]
      exact (List.perm_middle : (next :: rest ++ child :: _).Perm _).symm

/-- Whatever the scheduler makes of its threads, they can come to. -/
theorem Comes.runUntil (isOver : σ → Bool) (most : Nat) {m : Machine σ}
    (h : Comes first main m.state m.threads) :
    ∃ threads, Comes first main (m.runUntil isOver most) threads := by
  induction most generalizing m with
  | zero => exact ⟨_, h⟩
  | succ most ih =>
    unfold Machine.runUntil
    split
    · exact ⟨_, h⟩
    · split
      · exact ⟨_, h⟩
      · next next hs => exact ih (h.step hs)

/-- Running a thread is one of the orders. -/
theorem comes_runThreads (isOver : σ → Bool) (first : σ) (main : Thread σ) :
    ∃ threads, Comes first main (runThreads isOver first main) threads :=
  Comes.runUntil isOver plenty (m := { state := first, ready := [main] }) .refl

end

/-! Laws. -/

/-- What threads on a state rely on. -/
structure Law (σ : Type) where
  /-- A state with what is kept in mind of it. -/
  State : Type
  /-- The state that threads see. -/
  view : State → σ
  /-- What becomes of a state. -/
  Later : State → State → Prop
  /-- A state may stay. -/
  refl : ∀ s, Later s s
  /-- What becomes of a later state becomes of the first one. -/
  trans : ∀ {s t u}, Later s t → Later t u → Later s u

/-- The thread obeys a law from a state on: each of its actions leads from any later state to a
later one in which it goes on obeying. -/
inductive Thread.Obeys (L : Law σ) : Thread σ → L.State → Prop where
  /-- Nothing is done any more. -/
  | ended {s : L.State} : Thread.Obeys L .ended s
  /-- An action. -/
  | act {s : L.State} {effect : σ → σ × Thread σ} (after : ∀ t, L.Later s t → L.State)
    (later : ∀ t h, L.Later t (after t h))
    (seen : ∀ t h, L.view (after t h) = (effect (L.view t)).1)
    (next : ∀ t h, Thread.Obeys L (effect (L.view t)).2 (after t h)) :
    Thread.Obeys L (.act effect) s
  /-- A wait. -/
  | wait {s : L.State} {choices : List (Signal σ × (Unit → Thread σ))}
    (next : ∀ choice ∈ choices, ∀ t, L.Later s t → choice.1.CanCome (L.view t) →
      Thread.Obeys L (choice.2 ()) t) : Thread.Obeys L (.wait choices) s
  /-- The start of another thread. -/
  | spawn {s : L.State} {child next : Thread σ} (first : Thread.Obeys L child s)
    (second : Thread.Obeys L next s) : Thread.Obeys L (.spawn child next) s

variable {L : Law σ} {s t : L.State} {Q R : α → L.State → Prop}

/-- An action obeys if it leads somewhere. -/
theorem Thread.obeys_act {effect : σ → σ × Thread σ}
    (h : ∀ t, L.Later s t → ∃ u, L.Later t u ∧ L.view u = (effect (L.view t)).1 ∧
      (effect (L.view t)).2.Obeys L u) : Thread.Obeys L (.act effect) s := by
  choose after later seen next using h
  exact .act after later seen next

/-- Who obeys from a state on obeys from any later one on. -/
theorem Thread.Obeys.mono {thread : Thread σ} (h : thread.Obeys L s) (later : L.Later s t) :
    thread.Obeys L t := by
  induction h generalizing t with
  | ended => exact .ended
  | act after goes seen next =>
    exact .act (fun u h => after u (L.trans later h)) (fun u h => goes u _) (fun u h => seen u _)
      fun u h => next u _
  | wait next => exact .wait fun choice chosen u h => next choice chosen u (L.trans later h)
  | spawn first second ih₁ ih₂ => exact .spawn (ih₁ later) (ih₂ later)

/-- What a thread that obeys comes to is a later state, in which all threads obey, if the passing of
time makes states later. -/
theorem Comes.obeys [Timed σ] {main : Thread σ} {w : σ} {threads : List (Thread σ)}
    (time : ∀ (s : L.State) (moment : Nat),
      ∃ t, L.Later s t ∧ L.view t = Timed.advanceTo (L.view s) moment)
    (h : Comes (L.view s) main w threads) (hm : main.Obeys L s) :
    ∃ t, L.Later s t ∧ L.view t = w ∧ ∀ thread ∈ threads, thread.Obeys L t := by
  induction h with
  | refl => exact ⟨s, L.refl s, rfl, fun thread ht => List.mem_singleton.mp ht ▸ hm⟩
  | shuffle before same ih =>
    obtain ⟨t, later, seen, all⟩ := ih
    exact ⟨t, later, seen, fun thread ht => all thread (same.mem_iff.mpr ht)⟩
  | ends before ih =>
    obtain ⟨t, later, seen, all⟩ := ih
    exact ⟨t, later, seen, fun thread ht => all thread (List.mem_cons_of_mem _ ht)⟩
  | acts before ih =>
    obtain ⟨t, later, rfl, all⟩ := ih
    obtain ⟨obeys, others⟩ := List.forall_mem_cons.mp all
    cases obeys with
    | act after goes seen next =>
      have on := goes t (L.refl t)
      refine ⟨_, L.trans later on, seen t (L.refl t), List.forall_mem_cons.mpr ⟨next t _, ?_⟩⟩
      exact fun thread ht => (others thread ht).mono on
  | goesOn choice before chosen given ih =>
    obtain ⟨t, later, rfl, all⟩ := ih
    obtain ⟨obeys, others⟩ := List.forall_mem_cons.mp all
    cases obeys with
    | wait next =>
      have goes := next choice chosen t (L.refl t) given
      exact ⟨t, later, rfl, List.forall_mem_cons.mpr ⟨goes, others⟩⟩
  | spawns before ih =>
    obtain ⟨t, later, seen, all⟩ := ih
    obtain ⟨obeys, others⟩ := List.forall_mem_cons.mp all
    cases obeys with
    | spawn first second =>
      refine ⟨t, later, seen, List.forall_mem_cons.mpr ⟨first, ?_⟩⟩
      exact List.forall_mem_cons.mpr ⟨second, others⟩
  | elapses moment before ih =>
    obtain ⟨t, later, rfl, all⟩ := ih
    obtain ⟨u, on, seen⟩ := time t moment
    exact ⟨u, L.trans later on, seen, fun thread ht => (all thread ht).mono on⟩

/-! Scripts. -/

/-- Wherever a scope takes a script, the law is obeyed. -/
structure Scope.Obeys (L : Law σ) (scope : Scope σ) (s : L.State) : Prop where
  /-- After a signal that cuts a wait short. -/
  interrupts : ∀ choice ∈ scope.interrupts, ∀ t, L.Later s t → choice.1.CanCome (L.view t) →
    (choice.2 ()).Obeys L t
  /-- After a death. -/
  onDeath : scope.onDeath.Obeys L s

theorem Scope.Obeys.mono {scope : Scope σ} (h : scope.Obeys L s) (later : L.Later s t) :
    scope.Obeys L t :=
  ⟨fun choice chosen u hu => h.interrupts choice chosen u (L.trans later hu), h.onDeath.mono later⟩

/-- A script obeys a law from a state on, and goes on only with values of which something is known.
-/
def Script.Leads (L : Law σ) (m : Script σ α) (s : L.State) (Q : α → L.State → Prop) : Prop :=
  ∀ t, L.Later s t → ∀ (scope : Scope σ) (next : α → Thread σ), scope.Obeys L t →
    (∀ value u, L.Later t u → Q value u → (next value).Obeys L u) → (m scope next).Obeys L t

/-- A script obeys a law from a state on. -/
def Script.Safe (L : Law σ) (m : Script σ α) (s : L.State) : Prop := m.Leads L s fun _ _ => True

namespace Script

variable {m : Script σ α}

/-- Less may be known of the value. -/
theorem Leads.mono (h : m.Leads L s Q) (hQR : ∀ value t, L.Later s t → Q value t → R value t) :
    m.Leads L s R := fun t ht scope next hs hn =>
  h t ht scope next hs fun value u hu hq => hn value u hu (hQR value u (L.trans ht hu) hq)

theorem safe_pure {value : α} : (pure value : Script σ α).Safe L s :=
  fun t _ _ _ _ hn => hn value t (L.refl t) trivial

theorem Leads.safe (h : m.Leads L s Q) : m.Safe L s := h.mono fun _ _ _ _ => trivial

theorem leads_pure {value : α} (h : ∀ t, L.Later s t → Q value t) :
    (pure value : Script σ α).Leads L s Q :=
  fun t ht _ _ _ hn => hn value t (L.refl t) (h t ht)

/-- A sequence leads where its second part does after the first. -/
theorem Leads.bind {f : α → Script σ β} {S : β → L.State → Prop} (h : m.Leads L s Q)
    (hf : ∀ value t, L.Later s t → Q value t → (f value).Leads L t S) : (m >>= f).Leads L s S :=
  fun t ht scope next hs hn => h t ht scope (fun value => f value scope next) hs
    fun value u hu hq => hf value u (L.trans ht hu) hq u (L.refl u) scope next (hs.mono hu)
      fun result v hv hS => hn result v (L.trans hu hv) hS

/-- After a script that obeys and of whose value nothing is known. -/
theorem Safe.bind {f : α → Script σ β} {S : β → L.State → Prop} (h : m.Safe L s)
    (hf : ∀ value t, L.Later s t → (f value).Leads L t S) : (m >>= f).Leads L s S :=
  Leads.bind h fun value t ht _ => hf value t ht

theorem Safe.map (h : m.Safe L s) (f : α → β) : (f <$> m).Safe L s :=
  Safe.bind h fun _ _ _ => safe_pure

/-- An action leads where its effect does. -/
theorem leads_modifyGet {f : σ → α × σ}
    (h : ∀ t, L.Later s t → ∃ u, L.Later t u ∧ L.view u = (f (L.view t)).2 ∧ Q (f (L.view t)).1 u) :
    (modifyGet f).Leads L s Q := by
  intro t ht scope next hs hn
  refine Thread.obeys_act fun u hu => ?_
  obtain ⟨v, hv, seen, hq⟩ := h u (L.trans ht hu)
  exact ⟨v, hv, seen, hn _ v (L.trans hu hv) hq⟩

/-- A look leads to what is seen. -/
theorem leads_gets {f : σ → α} (h : ∀ t, L.Later s t → Q (f (L.view t)) t) :
    (gets f).Leads L s Q :=
  leads_modifyGet fun t ht => ⟨t, L.refl t, rfl, h t ht⟩

/-- A wait leads to one of its values, when its signal comes. -/
theorem leads_await {choices : List (Signal σ × α)}
    (h : ∀ choice ∈ choices, ∀ t, L.Later s t → choice.1.CanCome (L.view t) → Q choice.2 t) :
    (await choices).Leads L s Q := by
  intro t ht scope next hs hn
  refine .wait fun choice chosen u hu given => ?_
  rcases List.mem_append.mp chosen with chosen | chosen
  · obtain ⟨original, here, rfl⟩ := List.mem_map.mp chosen
    exact hn _ u hu (h original here u (L.trans ht hu) given)
  · exact hs.interrupts choice chosen u hu given

/-- Another script is started if it obeys. -/
theorem safe_spawn {child : Script σ Unit} (h : child.Safe L s) : (spawn child).Safe L s := by
  intro t ht scope next hs hn
  refine .spawn ?_ (hn () t (L.refl t) trivial)
  refine h t ht {} _ ⟨fun _ chosen => ?_, .ended⟩ fun _ _ _ _ => .ended
  cases chosen

/-- A script may be cut short. -/
theorem Safe.interruptible (h : m.Safe L s) (signal : Signal σ) :
    (interruptible signal m).Safe L s := by
  intro t ht scope next hs hn
  refine h t ht _ _ ⟨fun choice chosen u hu given => ?_, hs.onDeath⟩ fun value => hn (some value)
  rcases List.mem_cons.mp chosen with rfl | chosen
  · exact hn none u hu trivial
  · exact hs.interrupts choice chosen u hu given

/-- A script may die. -/
theorem Safe.mortal (h : m.Safe L s) : (mortal m).Safe L s :=
  fun t ht scope next hs hn =>
    h t ht { scope with onDeath := next none } _ ⟨hs.interrupts, hn none t (L.refl t) trivial⟩
      fun value => hn (some value)

/-- Who dies leads to nothing of its own. -/
theorem leads_die : (die : Script σ α).Leads L s Q := fun _ _ _ _ hs _ => hs.onDeath

/-- A program obeys if each of its requests does. -/
theorem safe_playProgram {I : Interface} {serve : (request : I.Request) → Play (I.Reply request)}
    {L : Law World} {s : L.State} (h : ∀ request t, L.Later s t → (serve request).Safe L t)
    (p : Program I α) : (playProgram serve p).Safe L s := by
  induction p generalizing s with
  | done value => exact leads_pure fun _ _ => trivial
  | call request next ih =>
    exact (h request s (L.refl s)).bind fun reply t ht =>
      ih reply fun request u hu => h request u (L.trans ht hu)

end Script

end GridAgent.Simulation
