import GridAgent.Backoff.Trial
import Mathlib.Order.Bounds.Basic
import Mathlib.Tactic.Common

/-!
# How often an operation is tried

Whatever the policy and whatever the calls come out as, an operation is called until the first call
that settles the matter and no more often than the policy allows, its last outcome is the result, and
between two calls lies one pause, of the length the policy gives it. A counter of calls with 32 bits
is wide enough for every limit of 32 bits.
-/

namespace GridAgent

/-- There is nothing to try again: a success, or a failure that is no hiccup. -/
def IsConclusive {ε α : Type} [Transient ε] : Except ε α → Prop
  | .ok _ => True
  | .error cause => isTransient cause = false

namespace RetryPolicy

variable {I : Interface} {ε α : Type}

/-! ### Delays -/

theorem nextDelay_le (p : RetryPolicy) (failures : Nat) :
    (p.nextDelay failures).nanos ≤ longestDelay.nanos := by
  unfold nextDelay
  split
  · exact Nat.zero_le _
  · split
    · exact Nat.min_le_right _ _
    · exact le_rfl

theorem nextDelay_of_base_zero {p : RetryPolicy} (none : p.base.nanos = 0) (failures : Nat) :
    p.nextDelay failures = .zero :=
  if_pos none

/-! ### The loop on outcomes that are foretold -/

/-- The length of a pause that is asked for; a call has none. -/
def TrialRequest.wait? : TrialRequest → Option Span
  | pause wait => some wait
  | call => none

/-- The pauses among some requests. -/
def pauses (asked : List TrialRequest) : List Span := asked.filterMap TrialRequest.wait?

/-- The number of calls among some requests. -/
def calls (asked : List TrialRequest) : Nat := asked.countP fun request => request.wait?.isNone

theorem calls_append (asked more : List TrialRequest) :
    calls (asked ++ more) = calls asked + calls more := by
  simp only [calls, List.countP_append]

theorem pauses_append (asked more : List TrialRequest) :
    pauses (asked ++ more) = pauses asked ++ pauses more := by
  simp only [pauses, List.filterMap_append]

/-- Surroundings of a loop whose calls come out as any value. -/
def callSurroundings (ε α : Type) : Interface where
  Request := TrialRequest
  Reply
    | .pause _ => Unit
    | .call => Except ε α

/-- Lets every call come out as foretold, by its number, and keeps what was asked. -/
def foretold (outcome : Nat → Except ε α) : (request : TrialRequest) → List TrialRequest →
    (callSurroundings ε α).Reply request × List TrialRequest
  | .pause wait, asked => ((), asked ++ [.pause wait])
  | .call, asked => (outcome (calls asked + 1), asked ++ [.call])

/-- Pauses and does nothing else. -/
def barePause (wait : Span) : Program (callSurroundings ε α) Unit := .call (.pause wait) .done

/-- Calls and does nothing else. -/
def bareCall : Program (callSurroundings ε α) (Except ε α) := .call .call .done

theorem run_bareCall_bind {β : Type} (outcome : Nat → Except ε α)
    (next : Except ε α → Program (callSurroundings ε α) β) (asked : List TrialRequest) :
    (bareCall.bind next).run (foretold outcome) asked =
      (next (outcome (calls asked + 1))).run (foretold outcome) (asked ++ [.call]) :=
  rfl

theorem run_barePause_bind {β : Type} (outcome : Nat → Except ε α) (wait : Span)
    (next : Unit → Program (callSurroundings ε α) β) (asked : List TrialRequest) :
    ((barePause wait).bind next).run (foretold outcome) asked =
      (next ()).run (foretold outcome) (asked ++ [.pause wait]) :=
  rfl

variable [Transient ε]

/-- Result and requests of a policy on an operation whose calls come out as foretold, the first
call being number one. -/
def tried (policy : RetryPolicy) (outcome : Nat → Except ε α) : Except ε α × List TrialRequest :=
  (policy.retrying barePause bareCall).run (foretold outcome) []

/-- A call after some failures, and `more` calls after it, each with the pause before it. -/
def course (policy : RetryPolicy) (failures more : Nat) : List TrialRequest :=
  .call :: (List.range' (failures + 1) more).flatMap fun i => [.pause (policy.nextDelay i), .call]

theorem course_succ (policy : RetryPolicy) (failures more : Nat) :
    policy.course failures (more + 1) =
      [.call, .pause (policy.nextDelay (failures + 1))] ++ policy.course (failures + 1) more := by
  simp only [course, List.range'_succ, List.flatMap_cons, List.cons_append, List.nil_append]

theorem calls_course (policy : RetryPolicy) (failures more : Nat) :
    calls (policy.course failures more) = more + 1 := by
  induction more generalizing failures with
  | zero => rfl
  | succ more ih =>
    rw [course_succ, calls_append, ih]
    exact Nat.add_comm 1 (more + 1)

theorem pauses_course (policy : RetryPolicy) (failures more : Nat) :
    pauses (policy.course failures more) = (List.range' (failures + 1) more).map policy.nextDelay := by
  induction more generalizing failures with
  | zero => rfl
  | succ more ih =>
    rw [course_succ, pauses_append, ih, List.range'_succ, List.map_cons]
    rfl

/-- The calls after some failures that end a loop with a number of calls left after the next. -/
def Ending (outcome : Nat → Except ε α) (failures left : Nat) : Set Nat :=
  {k | failures < k ∧ (IsConclusive (outcome k) ∨ k = failures + 1 + left)}

theorem isLeast_ending_of_isConclusive {outcome : Nat → Except ε α} {failures left : Nat}
    (conclusive : IsConclusive (outcome (failures + 1))) :
    IsLeast (Ending outcome failures left) (failures + 1) :=
  ⟨⟨Nat.lt_succ_self failures, .inl conclusive⟩, fun _ ends => ends.1⟩

/-- A call that settles nothing and is not the last allowed one leaves it to the calls after it. -/
theorem ending_of_not_isConclusive {outcome : Nat → Except ε α} {failures left : Nat}
    (open' : ¬ IsConclusive (outcome (failures + 1))) :
    Ending outcome failures (left + 1) = Ending outcome (failures + 1) left := by
  ext k
  constructor
  · rintro ⟨after, conclusive | rfl⟩
    · have other : k ≠ failures + 1 := fun same => open' (same ▸ conclusive)
      exact ⟨by omega, .inl conclusive⟩
    · exact ⟨by omega, .inr (by omega)⟩
  · rintro ⟨after, conclusive | rfl⟩
    · exact ⟨by omega, .inl conclusive⟩
    · exact ⟨by omega, .inr (by omega)⟩

/-- What a loop asks and ends with when `failures` calls have been made and `left` are left after the
next one: it stops at the first call that ends it, and its last call gives the result. -/
theorem tryFrom_run (policy : RetryPolicy) (outcome : Nat → Except ε α) (left failures : Nat)
    (asked : List TrialRequest) (made : calls asked = failures) :
    ∃ more, IsLeast (Ending outcome failures left) (failures + 1 + more) ∧
      (policy.tryFrom barePause bareCall left failures).run (foretold outcome) asked =
        (outcome (failures + 1 + more), asked ++ policy.course failures more) := by
  induction left generalizing failures asked with
  | zero =>
    refine ⟨0, ⟨⟨Nat.lt_succ_self failures, .inr rfl⟩, fun _ ends => ends.1⟩, ?_⟩
    rw [← made]
    rfl
  | succ left ih =>
    rw [tryFrom, run_bareCall_bind, made]
    cases came : outcome (failures + 1) with
    | ok value =>
      refine ⟨0, isLeast_ending_of_isConclusive (by rw [came]; trivial), ?_⟩
      rw [Nat.add_zero, came]
      rfl
    | error cause =>
      cases hiccup : isTransient cause with
      | false =>
        refine ⟨0, isLeast_ending_of_isConclusive (by rw [came]; exact hiccup), ?_⟩
        rw [Nat.add_zero, came]
        simp only [hiccup, Bool.false_eq_true, if_false]
        rfl
      | true =>
        have continues : ¬ IsConclusive (outcome (failures + 1)) := by
          rw [came]
          exact fun settled => Bool.noConfusion (hiccup.symm.trans settled)
        have made' : calls (asked ++ [.call] ++ [.pause (policy.nextDelay (failures + 1))]) =
            failures + 1 := by
          rw [calls_append, calls_append, made]
          rfl
        obtain ⟨more, least, rest⟩ := ih (failures + 1) _ made'
        have shift : failures + 1 + 1 + more = failures + 1 + (more + 1) := by omega
        rw [shift] at least rest
        refine ⟨more + 1, ?_, ?_⟩
        · rw [ending_of_not_isConclusive continues]
          exact least
        · simp only [hiccup, if_true]
          rw [run_barePause_bind, rest, course_succ, List.append_assoc, List.append_assoc]
          rfl

section Surroundings

variable (handler : (request : (callSurroundings ε α).Request) →
  Program I ((callSurroundings ε α).Reply request))

/-- The pause of the surroundings that a handler replaces requests for. -/
def pauseBy (wait : Span) : Program I Unit := handler (.pause wait)

/-- The call of the surroundings that a handler replaces requests for. -/
def callBy : Program I (Except ε α) := handler .call

omit [Transient ε] in
theorem expand_bareCall_bind {β : Type} (next : Except ε α → Program (callSurroundings ε α) β) :
    (bareCall.bind next).expand handler =
      (callBy handler).bind fun came => (next came).expand handler :=
  rfl

omit [Transient ε] in
theorem expand_barePause_bind {β : Type} (wait : Span)
    (next : Unit → Program (callSurroundings ε α) β) :
    ((barePause wait).bind next).expand handler =
      (pauseBy handler wait).bind fun awake => (next awake).expand handler :=
  rfl

/-- The loop over any surroundings is the one that only pauses and calls, with each of its requests
replaced by the program for it. -/
theorem expand_tryFrom (policy : RetryPolicy) (left failures : Nat) :
    (policy.tryFrom barePause bareCall left failures).expand handler =
      policy.tryFrom (pauseBy handler) (callBy handler) left failures := by
  induction left generalizing failures with
  | zero => exact Program.bind_done_right (callBy handler)
  | succ left ih =>
    rw [tryFrom, expand_bareCall_bind, tryFrom]
    refine congrArg _ (funext fun came => ?_)
    cases came with
    | ok value => rfl
    | error cause =>
      cases hiccup : isTransient cause with
      | false =>
        simp only [hiccup, Bool.false_eq_true, if_false]
        rfl
      | true =>
        simp only [hiccup, if_true]
        rw [expand_barePause_bind]
        exact congrArg _ (funext fun _ => ih (failures + 1))

end Surroundings

/-! ### The counter -/

theorem toNat_succ {attempts : UInt32} (room : attempts.toNat + 1 < UInt32.size) :
    (attempts + 1).toNat = attempts.toNat + 1 := by
  rw [UInt32.toNat_add]
  exact Nat.mod_eq_of_lt room

/-- The loop with its calls counted up in 32 bits, as a program that has no answer once the count
would overflow. -/
def counted (policy : RetryPolicy) (limit : UInt32) (pause : Span → Program I Unit)
    (operation : Program I (Except ε α)) (attempts : UInt32) :
    Program I (Option (Except ε α)) :=
  if attempts.toNat + 1 < UInt32.size then
    operation.bind fun
      | .ok value => .done (some (.ok value))
      | .error cause =>
        if isTransient cause ∧ attempts + 1 < limit then
          (pause (policy.nextDelay (attempts + 1).toNat)).bind fun _ =>
            counted policy limit pause operation (attempts + 1)
        else .done (some (.error cause))
  else .done none
termination_by UInt32.size - attempts.toNat
decreasing_by
  have next := toNat_succ ‹attempts.toNat + 1 < UInt32.size›
  omega

/-- The count stays below the limit before each further call, so it never overflows. -/
theorem counted_eq (policy : RetryPolicy) (limit : UInt32) (pause : Span → Program I Unit)
    (operation : Program I (Except ε α)) (left : Nat) (attempts : UInt32)
    (within : attempts.toNat + 1 + left = max 1 limit.toNat) :
    policy.counted limit pause operation attempts =
      (policy.tryFrom pause operation left attempts.toNat).bind fun result =>
        .done (some result) := by
  have bound : limit.toNat < UInt32.size := limit.toNat_lt
  have room : attempts.toNat + 1 < UInt32.size := by
    have wide : 1 < UInt32.size := by decide
    omega
  have next := toNat_succ room
  induction left generalizing attempts with
  | zero =>
    rw [counted, if_pos room]
    refine congrArg _ (funext fun came => ?_)
    cases came with
    | ok value => rfl
    | error cause =>
      have last : ¬ attempts + 1 < limit := by
        rw [UInt32.lt_iff_toNat_lt]
        omega
      exact if_neg fun goesOn => last goesOn.2
  | succ left ih =>
    rw [counted, if_pos room, tryFrom, Program.bind_assoc]
    refine congrArg _ (funext fun came => ?_)
    cases came with
    | ok value => rfl
    | error cause =>
      have more : attempts + 1 < limit := by
        rw [UInt32.lt_iff_toNat_lt]
        omega
      have room' : (attempts + 1).toNat + 1 < UInt32.size := by omega
      cases hiccup : isTransient cause with
      | false => simp only [hiccup, Bool.false_eq_true, false_and, if_false, Program.bind_done]
      | true =>
        simp only [hiccup, more, and_self, if_true, Program.bind_assoc, next]
        refine congrArg _ (funext fun _ => ?_)
        rw [ih (attempts + 1) (by omega) room' (toNat_succ room'), next]

/-! ### The whole loop -/

/-- A policy whose number of attempts has 32 bits. -/
def ofLimit (base : Span) (multiplier : Float) (limit : UInt32) : RetryPolicy :=
  ⟨base, multiplier, limit.toNat⟩

/-- What a policy does on an operation that it calls a number of times. -/
structure Tries (policy : RetryPolicy) (outcome : Nat → Except ε α) (times : Nat) : Prop where
  /-- The last call gives the result. -/
  result : (policy.tried outcome).1 = outcome times
  /-- Those are all calls. -/
  called : calls (policy.tried outcome).2 = times
  /-- There is a pause for each call but the last, the `i`-th as long as the delay after `i`
  failures. -/
  paused : pauses (policy.tried outcome).2 = (List.range' 1 (times - 1)).map policy.nextDelay
  /-- Calls and pauses take turns, from a call to a call. -/
  alternates : (policy.tried outcome).2 = policy.course 0 (times - 1)
  /-- No pause is longer than the longest delay, and without a base delay none takes time. -/
  bounded : ∀ wait ∈ pauses (policy.tried outcome).2,
    wait.nanos ≤ longestDelay.nanos ∧ (policy.base.nanos = 0 → wait = .zero)

/-- For every policy and every sequence of outcomes: the operation is called until the first call
that is conclusive or the last that the limit allows, at least once, and its outcome is the result;
the pauses between the calls are those of the policy. The loop over any other surroundings is this
one with its requests replaced, and counting the calls in 32 bits makes no difference to it. -/
theorem retrying_exact (base : Span) (multiplier : Float) (limit : UInt32)
    (outcome : Nat → Except ε α) :
    (∃ times,
      IsLeast {k | 1 ≤ k ∧ (IsConclusive (outcome k) ∨ k = max 1 limit.toNat)} times ∧
      (ofLimit base multiplier limit).Tries outcome times) ∧
    (∀ (I : Interface) (handler : (request : (callSurroundings ε α).Request) →
        Program I ((callSurroundings ε α).Reply request)),
      ((ofLimit base multiplier limit).retrying barePause bareCall).expand handler =
        (ofLimit base multiplier limit).retrying (pauseBy handler) (callBy handler)) ∧
    ∀ (I : Interface) (pause : Span → Program I Unit) (operation : Program I (Except ε α)),
      (ofLimit base multiplier limit).counted limit pause operation 0 =
        ((ofLimit base multiplier limit).retrying pause operation).bind fun result =>
          .done (some result) := by
  set policy := ofLimit base multiplier limit with made
  have allowed : 0 + 1 + (limit.toNat - 1) = max 1 limit.toNat := by omega
  refine ⟨?_, fun I handler => expand_tryFrom handler policy _ _, fun I pause operation =>
    counted_eq policy limit pause operation _ 0 allowed⟩
  obtain ⟨more, least, run⟩ := policy.tryFrom_run outcome (limit.toNat - 1) 0 [] rfl
  have whole : policy.tried outcome = (outcome (0 + 1 + more), policy.course 0 more) := run
  have ending : Ending outcome 0 (limit.toNat - 1) =
      {k | 1 ≤ k ∧ (IsConclusive (outcome k) ∨ k = max 1 limit.toNat)} := by
    rw [Ending, allowed]
    rfl
  have before : 0 + 1 + more - 1 = more := by omega
  rw [ending] at least
  refine ⟨0 + 1 + more, least, ?_, ?_, ?_, ?_, ?_⟩
  · rw [whole]
  · rw [whole, calls_course, Nat.zero_add, Nat.add_comm]
  · rw [whole, pauses_course, before]
  · rw [whole, before]
  · intro wait mem
    rw [whole, pauses_course] at mem
    obtain ⟨i, -, rfl⟩ := List.mem_map.mp mem
    exact ⟨nextDelay_le policy i, fun none => nextDelay_of_base_zero none i⟩

end RetryPolicy

end GridAgent
