import GridAgent.Proofs.Simulation.Interleaving
import GridAgent.Simulation.Scenario

/-!
# The wiring of tokens

Each token that cuts calls off is guarded by another one, which has to be fired before; nobody
else's token is. Each stream has one token that cuts off its calls, from its opening on. Neither is
written down in the world, so the wiring is kept in mind beside it. It grows: a guard is chosen
when a token is made, and the cutter of a stream when it is opened. In a world that is wired well,
a guarded token is fired only after its guard is.

Whoever makes a token may fire it. The token that cuts off the calls of an execution is made with
the token that cancels the execution as its guard, and only the thread that waits for the guard
fires it. Streams of executions are cut off by these tokens, and streams that have names by tokens
of their own.
-/

namespace GridAgent.Simulation

open Agent

/-- The part of a world that decides which calls are cut off. -/
structure Controls where
  tokens : Tokens
  shutdown : Token
  executions : Table (Side × RunId) ExecutionTokens
  streams : Table StreamId Token
  named : Table String StreamId
  connections : Nat

def World.controls (w : World) : Controls :=
  ⟨w.tokens, w.shutdown, w.executionTokens, w.streamTokens, w.streams, w.worker.connections⟩

/-- What is kept in mind of the tokens. -/
structure Wiring where
  /-- The token that has to be fired before a guarded one. -/
  guard : Token → Option Token
  /-- The token that cuts off the calls of a stream. -/
  cutter : StreamId → Option Token

namespace Wiring

variable {g g' : Wiring} {k k' : Tokens} {c : Controls} {token cancel abort : Token}
  {stream : StreamId}

/-- The token has been made and is not guarded: anyone may fire it. -/
def Plain (g : Wiring) (k : Tokens) (token : Token) : Prop :=
  token < k.count ∧ g.guard token = none

/-- A world is wired well. -/
structure Sound (g : Wiring) (c : Controls) : Prop where
  /-- Guards are plain, and nothing is above what they guard. -/
  guarded : ∀ abort cancel, g.guard abort = some cancel →
    abort < c.tokens.count ∧ g.Plain c.tokens cancel ∧ c.tokens.chain abort = [abort]
  /-- What was fired has been made. -/
  made : ∀ token ∈ c.tokens.fired, token < c.tokens.count
  /-- Guards are fired first. -/
  first : ∀ abort cancel, g.guard abort = some cancel → ∀ later earlier,
    c.tokens.fired = later ++ abort :: earlier →
      (c.tokens.chain cancel).any earlier.contains = true
  /-- The tokens of executions are wired. -/
  executions : ∀ key tokens, c.executions.get? key = some tokens →
    g.Plain c.tokens tokens.cancel ∧ g.Plain c.tokens tokens.done ∧
      g.guard tokens.abort = some tokens.cancel
  /-- Anyone may shut the agent down. -/
  shutdown : g.Plain c.tokens c.shutdown
  /-- Streams are cut off by their cutters. -/
  streams : ∀ stream token, c.streams.get? stream = some token → g.cutter stream = some token
  /-- Anyone may cut off a stream that has a name. -/
  named : ∀ name stream, c.named.get? name = some stream →
    ∃ token, g.cutter stream = some token ∧ g.Plain c.tokens token
  /-- Streams that were not opened have no cutter. -/
  opened : ∀ stream, c.connections ≤ stream → g.cutter stream = none

/-- A wiring grows. -/
structure Grows (g : Wiring) (k : Tokens) (g' : Wiring) (k' : Tokens) : Prop where
  count : k.count ≤ k'.count
  /-- Guards are chosen once. -/
  guard : ∀ token < k.count, g'.guard token = g.guard token
  /-- What is above a token stays. -/
  chain : ∀ token < k.count, k'.chain token = k.chain token
  /-- What is fired stays so. -/
  fired : k.fired <:+ k'.fired
  /-- Cutters are chosen once. -/
  cutter : ∀ stream token, g.cutter stream = some token → g'.cutter stream = some token

theorem Grows.refl (g : Wiring) (k : Tokens) : g.Grows k g k :=
  ⟨Nat.le_refl _, fun _ _ => rfl, fun _ _ => rfl, List.suffix_refl _, fun _ _ => id⟩

theorem Grows.trans {g'' : Wiring} {k'' : Tokens} (h : g.Grows k g' k') (h' : g'.Grows k' g'' k'') :
    g.Grows k g'' k'' where
  count := Nat.le_trans h.count h'.count
  guard token ht := (h'.guard token (Nat.lt_of_lt_of_le ht h.count)).trans (h.guard token ht)
  chain token ht := (h'.chain token (Nat.lt_of_lt_of_le ht h.count)).trans (h.chain token ht)
  fired := h.fired.trans h'.fired
  cutter stream token hs := h'.cutter stream token (h.cutter stream token hs)

theorem Plain.grows (h : g.Plain k token) (hg : g.Grows k g' k') : g'.Plain k' token :=
  ⟨Nat.lt_of_lt_of_le h.1 hg.count, (hg.guard token h.1).trans h.2⟩

/-- What is fired stays fired. -/
theorem Grows.isFired (hg : g.Grows k g' k') (made : token < k.count)
    (h : k.isFired token = true) : k'.isFired token = true := by
  rw [Tokens.isFired, hg.chain token made]
  refine List.any_eq_true.mpr ?_
  obtain ⟨above, ha, hf⟩ := List.any_eq_true.mp h
  refine ⟨above, ha, ?_⟩
  rw [List.contains_iff_mem] at hf ⊢
  exact hg.fired.subset hf

/-- Who may be fired: anyone's token, or a guarded one whose guard is fired. -/
def MayFire (g : Wiring) (k : Tokens) (token : Token) : Prop :=
  g.Plain k token ∨ ∃ cancel, g.guard token = some cancel ∧ k.isFired cancel = true

/-- A token is fired that may be. -/
theorem Sound.fire (h : g.Sound c) (may : g.MayFire c.tokens token) :
    g.Sound { c with tokens := c.tokens.fire token } where
  guarded := h.guarded
  made other ho := by
    rcases List.mem_cons.mp ho with rfl | ho
    · rcases may with plain | ⟨cancel, guarded, -⟩
      · exact plain.1
      · exact (h.guarded _ _ guarded).1
    · exact h.made other ho
  first abort cancel guarded later earlier split := by
    cases later with
    | nil =>
      obtain ⟨rfl, rfl⟩ : token = abort ∧ c.tokens.fired = earlier := List.cons.inj split
      rcases may with plain | ⟨guard, guarded', fired⟩
      · cases plain.2.symm.trans guarded
      · cases guarded'.symm.trans guarded
        exact fired
    | cons last later => exact h.first abort cancel guarded later earlier (List.cons.inj split).2
  executions := h.executions
  shutdown := h.shutdown
  streams := h.streams
  named := h.named
  opened := h.opened

theorem grows_fire (g : Wiring) (k : Tokens) (token : Token) : g.Grows k g (k.fire token) :=
  ⟨Nat.le_refl _, fun _ _ => rfl, fun _ _ => rfl, List.suffix_cons _ _, fun _ _ => id⟩

/-- The chain of a new token begins with it; other chains stay. -/
theorem chain_make (k : Tokens) (parent : Option Token) (token : Token) :
    (k.make parent).2.chain token =
      if token = k.count then k.count :: (parent.map k.chain).getD [] else k.chain token := by
  unfold Tokens.chain Tokens.make
  rw [Table.get?_set]
  split <;> cases parent <;> rfl

/-- The guard of the next token is chosen. -/
def guarding (g : Wiring) (k : Tokens) (guard : Option Token) : Wiring :=
  { g with guard := fun token => if token = k.count then guard else g.guard token }

theorem guard_guarding_of_lt {guard : Option Token} (made : token < k.count) :
    (g.guarding k guard).guard token = g.guard token :=
  if_neg (Nat.ne_of_lt made)

theorem grows_make (g : Wiring) (k : Tokens) (parent guard : Option Token) :
    g.Grows k (g.guarding k guard) (k.make parent).2 where
  count := Nat.le_succ _
  guard _ made := guard_guarding_of_lt made
  chain token made := by rw [chain_make, if_neg (Nat.ne_of_lt made)]
  fired := List.suffix_refl _
  cutter _ _ := id

/-- A token is made. It has a guard if nothing is above it. -/
theorem Sound.make (h : g.Sound c) {parent guard : Option Token}
    (hg : ∀ cancel, guard = some cancel → parent = none ∧ g.Plain c.tokens cancel) :
    (g.guarding c.tokens guard).Sound { c with tokens := (c.tokens.make parent).2 } := by
  have grows := grows_make g c.tokens parent guard
  refine ⟨fun abort cancel guarded => ?_, fun token ht => ?_, fun abort cancel guarded => ?_,
    fun key tokens hk => ?_, h.shutdown.grows grows, h.streams, fun name stream hn => ?_, h.opened⟩
  · by_cases new : abort = c.tokens.count
    · obtain ⟨rfl, plain⟩ := hg cancel ((if_pos new).symm.trans guarded)
      refine ⟨new ▸ Nat.lt_succ_self _, plain.grows grows, ?_⟩
      rw [chain_make, if_pos new, new]
      rfl
    · obtain ⟨made, plain, chain⟩ := h.guarded abort cancel ((if_neg new).symm.trans guarded)
      exact ⟨Nat.lt_succ_of_lt made, plain.grows grows, (grows.chain abort made).trans chain⟩
  · exact Nat.lt_succ_of_lt (h.made token ht)
  · intro later earlier split
    have made : abort < c.tokens.count :=
      h.made abort (split ▸ List.mem_append_right later List.mem_cons_self)
    have before := (guard_guarding_of_lt made).symm.trans guarded
    have fired := h.first abort cancel before later earlier split
    rw [grows.chain cancel (h.guarded abort cancel before).2.1.1]
    exact fired
  · obtain ⟨cancel, done, guarded⟩ := h.executions key tokens hk
    refine ⟨cancel.grows grows, done.grows grows, ?_⟩
    exact (grows.guard _ (h.guarded _ _ guarded).1).trans guarded
  · obtain ⟨token, cutter, plain⟩ := h.named name stream hn
    exact ⟨token, cutter, plain.grows grows⟩

/-- The tokens of an execution are written down. -/
theorem Sound.execute (h : g.Sound c) (key : Side × RunId) {tokens : ExecutionTokens}
    (cancel : g.Plain c.tokens tokens.cancel) (done : g.Plain c.tokens tokens.done)
    (abort : g.guard tokens.abort = some tokens.cancel) :
    g.Sound { c with executions := c.executions.set key tokens } :=
  { h with
    executions := fun other found hf => by
      rw [Table.get?_set] at hf
      split at hf
      · cases hf
        exact ⟨cancel, done, abort⟩
      · exact h.executions other found hf }

/-- Another token shuts the agent down. -/
theorem Sound.renew (h : g.Sound c) (plain : g.Plain c.tokens token) :
    g.Sound { c with shutdown := token } :=
  { h with shutdown := plain }

/-- The cutter of the next stream is chosen. -/
def cutting (g : Wiring) (next : StreamId) (token : Token) : Wiring :=
  { g with cutter := fun stream => if stream = next then some token else g.cutter stream }

theorem cutter_cutting_of_some {next : StreamId} {other : Token} (new : g.cutter next = none)
    (h : g.cutter stream = some token) : (g.cutting next other).cutter stream = some token := by
  refine (if_neg ?_).trans h
  rintro rfl
  cases new.symm.trans h

/-- A stream is opened. -/
theorem Sound.open (h : g.Sound c) (token : Token) :
    (g.cutting c.connections token).Sound { c with connections := c.connections + 1 } :=
  { h with
    streams := fun stream other hs =>
      cutter_cutting_of_some (h.opened _ (Nat.le_refl _)) (h.streams stream other hs)
    named := fun name stream hn => by
      obtain ⟨other, cutter, plain⟩ := h.named name stream hn
      exact ⟨other, cutter_cutting_of_some (h.opened _ (Nat.le_refl _)) cutter, plain⟩
    opened := fun stream beyond =>
      (if_neg (Nat.ne_of_gt beyond)).trans (h.opened stream (Nat.le_of_succ_le beyond)) }

theorem Sound.grows_open (h : g.Sound c) (token : Token) :
    g.Grows c.tokens (g.cutting c.connections token) c.tokens :=
  { Grows.refl g c.tokens with
    cutter := fun _ _ => cutter_cutting_of_some (h.opened _ (Nat.le_refl _)) }

/-- No stream is opened. -/
theorem Sound.stay (h : g.Sound c) {connections : Nat} (same : connections = c.connections) :
    g.Sound { c with connections } := by
  subst same
  exact h

/-- The token that cuts off the calls of a stream is written down. -/
theorem Sound.cut (h : g.Sound c) (cutter : g.cutter stream = some token) :
    g.Sound { c with streams := c.streams.set stream token } :=
  { h with
    streams := fun other found hf => by
      rw [Table.get?_set] at hf
      split at hf
      · next e =>
        cases hf
        exact e ▸ cutter
      · exact h.streams other found hf }

/-- A stream gets a name. -/
theorem Sound.name (h : g.Sound c) (name : String) (cutter : g.cutter stream = some token)
    (plain : g.Plain c.tokens token) :
    g.Sound { c with named := c.named.set name stream } :=
  { h with
    named := fun other found hf => by
      rw [Table.get?_set] at hf
      split at hf
      · cases hf
        exact ⟨token, cutter, plain⟩
      · exact h.named other found hf }

/-- A stream loses its name. -/
theorem Sound.unname (h : g.Sound c) (name : String) :
    g.Sound { c with named := c.named.erase name } :=
  { h with
    named := fun other found hf => by
      rw [Table.get?_erase] at hf
      split at hf
      · cases hf
      · exact h.named other found hf }

end Wiring

/-- A world that is wired well. -/
structure Wired where
  world : World
  wiring : Wiring
  sound : wiring.Sound world.controls

/-- Threads keep the world wired well, and rely on it. -/
abbrev wired : Law World where
  State := Wired
  view := Wired.world
  Later s t := s.wiring.Grows s.world.tokens t.wiring t.world.tokens
  refl s := .refl s.wiring s.world.tokens
  trans := Wiring.Grows.trans

namespace Wired

variable {s t : Wired} {token cancel abort : Token} {stream : StreamId}

/-- Anyone may fire the token. -/
def Plain (s : Wired) (token : Token) : Prop := s.wiring.Plain s.world.tokens token

/-- A token has to be fired before another one. -/
def Guards (s : Wired) (cancel abort : Token) : Prop := s.wiring.guard abort = some cancel

/-- The token cuts off the calls of a stream. -/
def Cuts (s : Wired) (token : Token) (stream : StreamId) : Prop :=
  s.wiring.cutter stream = some token

/-- The token may be fired. -/
def MayFire (s : Wired) (token : Token) : Prop := s.wiring.MayFire s.world.tokens token

theorem Plain.later (h : s.Plain token) (later : wired.Later s t) : t.Plain token :=
  Wiring.Plain.grows h later

theorem Guards.later (h : s.Guards cancel abort) (later : wired.Later s t) :
    t.Guards cancel abort :=
  (later.guard abort (s.sound.guarded _ _ h).1).trans h

theorem Cuts.later (h : s.Cuts token stream) (later : wired.Later s t) : t.Cuts token stream :=
  later.cutter _ _ h

theorem MayFire.later (h : s.MayFire token) (later : wired.Later s t) : t.MayFire token := by
  rcases h with plain | ⟨cancel, guards, fired⟩
  · exact .inl (Plain.later plain later)
  · refine .inr ⟨cancel, Guards.later guards later, ?_⟩
    exact later.isFired (s.sound.guarded _ _ guards).2.1.1 fired

/-- What the tokens of an execution are: they are wired, or anyone may fire them. -/
structure Holds (s : Wired) (tokens : ExecutionTokens) : Prop where
  cancel : s.Plain tokens.cancel
  done : s.Plain tokens.done
  abort : s.Guards tokens.cancel tokens.abort ∨ s.Plain tokens.abort

theorem Holds.later {tokens : ExecutionTokens} (h : s.Holds tokens) (later : wired.Later s t) :
    t.Holds tokens :=
  ⟨h.cancel.later later, h.done.later later,
    h.abort.imp (fun guards => guards.later later) fun plain => plain.later later⟩

end Wired

section
variable {α : Type} {s : Wired} {Q : α → Wired → Prop}

/-- An action leads where it keeps the world wired well. -/
theorem leads_of_sound {f : World → α × World}
    (h : ∀ t, wired.Later s t → ∃ (g : Wiring) (sound : g.Sound (f t.world).2.controls),
      t.wiring.Grows t.world.tokens g (f t.world).2.tokens ∧ Q (f t.world).1 ⟨_, g, sound⟩) :
    (Script.modifyGet f).Leads wired s Q :=
  Script.leads_modifyGet fun t ht => by
    obtain ⟨g, sound, grows, hq⟩ := h t ht
    exact ⟨⟨_, g, sound⟩, grows, rfl, hq⟩

/-- An action is safe that keeps the world wired well. -/
theorem safe_of_sound {f : World → α × World}
    (h : ∀ t, wired.Later s t → ∃ g : Wiring, g.Sound (f t.world).2.controls ∧
      t.wiring.Grows t.world.tokens g (f t.world).2.tokens) :
    (Script.modifyGet f).Safe wired s :=
  leads_of_sound fun t ht => by
    obtain ⟨g, sound, grows⟩ := h t ht
    exact ⟨g, sound, grows, trivial⟩

/-- A change is safe that keeps the world wired well. -/
theorem safe_modify {f : World → World}
    (h : ∀ t, wired.Later s t → ∃ g : Wiring, g.Sound (f t.world).controls ∧
      t.wiring.Grows t.world.tokens g (f t.world).tokens) : (Script.modify f).Safe wired s :=
  safe_of_sound h

/-- An action that leaves the controls alone is safe. -/
theorem safe_of_controls {f : World → α × World} (h : ∀ w, (f w).2.controls = w.controls) :
    (Script.modifyGet f).Safe wired s := by
  refine safe_of_sound fun t _ => ⟨t.wiring, (h t.world).symm ▸ t.sound, ?_⟩
  have same : (f t.world).2.tokens = t.world.tokens := congrArg Controls.tokens (h t.world)
  rw [same]
  exact .refl _ _

/-- A look is safe. -/
theorem safe_gets {f : World → α} : (Script.gets f).Safe wired s :=
  Script.leads_gets fun _ _ => trivial

/-- A wait is safe. -/
theorem safe_await {choices : List (Signal World × α)} : (Script.await choices).Safe wired s :=
  Script.leads_await fun _ _ _ _ _ => trivial

end

variable {s : Wired} {token cancel : Token} {stream : StreamId} {seat : Seat} {run : RunId}

/-! Waiting. -/

theorem safe_sleep (millis : Nat) : (sleep millis).Safe wired s :=
  safe_gets.bind fun _ _ _ => safe_await

theorem safe_firesWithin (token : Token) (millis : Nat) : (firesWithin token millis).Safe wired s :=
  safe_gets.bind fun _ _ _ => safe_await

/-! Making and firing. -/

/-- A token that may be fired is fired. -/
theorem safe_fire (may : s.MayFire token) : (fire token).Safe wired s := by
  refine safe_modify fun t ht => ⟨t.wiring, t.sound.fire (may.later ht), ?_⟩
  exact Wiring.grows_fire _ _ _

/-- Anyone may fire a new token. -/
theorem leads_makeToken (parent : Option Token) :
    (makeToken parent).Leads wired s fun token t => t.Plain token := by
  refine leads_of_sound fun t _ => ⟨t.wiring.guarding t.world.tokens none, ?_, ?_, ?_⟩
  · exact t.sound.make fun _ h => nomatch h
  · exact Wiring.grows_make _ _ _ _
  · exact ⟨Nat.lt_succ_self _, if_pos rfl⟩

/-- A new token may have a guard. -/
theorem leads_makeGuarded (plain : s.Plain cancel) :
    (makeToken none).Leads wired s fun token t => t.Guards cancel token := by
  refine leads_of_sound fun t ht =>
    ⟨t.wiring.guarding t.world.tokens (some cancel), ?_, ?_, if_pos rfl⟩
  · refine t.sound.make fun guard h => ⟨rfl, ?_⟩
    cases h
    exact plain.later ht
  · exact Wiring.grows_make t.wiring t.world.tokens none (some cancel)

/-- The tokens of an execution, as far as there are any. -/
theorem holds_tokensOf (plain : s.Plain seat.shutdown) (run : RunId) :
    s.Holds (tokensOf s.world seat run) := by
  unfold tokensOf
  cases h : s.world.executionTokens.get? (seat.side, run) with
  | none => exact ⟨plain, plain, .inr plain⟩
  | some tokens =>
    obtain ⟨cancel, done, guards⟩ := s.sound.executions _ _ h
    exact ⟨cancel, done, .inl guards⟩

theorem leads_tokensOf (plain : s.Plain seat.shutdown) (run : RunId) :
    (Script.gets fun w => tokensOf w seat run).Leads wired s fun tokens t => t.Holds tokens :=
  Script.leads_gets fun _ ht => holds_tokensOf (plain.later ht) run

/-- A plain token of the world is fired. -/
theorem safe_fireOf {f : World → Token} (plain : ∀ t, wired.Later s t → t.Plain (f t.world)) :
    (Script.modify fun w => w.fire (f w)).Safe wired s :=
  safe_modify fun t ht =>
    ⟨t.wiring, t.sound.fire (.inl (plain t ht)), Wiring.grows_fire _ _ _⟩

theorem safe_onRegistry {α : Type} {side : Side} (call : Registry → α × Registry) :
    (onRegistry side call).Safe wired s :=
  safe_of_controls fun w => by cases side <;> rfl

/-- Who executes a task gets a guarded token for its call. -/
theorem safe_playRegister (task : TaskId) : (playRegister seat task).Safe wired s := by
  refine (safe_onRegistry _).bind fun registered t ht => ?_
  cases registered with
  | none => exact Script.safe_pure
  | some run =>
    refine (leads_makeToken _).bind fun cancel t _ plain => ?_
    refine (leads_makeGuarded plain).bind fun abort u hu guards => ?_
    refine (leads_makeToken _).bind fun done v hv other => ?_
    refine Script.Safe.bind ?_ fun _ _ _ => Script.safe_pure
    refine safe_modify fun w hw => ⟨w.wiring, ?_, .refl _ _⟩
    exact w.sound.execute _ ((plain.later hu).later (wired.trans hv hw)) (other.later hw)
      (guards.later (wired.trans hv hw))

/-- The call is cut off after the cancellation, or not at all. -/
theorem safe_escalate {tokens : ExecutionTokens} (holds : s.Holds tokens) (grace : Nat) :
    (escalate tokens grace).Safe wired s := by
  have waited : (Script.await [(fired tokens.done, false), (fired tokens.cancel, true)]).Leads
      wired s fun cancelled t => cancelled = true → t.MayFire tokens.abort := by
    refine Script.leads_await fun choice chosen t ht given => ?_
    rcases List.mem_pair.mp chosen with rfl | rfl
    · exact fun h => nomatch h
    · exact fun _ => (holds.later ht).abort.elim
        (fun guards => .inr ⟨tokens.cancel, guards, given⟩) .inl
  refine waited.bind fun cancelled t _ may => ?_
  cases cancelled with
  | false => exact Script.safe_pure
  | true =>
    refine (safe_firesWithin _ _).bind fun fired u hu => ?_
    cases fired with
    | false => exact safe_fire ((may rfl).later hu)
    | true => exact Script.safe_pure

/-! Streams. -/

/-- A connection takes the next number, or fails and takes none. -/
theorem connect_cases (worker : Worker) (task : TaskId) (deadline : Option Date) :
    (∃ cause, (worker.connect task deadline).1 = .error cause ∧
      (worker.connect task deadline).2.connections = worker.connections) ∨
    ((worker.connect task deadline).1 = .ok worker.connections ∧
      (worker.connect task deadline).2.connections = worker.connections + 1) := by
  unfold Worker.connect
  dsimp only
  split
  · exact .inl ⟨_, rfl, rfl⟩
  · exact .inr ⟨rfl, rfl⟩

/-- A stream is opened with a token that cuts off its calls. -/
theorem leads_openStream (task : TaskId) (abort : Token) (deadline : Option Date) :
    (openStream task abort deadline).Leads wired s fun opened t =>
      ∀ stream, opened = .ok stream → t.Cuts abort stream := by
  have connected : (onWorker fun worker => worker.connect task deadline).Leads wired s
      fun opened t => ∀ stream, opened = .ok stream → t.Cuts abort stream := by
    refine leads_of_sound fun t _ => ?_
    rcases connect_cases t.world.worker task deadline with ⟨cause, failed, same⟩ | ⟨opened, next⟩
    · refine ⟨t.wiring, ?_, .refl _ _, fun stream h => ?_⟩
      · exact t.sound.stay same
      · cases failed.symm.trans h
    · refine ⟨t.wiring.cutting t.world.worker.connections abort, ?_, ?_, fun stream h => ?_⟩
      · show Wiring.Sound _ { t.world.controls with
          connections := (t.world.worker.connect task deadline).2.connections }
        rw [next]
        exact t.sound.open abort
      · exact t.sound.grows_open abort
      · cases opened.symm.trans h
        exact if_pos rfl
  refine connected.bind fun opened t _ cuts => ?_
  cases opened with
  | error cause => exact Script.leads_pure fun _ _ _ h => nomatch h
  | ok stream =>
    have written : (Script.modify fun w : World =>
        { w with streamTokens := w.streamTokens.set stream abort }).Safe wired t :=
      safe_modify fun u hu => ⟨u.wiring, u.sound.cut ((cuts stream rfl).later hu), .refl _ _⟩
    refine written.bind fun _ u hu => Script.leads_pure fun v hv other same => ?_
    cases same
    exact ((cuts stream rfl).later hu).later hv

/-- A stream is cut off by whoever may fire its token. -/
theorem safe_cutOff (cuts : s.Cuts token stream) (plain : s.Plain token) :
    (cutOff stream).Safe wired s := by
  refine safe_modify fun t ht => ?_
  refine ⟨t.wiring, ?_⟩
  cases found : t.world.streamTokens.get? stream with
  | none => exact ⟨t.sound, .refl _ _⟩
  | some other =>
    have same : other = token :=
      Option.some.inj ((t.sound.streams _ _ found).symm.trans (cuts.later ht))
    subst same
    exact ⟨t.sound.fire (.inl (plain.later ht)), Wiring.grows_fire _ _ _⟩

end GridAgent.Simulation
