import GridAgent.Agent.Loop
import GridAgent.Proofs.Program.Conduct

/-!
# The books of the agent loop

What the loop may do next depends on what it was answered before. Its books say which pulled messages
are still in its hands, whether it has taken a slot for the first of them, and which handlers it has
counted. Whatever the loop is answered, it starts or hands back every message before it pulls again,
starts a message only in a slot that it took for it, and stops as soon as it is told that the error
budget is used up; and what it sums up is what the books say.
-/

namespace GridAgent.Agent

open Program

/-- The progress of a turn. -/
def Turn.progress : Turn → Progress
  | .again p => p
  | .leave p => p

namespace Loop

/-- The books of the loop. -/
structure Books where
  /-- Pulled messages that were neither started nor handed back. -/
  hands : List DeliveryId := []
  /-- A slot was taken for the first of them. -/
  slot : Bool := false
  /-- No slot is to be had for them any more. -/
  refused : Bool := false
  /-- Messages that were pulled, in order. -/
  pulled : List DeliveryId := []
  /-- Messages that were given to handlers, in order. -/
  started : List DeliveryId := []
  /-- Messages that were handed back, in order. -/
  returned : List DeliveryId := []
  /-- Handlers that were counted, in order. -/
  joined : List Joined := []
  /-- Number of pulls. -/
  pulls : Nat := 0
  /-- The loop found itself not stopped after the last pull. -/
  ahead : Bool := false
  /-- A failure used up the budget, and the loop has not been stopped since. -/
  mustStop : Bool := false

namespace Books

/-- The books after a pull. -/
def pull (b : Books) (ids : List DeliveryId) : Books :=
  { b with
    hands := ids
    refused := false
    pulled := b.pulled ++ ids
    pulls := b.pulls + 1
    ahead := false }

/-- The books after a handler was joined. -/
def join (b : Books) (joined : Joined) : Books := { b with joined := b.joined ++ [joined] }

/-- The books after the answer to a request. -/
def note (b : Books) : (request : LoopRequest) → request.Reply → Books
  | .isStopped, stopped => { b with ahead := !stopped }
  | .stop, _ => { b with mustStop := false }
  | .tryJoin, some joined => b.join joined
  | .join, joined => b.join joined
  | .pull _, some (.ok ids) => b.pull ids
  | .pull _, _ => b.pull []
  | .takeSlot, true => { b with slot := true }
  | .takeSlot, false => { b with refused := true }
  | .start message, _ =>
    { b with hands := b.hands.tail, slot := false, started := b.started ++ [message] }
  | .handBack message, _ =>
    { b with hands := b.hands.tail, returned := b.returned ++ [message] }
  | .recordError, exhausted => { b with mustStop := exhausted }
  | _, _ => b

/-- What the loop may ask for while it need not stop at once. -/
def MayAsk (b : Books) : LoopRequest → Prop
  | .pull _ => b.hands = [] ∧ b.slot = false ∧ b.ahead = true
  | .takeSlot => b.hands ≠ [] ∧ b.slot = false ∧ b.refused = false
  | .start message => b.hands.head? = some message ∧ b.slot = true
  | .handBack message => b.hands.head? = some message ∧ b.slot = false ∧ b.refused = true
  | .tryJoin => b.joined.length < b.started.length
  | .join => b.joined.length < b.started.length
  | _ => True

/-- What the loop may ask for. -/
def May (b : Books) (request : LoopRequest) : Prop :=
  request = .stop ∨ b.mustStop = false ∧ b.MayAsk request

/-- Whatever the loop asks for but to stop, it may ask for. -/
theorem May.ask {b : Books} {request : LoopRequest} (h : b.May request) (hn : request ≠ .stop) :
    b.MayAsk request :=
  (h.resolve_left hn).2

/-- No message is in the hands of the loop. -/
structure Free (b : Books) : Prop where
  hands : b.hands = []
  slot : b.slot = false
  mustStop : b.mustStop = false

/-- The progress says how many handlers were counted, how many of them had acquired their task, and how
many are still to come. -/
structure Shows (b : Books) (p : Progress) : Prop where
  handled : p.exit.handled = b.joined.length
  acquired : p.exit.acquired = b.joined.countP Joined.isAcquired
  outstanding : p.outstanding + b.joined.length = b.started.length

/-- How the loop ends: every message was started or handed back, and if there is a summary then every
handler was counted in it. -/
structure Ends (value : Except AgentError (Option Exit)) (b : Books) : Prop where
  free : b.Free
  counted : ∀ exit, value = .ok (some exit) →
    exit.handled = b.started.length ∧ exit.acquired = b.joined.countP Joined.isAcquired ∧
      b.joined.length = b.started.length

end Books

/-- How the loop is run. -/
def rules : Conduct loopSurroundings Books := ⟨Books.May, fun _ _ => True, Books.note⟩

variable {α : Type} {b : Books} {p : Progress}

/-- A request that may be made, and what follows it. -/
theorem follows_ask {request : LoopRequest} {next : request.Reply → LoopAction α}
    {Q : α → Books → Prop} (hm : b.May request)
    (h : ∀ reply, (next reply).Follows rules (b.note request reply) Q) :
    ((askLoop request).bind next).Follows rules b Q :=
  ⟨hm, fun reply _ => h reply⟩

/-- The progress goes with the books when a handler is joined. -/
theorem Books.Shows.count (shows : b.Shows p) (more : b.joined.length < b.started.length)
    (joined : Joined) (failed : Bool) :
    (b.join joined).Shows (p.count joined failed) ∧
      (p.count joined failed).outstanding + 1 = p.outstanding := by
  have outstanding := shows.outstanding
  refine ⟨⟨?_, ?_, ?_⟩, ?_⟩
  · simp [Books.join, Progress.count, shows.handled]
  · simp [Books.join, Progress.count, shows.acquired, List.countP_append, List.countP_cons]
  · simp only [Books.join, Progress.count, List.length_append, List.length_cons, List.length_nil]
    omega
  · simp only [Progress.count]
    omega

/-- A loop that need not stop has nothing to note when it stops. -/
theorem Books.stop_calm (calm : b.mustStop = false) : { b with mustStop := false } = b := by
  rw [← calm]

/-- A handler that was just joined is counted. -/
theorem reap_follows (shows : b.Shows p) (more : b.joined.length < b.started.length)
    (calm : b.mustStop = false) (joined : Joined) :
    (reap p joined).Follows rules (b.join joined) fun p' b' =>
      b' = b.join joined ∧ b'.Shows p' ∧ p'.outstanding + 1 = p.outstanding := by
  have sum : (hasFailed.bind fun failed => .done (p.count joined failed)).Follows rules
      (b.join joined) fun p' b' =>
        b' = b.join joined ∧ b'.Shows p' ∧ p'.outstanding + 1 = p.outstanding :=
    follows_ask (.inr ⟨calm, trivial⟩) fun failed => ⟨rfl, shows.count more joined failed⟩
  cases joined with
  | reported outcome => exact sum
  | died =>
    have same : { b.join .died with mustStop := false } = b.join .died := Books.stop_calm calm
    refine follows_ask (.inr ⟨calm, trivial⟩) fun exhausted => ?_
    cases exhausted with
    | false =>
      change Follows rules _ { b.join .died with mustStop := false } _
      rw [same]
      exact sum
    | true =>
      refine follows_ask (.inl rfl) fun _ => ?_
      change Follows rules _ { b.join .died with mustStop := false } _
      rw [same]
      exact sum

/-- The loop may join a handler as long as one is to come. -/
theorem Books.Shows.more (shows : b.Shows p) {n : Nat} (h : p.outstanding = n + 1) :
    b.joined.length < b.started.length := by
  have outstanding := shows.outstanding
  omega

/-- The handlers that have ended are counted, and no message is touched. -/
theorem reapFinished_follows (n : Nat) (free : b.Free) (shows : b.Shows p)
    (outstanding : p.outstanding = n) :
    (reapFinished n p).Follows rules b fun p' b' => b'.Free ∧ b'.Shows p' ∧ b'.ahead = b.ahead := by
  induction n generalizing b p with
  | zero => exact ⟨free, shows, rfl⟩
  | succ n ih =>
    have more := shows.more outstanding
    refine follows_ask (.inr ⟨free.mustStop, more⟩) fun joined => ?_
    cases joined with
    | none => exact ⟨free, shows, rfl⟩
    | some joined =>
      refine follows_bind.mpr ((reap_follows shows more free.mustStop joined).mono ?_)
      rintro p' _ ⟨rfl, shows', one⟩
      exact ih ⟨free.hands, free.slot, free.mustStop⟩ shows' (by omega)

/-- Every handler is counted. -/
theorem drain_follows (n : Nat) (free : b.Free) (shows : b.Shows p)
    (outstanding : p.outstanding = n) :
    (drain n p).Follows rules b fun p' b' => b'.Free ∧ b'.Shows p' ∧ p'.outstanding = 0 := by
  induction n generalizing b p with
  | zero => exact ⟨free, shows, outstanding⟩
  | succ n ih =>
    have more := shows.more outstanding
    refine follows_ask (.inr ⟨free.mustStop, more⟩) fun joined => ?_
    refine follows_bind.mpr ((reap_follows shows more free.mustStop joined).mono ?_)
    rintro p' _ ⟨rfl, shows', one⟩
    exact ih ⟨free.hands, free.slot, free.mustStop⟩ shows' (by omega)

/-- Messages that no slot is to be had for are handed back. -/
theorem handBackAll_follows (messages : List DeliveryId) (hands : b.hands = messages)
    (slot : b.slot = false) (refused : b.refused = true) (calm : b.mustStop = false)
    (shows : b.Shows p) :
    (handBackAll messages).Follows rules b fun _ b' => b'.Free ∧ b'.Shows p := by
  induction messages generalizing b with
  | nil => exact ⟨⟨hands, slot, calm⟩, shows⟩
  | cons message rest ih =>
    have first : b.hands.head? = some message := by rw [hands]; rfl
    refine follows_ask (.inr ⟨calm, first, slot, refused⟩) fun _ => ?_
    exact ih (congrArg List.tail hands) slot refused calm
      ⟨shows.handled, shows.acquired, shows.outstanding⟩

/-- Every pulled message is started in a slot of its own, or handed back. -/
theorem startAll_follows (messages : List DeliveryId) (hands : b.hands = messages)
    (slot : b.slot = false) (refused : b.refused = false) (calm : b.mustStop = false)
    (shows : b.Shows p) :
    (startAll messages p).Follows rules b fun p' b' => b'.Free ∧ b'.Shows p' := by
  induction messages generalizing b p with
  | nil => exact ⟨⟨hands, slot, calm⟩, shows⟩
  | cons message rest ih =>
    have first : b.hands.head? = some message := by rw [hands]; rfl
    have any : b.hands ≠ [] := by rw [hands]; exact List.cons_ne_nil _ _
    refine follows_ask (.inr ⟨calm, any, slot, refused⟩) fun free => ?_
    cases free with
    | true =>
      refine follows_ask (.inr ⟨calm, first, rfl⟩) fun _ => ?_
      refine ih (congrArg List.tail hands) rfl refused calm ⟨shows.handled, shows.acquired, ?_⟩
      have outstanding := shows.outstanding
      simp only [Books.note, List.length_append, List.length_cons, List.length_nil]
      omega
    | false =>
      have back : (handBackAll (message :: rest)).Follows rules (b.note .takeSlot false)
          fun _ b' => b'.Free ∧ b'.Shows p :=
        handBackAll_follows (message :: rest) hands slot rfl calm
          ⟨shows.handled, shows.acquired, shows.outstanding⟩
      exact follows_bind.mpr (back.mono fun _ b' h => h)

/-- A round leaves no message in the hands of the loop. -/
theorem round_follows (s : Settings) (free : b.Free) (shows : b.Shows p) :
    (round s p).Follows rules b fun turn b' => b'.Free ∧ b'.Shows turn.progress := by
  refine follows_ask (.inr ⟨free.mustStop, trivial⟩) fun stopped => ?_
  have free₁ : (b.note .isStopped stopped).Free := ⟨free.hands, free.slot, free.mustStop⟩
  have shows₁ : (b.note .isStopped stopped).Shows p :=
    ⟨shows.handled, shows.acquired, shows.outstanding⟩
  cases stopped with
  | true => exact ⟨free₁, shows₁⟩
  | false =>
    refine follows_bind.mpr ((reapFinished_follows p.outstanding free₁ shows₁ rfl).mono ?_)
    rintro p₂ b₂ ⟨free₂, shows₂, ahead⟩
    have may : b₂.MayAsk (.pull s.pullBatchSize) := ⟨free₂.hands, free₂.slot, ahead⟩
    refine follows_ask (.inr ⟨free₂.mustStop, may⟩) fun pulled => ?_
    have free₃ : (b₂.pull []).Free := ⟨rfl, free₂.slot, free₂.mustStop⟩
    have shows₃ (ids : List DeliveryId) : (b₂.pull ids).Shows p₂ :=
      ⟨shows₂.handled, shows₂.acquired, shows₂.outstanding⟩
    have idled : (idle.bind fun _ => .done (Turn.again p₂)).Follows rules (b₂.pull []) fun turn b' =>
        b'.Free ∧ b'.Shows turn.progress :=
      follows_ask (.inr ⟨free₃.mustStop, trivial⟩) fun _ => ⟨free₃, shows₃ []⟩
    rcases pulled with _ | cause | _ | ⟨message, rest⟩
    · exact ⟨free₃, shows₃ []⟩
    · have same : { b₂.pull [] with mustStop := false } = b₂.pull [] :=
        Books.stop_calm free₃.mustStop
      refine follows_ask (.inr ⟨free₃.mustStop, trivial⟩) fun exhausted => ?_
      cases exhausted with
      | false =>
        change Follows rules _ { b₂.pull [] with mustStop := false } _
        rw [same]
        exact idled
      | true =>
        refine follows_ask (.inl rfl) fun _ => ?_
        change Follows rules _ { b₂.pull [] with mustStop := false } _
        rw [same]
        exact ⟨free₃, (shows₃ []).handled, (shows₃ []).acquired, (shows₃ []).outstanding⟩
    · exact idled
    · have all : (startAll (message :: rest) p₂).Follows rules (b₂.pull (message :: rest))
          fun p' b' => b'.Free ∧ b'.Shows p' :=
        startAll_follows (message :: rest) rfl free₂.slot rfl free₂.mustStop (shows₃ _)
      exact follows_bind.mpr (all.mono fun _ _ h => h)

theorem rounds_follows (s : Settings) (most : Nat) (free : b.Free) (shows : b.Shows p) :
    (rounds s most p).Follows rules b fun p' b' =>
      b'.Free ∧ ∀ last, p' = some last → b'.Shows last := by
  induction most generalizing b p with
  | zero => exact ⟨free, nofun⟩
  | succ most ih =>
    refine follows_bind.mpr ((round_follows s free shows).mono ?_)
    rintro (p' | p') b' ⟨free', shows'⟩
    · exact ih free' shows'
    · exact ⟨free', fun last h => Option.some.inj h ▸ shows'⟩

theorem finish_follows (free : b.Free) (shows : b.Shows p) :
    (finish p).Follows rules b fun exit b' => b'.Ends (.ok (some exit)) := by
  refine follows_bind.mpr ((drain_follows p.outstanding free shows rfl).mono ?_)
  rintro p' b' ⟨free', shows', none⟩
  refine follows_ask (.inr ⟨free'.mustStop, trivial⟩) fun failed => ⟨free', ?_⟩
  rintro _ h
  obtain rfl := Option.some.inj (Except.ok.inj h)
  have all := shows'.outstanding
  rw [none, Nat.zero_add] at all
  exact ⟨shows'.handled.trans all, shows'.acquired, all⟩

/-- Initializing collaborators touches no message. -/
theorem prepareAll_follows (collaborators : List Collaborator) (free : b.Free) :
    FollowsOr rules (prepareAll collaborators) b (fun _ b' => b' = b) fun _ b' => b' = b := by
  induction collaborators with
  | nil => rfl
  | cons collaborator rest ih =>
    refine followsOr_bind.mpr ⟨.inr ⟨free.mustStop, trivial⟩, fun reply _ => ?_⟩
    cases reply with
    | error cause => rfl
    | ok _ => exact ih

theorem startUp_follows (free : b.Free) :
    FollowsOr rules startUp b (fun _ b' => b' = b) fun _ b' => b' = b := by
  refine followsOr_bind.mpr ((prepareAll_follows Collaborator.all free).mono ?_ fun _ _ h => h)
  rintro _ _ rfl
  exact followsOr_lift.mpr ⟨.inr ⟨free.mustStop, trivial⟩, fun _ _ => rfl⟩

/-- A loop that was broken off has no summary. -/
theorem Books.Free.ends {value : Except AgentError (Option Exit)} (free : b.Free)
    (none : ∀ exit, value ≠ .ok (some exit)) : b.Ends value :=
  ⟨free, fun exit h => absurd h (none exit)⟩

/-- The rounds, and the end of the loop if they come to it. -/
theorem roundsAndEnd_follows (s : Settings) (most : Nat) (free : b.Free) (shows : b.Shows p) :
    FollowsOr rules (do
      match ← rounds s most p with
      | none => return none
      | some p => some <$> finish p : ExceptT AgentError LoopAction (Option Exit)) b
      (fun value b' => b'.Ends (.ok value)) fun cause b' => b'.Ends (.error cause) := by
  refine followsOr_bind.mpr (followsOr_lift.mpr ((rounds_follows s most free shows).mono ?_))
  rintro (_ | p') b' ⟨free', shows'⟩
  · exact free'.ends (by simp)
  · exact followsOr_map.mpr (followsOr_lift.mpr (finish_follows free' (shows' p' rfl)))

/-- The loop follows its rules from the first request to the end. -/
theorem run_follows (s : Settings) (most : Nat) :
    FollowsOr rules (run s most) {} (fun value b => b.Ends (.ok value))
      fun cause b => b.Ends (.error cause) := by
  have free : Books.Free {} := ⟨rfl, rfl, rfl⟩
  have main := roundsAndEnd_follows (p := {}) s most free ⟨rfl, rfl, rfl⟩
  refine followsOr_bind.mpr (followsOr_lift.mpr ⟨.inr ⟨rfl, trivial⟩, fun initialized _ => ?_⟩)
  cases initialized with
  | true => exact main
  | false =>
    refine followsOr_bind.mpr ((startUp_follows free).mono ?_ ?_)
    · rintro _ _ rfl
      exact main
    · rintro cause _ rfl
      exact free.ends (by simp)

end Loop

end GridAgent.Agent
