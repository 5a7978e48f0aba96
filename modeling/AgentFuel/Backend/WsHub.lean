import AgentFuel.Backend.Parser
import AgentFuel.Library.Transition
import Mathlib.Logic.Function.Basic

/-!
# The WebSocket hub

A subscriber is known by the number of its channel. The hub keeps the sending ends by key; the
receiving end is held by the subscriber until it is dropped. Operations of the hub run one at a
time, under its lock.
-/
namespace AgentFuel.Backend

open Checked

/-- `WS_CHANNEL_CAPACITY` -/
def wsChannelCapacity : Nat := 256

/-- What was sent and not received yet, and what was received. -/
structure Channel where
  buffer : List String
  received : List String
  held : Bool

def Channel.new : Channel := ⟨[], [], true⟩

/-- `try_send`. A channel that is full or whose receiver is gone takes nothing. -/
def Channel.trySend (channel : Channel) (payload : String) : Option Channel :=
  if channel.held ∧ channel.buffer.length < wsChannelCapacity then
    some { channel with buffer := channel.buffer ++ [payload] }
  else none

structure WsHub where
  map : String → Option (List Nat)
  channels : Nat → Channel
  next : Nat

/-- `WsHub::default` -/
def WsHub.default : WsHub := ⟨fun _ => none, fun _ => ⟨[], [], false⟩, 0⟩

def WsHub.subscribe (hub : WsHub) (agent : String) : WsHub where
  map := Function.update hub.map agent (some ((hub.map agent).getD [] ++ [hub.next]))
  channels := Function.update hub.channels hub.next .new
  next := hub.next + 1

/-- `subs.retain`, which sends while it goes through the list. -/
def retain (payload : String) (channels : Nat → Channel) : List Nat → (Nat → Channel) × List Nat
  | [] => (channels, [])
  | tx :: rest =>
    match (channels tx).trySend payload with
    | some sent =>
      let (channels, kept) := retain payload (Function.update channels tx sent) rest
      (channels, tx :: kept)
    | none => retain payload channels rest

def WsHub.broadcast (hub : WsHub) (agent payload : String) : WsHub × Nat :=
  match hub.map agent with
  | none => (hub, 0)
  | some subs =>
    let (channels, subs) := retain payload hub.channels subs
    let map := Function.update hub.map agent (if subs.length = 0 then none else some subs)
    ({ hub with map, channels }, subs.length)

/-- `event_channels` -/
def eventChannels (payload : Json String) : List String :=
  [("agent", "agent"), ("vault", "vault"), ("service", "service")].filterMap fun (field, kind) =>
    ((payload.get field).bind Json.asStr).map fun pk => kind ++ ":" ++ pk

/-- `broadcast_events`. What the frame of an event looks like does not matter to the hub. -/
def WsHub.broadcastEvents (frame : ParsedEvent String → String) (hub : WsHub)
    (events : List (ParsedEvent String)) : WsHub :=
  events.foldl (fun hub event =>
    (eventChannels event.decoded.payload).foldl
      (fun hub key => (hub.broadcast key (frame event)).1) hub) hub

inductive HubAction where
  | subscribe (agent : String)
  | broadcast (agent payload : String)
  | receive (subscriber : Nat)
  | drop (subscriber : Nat)
  deriving DecidableEq, Repr

inductive HubError where
  | closed
  | empty
  deriving DecidableEq, Repr

def WsHub.step (hub : WsHub) : HubAction → Except HubError WsHub
  | .subscribe agent => .ok (hub.subscribe agent)
  | .broadcast agent payload => .ok (hub.broadcast agent payload).1
  | .receive subscriber => do
    let channel := hub.channels subscriber
    require (channel.held = true) .closed
    match channel.buffer with
    | [] => .error .empty
    | payload :: buffer =>
      let channel := { channel with buffer, received := channel.received ++ [payload] }
      pure { hub with channels := Function.update hub.channels subscriber channel }
  | .drop subscriber => do
    let channel := hub.channels subscriber
    require (channel.held = true) .closed
    -- What is left in the buffer is never received.
    let channels := Function.update hub.channels subscriber { channel with held := false }
    pure { hub with channels }

abbrev HubRun (hub : WsHub) (log : List (Transition.Fired WsHub HubAction)) (hub' : WsHub) : Prop :=
  Transition.Run WsHub.step hub log hub'

/-! ### One broadcast -/

variable {hub hub' : WsHub} {agent payload : String} {subscriber : Nat} {subs : List Nat}

/-- Whether `try_send` succeeds. -/
def Channel.Takes (channel : Channel) : Prop :=
  channel.held = true ∧ channel.buffer.length < wsChannelCapacity

instance (channel : Channel) : Decidable channel.Takes := inferInstanceAs (Decidable (_ ∧ _))

/-- A channel after a broadcast on its key. -/
def Channel.sent (channel : Channel) (payload : String) : Channel :=
  if channel.Takes then { channel with buffer := channel.buffer ++ [payload] } else channel

/-- Every channel of the list is sent to once, and is kept if it took the payload. -/
theorem retain_eq (payload : String) (channels : Nat → Channel) (distinct : subs.Nodup) :
    retain payload channels subs =
      (fun tx => if tx ∈ subs then (channels tx).sent payload else channels tx,
        subs.filter fun tx => decide (channels tx).Takes) := by
  induction subs generalizing channels with
  | nil => simp [retain]
  | cons tx rest ih =>
    obtain ⟨fresh, distinct⟩ := List.nodup_cons.mp distinct
    by_cases takes : (channels tx).Takes
    · have trySend : (channels tx).trySend payload =
          some { channels tx with buffer := (channels tx).buffer ++ [payload] } := if_pos takes
      -- The channel that was just written is not in the rest of the list.
      have others : ∀ other ∈ rest, Function.update channels tx
          { channels tx with buffer := (channels tx).buffer ++ [payload] } other =
            channels other := by
        intro other member
        refine Function.update_of_ne ?_ _ _
        rintro rfl
        exact fresh member
      rw [retain, trySend]
      simp only
      rw [ih _ distinct, List.filter_cons_of_pos (by simpa using takes)]
      refine Prod.ext ?_ ?_
      · funext other
        by_cases same : other = tx
        · subst same
          simp [fresh, Channel.sent, takes]
        · by_cases member : other ∈ rest
          · simp [member, others other member]
          · simp [member, same]
      · simp only [List.cons.injEq, true_and]
        apply List.filter_congr
        intro other member
        rw [others other member]
    · have trySend : (channels tx).trySend payload = none := if_neg takes
      rw [retain, trySend]
      simp only
      rw [ih _ distinct, List.filter_cons_of_neg (by simpa using takes)]
      refine Prod.ext ?_ rfl
      funext other
      by_cases same : other = tx
      · subst same
        simp [fresh, Channel.sent, takes]
      · simp [same]

/-- The subscribers of a key. -/
def WsHub.subscribers (hub : WsHub) (agent : String) : List Nat := (hub.map agent).getD []

/-- The lists of the map are never empty and name every subscriber once. -/
structure WsHub.Sound (hub : WsHub) : Prop where
  filled : ∀ agent, hub.map agent ≠ some []
  distinct : ∀ agent, (hub.subscribers agent).Nodup
  known : ∀ agent, ∀ subscriber ∈ hub.subscribers agent, subscriber < hub.next
  apart : ∀ agent agent' subscriber, subscriber ∈ hub.subscribers agent →
    subscriber ∈ hub.subscribers agent' → agent = agent'

/-- What a broadcast does to the lists and to the channels. -/
structure Broadcasts (hub : WsHub) (agent payload : String) (hub' : WsHub) (left : Nat) : Prop where
  kept : hub'.subscribers agent =
    (hub.subscribers agent).filter fun tx => decide (hub.channels tx).Takes
  others : ∀ other, other ≠ agent → hub'.map other = hub.map other
  sent : ∀ tx ∈ hub.subscribers agent, hub'.channels tx = (hub.channels tx).sent payload
  untouched : ∀ tx, tx ∉ hub.subscribers agent → hub'.channels tx = hub.channels tx
  next : hub'.next = hub.next
  left : left = (hub'.subscribers agent).length
  filled : hub'.map agent ≠ some []

theorem WsHub.Sound.broadcast (sound : hub.Sound) (agent payload : String) :
    Broadcasts hub agent payload (hub.broadcast agent payload).1 (hub.broadcast agent payload).2 := by
  unfold WsHub.broadcast
  cases found : hub.map agent with
  | none =>
    have nobody : hub.subscribers agent = [] := by
      unfold subscribers
      rw [found, Option.getD_none]
    exact ⟨by simp [nobody], fun _ _ => rfl, by simp [nobody], fun _ _ => rfl, rfl, by simp [nobody],
      by simp [found]⟩
  | some subs =>
    have listed : hub.subscribers agent = subs := by
      unfold subscribers
      rw [found, Option.getD_some]
    have distinct : subs.Nodup := listed ▸ sound.distinct agent
    simp only [retain_eq payload hub.channels distinct]
    rw [← listed] at *
    generalize kept : (hub.subscribers agent).filter (fun tx => decide (hub.channels tx).Takes) =
      remaining
    -- What is left in the map is what is left of the subscribers, empty or not.
    have shown : ((Function.update hub.map agent
        (if remaining.length = 0 then none else some remaining)) agent).getD [] = remaining := by
      rw [Function.update_self]
      split
      next none => rw [Option.getD_none, List.length_eq_zero_iff.mp none]
      · rw [Option.getD_some]
    refine ⟨shown.trans kept.symm, ?_, ?_, ?_, rfl, ?_, ?_⟩
    · exact fun other apart => Function.update_of_ne apart _ _
    · exact fun tx member => if_pos member
    · exact fun tx absent => if_neg absent
    · exact congrArg List.length shown.symm
    · simp only [Function.update_self]
      split
      · simp
      next some =>
        intro empty
        rw [Option.some.inj empty] at some
        exact some rfl

/-! ### What every run keeps -/

theorem WsHub.sound_default : WsHub.default.Sound where
  filled _ := by simp [default]
  distinct _ := by simp [default, subscribers]
  known _ := by simp [default, subscribers]
  apart _ _ _ := by simp [default, subscribers]

theorem WsHub.subscribe_subscribers (hub : WsHub) (agent other : String) :
    (hub.subscribe agent).subscribers other =
      if other = agent then hub.subscribers agent ++ [hub.next] else hub.subscribers other := by
  unfold subscribers subscribe
  dsimp only
  rw [Function.update_apply]
  split <;> rfl

theorem Broadcasts.subscribers_subset {left : Nat} (broadcasts : Broadcasts hub agent payload hub' left)
    (other : String) : (hub'.subscribers other).Sublist (hub.subscribers other) := by
  by_cases same : other = agent
  · rw [same, broadcasts.kept]
    exact List.filter_sublist
  · rw [WsHub.subscribers, broadcasts.others other same]
    exact List.Sublist.refl _

/-- Receiving and dropping are no matter of the hub. -/
theorem WsHub.step_receive (fired : hub.step (.receive subscriber) = .ok hub') :
    ∃ payload buffer, (hub.channels subscriber).held = true ∧
      (hub.channels subscriber).buffer = payload :: buffer ∧
      hub' = { hub with
        channels := Function.update hub.channels subscriber
          { hub.channels subscriber with
            buffer, received := (hub.channels subscriber).received ++ [payload] } } := by
  simp only [step, bind_eq_ok, require_eq_ok, exists_const] at fired
  obtain ⟨held, fired⟩ := fired
  cases buffer : (hub.channels subscriber).buffer with
  | nil =>
    rw [buffer] at fired
    cases fired
  | cons payload rest =>
    rw [buffer] at fired
    exact ⟨payload, rest, held, rfl, (Except.ok.inj fired).symm⟩

theorem WsHub.receives {buffer : List String} (held : (hub.channels subscriber).held = true)
    (waiting : (hub.channels subscriber).buffer = payload :: buffer) :
    ∃ hub', hub.step (.receive subscriber) = .ok hub' ∧ hub'.map = hub.map ∧
      (hub'.channels subscriber).buffer = buffer := by
  let channel := hub.channels subscriber
  let channel := { channel with buffer, received := channel.received ++ [payload] }
  refine ⟨{ hub with channels := Function.update hub.channels subscriber channel }, ?_, rfl, ?_⟩
  · simp only [step, bind_eq_ok, require_eq_ok, exists_const, waiting]
    exact ⟨held, rfl⟩
  · simp [channel]

theorem WsHub.step_drop (fired : hub.step (.drop subscriber) = .ok hub') :
    hub' = { hub with
      channels := Function.update hub.channels subscriber
        { hub.channels subscriber with held := false } } := by
  simp only [step, bind_eq_ok, require_eq_ok, exists_const] at fired
  exact (Except.ok.inj fired.2).symm

theorem WsHub.drops (held : (hub.channels subscriber).held = true) :
    ∃ hub', hub.step (.drop subscriber) = .ok hub' ∧ hub'.map = hub.map ∧
      (hub'.channels subscriber).buffer = (hub.channels subscriber).buffer := by
  let channel := { hub.channels subscriber with held := false }
  refine ⟨{ hub with channels := Function.update hub.channels subscriber channel }, ?_, rfl, ?_⟩
  · simp only [step, bind_eq_ok, require_eq_ok, exists_const]
    exact ⟨held, rfl⟩
  · simp [channel]

/-- Only the new receiver is on a list that it was not on before. -/
theorem WsHub.mem_subscribe {agent other : String}
    (member : subscriber ∈ (hub.subscribe agent).subscribers other) :
    subscriber ∈ hub.subscribers other ∨ other = agent ∧ subscriber = hub.next := by
  rw [subscribe_subscribers] at member
  split at member
  next same =>
    rcases List.mem_append.mp member with earlier | new
    · exact .inl (same ▸ earlier)
    · exact .inr ⟨same, List.mem_singleton.mp new⟩
  · exact .inl member

theorem WsHub.sound_subscribe (sound : hub.Sound) (agent : String) : (hub.subscribe agent).Sound := by
  -- The new number is on no list yet.
  have fresh : ∀ other, hub.next ∉ hub.subscribers other :=
    fun other member => absurd (sound.known other _ member) (Nat.lt_irrefl _)
  refine ⟨?_, ?_, ?_, ?_⟩
  · intro other empty
    simp only [subscribe, Function.update_apply] at empty
    split at empty
    · simp at empty
    · exact sound.filled other empty
  · intro other
    rw [subscribe_subscribers]
    split
    · rw [← List.concat_eq_append]
      exact (sound.distinct agent).concat (fresh agent)
    · exact sound.distinct other
  · intro other subscriber member
    rcases mem_subscribe member with old | ⟨-, rfl⟩
    · exact Nat.lt_succ_of_lt (sound.known other subscriber old)
    · exact Nat.lt_succ_self _
  · intro one two subscriber first second
    rcases mem_subscribe first with earlier | ⟨rfl, rfl⟩
    · rcases mem_subscribe second with later | ⟨rfl, rfl⟩
      · exact sound.apart one two subscriber earlier later
      · exact absurd earlier (fresh one)
    · rcases mem_subscribe second with later | ⟨rfl, -⟩
      · exact absurd later (fresh two)
      · rfl

theorem WsHub.Sound.step {act : HubAction} (sound : hub.Sound) (fired : hub.step act = .ok hub') :
    hub'.Sound := by
  cases act with
  | subscribe agent =>
    obtain rfl := Except.ok.inj fired
    exact sound_subscribe sound agent
  | broadcast agent payload =>
    obtain rfl := Except.ok.inj fired
    have broadcasts := sound.broadcast agent payload
    -- Broadcasting only takes subscribers away.
    refine ⟨?_, ?_, ?_, ?_⟩
    · intro other
      by_cases same : other = agent
      · rw [same]
        exact broadcasts.filled
      · rw [broadcasts.others other same]
        exact sound.filled other
    · exact fun other => (sound.distinct other).sublist (broadcasts.subscribers_subset other)
    · intro other subscriber member
      rw [broadcasts.next]
      exact sound.known other subscriber ((broadcasts.subscribers_subset other).subset member)
    · exact fun one two subscriber first second => sound.apart one two subscriber
        ((broadcasts.subscribers_subset one).subset first)
        ((broadcasts.subscribers_subset two).subset second)
  | receive subscriber =>
    obtain ⟨_, _, -, -, rfl⟩ := step_receive fired
    exact ⟨sound.filled, sound.distinct, sound.known, sound.apart⟩
  | drop subscriber =>
    obtain rfl := step_drop fired
    exact ⟨sound.filled, sound.distinct, sound.known, sound.apart⟩

theorem HubRun.sound {log : List (Transition.Fired WsHub HubAction)} (run : HubRun hub log hub')
    (sound : hub.Sound) : hub'.Sound :=
  Transition.Run.invariant (I := WsHub.Sound) (fun _ _ _ fired sound => sound.step fired) run sound

/-- The payloads of the broadcasts on a key. -/
def payloads (agent : String) (log : List (Transition.Fired WsHub HubAction)) : List String :=
  log.filterMap fun e =>
    match e.act with
    | .broadcast key payload => if key = agent then some payload else none
    | _ => none

/-- What a subscriber has received and what waits in its buffer. -/
def WsHub.stream (hub : WsHub) (subscriber : Nat) : List String :=
  (hub.channels subscriber).received ++ (hub.channels subscriber).buffer

/-- A broadcast on the key that the channel of a subscriber did not take. -/
def Evicts (agent : String) (subscriber : Nat) (e : Transition.Fired WsHub HubAction) : Prop :=
  (∃ payload, e.act = .broadcast agent payload) ∧ subscriber ∈ e.pre.subscribers agent ∧
    (wsChannelCapacity ≤ (e.pre.channels subscriber).buffer.length ∨
      (e.pre.channels subscriber).held = false)

/-- The stream of a subscriber holds every broadcast on its key, up to the one that evicted it. -/
inductive Streams (agent : String) (subscriber : Nat)
    (log : List (Transition.Fired WsHub HubAction)) (hub : WsHub) : Prop
  | listed : subscriber ∈ hub.subscribers agent → hub.stream subscriber = payloads agent log →
    Streams agent subscriber log hub
  | evicted (before after : List (Transition.Fired WsHub HubAction))
    (e : Transition.Fired WsHub HubAction) : log = before ++ e :: after →
    Evicts agent subscriber e → (∀ key, subscriber ∉ hub.subscribers key) →
    hub.stream subscriber = payloads agent before → Streams agent subscriber log hub

theorem Channel.sent_stream (channel : Channel) (payload : String) :
    (channel.sent payload).received ++ (channel.sent payload).buffer =
      channel.received ++ channel.buffer ++ if channel.Takes then [payload] else [] := by
  unfold Channel.sent
  split <;> simp

theorem Channel.sent_held (channel : Channel) (payload : String) :
    (channel.sent payload).held = channel.held := by
  unfold Channel.sent
  split <;> rfl

/-- What a step adds to the stream of a subscriber. -/
def WsHub.adds (hub : WsHub) (subscriber : Nat) : HubAction → List String
  | .broadcast key payload =>
    if subscriber ∈ hub.subscribers key ∧ (hub.channels subscriber).Takes then [payload] else []
  | _ => []

theorem WsHub.Sound.step_stream {act : HubAction} (sound : hub.Sound) (known : subscriber < hub.next)
    (fired : hub.step act = .ok hub') :
    hub'.stream subscriber = hub.stream subscriber ++ hub.adds subscriber act := by
  cases act with
  | subscribe agent =>
    obtain rfl := Except.ok.inj fired
    simp [stream, subscribe, adds, Function.update_of_ne (Nat.ne_of_lt known)]
  | broadcast agent payload =>
    obtain rfl := Except.ok.inj fired
    have broadcasts := sound.broadcast agent payload
    -- A broadcast on a key reaches its own subscribers only.
    by_cases member : subscriber ∈ hub.subscribers agent
    · rw [stream, broadcasts.sent subscriber member, Channel.sent_stream]
      simp [adds, member, stream]
    · rw [stream, broadcasts.untouched subscriber member]
      simp [adds, member, stream]
  | receive other =>
    obtain ⟨payload, buffer, -, waiting, rfl⟩ := step_receive fired
    by_cases same : subscriber = other
    · subst same
      simp [stream, adds, waiting]
    · simp [stream, adds, Function.update_of_ne same]
  | drop other =>
    obtain rfl := step_drop fired
    by_cases same : subscriber = other
    · subst same
      simp [stream, adds]
    · simp [stream, adds, Function.update_of_ne same]

/-- A subscriber leaves its list only by a broadcast that its channel does not take. -/
theorem WsHub.Sound.step_listed {act : HubAction} (sound : hub.Sound) (known : subscriber < hub.next)
    (fired : hub.step act = .ok hub') (key : String) :
    subscriber ∈ hub'.subscribers key ↔ subscriber ∈ hub.subscribers key ∧
      ((∃ payload, act = .broadcast key payload) → (hub.channels subscriber).Takes) := by
  cases act with
  | subscribe agent =>
    obtain rfl := Except.ok.inj fired
    have old : subscriber ≠ hub.next := Nat.ne_of_lt known
    rw [subscribe_subscribers]
    split
    next same => simp [same, old]
    · simp
  | broadcast agent payload =>
    obtain rfl := Except.ok.inj fired
    have broadcasts := sound.broadcast agent payload
    by_cases same : key = agent
    · rw [same, broadcasts.kept, List.mem_filter, decide_eq_true_iff]
      simp
    · rw [subscribers, broadcasts.others key same, ← subscribers]
      simp [Ne.symm same]
  | receive other =>
    obtain ⟨_, _, -, -, rfl⟩ := step_receive fired
    simp [subscribers]
  | drop other =>
    obtain rfl := step_drop fired
    simp [subscribers]

/-- What an operation of the hub on behalf of others does to a channel. -/
theorem WsHub.Sound.step_channel {act : HubAction} (sound : hub.Sound) (known : subscriber < hub.next)
    (others : ¬ (act = .receive subscriber ∨ act = .drop subscriber))
    (fired : hub.step act = .ok hub') :
    hub'.channels subscriber = hub.channels subscriber ∨
      ∃ key payload, act = .broadcast key payload ∧ subscriber ∈ hub.subscribers key ∧
        hub'.channels subscriber = (hub.channels subscriber).sent payload := by
  rw [not_or] at others
  cases act with
  | subscribe key =>
    obtain rfl := Except.ok.inj fired
    exact .inl (Function.update_of_ne (Nat.ne_of_lt known) _ _)
  | broadcast key payload =>
    obtain rfl := Except.ok.inj fired
    have broadcasts := sound.broadcast key payload
    by_cases member : subscriber ∈ hub.subscribers key
    · exact .inr ⟨key, payload, rfl, member, broadcasts.sent subscriber member⟩
    · exact .inl (broadcasts.untouched subscriber member)
  | receive other =>
    obtain ⟨_, _, -, -, rfl⟩ := step_receive fired
    refine .inl (Function.update_of_ne ?_ _ _)
    rintro rfl
    exact others.1 rfl
  | drop other =>
    obtain rfl := step_drop fired
    refine .inl (Function.update_of_ne ?_ _ _)
    rintro rfl
    exact others.2 rfl

theorem payloads_snoc (agent : String) (log : List (Transition.Fired WsHub HubAction))
    (e : Transition.Fired WsHub HubAction) :
    payloads agent (log ++ [e]) = payloads agent log ++
      match e.act with
      | .broadcast key payload => if key = agent then [payload] else []
      | _ => [] := by
  obtain ⟨pre, act, post⟩ := e
  unfold payloads
  rw [List.filterMap_append]
  cases act with
  | broadcast key payload => by_cases same : key = agent <;> simp [same]
  | _ => rfl

theorem Streams.step {log : List (Transition.Fired WsHub HubAction)} {act : HubAction}
    (streams : Streams agent subscriber log hub) (sound : hub.Sound) (known : subscriber < hub.next)
    (fired : hub.step act = .ok hub') :
    Streams agent subscriber (log ++ [⟨hub, act, hub'⟩]) hub' := by
  have stream := sound.step_stream known fired
  have listed := sound.step_listed known fired
  cases streams with
  | listed member whole =>
    have mine : ∀ key, subscriber ∈ hub.subscribers key → key = agent :=
      fun key other => sound.apart key agent subscriber other member
    by_cases kept : subscriber ∈ hub'.subscribers agent
    · refine .listed kept ?_
      have takes := ((listed agent).mp kept).2
      rw [stream, whole, payloads_snoc]
      congr 1
      -- A broadcast on the key reaches the subscriber, one on another key does not.
      cases act with
      | broadcast key payload =>
        by_cases same : key = agent
        · subst same
          simp [WsHub.adds, member, takes ⟨payload, rfl⟩]
        · have outside : subscriber ∉ hub.subscribers key := fun other => same (mine key other)
          simp [WsHub.adds, outside, same]
      | _ => rfl
    · rw [listed agent, not_and, Classical.not_imp] at kept
      obtain ⟨⟨payload, rfl⟩, refused⟩ := kept member
      refine .evicted log [] ⟨hub, _, hub'⟩ rfl ⟨⟨payload, rfl⟩, member, ?_⟩ ?_ ?_
      · by_contra neither
        rw [not_or, Nat.not_le, Bool.not_eq_false] at neither
        exact refused ⟨neither.2, neither.1⟩
      · intro key other
        have inside := (listed key).mp other
        obtain rfl := mine key inside.1
        exact refused (inside.2 ⟨payload, rfl⟩)
      · rw [stream, whole]
        simp [WsHub.adds, refused]
  | evicted before after e split evicts outside whole =>
    refine .evicted before (after ++ [⟨hub, act, hub'⟩]) e ?_ evicts ?_ ?_
    · rw [split, List.append_assoc, List.cons_append]
    · exact fun key member => outside key ((listed key).mp member).1
    · rw [stream, whole]
      cases act with
      | broadcast key payload => simp [WsHub.adds, outside key]
      | _ => simp [WsHub.adds]

theorem WsHub.step_next {act : HubAction} (sound : hub.Sound) (fired : hub.step act = .ok hub') :
    hub.next ≤ hub'.next := by
  cases act with
  | subscribe agent =>
    obtain rfl := Except.ok.inj fired
    exact Nat.le_succ _
  | broadcast agent payload =>
    obtain rfl := Except.ok.inj fired
    exact (sound.broadcast agent payload).next.ge
  | receive subscriber =>
    obtain ⟨_, _, -, -, rfl⟩ := step_receive fired
    exact Nat.le_refl _
  | drop subscriber =>
    obtain rfl := step_drop fired
    exact Nat.le_refl _

/-- From its subscription on, a subscriber has the stream of its key. -/
theorem HubRun.streams {log : List (Transition.Fired WsHub HubAction)} (sound : hub.Sound)
    (run : HubRun (hub.subscribe agent) log hub') : Streams agent hub.next log hub' := by
  have start := WsHub.sound_subscribe sound agent
  have held : hub'.Sound ∧ hub.next < hub'.next ∧ Streams agent hub.next log hub' := by
    induction run with
    | nil =>
      refine ⟨start, Nat.lt_succ_self _, .listed ?_ ?_⟩
      · rw [WsHub.subscribe_subscribers, if_pos rfl]
        exact List.mem_append_right _ (List.mem_singleton_self _)
      · simp [WsHub.stream, WsHub.subscribe, Channel.new, payloads]
    | snoc _ fired ih =>
      obtain ⟨sound, known, streams⟩ := ih
      exact ⟨sound.step fired, known.trans_le (WsHub.step_next sound fired),
        streams.step sound known fired⟩
  exact held.2.2

/-- What holds of a broadcast wherever it happens. -/
structure Fair (hub : WsHub) (agent payload : String) : Prop where
  /-- A subscriber stays exactly if its own channel took the payload. -/
  stays : ∀ key subscriber, subscriber ∈ (hub.broadcast agent payload).1.subscribers key ↔
    subscriber ∈ hub.subscribers key ∧ (key = agent → (hub.channels subscriber).Takes)
  /-- The channels of other subscribers are as they were. -/
  others : ∀ subscriber, subscriber ∉ hub.subscribers agent →
    (hub.broadcast agent payload).1.channels subscriber = hub.channels subscriber
  left : (hub.broadcast agent payload).2 =
    ((hub.broadcast agent payload).1.subscribers agent).length
  filled : (hub.broadcast agent payload).1.map agent ≠ some []

/-- Every subscriber of every run gets the broadcasts on its key in order, without gaps, until a
broadcast finds its buffer full or its receiver gone. -/
theorem hub_delivers {hub : WsHub} {log : List (Transition.Fired WsHub HubAction)}
    (run : HubRun .default log hub) :
    (∀ before e after agent, log = before ++ e :: after → e.act = .subscribe agent →
      Streams agent e.pre.next after hub) ∧
    ∀ agent payload, Fair hub agent payload := by
  have sound := HubRun.sound run WsHub.sound_default
  refine ⟨?_, ?_⟩
  · rintro before ⟨pre, act, post⟩ after agent rfl rfl
    obtain ⟨first, fired, rest⟩ := run.around
    have same : pre.subscribe agent = post := Except.ok.inj fired
    subst same
    exact HubRun.streams (HubRun.sound first WsHub.sound_default) rest
  · intro agent payload
    have broadcasts := sound.broadcast agent payload
    refine ⟨?_, broadcasts.untouched, broadcasts.left, broadcasts.filled⟩
    intro key subscriber
    by_cases same : key = agent
    · rw [same, broadcasts.kept, List.mem_filter, decide_eq_true_iff]
      simp
    · rw [WsHub.subscribers, broadcasts.others key same, ← WsHub.subscribers]
      simp [same]

/-- Two subscribers of one key, of which the second goes away, and one of another key. -/
def crowd : List HubAction :=
  [.subscribe "agent:A", .subscribe "agent:A", .broadcast "agent:A" "hello", .subscribe "vault:V",
    .receive 0, .broadcast "agent:A" "again", .drop 1, .broadcast "agent:A" "late",
    .broadcast "vault:V" "other", .receive 2]

def crowdLog : List (Transition.Fired WsHub HubAction) := Transition.trace WsHub.step .default crowd

/-- The hub at the end. -/
def crowded : WsHub := crowd.foldl (Transition.settle WsHub.step) .default

theorem hub_delivers_crowd :
    (∀ agent payload, Fair crowded agent payload) ∧
    Streams "agent:A" 0 (crowdLog.drop 1) crowded ∧
    (∃ before e after, crowdLog.drop 2 = before ++ e :: after ∧ Evicts "agent:A" 1 e ∧
      crowded.stream 1 = payloads "agent:A" before) ∧
    Streams "vault:V" 2 (crowdLog.drop 4) crowded ∧
    (crowded.stream 0, crowded.stream 1, crowded.stream 2) =
      (["hello", "again", "late"], ["hello", "again"], ["other"]) := by
  have run : HubRun .default crowdLog crowded := .of_trace _ _ crowd
  obtain ⟨streams, fair⟩ := hub_delivers run
  have second := streams (crowdLog.take 1) _ (crowdLog.drop 2) "agent:A" rfl rfl
  refine ⟨fair, streams [] _ (crowdLog.drop 1) "agent:A" rfl rfl, ?_,
    streams (crowdLog.take 3) _ (crowdLog.drop 4) "vault:V" rfl rfl, by decide⟩
  cases second with
  | listed member =>
    have gone : 1 ∉ crowded.subscribers "agent:A" := by decide
    exact absurd member gone
  | evicted before after e split evicts _ stream => exact ⟨before, e, after, split, evicts, stream⟩

/-- Fanning out events is a run of broadcasts. -/
theorem WsHub.broadcastEvents_run (frame : ParsedEvent String → String) (hub : WsHub)
    (events : List (ParsedEvent String)) : ∃ log, HubRun hub log (hub.broadcastEvents frame events) := by
  have keys : ∀ (text : String) (channels : List String) (hub : WsHub), ∃ log,
      HubRun hub log (channels.foldl (fun hub key => (hub.broadcast key text).1) hub) := by
    intro text channels
    induction channels with
    | nil => exact fun hub => ⟨[], .nil⟩
    | cons key channels ih =>
      intro hub
      obtain ⟨log, run⟩ := ih (hub.broadcast key text).1
      have sent : hub.step (.broadcast key text) = .ok (hub.broadcast key text).1 := rfl
      exact ⟨_, run.cons sent⟩
  induction events generalizing hub with
  | nil => exact ⟨[], .nil⟩
  | cons event events ih =>
    obtain ⟨first, one⟩ := keys (frame event) (eventChannels event.decoded.payload) hub
    obtain ⟨rest, others⟩ := ih ((eventChannels event.decoded.payload).foldl
      (fun hub key => (hub.broadcast key (frame event)).1) hub)
    exact ⟨first ++ rest, one.append others⟩

end AgentFuel.Backend
