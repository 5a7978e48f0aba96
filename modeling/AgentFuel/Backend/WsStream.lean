import AgentFuel.Backend.WsHub
import Mathlib.Tactic.Ring

/-!
# The stream of a subscriber

The task of `serve_stream` owns the receiving end of one channel of the hub. Between two of its
`await`s the hub, the client and the clock go on as they like.
-/
namespace AgentFuel.Backend

open Transition

/-- `HEARTBEAT_INTERVAL`, in milliseconds. -/
def heartbeatInterval : Nat := 30_000

/-- `CLIENT_IDLE_TIMEOUT`, in milliseconds. -/
def clientIdleTimeout : Nat := 90_000

/-- The `await` of the task that is suspended. -/
inductive StreamPhase where
  /-- The task is spawned, and its first line has not run. -/
  | spawned
  | selecting
  /-- `session.text`, `session.pong` and `session.ping`. -/
  | sendingText
  | sendingPong
  | sendingPing
  /-- `session.close`, which follows the loop. -/
  | closing
  | closed
  deriving DecidableEq

/-- What `msg_stream.next()` returns. -/
inductive ClientMessage where
  | ping
  | pong
  | close
  | other
  /-- `None` and `Some(Err(_))`. -/
  | ended
  | failed
  deriving DecidableEq

inductive StreamAction where
  | hub (act : HubAction)
  | clock (elapsed : Nat)
  | started
  /-- The three branches of `select!`. -/
  | received
  | client (message : ClientMessage)
  | ticked
  /-- What is being sent is sent, or fails. -/
  | sent (ok : Bool)
  | finished
  deriving DecidableEq

structure Stream where
  hub : WsHub
  /-- The number of the channel whose receiver the task has. -/
  rx : Nat
  phase : StreamPhase
  lastPong : Nat
  /-- When `heartbeat` ticks next. -/
  deadline : Nat
  now : Nat

/-- `serve_stream`, up to the start of its task. -/
def serveStream (hub : WsHub) (channelKey : String) (now : Nat) : Stream where
  hub := hub.subscribe channelKey
  rx := hub.next
  phase := .spawned
  lastPong := now
  deadline := now
  now := now

namespace Stream

variable (s : Stream)

/-- An operation of the hub, after which the task waits at `phase`. -/
def onHub (act : HubAction) (phase : StreamPhase) : Except StreamPhase Stream :=
  match s.hub.step act with
  | .ok hub => .ok { s with hub, phase }
  | .error _ => .error s.phase

/-- The match on what the client sent. -/
def onClient : ClientMessage → Stream
  | .ping => { s with phase := .sendingPong }
  | .pong => { s with lastPong := s.now }
  | .close | .ended | .failed => { s with phase := .closing }
  | .other => s

/-- The branch of the heartbeat. A tick that was missed follows at once. -/
def onTick : Stream :=
  let s := { s with deadline := s.deadline + heartbeatInterval }
  if s.now - s.lastPong > clientIdleTimeout then { s with phase := .closing }
  else { s with phase := .sendingPing }

/-- One action; where the task does not wait for it there is none. -/
def step (s : Stream) (act : StreamAction) : Except StreamPhase Stream :=
  match s.phase, act with
  -- Nothing but the task receives from its channel or drops it.
  | phase, .hub act =>
    if act = .receive s.rx ∨ act = .drop s.rx then .error phase else s.onHub act phase
  | _, .clock elapsed => .ok { s with now := s.now + elapsed }
  -- The tick that is burned is due at once.
  | .spawned, .started => .ok { s with
      phase := .selecting, lastPong := s.now, deadline := s.now + heartbeatInterval }
  -- `Some(payload)`. A closed channel gives `None`, for which `select!` only disables the branch.
  | .selecting, .received => s.onHub (.receive s.rx) .sendingText
  | .selecting, .client message => .ok (s.onClient message)
  | .selecting, .ticked => if s.deadline ≤ s.now then .ok s.onTick else .error .selecting
  | .sendingText, .sent true | .sendingPong, .sent true | .sendingPing, .sent true =>
    .ok { s with phase := .selecting }
  | .sendingText, .sent false | .sendingPong, .sent false | .sendingPing, .sent false =>
    .ok { s with phase := .closing }
  -- The receiver goes with the task.
  | .closing, .finished => s.onHub (.drop s.rx) .closed
  | phase, _ => .error phase

/-- The hub has no sender for the task, and nothing is left to receive. -/
def Drained : Prop := (∀ key, s.rx ∉ s.hub.subscribers key) ∧ (s.hub.channels s.rx).buffer = []

/-- A drained task does not wait for its client or its heartbeat: it sends the last frame, or has
left the loop. -/
def Disconnected : Prop :=
  s.Drained → s.phase = .sendingText ∨ s.phase = .closing ∨ s.phase = .closed

/-! ### The steps by what they do -/

variable {s t : Stream} {act : StreamAction} {key : String}

theorem onHub_eq_ok {act : HubAction} {phase : StreamPhase} (fired : s.onHub act phase = .ok t) :
    ∃ hub, s.hub.step act = .ok hub ∧ t = { s with hub, phase } := by
  unfold onHub at fired
  cases outcome : s.hub.step act with
  | ok hub =>
    rw [outcome] at fired
    exact ⟨hub, rfl, (Except.ok.inj fired).symm⟩
  | error _ =>
    rw [outcome] at fired
    cases fired

/-- A step is one of the hub, or leaves the hub as it is. -/
inductive Moves (s : Stream) : StreamAction → Stream → Prop
  | hub {act hub} (others : ¬ (act = .receive s.rx ∨ act = .drop s.rx))
    (fired : s.hub.step act = .ok hub) : Moves s (.hub act) { s with hub }
  | receives {hub} (point : s.phase = .selecting) (fired : s.hub.step (.receive s.rx) = .ok hub) :
    Moves s .received { s with hub, phase := .sendingText }
  | texts (point : s.phase = .sendingText) : Moves s (.sent true) { s with phase := .selecting }
  | stays {e lastPong deadline now} : Moves s e { s with lastPong, deadline, now }
  /-- From one wait to another, with no frame of the hub in between. -/
  | turns {e phase lastPong deadline}
    (point : ¬ (s.phase = .sendingText ∨ s.phase = .closing ∨ s.phase = .closed))
    (target : phase ≠ .closed) : Moves s e { s with phase, lastPong, deadline }
  | leaves {e} (point : s.phase ≠ .closed) : Moves s e { s with phase := .closing }
  | finishes {e hub} (fired : s.hub.step (.drop s.rx) = .ok hub) :
    Moves s e { s with hub, phase := .closed }

theorem onClient_moves (message : ClientMessage) (point : s.phase = .selecting) :
    Moves s (.client message) (s.onClient message) := by
  cases message with
  | ping => exact .turns (by simp [point]) (by simp)
  | pong => exact .stays
  | close | ended | failed => exact .leaves (by simp [point])
  | other => exact .stays

theorem onTick_moves (point : s.phase = .selecting) : Moves s .ticked s.onTick := by
  have waits : ¬ (s.phase = .sendingText ∨ s.phase = .closing ∨ s.phase = .closed) := by simp [point]
  unfold onTick
  simp only
  split
  · exact .turns waits (by simp)
  · exact .turns waits (by simp)

theorem step_moves (fired : s.step act = .ok t) : Moves s act t := by
  unfold step at fired
  split at fired
  case h_1 point =>
    split at fired
    · cases fired
    next others =>
      obtain ⟨hub, served, rfl⟩ := onHub_eq_ok fired
      exact .hub others served
  case h_4 point =>
    obtain ⟨hub, served, rfl⟩ := onHub_eq_ok fired
    exact .receives point served
  case h_6 point =>
    split at fired <;> cases fired
    exact onTick_moves point
  case h_13 point =>
    obtain ⟨hub, served, rfl⟩ := onHub_eq_ok fired
    exact .finishes served
  all_goals cases fired
  case h_2 => exact .stays
  case h_3 point => exact .turns (by simp [point]) (by simp)
  case h_5 message point => exact onClient_moves message point
  case h_7 point => exact .texts point
  case h_8 point | h_9 point => exact .turns (by simp [point]) (by simp)
  case h_10 point | h_11 point | h_12 point => exact .leaves (by simp [point])

/-! ### What the task keeps -/

/-- The task holds its receiver for as long as it runs. -/
structure Sound (s : Stream) : Prop where
  hub : s.hub.Sound
  known : s.rx < s.hub.next
  held : s.phase ≠ .closed → (s.hub.channels s.rx).held = true

theorem sound_serveStream {hub : WsHub} (sound : hub.Sound) (key : String) (now : Nat) :
    (serveStream hub key now).Sound where
  hub := WsHub.sound_subscribe sound key
  known := Nat.lt_succ_self _
  held _ := by simp [serveStream, WsHub.subscribe, Channel.new]

theorem Sound.step (sound : s.Sound) (fired : s.step act = .ok t) : t.Sound := by
  cases step_moves fired with
  | hub others served =>
    refine ⟨sound.hub.step served, sound.known.trans_le (WsHub.step_next sound.hub served), ?_⟩
    intro runs
    rcases sound.hub.step_channel sound.known others served with same | ⟨_, _, -, -, sent⟩
    · rw [same]
      exact sound.held runs
    · rw [sent, Channel.sent_held]
      exact sound.held runs
  | receives point served =>
    refine ⟨sound.hub.step served, sound.known.trans_le (WsHub.step_next sound.hub served), ?_⟩
    intro _
    obtain ⟨_, _, held, -, rfl⟩ := WsHub.step_receive served
    simpa using held
  | texts point => exact ⟨sound.hub, sound.known, fun _ => sound.held (by simp [point])⟩
  | stays => exact ⟨sound.hub, sound.known, sound.held⟩
  | turns point _ =>
    rw [not_or, not_or] at point
    exact ⟨sound.hub, sound.known, fun _ => sound.held point.2.2⟩
  | leaves point => exact ⟨sound.hub, sound.known, fun _ => sound.held point⟩
  | finishes served =>
    exact ⟨sound.hub.step served, sound.known.trans_le (WsHub.step_next sound.hub served),
      fun runs => absurd rfl runs⟩

/-- The hub drops a sender whose receiver is there only while the buffer is full. -/
theorem Sound.drained_of_hub {act : HubAction} {hub : WsHub} (sound : s.Sound)
    (runs : s.phase ≠ .closed) (others : ¬ (act = .receive s.rx ∨ act = .drop s.rx))
    (served : s.hub.step act = .ok hub) (drained : ({ s with hub } : Stream).Drained) :
    s.Drained := by
  obtain ⟨unlisted, empty⟩ := drained
  -- Whether or not the channel was sent to, it was empty before.
  have before : (s.hub.channels s.rx).buffer = [] := by
    rcases sound.hub.step_channel sound.known others served with same | ⟨_, payload, -, -, sent⟩
    · rwa [← same]
    · dsimp only at empty
      rw [sent] at empty
      unfold Channel.sent at empty
      split at empty
      · simp at empty
      · exact empty
  have takes : (s.hub.channels s.rx).Takes :=
    ⟨sound.held runs, by rw [before]; decide⟩
  refine ⟨?_, before⟩
  intro key member
  exact unlisted key ((sound.hub.step_listed sound.known served key).mpr ⟨member, fun _ => takes⟩)

/-- The step after which a drained task waits again. -/
def Revives (e : Fired Stream StreamAction) : Prop :=
  e.act = .sent true ∧ e.pre.phase = .sendingText ∧ e.pre.Drained

theorem Disconnected.step (disconnected : s.Disconnected) (sound : s.Sound)
    (fired : s.step act = .ok t) (dies : ¬ Revives ⟨s, act, t⟩) : t.Disconnected := by
  intro drained
  cases step_moves fired with
  | hub others served =>
    by_cases runs : s.phase = .closed
    · exact .inr (.inr runs)
    · exact disconnected (sound.drained_of_hub runs others served drained)
  | receives _ _ => exact .inl rfl
  | texts point => exact absurd ⟨rfl, point, drained⟩ dies
  | stays => exact disconnected drained
  | turns point _ => exact absurd (disconnected drained) point
  | leaves _ => exact .inr (.inl rfl)
  | finishes _ => exact .inr (.inr rfl)

theorem disconnected_serveStream (hub : WsHub) (now : Nat) :
    (serveStream hub key now).Disconnected := by
  rintro ⟨unlisted, -⟩
  refine absurd ?_ (unlisted key)
  unfold serveStream
  dsimp only
  rw [WsHub.subscribe_subscribers, if_pos rfl]
  exact List.mem_append_right _ (List.mem_singleton_self _)

/-- A run of the task in which the last frame of an evicted subscriber is never sent out leaves the
loop with that frame; any other run waits for the client again. -/
theorem evicted_disconnects_iff {before : List (Fired WsHub HubAction)} {hub : WsHub} {now : Nat}
    {log : List (Fired Stream StreamAction)} (reached : HubRun .default before hub)
    (run : Run Stream.step (serveStream hub key now) log s) :
    (∀ e ∈ log, e.post.Disconnected) ↔
      ∀ e ∈ log, e.act = .sent true → e.pre.phase = .sendingText → ¬ e.pre.Drained := by
  constructor
  · intro all e member sent point drained
    have fired := run.fired member
    obtain ⟨pre, act, post⟩ := e
    dsimp only at sent point drained fired
    subst sent
    have waits : post = { pre with phase := .selecting } := by
      unfold Stream.step at fired
      rw [point] at fired
      exact (Except.ok.inj fired).symm
    have left : post.Disconnected := all _ member
    subst waits
    -- The loop is back at `select!` with nothing left to come.
    rcases left drained with sending | closing | closed
    · cases sending
    · cases closing
    · cases closed
  · intro all
    have start := HubRun.sound reached WsHub.sound_default
    induction run with
    | nil => simp
    | @snoc log t act u shorter fired ih =>
      rw [List.forall_mem_append, List.forall_mem_singleton] at all ⊢
      have earlier := ih all.1
      refine ⟨earlier, ?_⟩
      have sound : t.Sound := shorter.invariant (fun _ _ _ fired sound => Sound.step sound fired)
        (sound_serveStream start key now)
      have disconnected : t.Disconnected := by
        refine shorter.preserves (A := fun e => e.post.Disconnected) ?_ earlier
          (disconnected_serveStream hub now)
        exact fun _ holds _ _ => holds
      exact disconnected.step sound fired fun revives => all.2 revives.1 revives.2.1 revives.2.2

/-! ### An evicted subscriber -/

/-- The task waits, its client has just answered, and `n` frames are left. -/
structure Holds (s : Stream) (n : Nat) : Prop where
  sound : s.Sound
  selects : s.phase = .selecting
  answered : s.lastPong = s.now
  due : s.deadline = s.now + heartbeatInterval
  buffer : (s.hub.channels s.rx).buffer.length = n

theorem Holds.held {n : Nat} (holds : s.Holds n) : (s.hub.channels s.rx).held = true :=
  holds.sound.held (by simp [holds.selects])

theorem step_broadcast (s : Stream) (key payload : String) :
    s.step (.hub (.broadcast key payload)) =
      .ok { s with hub := (s.hub.broadcast key payload).1 } := by
  unfold step
  simp [onHub, WsHub.step]

/-- One more frame goes into the buffer, as long as there is room. -/
theorem Holds.fills {n : Nat} (holds : s.Holds n) (listed : s.rx ∈ s.hub.subscribers key)
    (room : n < wsChannelCapacity) (payload : String) :
    ∃ t, s.step (.hub (.broadcast key payload)) = .ok t ∧ t.Holds (n + 1) ∧
      t.rx ∈ t.hub.subscribers key := by
  have fired := s.step_broadcast key payload
  have broadcasts := holds.sound.hub.broadcast key payload
  have takes : (s.hub.channels s.rx).Takes := ⟨holds.held, by rw [holds.buffer]; exact room⟩
  refine ⟨_, fired, ⟨holds.sound.step fired, holds.selects, holds.answered, holds.due, ?_⟩, ?_⟩
  · dsimp only
    rw [broadcasts.sent _ listed, Channel.sent, if_pos takes]
    simp [holds.buffer]
  · dsimp only
    rw [broadcasts.kept, List.mem_filter]
    exact ⟨listed, by simpa using takes⟩

/-- A broadcast that finds the buffer full takes the subscriber off the list. -/
theorem Holds.overflows (holds : s.Holds wsChannelCapacity) (listed : s.rx ∈ s.hub.subscribers key)
    (payload : String) :
    ∃ t, s.step (.hub (.broadcast key payload)) = .ok t ∧ t.Holds wsChannelCapacity ∧
      ∀ other, t.rx ∉ t.hub.subscribers other := by
  have fired := s.step_broadcast key payload
  have broadcasts := holds.sound.hub.broadcast key payload
  have full : ¬ (s.hub.channels s.rx).Takes := by
    rintro ⟨-, room⟩
    rw [holds.buffer] at room
    exact Nat.lt_irrefl _ room
  refine ⟨_, fired, ⟨holds.sound.step fired, holds.selects, holds.answered, holds.due, ?_⟩, ?_⟩
  · dsimp only
    rw [broadcasts.sent _ listed, Channel.sent, if_neg full]
    exact holds.buffer
  · intro other member
    have before := (broadcasts.subscribers_subset other).subset member
    obtain rfl := holds.sound.hub.apart other key s.rx before listed
    dsimp only at member
    rw [broadcasts.kept, List.mem_filter] at member
    exact full (by simpa using member.2)

/-- The hub can send until it evicts the subscriber; the task sends nothing meanwhile. -/
theorem Holds.evicted {n : Nat} (key : String) (room : n ≤ wsChannelCapacity) (holds : s.Holds n)
    (listed : s.rx ∈ s.hub.subscribers key) : ∃ log t, Run Stream.step s log t ∧
      t.Holds wsChannelCapacity ∧ (∀ other, t.rx ∉ t.hub.subscribers other) ∧
      ∀ e ∈ log, e.act ≠ .sent true := by
  induction room using Nat.decreasingInduction generalizing s with
  | self =>
    obtain ⟨t, fired, holds, unlisted⟩ := holds.overflows listed "x"
    refine ⟨_, t, .cons fired .nil, holds, unlisted, ?_⟩
    rw [List.forall_mem_singleton]
    simp
  | of_succ n room ih =>
    obtain ⟨t, fired, holds, listed⟩ := holds.fills listed room "x"
    obtain ⟨log, u, run, full, unlisted, silent⟩ := ih holds listed
    refine ⟨_, u, .cons fired run, full, unlisted, ?_⟩
    rw [List.forall_mem_cons]
    exact ⟨by simp, silent⟩

/-- The task takes a frame out of the buffer. -/
theorem Holds.takes {n : Nat} (holds : s.Holds (n + 1)) (unlisted : ∀ other, s.rx ∉ s.hub.subscribers other) :
    ∃ hub, s.step .received = .ok { s with hub, phase := .sendingText } ∧
      (hub.channels s.rx).buffer.length = n ∧ ∀ other, s.rx ∉ hub.subscribers other := by
  obtain ⟨payload, rest, waiting⟩ := List.exists_cons_of_length_eq_add_one holds.buffer
  obtain ⟨hub, served, map, buffer⟩ := WsHub.receives holds.held waiting
  refine ⟨hub, ?_, ?_, fun other => ?_⟩
  · unfold step
    rw [holds.selects]
    simp only [onHub, served]
  · have length := holds.buffer
    rw [waiting, List.length_cons, Nat.add_right_cancel_iff] at length
    exact (congrArg List.length buffer).trans length
  · rw [WsHub.subscribers, map]
    exact unlisted other

/-- Frame by frame, the task sends what is left in the buffer, down to `m` frames. -/
theorem Holds.drains {m n : Nat} (holds : s.Holds n) (left : m ≤ n)
    (unlisted : ∀ other, s.rx ∉ s.hub.subscribers other) :
    ∃ log t, Run Stream.step s log t ∧ t.Holds m ∧ (∀ other, t.rx ∉ t.hub.subscribers other) ∧
      ∀ e ∈ log, e.act = .sent true → m ≤ (e.pre.hub.channels e.pre.rx).buffer.length := by
  induction left generalizing s with
  | refl => exact ⟨[], s, .nil, holds, unlisted, fun e member => by cases member⟩
  | @step n left ih =>
    obtain ⟨hub, receives, length, unlisted'⟩ := holds.takes unlisted
    let t : Stream := { s with hub, phase := .sendingText }
    have sends : t.step (.sent true) = .ok { t with phase := .selecting } := rfl
    have less : ({ t with phase := .selecting } : Stream).Holds n :=
      ⟨(holds.sound.step receives).step sends, rfl, holds.answered, holds.due, length⟩
    obtain ⟨log, u, run, holds, unlisted, keeps⟩ := ih less unlisted'
    refine ⟨_, u, .cons receives (.cons sends run), holds, unlisted, ?_⟩
    rw [List.forall_mem_cons, List.forall_mem_cons]
    exact ⟨(fun sent => by cases sent), fun _ => Nat.le_trans left length.ge, keeps⟩

/-- A client that answers the pings keeps a drained task waiting for as long as it likes. -/
theorem Drained.stays (drained : s.Drained) (selects : s.phase = .selecting)
    (answered : s.lastPong = s.now) (due : s.deadline = s.now + heartbeatInterval) (rounds : Nat) :
    ∃ log t, Run Stream.step s log t ∧ t.Drained ∧ t.phase = .selecting ∧
      t.now = s.now + heartbeatInterval * rounds := by
  induction rounds generalizing s with
  | zero => exact ⟨[], s, .nil, drained, selects, rfl⟩
  | succ rounds ih =>
    obtain ⟨hub, rx, phase, start, deadline, now⟩ := s
    dsimp only at selects answered due
    subst selects answered due
    let later := start + heartbeatInterval
    -- The clock goes on to the next tick, and the ping is answered at once.
    have waits : Stream.step ⟨hub, rx, .selecting, start, later, start⟩ (.clock heartbeatInterval) =
        .ok ⟨hub, rx, .selecting, start, later, later⟩ := rfl
    have ticks : Stream.step ⟨hub, rx, .selecting, start, later, later⟩ .ticked =
        .ok ⟨hub, rx, .sendingPing, start, later + heartbeatInterval, later⟩ := by
      simp [Stream.step, onTick, later, heartbeatInterval, clientIdleTimeout]
    have pings : Stream.step ⟨hub, rx, .sendingPing, start, later + heartbeatInterval, later⟩
        (.sent true) = .ok ⟨hub, rx, .selecting, start, later + heartbeatInterval, later⟩ := rfl
    have pongs : Stream.step ⟨hub, rx, .selecting, start, later + heartbeatInterval, later⟩
        (.client .pong) = .ok ⟨hub, rx, .selecting, later, later + heartbeatInterval, later⟩ := rfl
    obtain ⟨log, t, run, drained, selects, time⟩ := ih
      (s := ⟨hub, rx, .selecting, later, later + heartbeatInterval, later⟩) drained rfl rfl rfl
    refine ⟨_, t, .cons waits (.cons ticks (.cons pings (.cons pongs run))), drained, selects, ?_⟩
    rw [time]
    simp only [later]
    ring

/-- After 257 broadcasts the subscriber is evicted, and `m` of its 256 frames are left. -/
theorem evicted_holds {m : Nat} (left : m ≤ wsChannelCapacity) :
    ∃ before after s t, Run Stream.step (serveStream .default "agent:A" 0) before s ∧
      s.Holds wsChannelCapacity ∧ (∀ other, s.rx ∉ s.hub.subscribers other) ∧
      Run Stream.step s after t ∧ t.Holds m ∧ (∀ other, t.rx ∉ t.hub.subscribers other) ∧
      ∀ e ∈ before ++ after, e.act = .sent true → m ≤ (e.pre.hub.channels e.pre.rx).buffer.length := by
  have start := sound_serveStream WsHub.sound_default "agent:A" 0
  have started : (serveStream .default "agent:A" 0).step .started = .ok
      { serveStream .default "agent:A" 0 with
        phase := .selecting, deadline := heartbeatInterval } := by
    simp [Stream.step, serveStream]
  have holds : Holds _ 0 := ⟨start.step started, rfl, rfl, by simp [serveStream], rfl⟩
  obtain ⟨fill, full, fills, holds, unlisted, silent⟩ :=
    Holds.evicted "agent:A" (Nat.zero_le _) holds (by decide)
  obtain ⟨drain, t, drains, less, unlisted', keeps⟩ := holds.drains left unlisted
  refine ⟨_, drain, full, t, .cons started fills, holds, unlisted, drains, less, unlisted', ?_⟩
  rw [List.forall_mem_append, List.forall_mem_cons]
  exact ⟨⟨(fun sent => by cases sent), fun e member sent => absurd sent (silent e member)⟩, keeps⟩

/-- A subscriber is evicted with 256 frames left, the sending of the last of them fails, and the
session is left. -/
theorem evicted_disconnects_iff_cut : ∃ before after s t,
    Run Stream.step (serveStream .default "agent:A" 0) before s ∧
      (∀ key, s.rx ∉ s.hub.subscribers key) ∧
      (s.hub.channels s.rx).buffer.length = wsChannelCapacity ∧
      Run Stream.step s after t ∧ t.Drained ∧ t.phase = .closed ∧
      ∀ e ∈ before ++ after, e.post.Disconnected := by
  obtain ⟨before, drain, full, s, fills, holds, evicted, drains, last, unlisted, keeps⟩ :=
    evicted_holds (show 1 ≤ wsChannelCapacity by decide)
  obtain ⟨hub, receives, length, unlisted'⟩ := last.takes unlisted
  let t : Stream := { s with hub, phase := .sendingText }
  let u : Stream := { t with phase := .closing }
  have fails : t.step (.sent false) = .ok u := rfl
  have sound := ((last.sound.step receives).step fails : u.Sound)
  obtain ⟨gone, dropped, map, buffer⟩ := WsHub.drops (sound.held (show u.phase ≠ .closed by simp [u]))
  have finishes : u.step .finished = .ok { u with hub := gone, phase := .closed } := by
    change u.onHub (.drop u.rx) .closed = _
    unfold onHub
    rw [dropped]
  have leaves := drains.append (.cons receives (.cons fails (.cons finishes .nil)))
  refine ⟨before, _, full, _, fills, evicted, holds.buffer, leaves, ⟨fun key => ?_, ?_⟩, rfl, ?_⟩
  · rw [WsHub.subscribers, map]
    exact unlisted' key
  · exact buffer.trans (List.length_eq_zero_iff.mp length)
  · refine (evicted_disconnects_iff .nil (fills.append leaves)).mpr fun e member sent _ drained => ?_
    rw [← List.append_assoc, List.mem_append] at member
    rcases member with earlier | late
    · -- What is sent before leaves a frame.
      have left := keeps e earlier sent
      rw [drained.2] at left
      exact absurd left (by decide)
    · simp only [List.mem_cons, List.not_mem_nil, or_false] at late
      rcases late with rfl | rfl | rfl <;> cases sent

/-- The task is back at `select!` with nothing left to come. -/
theorem evicted_selects : ∃ log s, Run Stream.step (serveStream .default "agent:A" 0) log s ∧
    s.Drained ∧ s.phase = .selecting := by
  obtain ⟨before, after, _, s, fills, -, -, drains, holds, unlisted, -⟩ := evicted_holds (Nat.zero_le _)
  exact ⟨_, s, fills.append drains, ⟨unlisted, List.length_eq_zero_iff.mp holds.buffer⟩, holds.selects⟩

/-- Its session goes on for as long as the client answers. -/
theorem evicted_stays (rounds : Nat) : ∃ log s,
    Run Stream.step (serveStream .default "agent:A" 0) log s ∧ s.Drained ∧ s.phase = .selecting ∧
      heartbeatInterval * rounds ≤ s.now := by
  obtain ⟨before, after, _, s, fills, -, -, drains, holds, unlisted, -⟩ := evicted_holds (Nat.zero_le _)
  have drained : s.Drained := ⟨unlisted, List.length_eq_zero_iff.mp holds.buffer⟩
  obtain ⟨rest, t, waits, drained, selects, time⟩ :=
    drained.stays holds.selects holds.answered holds.due rounds
  refine ⟨_, t, (fills.append drains).append waits, drained, selects, ?_⟩
  rw [time]
  exact Nat.le_add_left _ _

end Stream

end AgentFuel.Backend
