import AgentFuel.Clients.LivePython

/-!
# The subscription of the TypeScript client

`subscribe` has no loop of its own: everything after its first lines runs in listeners, in timers
and behind one `await`. The listeners stay bound to every socket that was ever created, so a state
keeps them all, with the timers, in the order of their creation.
-/
namespace AgentFuel.Clients.TypeScript

open Transition

inductive ReadyState where
  | connecting
  | open
  /-- Told to close, or the peer has started the closing handshake. -/
  | closing
  | closed
  deriving DecidableEq

inductive TimerState where
  | armed (delay : Nat)
  /-- Fired or cleared. -/
  | done
  deriving DecidableEq

structure Subscription (F : Type) where
  sockets : List ReadyState
  timers : List TimerState
  socket : Option Nat
  alive : Bool
  attempts : Nat
  reconnectTimer : Option Nat
  currentStatus : LiveStatus
  /-- The calls of `connect` that wait for the constructor. -/
  awaiting : Nat
  /-- The `close` listener is in the call of `onStatus`; its timer is not set yet. -/
  rearming : Bool
  /-- The arguments of `onStatus` and `onFrame`, oldest first. -/
  reported : List LiveStatus
  frames : List F

inductive Event (F : Type) where
  | resolved
  | rejected
  | opened (i : Nat)
  /-- The frame of a message, when its data is the text of one. -/
  | message (i : Nat) (data : Option F)
  /-- The peer starts the closing handshake. -/
  | closing (i : Nat)
  | error (i : Nat)
  | closed (i : Nat)
  | rearm
  | fired (k : Nat)

/-- The frame that is handed to `onFrame`. -/
def Event.frame {F : Type} : Event F → Option F
  | .message _ data => data
  | _ => none

namespace Subscription

variable {F : Type} (s : Subscription F)

def setStatus (next : LiveStatus) : Subscription F :=
  { s with currentStatus := next, reported := s.reported ++ [next] }

/-- `connect`, up to its `await`. -/
def connect : Subscription F :=
  if s.alive = false then s
  else
    { s.setStatus (if s.attempts = 0 then .connecting else .reconnecting) with
      awaiting := s.awaiting + 1 }

/-- `connect` after its `await`. -/
def connected : Subscription F :=
  if s.alive = false then s
  else { s with sockets := s.sockets ++ [.connecting], socket := some s.sockets.length }

/-- `MAX_BACKOFF_MS` -/
def maxBackoffMs : Nat := 30000

/-- `Math.min(MAX_BACKOFF_MS, 1_000 * 2 ** (attempts - 1))` -/
def delay (attempts : Nat) : Nat := min maxBackoffMs (1000 * 2 ^ (attempts - 1))

/-- The listener of `close`, up to the end of `onStatus`. -/
def onClose : Subscription F :=
  if s.alive = false then s
  else { { s with attempts := s.attempts + 1 }.setStatus .reconnecting with rearming := true }

/-- `reconnectTimer = setTimeout(...)` -/
def rearm : Subscription F :=
  { s with
    rearming := false
    timers := s.timers ++ [.armed (delay s.attempts)]
    reconnectTimer := some s.timers.length }

def subscribe (F : Type) : Subscription F :=
  connect
    { sockets := [], timers := [], socket := none, alive := true, attempts := 0,
      reconnectTimer := none, currentStatus := .connecting, awaiting := 0, rearming := false,
      reported := [], frames := [] }

/-- `clearTimeout(reconnectTimer)` -/
def clearTimer : Subscription F :=
  match s.reconnectTimer with
  | none => s
  | some k => { s with timers := s.timers.set k .done }

/-- `socket.close(1000, "client close")` of an open socket. -/
def closeSocket : Subscription F :=
  match s.socket with
  | none => s
  | some i => if s.sockets[i]? = some .open then { s with sockets := s.sockets.set i .closing } else s

def close : Subscription F :=
  { { s with alive := false }.clearTimer.closeSocket with socket := none }.setStatus .closed

/-- One event. A listener runs to its end before the next one. -/
def step (s : Subscription F) (e : Event F) : Except (Event F) (Subscription F) :=
  if s.rearming = true then
    match e with
    | .rearm => .ok s.rearm
    | e => .error e
  else
    match e with
    | .resolved =>
      if s.awaiting = 0 then .error e else .ok ({ s with awaiting := s.awaiting - 1 }.connected)
    | .rejected => if s.awaiting = 0 then .error e else .ok { s with awaiting := s.awaiting - 1 }
    | .opened i =>
      if s.sockets[i]? = some .connecting then
        -- The listener does not look at `alive`.
        .ok ({ s with sockets := s.sockets.set i .open, attempts := 0 }.setStatus .open)
      else .error e
    | .message i data =>
      -- A message may be on its way when a socket is told to close.
      if s.sockets[i]? = some .open ∨ s.sockets[i]? = some .closing then
        .ok { s with frames := s.frames ++ data.toList }
      else .error e
    | .closing i =>
      if s.sockets[i]? = some .open then .ok { s with sockets := s.sockets.set i .closing }
      else .error e
    | .error i => if i < s.sockets.length then .ok s else .error e
    | .closed i =>
      if i < s.sockets.length ∧ s.sockets[i]? ≠ some .closed then
        .ok { s with sockets := s.sockets.set i .closed }.onClose
      else .error e
    | .rearm => .error e
    | .fired k =>
      match s.timers[k]? with
      | some (.armed _) => .ok { s with timers := s.timers.set k .done }.connect
      | _ => .error e

/-! ### The steps -/

/-- What an event runs, and where it can happen. -/
inductive Fires (s : Subscription F) : Event F → Subscription F → Prop
  | rearm (rearming : s.rearming = true) : Fires s .rearm s.rearm
  | resolved (waits : s.awaiting ≠ 0) :
    Fires s .resolved ({ s with awaiting := s.awaiting - 1 } : Subscription F).connected
  | rejected (waits : s.awaiting ≠ 0) : Fires s .rejected { s with awaiting := s.awaiting - 1 }
  | opened {i} (held : s.sockets[i]? = some .connecting) :
    Fires s (.opened i)
      (({ s with sockets := s.sockets.set i .open, attempts := 0 } : Subscription F).setStatus .open)
  | message {i data} : Fires s (.message i data) { s with frames := s.frames ++ data.toList }
  | closing {i} (held : s.sockets[i]? = some .open) :
    Fires s (.closing i) { s with sockets := s.sockets.set i .closing }
  | error {i} : Fires s (.error i) s
  | closed {i old} (idle : s.rearming = false) (held : s.sockets[i]? = some old)
    (ends : old ≠ .closed) :
    Fires s (.closed i) ({ s with sockets := s.sockets.set i .closed } : Subscription F).onClose
  | fired {k delay} (held : s.timers[k]? = some (.armed delay)) :
    Fires s (.fired k) ({ s with timers := s.timers.set k .done } : Subscription F).connect

variable {s t u : Subscription F} {e : Event F}

theorem step_fires (fired : s.step e = .ok t) : Fires s e t := by
  unfold step at fired
  -- While a socket is being replaced nothing else can happen.
  by_cases rearming : s.rearming = true
  · rw [if_pos rearming] at fired
    cases e <;> cases fired
    exact .rearm rearming
  rw [if_neg rearming] at fired
  cases e with
  | resolved =>
    dsimp only at fired
    split at fired <;> cases fired
    exact .resolved ‹_›
  | rejected =>
    dsimp only at fired
    split at fired <;> cases fired
    exact .rejected ‹_›
  | opened i =>
    dsimp only at fired
    split at fired <;> cases fired
    exact .opened ‹_›
  | message i data =>
    dsimp only at fired
    split at fired <;> cases fired
    exact .message
  | closing i =>
    dsimp only at fired
    split at fired <;> cases fired
    exact .closing ‹_›
  | error i =>
    dsimp only at fired
    split at fired <;> cases fired
    exact .error
  | closed i =>
    dsimp only at fired
    split at fired <;> cases fired
    rename_i there
    have held := List.getElem?_eq_getElem there.1
    exact .closed (Bool.eq_false_iff.mpr rearming) held fun ended => there.2 (by rw [held, ended])
  | rearm => cases fired
  | fired k =>
    dsimp only at fired
    split at fired <;> cases fired
    exact .fired ‹_›

/-! ### One socket at a time -/

def TimerState.isArmed : TimerState → Bool
  | .armed _ => true
  | .done => false

/-- What may still become a socket, together with the sockets that are not closed. -/
def pending (s : Subscription F) : Nat :=
  s.sockets.countP (· ≠ .closed) + s.timers.countP TimerState.isArmed + s.awaiting +
    s.rearming.toNat

structure Single (s : Subscription F) : Prop where
  pending : s.pending ≤ 1
  current : s.alive = true → ∀ i state, s.sockets[i]? = some state → state ≠ .closed → s.socket = some i

section Counts

variable {α : Type} {p : α → Bool} {l : List α} {i : Nat} {old new : α}

theorem countP_set_same (held : l[i]? = some old) (same : p new = p old) :
    (l.set i new).countP p = l.countP p := by
  obtain ⟨bound, rfl⟩ := List.getElem?_eq_some_iff.mp held
  rw [List.countP_set bound, same]
  by_cases counts : p l[i] = true
  · have counted : 0 < l.countP p := List.countP_pos_iff.mpr ⟨l[i], List.getElem_mem bound, counts⟩
    rw [if_pos counts]
    omega
  · rw [if_neg counts]
    omega

theorem countP_set_less (held : l[i]? = some old) (was : p old = true) (out : p new = false) :
    (l.set i new).countP p + 1 = l.countP p := by
  obtain ⟨bound, rfl⟩ := List.getElem?_eq_some_iff.mp held
  have counted : 0 < l.countP p := List.countP_pos_iff.mpr ⟨l[i], List.getElem_mem bound, was⟩
  rw [List.countP_set bound, was, out, if_pos rfl, if_neg (by decide)]
  omega

theorem held_set {j : Nat} {a : α} (held : (l.set i new)[j]? = some a) :
    (j = i ∧ a = new) ∨ l[j]? = some a := by
  by_cases same : i = j
  · subst same
    have bound : i < l.length := by simpa using (List.getElem?_eq_some_iff.mp held).1
    rw [List.getElem?_set_self bound] at held
    exact .inl ⟨rfl, (Option.some.inj held).symm⟩
  · rw [List.getElem?_set_ne same] at held
    exact .inr held

theorem held_append {j : Nat} {a : α} (held : (l ++ [new])[j]? = some a) :
    (j = l.length ∧ a = new) ∨ l[j]? = some a := by
  rw [List.getElem?_append] at held
  split at held
  · exact .inr held
  · obtain ⟨bound, rfl⟩ := List.getElem?_eq_some_iff.mp held
    rw [List.length_singleton] at bound
    exact .inl ⟨by omega, by simp⟩

end Counts

theorem step_pending (fired : s.step e = .ok t) : t.pending ≤ s.pending := by
  cases step_fires fired with
  | rearm rearming =>
    -- A socket that ends arms a timer, and a timer that fires opens a socket: never both.
    unfold pending rearm
    simp [rearming, List.countP_append, TimerState.isArmed]
    omega
  | resolved waits =>
    unfold connected
    split
    · simp only [pending]
      omega
    · simp [pending, List.countP_append]
      omega
  | rejected waits =>
    simp only [pending]
    omega
  | opened held =>
    have same : (s.sockets.set _ .open).countP (· ≠ .closed) = _ := countP_set_same held rfl
    simp only [pending, setStatus, same]
    omega
  | message => exact le_refl _
  | closing held =>
    have same : (s.sockets.set _ .closing).countP (· ≠ .closed) = _ := countP_set_same held rfl
    simp only [pending, same]
    omega
  | error => exact le_refl _
  | closed idle held ends =>
    have less : (s.sockets.set _ .closed).countP (· ≠ .closed) + 1 = _ :=
      countP_set_less held (by simpa using ends) (by simp)
    unfold onClose
    split <;> simp only [pending, setStatus, idle, Bool.toNat_true, Bool.toNat_false] <;> omega
  | fired held =>
    have less : (s.timers.set _ .done).countP TimerState.isArmed + 1 = _ :=
      countP_set_less held rfl rfl
    unfold connect
    split <;> simp only [pending, setStatus] <;> omega

theorem step_alive (fired : s.step e = .ok t) : t.alive = s.alive := by
  cases step_fires fired with
  | resolved => unfold connected; split <;> rfl
  | closed => unfold onClose; split <;> rfl
  | fired => unfold connect; split <;> rfl
  | _ => rfl

/-- While a new socket or a timer is on its way, every other socket is closed. -/
theorem Single.none_left (single : s.Single) (waits : s.awaiting ≠ 0) {i : Nat} {state : ReadyState}
    (held : s.sockets[i]? = some state) : state = .closed := by
  by_contra still
  have counted : 0 < s.sockets.countP (· ≠ .closed) :=
    List.countP_pos_iff.mpr ⟨state, List.mem_of_getElem? held, by simpa using still⟩
  have most := single.pending
  unfold Subscription.pending at most
  omega

theorem step_single (fired : s.step e = .ok t) (single : s.Single) : t.Single := by
  refine ⟨(step_pending fired).trans single.pending, ?_⟩
  intro alive j state held still
  have lives : s.alive = true := by rw [← step_alive fired, alive]
  have current := single.current lives
  cases step_fires fired with
  | resolved waits =>
    unfold connected at held ⊢
    rw [if_neg (by simpa using lives)] at held ⊢
    -- The new socket is the last one, and the others are closed.
    rcases held_append held with ⟨rfl, rfl⟩ | older
    · rfl
    · exact absurd (single.none_left waits older) still
  | opened was =>
    rcases held_set held with ⟨rfl, rfl⟩ | other
    · exact current j .connecting was (by decide)
    · exact current j state other still
  | closing was =>
    rcases held_set held with ⟨rfl, rfl⟩ | other
    · exact current j .open was (by decide)
    · exact current j state other still
  | closed idle was ends =>
    unfold onClose at held ⊢
    rw [if_neg (by simpa using lives)] at held ⊢
    rcases held_set held with ⟨rfl, rfl⟩ | other
    · exact absurd rfl still
    · exact current j state other still
  | fired was =>
    unfold connect at held ⊢
    rw [if_neg (by simpa using lives)] at held ⊢
    exact current j state held still
  | _ => exact current j state held still

theorem subscribe_single : (subscribe F).Single where
  pending := le_refl _
  current := by
    intro _ i state held
    cases held

theorem run_single {log : List (Fired (Subscription F) (Event F))}
    (run : Run step (subscribe F) log s) : s.Single ∧ s.alive = true := by
  refine run.invariant (I := fun s => s.Single ∧ s.alive = true) ?_ ⟨subscribe_single, rfl⟩
  intro s e t fired held
  exact ⟨step_single fired held.1, by rw [step_alive fired, held.2]⟩

/-! ### After `close` -/

/-- Sockets that neither are closed nor were told to close. -/
def AtMostOne (s : Subscription F) : Prop :=
  s.sockets.countP (fun state => decide (state = .connecting ∨ state = .open)) ≤ 1

theorem Single.atMostOne (single : s.Single) : s.AtMostOne := by
  have fewer : s.sockets.countP (fun state => decide (state = .connecting ∨ state = .open)) ≤
      s.sockets.countP (· ≠ .closed) := by
    apply List.countP_mono_left
    intro state _ live
    rcases of_decide_eq_true live with rfl | rfl <;> rfl
  have most := single.pending
  unfold Subscription.pending at most
  unfold AtMostOne
  omega

/-- The handlers are not called after the state `c`, and nothing is left open. -/
structure Silent (c u : Subscription F) : Prop where
  frames : u.frames = c.frames
  reported : u.reported = c.reported
  status : u.currentStatus = .closed
  told : ∀ state ∈ u.sockets, state = .closing ∨ state = .closed

theorem clearTimer_sockets : s.clearTimer.sockets = s.sockets := by
  unfold clearTimer
  split <;> rfl

theorem clearTimer_socket : s.clearTimer.socket = s.socket := by
  unfold clearTimer
  split <;> rfl

theorem close_sockets : s.close.sockets = s.closeSocket.sockets := by
  unfold close setStatus
  dsimp only
  unfold closeSocket
  rw [clearTimer_socket, clearTimer_sockets]
  dsimp only
  split
  · exact clearTimer_sockets
  · split
    · rfl
    · exact clearTimer_sockets

/-- `close` leaves no socket open; one that is still connecting stays as it is. -/
theorem close_told (single : s.Single) (alive : s.alive = true) {j : Nat} {state : ReadyState}
    (held : s.close.sockets[j]? = some state) :
    state = .closing ∨ state = .closed ∨ s.sockets[j]? = some .connecting := by
  have current := single.current alive
  rw [close_sockets] at held
  unfold closeSocket at held
  -- Whatever is held at `j` before, if it is open, it is the socket that is told to close.
  have kept : s.sockets[j]? = some state → (s.socket = some j → state ≠ .open) →
      state = .closing ∨ state = .closed ∨ s.sockets[j]? = some .connecting := by
    intro old other
    cases state with
    | connecting => exact .inr (.inr old)
    | «open» => exact absurd rfl (other (current j .open old (by decide)))
    | closing => exact .inl rfl
    | closed => exact .inr (.inl rfl)
  split at held
  next none =>
    apply kept held
    rw [none]
    nofun
  next i socket =>
    split at held
    · rcases held_set held with ⟨-, rfl⟩ | old
      · exact .inl rfl
      · by_cases same : j = i
        · subst same
          rename_i was
          rw [List.getElem?_set_self (List.getElem?_eq_some_iff.mp was).1] at held
          exact .inl (Option.some.inj held).symm
        · apply kept old
          rw [socket]
          rintro ⟨⟩
          exact absurd rfl same
    · rename_i was
      apply kept held
      rintro own rfl
      rw [socket] at own
      cases own
      exact was held

theorem close_connecting (connecting : .connecting ∈ s.sockets) : .connecting ∈ s.close.sockets := by
  rw [close_sockets]
  unfold closeSocket
  split
  · exact connecting
  · split
    · obtain ⟨j, held⟩ := List.getElem?_of_mem connecting
      rename_i i _ was
      -- The socket that is set was open.
      have other : i ≠ j := by
        rintro rfl
        rw [held] at was
        cases was
      exact List.mem_of_getElem? ((List.getElem?_set_ne other).trans held)
    · exact connecting

theorem close_alive : s.close.alive = false := by
  unfold close setStatus closeSocket clearTimer
  dsimp only
  split <;> split <;> first | rfl | (split <;> rfl)

theorem close_status : s.close.currentStatus = .closed := rfl

/-- The calls of the handlers stop at `close`, if no socket was connecting and no frame is on its
way to a socket that is told to close. -/
theorem close_silent (single : s.Single) (alive : s.alive = true) (settled : .connecting ∉ s.sockets) :
    Silent s.close s.close where
  frames := rfl
  reported := rfl
  status := close_status
  told := by
    intro state member
    obtain ⟨j, held⟩ := List.getElem?_of_mem member
    rcases close_told single alive held with told | told | connecting
    · exact .inl told
    · exact .inr told
    · exact absurd (List.mem_of_getElem? connecting) settled

theorem step_silent {c : Subscription F} (fired : s.step e = .ok t) (mute : e.frame = none)
    (closed : s.alive = false) (silent : Silent c s) : Silent c t := by
  obtain ⟨frames, reported, status, told⟩ := silent
  -- No socket that is left is open or about to open.
  have awake : ∀ {i state}, s.sockets[i]? = some state → state = ReadyState.closing ∨ state = ReadyState.closed :=
    fun held => told _ (List.mem_of_getElem? held)
  cases step_fires fired with
  | rearm => exact ⟨frames, reported, status, told⟩
  | resolved =>
    unfold connected
    rw [if_pos closed]
    exact ⟨frames, reported, status, told⟩
  | rejected => exact ⟨frames, reported, status, told⟩
  | opened held => rcases awake held with impossible | impossible <;> cases impossible
  | @message i data =>
    obtain rfl : data = none := mute
    exact ⟨by rw [← frames]; exact List.append_nil _, reported, status, told⟩
  | closing held => rcases awake held with impossible | impossible <;> cases impossible
  | error => exact ⟨frames, reported, status, told⟩
  | closed =>
    unfold onClose
    rw [if_pos closed]
    refine ⟨frames, reported, status, ?_⟩
    intro state member
    rcases List.mem_or_eq_of_mem_set member with old | rfl
    · exact told state old
    · exact .inr rfl
  | fired =>
    unfold connect
    rw [if_pos closed]
    exact ⟨frames, reported, status, told⟩

/-- `onFrame` is only ever called more often. -/
theorem step_frames (fired : s.step e = .ok t) : t.frames = s.frames ++ e.frame.toList := by
  cases step_fires fired with
  | resolved =>
    unfold connected
    split <;> exact (List.append_nil _).symm
  | closed =>
    unfold onClose
    split <;> exact (List.append_nil _).symm
  | fired =>
    unfold connect
    split <;> exact (List.append_nil _).symm
  | message => rfl
  | _ => exact (List.append_nil _).symm

theorem run_frames {log : List (Fired (Subscription F) (Event F))} (run : Run step s log t) :
    s.frames.length ≤ t.frames.length := by
  refine run.invariant (I := fun t => s.frames.length ≤ t.frames.length) ?_ (le_refl _)
  intro t e u fired less
  rw [step_frames fired, List.length_append]
  omega

/-- What the subscription promises of a run with a call of `close` in it. -/
structure Quiet (before : List (Fired (Subscription F) (Event F))) (s : Subscription F)
    (after : List (Fired (Subscription F) (Event F))) : Prop where
  opening : ∀ e ∈ before, e.post.AtMostOne
  closing : s.close.AtMostOne ∧ ∀ e ∈ after, e.post.AtMostOne
  silent : Silent s.close s.close ∧ ∀ e ∈ after, Silent s.close e.post

theorem clearTimer_pending : s.clearTimer.pending ≤ s.pending := by
  unfold clearTimer
  split
  · exact le_refl _
  · rename_i k _
    unfold pending
    dsimp only
    by_cases bound : k < s.timers.length
    · rw [List.countP_set bound]
      simp only [TimerState.isArmed, Bool.false_eq_true, if_false]
      omega
    · rw [List.set_eq_of_length_le (not_lt.mp bound)]

theorem closeSocket_pending : s.closeSocket.pending = s.pending := by
  unfold closeSocket
  split
  · rfl
  · split
    · rename_i held
      have same : (s.sockets.set _ .closing).countP (· ≠ .closed) = _ := countP_set_same held rfl
      unfold pending
      rw [same]
    · rfl

theorem close_single (single : s.Single) : s.close.Single := by
  refine ⟨?_, fun alive => ?_⟩
  · calc s.close.pending = ({ s with alive := false } : Subscription F).clearTimer.closeSocket.pending := rfl
      _ = ({ s with alive := false } : Subscription F).clearTimer.pending := closeSocket_pending
      _ ≤ ({ s with alive := false } : Subscription F).pending := clearTimer_pending
      _ ≤ 1 := single.pending
  · rw [close_alive] at alive
    cases alive

/-- A closed subscription is silent exactly if no socket was connecting at the call, and no frame
arrives on a socket that was told to close. -/
theorem closed_silent_iff {before after : List (Fired (Subscription F) (Event F))}
    (run : Run step (subscribe F) before s) (rest : Run step s.close after u) :
    Quiet before s after ↔ .connecting ∉ s.sockets ∧ ∀ e ∈ after, e.act.frame = none := by
  obtain ⟨single, alive⟩ := run_single run
  constructor
  · intro quiet
    refine ⟨fun connecting => ?_, fun e member => ?_⟩
    · -- `close` leaves the socket as it is, neither closed nor told to close.
      have left := (close_connecting connecting)
      rcases quiet.silent.1.told _ left with impossible | impossible <;> cases impossible
    · -- Every frame is one more call of `onFrame`.
      obtain ⟨first, last, rfl⟩ := List.append_of_mem member
      obtain ⟨earlier, fired, _⟩ := rest.around
      have less := run_frames earlier
      have frames := congrArg List.length (step_frames fired)
      rw [(quiet.silent.2 e member).frames, List.length_append] at frames
      cases carried : e.act.frame with
      | none => rfl
      | some frame =>
        rw [carried, Option.toList_some, List.length_singleton] at frames
        omega
  · rintro ⟨settled, mute⟩
    have silent := close_silent single alive settled
    refine ⟨?_, ⟨(close_single single).atMostOne, ?_⟩, silent, ?_⟩
    · intro e member
      obtain ⟨first, -, start⟩ := run.upTo member
      exact (run_single start).1.atMostOne
    · intro e member
      obtain ⟨first, -, start⟩ := rest.upTo member
      refine Single.atMostOne (start.invariant ?_ (close_single single))
      exact fun _ _ _ => step_single
    · intro e member
      obtain ⟨first, among, start⟩ := rest.upTo member
      have still : e.post.alive = false ∧ Silent s.close e.post := by
        refine Run.preserves (I := fun t => t.alive = false ∧ Silent s.close t)
          (A := fun d => d.act.frame = none) ?_ start ?_ ⟨close_alive, silent⟩
        · intro d mute fired held
          exact ⟨by rw [step_alive fired, held.1], step_silent fired mute held.1 held.2⟩
        · exact fun d earlier => mute d (among earlier)
      exact still.2

/-- A socket that opens, carries a frame and drops, and the one after it. -/
def sampleBefore : List (Event Nat) :=
  [.resolved, .opened 0, .message 0 (some 7), .closed 0, .rearm, .fired 0, .resolved, .opened 1]

def sampleAfter : List (Event Nat) := [.message 1 none, .error 1, .closed 1]

theorem closed_silent_iff_sample :
    Quiet (trace step (subscribe Nat) sampleBefore)
      (sampleBefore.foldl (settle step) (subscribe Nat))
      (trace step (sampleBefore.foldl (settle step) (subscribe Nat)).close sampleAfter) :=
  (closed_silent_iff (.of_trace step (subscribe Nat) sampleBefore)
    (.of_trace step (sampleBefore.foldl (settle step) (subscribe Nat)).close sampleAfter)).mpr
      ⟨by decide, by decide⟩

/-- A socket that is still connecting at the call opens afterwards and delivers frames. -/
theorem close_overtaken :
    ¬∀ (before after : List (Fired (Subscription Nat) (Event Nat))) (s u : Subscription Nat),
      Run step (subscribe Nat) before s → Run step s.close after u → Quiet before s after := by
  intro quiet
  have silent := (quiet _ _ _ _ (.of_trace step (subscribe Nat) [.resolved])
    (.of_trace step _ [.opened 0, .message 0 (some 7)])).silent.2
  have status : ∀ e ∈ trace step ([.resolved].foldl (settle step) (subscribe Nat)).close
      [.opened 0, .message 0 (some 7)], e.post.currentStatus = .closed ∧ e.post.frames = [] :=
    fun e member => ⟨(silent e member).status, (silent e member).frames⟩
  revert status
  decide

end Subscription
end AgentFuel.Clients.TypeScript
