import AgentFuel.Library.Transition
import Mathlib.Logic.Function.Basic

/-!
# The WebSocket service of the mobile client

The entry points of `AgentFuelWsService` are asynchronous and share `_disconnect`, which is suspended
twice. A call that is suspended is a task; whichever task or event comes next runs up to its next
`await`.
-/
namespace AgentFuel.Clients.Mobile

open Transition

inductive ChannelState where
  /-- Open or still connecting, and not told to close. -/
  | live
  /-- `sink.close()` was called. -/
  | told
  | gone
  deriving DecidableEq

structure WebSocketChannel where
  state : ChannelState
  path : String
  /-- `channel.ready` has not completed. -/
  pending : Bool
  /-- The subscription of its stream is not cancelled. -/
  listened : Bool

/-- What a caller of `_disconnect` does after it. -/
inductive After where
  | connect
  /-- `stop()`, with the number of `watch` calls before it. -/
  | stop (watches : Nat)
  | nothing
  deriving DecidableEq

/-- The `await` at which a task is suspended. -/
inductive Suspension where
  /-- `await _sub?.cancel()` -/
  | cancelling
  /-- `await _channel?.sink.close()`, with the channel it was called on. -/
  | closingSink (channel : Option Nat)
  /-- `await _disconnect()` -/
  | returning
  deriving DecidableEq

structure Task where
  point : Suspension
  after : After
  deriving DecidableEq

inductive AppLifecycleState where
  | resumed
  | inactive
  | hidden
  | paused
  | detached
  deriving DecidableEq

/-- The state, with the channels it has created by their number. -/
structure AgentFuelWsService where
  channels : Nat → WebSocketChannel
  created : Nat
  channel : Option Nat
  sub : Option Nat
  pingTimer : Bool
  /-- The delay of the timer, while it has not fired. -/
  reconnectTimer : Option Nat
  currentPath : Option String
  /-- Maps are equal here if they are one object, which is a number. -/
  currentHeaders : Option Nat
  reconnectAttempts : Nat
  stopped : Bool
  /-- The observer of the lifecycle is registered. -/
  observing : Bool
  tasks : List Task
  /-- The path of the latest `watch` call, how many there were, and whether a `stop()` has completed
  that none has followed. -/
  watched : Option String
  watches : Nat
  ended : Bool

def initial : AgentFuelWsService where
  channels _ := ⟨.gone, "", false, false⟩
  created := 0
  channel := none
  sub := none
  pingTimer := false
  reconnectTimer := none
  currentPath := none
  currentHeaders := none
  reconnectAttempts := 0
  stopped := false
  observing := true
  tasks := []
  watched := none
  watches := 0
  ended := false

inductive WsAction where
  | watch (path : String) (headers : Option Nat)
  | stop
  | dispose
  | reconnect
  /-- `opens` is whether the constructor of the channel returns, where one is called. -/
  | lifecycle (state : AppLifecycleState) (opens : Bool)
  | reconnectFired
  | pingFailed
  | resume (task : Nat) (opens : Bool)
  | ready (channel : Nat) (ok : Bool)
  | frame (channel : Nat)
  | streamError (channel : Nat)
  | streamDone (channel : Nat)
  /-- The connection ends, whoever ended it. -/
  | lost (channel : Nat)
  deriving DecidableEq

namespace AgentFuelWsService

variable (s : AgentFuelWsService)

def updateChannel (channel : Nat) (f : WebSocketChannel → WebSocketChannel) : AgentFuelWsService :=
  { s with channels := Function.update s.channels channel (f (s.channels channel)) }

/-- An update of the channel that a field refers to. -/
def updateReferred (channel : Option Nat) (f : WebSocketChannel → WebSocketChannel) :
    AgentFuelWsService :=
  match channel with
  | none => s
  | some channel => s.updateChannel channel f

/-- `backoff`, in seconds. -/
def backoff : List Nat := [1, 2, 4, 8, 16, 30]

/-- `_scheduleReconnect` -/
def scheduleReconnect : AgentFuelWsService :=
  if s.stopped ∨ s.currentPath = none then s
  else { s with
    reconnectTimer := backoff[if s.reconnectAttempts < backoff.length then s.reconnectAttempts
      else backoff.length - 1]?
    reconnectAttempts := s.reconnectAttempts + 1 }

/-- `_connect`, when the constructor of the channel returns. -/
def openChannel (path : String) : AgentFuelWsService :=
  { s with
    channels := Function.update s.channels s.created ⟨.live, path, true, true⟩
    created := s.created + 1
    channel := some s.created
    sub := some s.created
    pingTimer := true }

/-- `_connect` -/
def connect (opens : Bool) : AgentFuelWsService :=
  if s.stopped then s
  else match s.currentPath with
    | none => s
    | some path => if opens then s.openChannel path else s.scheduleReconnect

/-- `_disconnect`, up to its first `await`. -/
def disconnect (after : After) : AgentFuelWsService :=
  let s := s.updateReferred s.sub fun channel => { channel with listened := false }
  { s with pingTimer := false, reconnectTimer := none, tasks := s.tasks ++ [⟨.cancelling, after⟩] }

/-- `watch`. What counts the calls is no part of the source. -/
def watch (path : String) (headers : Option Nat) : AgentFuelWsService :=
  let s := { s with watched := some path, watches := s.watches + 1, ended := false }
  if s.currentPath = some path ∧ s.currentHeaders = headers ∧ s.channel ≠ none then s
  else { s with stopped := false, currentPath := some path, currentHeaders := headers }.disconnect .connect

def stop : AgentFuelWsService :=
  { s with stopped := true, currentPath := none }.disconnect (.stop s.watches)

def reconnect : AgentFuelWsService :=
  if s.currentPath = none then s else s.disconnect .connect

def didChangeAppLifecycleState (opens : Bool) : AppLifecycleState → AgentFuelWsService
  | .resumed =>
    if s.currentPath ≠ none ∧ s.channel = none then { s with stopped := false }.connect opens else s
  | .paused | .detached => s.disconnect .nothing
  | .inactive | .hidden => s

/-- What runs when the `await` of a task is over. -/
def resumeTask (i : Nat) (opens : Bool) : Task → AgentFuelWsService
  | ⟨.cancelling, after⟩ =>
    -- The channel is the one stored by now.
    let s := s.updateReferred s.channel fun channel =>
      { channel with state := if channel.state = .live then .told else channel.state }
    { s with sub := none, tasks := s.tasks.set i ⟨.closingSink s.channel, after⟩ }
  | ⟨.closingSink channel, after⟩ =>
    let s := s.updateReferred channel fun channel => { channel with state := .gone }
    { s with channel := none, tasks := s.tasks.set i ⟨.returning, after⟩ }
  | ⟨.returning, after⟩ =>
    let s := { s with tasks := s.tasks.eraseIdx i }
    match after with
    | .connect => s.connect opens
    | .stop watches => { s with ended := s.ended || watches == s.watches }
    | .nothing => s

/-- One entry, event or resumption, up to the next `await`; what cannot happen fails. -/
def step (s : AgentFuelWsService) : WsAction → Except Unit AgentFuelWsService
  | .watch path headers => .ok (s.watch path headers)
  | .stop => .ok s.stop
  | .dispose => .ok { s with observing := false }.stop
  | .reconnect => .ok s.reconnect
  | .lifecycle state opens =>
    if s.observing then .ok (s.didChangeAppLifecycleState opens state) else .error ()
  | .reconnectFired =>
    if s.reconnectTimer = none then .error ()
    else .ok ({ s with reconnectTimer := none }.disconnect .connect)
  | .pingFailed =>
    if s.pingTimer ∧ s.channel ≠ none then .ok s.scheduleReconnect else .error ()
  | .resume i opens =>
    match s.tasks[i]? with
    | some task => .ok (s.resumeTask i opens task)
    | none => .error ()
  | .ready c ok =>
    if (s.channels c).pending then
      let s := s.updateChannel c fun channel => { channel with pending := false }
      .ok (if ok then if s.stopped then s else { s with reconnectAttempts := 0 }
        else (s.updateChannel c fun channel => { channel with state := .gone }).scheduleReconnect)
    else .error ()
  | .frame c => if (s.channels c).listened then .ok s else .error ()
  | .streamError c =>
    -- `cancelOnError`
    if (s.channels c).listened then
      .ok (s.updateChannel c fun channel => { channel with listened := false }).scheduleReconnect
    else .error ()
  | .streamDone c =>
    if (s.channels c).listened ∧ (s.channels c).state = .gone then
      .ok (s.updateChannel c fun channel => { channel with listened := false }).scheduleReconnect
    else .error ()
  | .lost c => .ok (s.updateChannel c fun channel => { channel with state := .gone })

/-! ### One connection -/

def Live (c : Nat) : Prop := (s.channels c).state = .live

/-- The one channel that is not told to close is the stored one, on the watched path, and none is
left after `stop()`. -/
structure OneConnection : Prop where
  stored : ∀ c, s.Live c → s.channel = some c
  path : ∀ c, s.Live c → s.watched = some (s.channels c).path
  ended : s.ended = true → ∀ c, (s.channels c).state = .gone

end AgentFuelWsService

end AgentFuel.Clients.Mobile
