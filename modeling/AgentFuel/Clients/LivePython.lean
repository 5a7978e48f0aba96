import AgentFuel.Library.Numbers
import AgentFuel.Library.Transition

/-!
# The subscription of the Python client

The background task of `subscribe` is a coroutine: between two of its suspension points nothing
else runs. Its state is the point it waits at, and an event is what resumes it there. Only `close`
comes from outside and may come at any point.
-/
namespace AgentFuel.Clients

inductive LiveStatus where
  | connecting
  | open
  | reconnecting
  | closed
  deriving DecidableEq

namespace Python

open Numbers Transition

/-- The `await` of the task that is suspended. -/
inductive Phase where
  /-- The task is created, and its first line has not run. -/
  | created
  /-- `_invoke(on_status, new_status)` at the head of the loop. -/
  | announcing
  | connecting
  | announcingOpen
  /-- `_pump_messages`: the wait for a message or the close event, and `_invoke(on_frame, frame)`. -/
  | receiving
  | handling
  /-- `__aexit__` of the connection, with or without an exception on its way. -/
  | leaving
  /-- `_invoke(on_status, "reconnecting")`, with the `delay` that is waited for next. -/
  | announcingDrop (delay : Int)
  | sleeping
  | announcingClosed
  | ended
  /-- An exception left the task. -/
  | raised
  deriving DecidableEq

/-- How many steps are left after `close`. -/
def Phase.remaining : Phase → Nat
  | .ended | .raised => 0
  | .announcingClosed => 1
  | .created | .leaving | .sleeping => 2
  | .announcingOpen | .handling | .announcingDrop _ => 3
  | .connecting | .receiving => 4
  | .announcing => 5

inductive LiveEvent where
  | close
  | started
  | callbackReturned
  /-- `websockets.connect` raises. -/
  | refused
  | opened
  /-- A message that is not a text, not JSON or not an event. -/
  | ignored
  | frame
  /-- `recv` raises, or the decoding of what it returned does. -/
  | dropped
  | closeSeen
  | handled
  | handlerRaised
  | left
  | timedOut
  | woken
  deriving DecidableEq

structure Subscription where
  phase : Phase
  attempts : Nat
  /-- `close_event.is_set()` -/
  closing : Bool
  status : LiveStatus
  /-- The arguments of `on_status` and the timeouts of the waits, oldest first. -/
  reported : List LiveStatus
  waits : List Int

def subscribe : Subscription :=
  { phase := .created, attempts := 0, closing := false, status := .connecting, reported := [], waits := [] }

namespace Subscription

variable (s : Subscription)

/-- `status_ref.value = new_status`, and the start of `_invoke(on_status, new_status)`. -/
def report (newStatus : LiveStatus) (phase : Phase) : Subscription :=
  { s with phase, status := newStatus, reported := s.reported ++ [newStatus] }

@[simp] theorem report_phase (newStatus : LiveStatus) (phase : Phase) :
    (s.report newStatus phase).phase = phase := rfl

@[simp] theorem report_closing (newStatus : LiveStatus) (phase : Phase) :
    (s.report newStatus phase).closing = s.closing := rfl

@[simp] theorem report_attempts (newStatus : LiveStatus) (phase : Phase) :
    (s.report newStatus phase).attempts = s.attempts := rfl

/-- `_MAX_BACKOFF_SECONDS` -/
def maxBackoffSeconds : Int := 30

/-- `min(_MAX_BACKOFF_SECONDS, 1.0 * (2 ** (attempts - 1)))`; the product raises when the power is
outside the range of the format. -/
def backoff (attempts : Nat) : Option Int :=
  (toDouble (2 ^ (attempts - 1))).map (min maxBackoffSeconds)

/-- The test of the loop of `run`, up to the next suspension. -/
def loopHead : Subscription :=
  if s.closing then s.report .closed .announcingClosed
  else if s.attempts = 0 then s.report .connecting .announcing
  else s.report .reconnecting .announcing

/-- The test of the loop of `_pump_messages`. -/
def pumpHead : Subscription := { s with phase := if s.closing then .leaving else .receiving }

/-- What follows the `try` of `run`, however it was left. -/
def afterTry : Subscription :=
  if s.closing then s.report .closed .announcingClosed
  else
    let attempts := s.attempts + 1
    -- The delay is computed outside the `try`.
    match backoff attempts with
    | none => { s with attempts, phase := .raised }
    | some delay => { s with attempts }.report .reconnecting (.announcingDrop delay)

/-- One event; at a point that does not wait for it there is none. -/
def step (s : Subscription) (e : LiveEvent) : Except Phase Subscription :=
  match s.phase, e with
  | _, .close => .ok { s with closing := true }
  | .created, .started => .ok s.loopHead
  | .announcing, .callbackReturned => .ok { s with phase := .connecting }
  | .connecting, .refused => .ok s.afterTry
  | .connecting, .opened => .ok ({ s with attempts := 0 }.report .open .announcingOpen)
  | .announcingOpen, .callbackReturned => .ok s.pumpHead
  | .receiving, .ignored => .ok s.pumpHead
  | .receiving, .frame => .ok { s with phase := .handling }
  | .receiving, .dropped => .ok { s with phase := .leaving }
  -- `close_waiter` is done only once the event is set.
  | .receiving, .closeSeen => if s.closing then .ok { s with phase := .leaving } else .error .receiving
  | .handling, .handled => .ok s.pumpHead
  | .handling, .handlerRaised => .ok { s with phase := .leaving }
  | .leaving, .left => .ok s.afterTry
  | .announcingDrop delay, .callbackReturned =>
    .ok { s with phase := .sleeping, waits := s.waits ++ [delay] }
  | .sleeping, .timedOut => .ok s.loopHead
  | .sleeping, .woken => if s.closing then .ok s.loopHead else .error .sleeping
  | .announcingClosed, .callbackReturned => .ok { s with phase := .ended }
  | phase, _ => .error phase

/-! ### The steps by what they run -/

/-- The parts of the task that run between two suspension points. -/
inductive Resumes (s : Subscription) : LiveEvent → Subscription → Prop
  | close : Resumes s .close { s with closing := true }
  | head {e} (point : s.phase = .created ∨ s.phase = .sleeping) : Resumes s e s.loopHead
  | connects {e} (point : s.phase = .announcing) : Resumes s e { s with phase := .connecting }
  | refused (point : s.phase = .connecting) : Resumes s .refused s.afterTry
  | opened {e} (point : s.phase = .connecting) :
    Resumes s e ({ s with attempts := 0 }.report .open .announcingOpen)
  | pumps {e} (point : s.phase = .announcingOpen ∨ s.phase = .receiving ∨ s.phase = .handling) :
    Resumes s e s.pumpHead
  | handles {e} (point : s.phase = .receiving) : Resumes s e { s with phase := .handling }
  | leaves {e} (point : s.phase = .receiving ∨ s.phase = .handling) :
    Resumes s e { s with phase := .leaving }
  | left {e} (point : s.phase = .leaving) : Resumes s e s.afterTry
  | sleeps {e delay} (point : s.phase = .announcingDrop delay) :
    Resumes s e { s with phase := .sleeping, waits := s.waits ++ [delay] }
  | ends {e} (point : s.phase = .announcingClosed) : Resumes s e { s with phase := .ended }

variable {s t : Subscription} {e : LiveEvent}

theorem step_resumes (fired : s.step e = .ok t) : Resumes s e t := by
  unfold step at fired
  split at fired
  case h_10 point =>
    split at fired <;> cases fired
    exact .leaves (.inl point)
  case h_16 point =>
    split at fired <;> cases fired
    exact .head (.inr point)
  all_goals cases fired
  case h_1 => exact .close
  case h_2 point => exact .head (.inl point)
  case h_3 point => exact .connects point
  case h_4 point => exact .refused point
  case h_5 point => exact .opened point
  case h_6 point => exact .pumps (.inl point)
  case h_7 point => exact .pumps (.inr (.inl point))
  case h_8 point => exact .handles point
  case h_9 point => exact .leaves (.inl point)
  case h_11 point => exact .pumps (.inr (.inr point))
  case h_12 point => exact .leaves (.inr point)
  case h_13 point => exact .left point
  case h_14 point => exact .sleeps point
  case h_15 point => exact .head (.inr point)
  case h_17 point => exact .ends point

/-! ### What the task keeps -/

/-- What holds at a suspension point. -/
def Sound (s : Subscription) : Phase → Prop
  | .raised => False
  -- A connection that was opened has reset the counter.
  | .announcingOpen | .receiving | .handling | .leaving => s.attempts = 0 ∧ .closed ∉ s.reported
  | .announcingDrop delay => (0 ≤ delay ∧ delay ≤ maxBackoffSeconds) ∧ .closed ∉ s.reported
  | .announcingClosed | .ended =>
    s.closing = true ∧ ∃ earlier, s.reported = earlier ++ [.closed] ∧ .closed ∉ earlier
  | .created | .announcing | .connecting | .sleeping => .closed ∉ s.reported

structure Healthy (s : Subscription) : Prop where
  waits : ∀ delay ∈ s.waits, 0 ≤ delay ∧ delay ≤ maxBackoffSeconds
  sound : s.Sound s.phase

theorem backoff_isSome (attempts : Nat) : (backoff (attempts + 1)).isSome ↔ attempts < 1024 := by
  rw [backoff, Option.isSome_map, Nat.add_sub_cancel, toDouble_pow_isSome]
  unfold maxExponent
  omega

theorem backoff_bounds {attempts : Nat} {delay : Int} (computed : backoff attempts = some delay) :
    0 ≤ delay ∧ delay ≤ maxBackoffSeconds := by
  obtain ⟨power, rounded, rfl⟩ := Option.map_eq_some_iff.mp computed
  refine ⟨le_min (by decide) ?_, min_le_left _ _⟩
  unfold toDouble at rounded
  split at rounded
  · cases rounded
    exact double_nonneg (by positivity)
  · cases rounded

theorem report_closed (waits : ∀ delay ∈ s.waits, 0 ≤ delay ∧ delay ≤ maxBackoffSeconds)
    (silent : .closed ∉ s.reported) (closing : s.closing = true) :
    (s.report .closed .announcingClosed).Healthy :=
  ⟨waits, closing, s.reported, rfl, silent⟩

theorem loopHead_healthy (waits : ∀ delay ∈ s.waits, 0 ≤ delay ∧ delay ≤ maxBackoffSeconds)
    (silent : .closed ∉ s.reported) : s.loopHead.Healthy := by
  unfold loopHead
  split
  · exact report_closed waits silent ‹_›
  -- Neither of the other reports is the last one.
  · split <;> exact ⟨waits, by simp [report, Sound, silent]⟩

theorem pumpHead_healthy (waits : ∀ delay ∈ s.waits, 0 ≤ delay ∧ delay ≤ maxBackoffSeconds)
    (opened : s.attempts = 0) (silent : .closed ∉ s.reported) : s.pumpHead.Healthy := by
  refine ⟨waits, ?_⟩
  unfold pumpHead
  dsimp only
  split <;> exact ⟨opened, silent⟩

theorem afterTry_healthy (waits : ∀ delay ∈ s.waits, 0 ≤ delay ∧ delay ≤ maxBackoffSeconds)
    (silent : .closed ∉ s.reported) (few : s.closing = false → s.attempts < 1024) :
    s.afterTry.Healthy := by
  unfold afterTry
  split
  · exact report_closed waits silent ‹_›
  · have some : (backoff (s.attempts + 1)).isSome :=
      (backoff_isSome s.attempts).mpr (few (Bool.eq_false_iff.mpr ‹_›))
    dsimp only
    cases computed : backoff (s.attempts + 1) with
    | none => rw [computed] at some; cases some
    | some delay => exact ⟨waits, backoff_bounds computed, by simp [report, silent]⟩

/-! ### Failures in a row -/

/-- An opened connection ends a series of failures. A refusal is one, and so is the end of a
connection that was open. -/
def tally (n : Nat) : LiveEvent → Nat
  | .opened => 0
  | .refused | .left => n + 1
  | _ => n

/-- The failures since a connection last opened. -/
def failures (events : List LiveEvent) : Nat := events.foldl tally 0

/-- Before `close` no connection is refused after 1024 failures. -/
def Few (events : List LiveEvent) : Prop :=
  ∀ before after, events = before ++ .refused :: after → .close ∉ before → failures before < 1024

theorem Few.before {events later : List LiveEvent} (few : Few (events ++ later)) : Few events := by
  rintro before after rfl
  exact few before (after ++ later) (by simp)

theorem failures_le_length (events : List LiveEvent) : failures events ≤ events.length := by
  induction events using List.reverseRecOn with
  | nil => exact Nat.zero_le _
  | append_singleton events e ih =>
    rw [List.length_append, List.length_singleton]
    rw [failures, List.foldl_append, List.foldl_cons, List.foldl_nil, ← failures]
    cases e <;> simp only [tally] <;> omega

/-- A short run has few failures. -/
theorem few_of_length {events : List LiveEvent} (short : events.length ≤ 1024) : Few events := by
  rintro before after rfl -
  have most := failures_le_length before
  rw [List.length_append, List.length_cons] at short
  omega

@[simp] theorem loopHead_keeps : s.loopHead.closing = s.closing ∧ s.loopHead.attempts = s.attempts := by
  unfold loopHead
  split
  · exact ⟨rfl, rfl⟩
  · split <;> exact ⟨rfl, rfl⟩

@[simp] theorem afterTry_keeps_closing : s.afterTry.closing = s.closing := by
  unfold afterTry
  split
  · rfl
  · dsimp only
    split <;> rfl

/-- A failed try is counted. -/
theorem afterTry_attempts (running : s.closing = false) : s.afterTry.attempts = s.attempts + 1 := by
  unfold afterTry
  rw [running, if_neg Bool.false_ne_true]
  dsimp only
  split <;> rfl

theorem step_closing (fired : s.step e = .ok t) (other : e ≠ .close) : t.closing = s.closing := by
  cases step_resumes fired with
  | close => exact absurd rfl other
  | head => exact loopHead_keeps.1
  | refused | left => exact afterTry_keeps_closing
  | _ => rfl

theorem step_attempts (fired : s.step e = .ok t) (other : e ≠ .close) (running : s.closing = false) :
    t.attempts = tally s.attempts e := by
  unfold step at fired
  split at fired
  case h_1 => exact absurd rfl other
  case h_2 => cases fired; exact loopHead_keeps.2
  case h_4 | h_13 => cases fired; exact afterTry_attempts running
  case h_10 | h_16 => rw [running] at fired; cases fired
  case h_15 => cases fired; exact loopHead_keeps.2
  all_goals cases fired <;> rfl

/-- The task counts the failures, as long as it is not to end. -/
theorem attempts_eq {log : List (Fired Subscription LiveEvent)} (run : Run step subscribe log s) :
    (s.closing = true ↔ .close ∈ log.map Fired.act) ∧
      (s.closing = false → s.attempts = failures (log.map Fired.act)) := by
  induction run with
  | nil => exact ⟨by simp [subscribe], fun _ => rfl⟩
  | @snoc log s e t run fired ih =>
    rw [List.map_append, List.map_singleton, List.mem_append, List.mem_singleton, failures,
      List.foldl_append, ← failures]
    by_cases closes : e = .close
    · subst closes
      cases fired
      simp
    · have kept := step_closing fired closes
      rw [kept, ih.1, or_iff_left (Ne.symm closes)]
      refine ⟨Iff.rfl, fun running => ?_⟩
      rw [step_attempts fired closes running, ih.2 running]
      rfl

theorem step_healthy (fired : s.step e = .ok t)
    (few : e = .refused → s.closing = false → s.attempts < 1024) (healthy : s.Healthy) :
    t.Healthy := by
  obtain ⟨waits, sound⟩ := healthy
  cases step_resumes fired with
  | close =>
    -- Setting the event moves nothing.
    refine ⟨waits, ?_⟩
    revert sound
    dsimp only
    cases s.phase <;> simp +contextual [Sound]
  | head point =>
    apply loopHead_healthy waits
    rcases point with point | point <;> rwa [point] at sound
  | connects point =>
    rw [point] at sound
    exact ⟨waits, sound⟩
  | refused point =>
    rw [point] at sound
    exact afterTry_healthy waits sound (few rfl)
  | opened point =>
    rw [point] at sound
    exact ⟨waits, rfl, by simp [report, show .closed ∉ s.reported from sound]⟩
  | pumps point =>
    have silent : s.attempts = 0 ∧ .closed ∉ s.reported := by
      rcases point with point | point | point <;> rwa [point] at sound
    exact pumpHead_healthy waits silent.1 silent.2
  | handles point =>
    rw [point] at sound
    exact ⟨waits, sound⟩
  | leaves point =>
    refine ⟨waits, ?_⟩
    rcases point with point | point <;> rwa [point] at sound
  | left point =>
    -- The connection was open, so the counter starts again.
    rw [point] at sound
    refine afterTry_healthy waits sound.2 fun _ => ?_
    rw [sound.1]
    decide
  | sleeps point =>
    rw [point] at sound
    refine ⟨?_, sound.2⟩
    intro delay member
    rcases List.mem_append.mp member with old | new
    · exact waits delay old
    · rw [List.mem_singleton.mp new]
      exact sound.1
  | ends point =>
    rw [point] at sound
    exact ⟨waits, sound⟩

theorem subscribe_healthy : subscribe.Healthy :=
  ⟨by simp [subscribe], by simp [subscribe, Sound]⟩

/-- A run without too many failures in a row. -/
theorem run_healthy {log : List (Fired Subscription LiveEvent)} (run : Run step subscribe log s)
    (few : Few (log.map Fired.act)) : s.Healthy := by
  induction run with
  | nil => exact subscribe_healthy
  | @snoc log s e t run fired ih =>
    rw [List.map_append, List.map_singleton] at few
    refine step_healthy fired ?_ (ih few.before)
    rintro rfl running
    obtain ⟨closes, counted⟩ := attempts_eq run
    rw [counted running]
    refine few _ [] rfl fun close => ?_
    rw [closes.mpr close] at running
    cases running

/-! ### The end of the task -/

theorem afterTry_closing (closing : s.closing = true) :
    s.afterTry = s.report .closed .announcingClosed := if_pos closing

theorem loopHead_closing (closing : s.closing = true) :
    s.loopHead = s.report .closed .announcingClosed := if_pos closing

/-- Once the event is set, every step of the task brings it nearer to its end. -/
theorem step_lowers (fired : s.step e = .ok t) (inside : e ≠ .close) (closing : s.closing = true) :
    t.closing = true ∧ t.phase.remaining < s.phase.remaining := by
  cases step_resumes fired with
  | close => exact absurd rfl inside
  | head point =>
    rw [loopHead_closing closing]
    refine ⟨closing, ?_⟩
    rcases point with point | point <;> simp [point, Phase.remaining]
  | connects point => exact ⟨closing, by simp [point, Phase.remaining]⟩
  | refused point =>
    rw [afterTry_closing closing]
    exact ⟨closing, by simp [point, Phase.remaining]⟩
  | opened point => exact ⟨closing, by simp [point, Phase.remaining]⟩
  | pumps point =>
    refine ⟨closing, ?_⟩
    unfold pumpHead
    rw [if_pos closing]
    rcases point with point | point | point <;> simp [point, Phase.remaining]
  | handles point => exact ⟨closing, by simp [point, Phase.remaining]⟩
  | leaves point =>
    refine ⟨closing, ?_⟩
    rcases point with point | point <;> simp [point, Phase.remaining]
  | left point =>
    rw [afterTry_closing closing]
    exact ⟨closing, by simp [point, Phase.remaining]⟩
  | sleeps point => exact ⟨closing, by simp [point, Phase.remaining]⟩
  | ends point => exact ⟨closing, by simp [point, Phase.remaining]⟩

/-- A task that neither ended nor raised waits for something that happens. -/
theorem step_enabled (alive : s.phase ≠ .raised) :
    s.phase = .ended ∨ ∃ e, e ≠ .close ∧ (s.step e).isOk = true := by
  cases point : s.phase with
  | created => exact .inr ⟨.started, by decide, by simp [step, point, Except.isOk, Except.toBool]⟩
  | announcing | announcingOpen | announcingDrop _ | announcingClosed =>
    exact .inr ⟨.callbackReturned, by decide, by simp [step, point, Except.isOk, Except.toBool]⟩
  | connecting => exact .inr ⟨.refused, by decide, by simp [step, point, Except.isOk, Except.toBool]⟩
  | receiving => exact .inr ⟨.dropped, by decide, by simp [step, point, Except.isOk, Except.toBool]⟩
  | handling => exact .inr ⟨.handled, by decide, by simp [step, point, Except.isOk, Except.toBool]⟩
  | leaving => exact .inr ⟨.left, by decide, by simp [step, point, Except.isOk, Except.toBool]⟩
  | sleeping => exact .inr ⟨.timedOut, by decide, by simp [step, point, Except.isOk, Except.toBool]⟩
  | ended => exact .inl rfl
  | raised => exact absurd point alive

/-- The task goes on for five steps at most, and stops only where it has ended. -/
def Ends (s : Subscription) : Prop :=
  ∀ log u, Run step s log u → (∀ e ∈ log, e.act ≠ .close) →
    log.length ≤ 5 ∧ (u.phase = .ended ∨ ∃ e, e ≠ .close ∧ (u.step e).isOk = true)

theorem Healthy.ends (healthy : s.Healthy) (closing : s.closing = true) : s.Ends := by
  intro log u run inside
  have bounded : (u.closing = true ∧ u.Healthy) ∧
      log.length + u.phase.remaining ≤ s.phase.remaining := by
    refine @Run.length_le _ _ _ step s u log (fun s => s.closing = true ∧ s.Healthy)
      (fun e => e.act ≠ .close) (fun s => s.phase.remaining) ?_ run inside ⟨closing, healthy⟩
    intro e inside fired held
    obtain ⟨closing, lower⟩ := step_lowers fired inside held.1
    refine ⟨⟨closing, step_healthy fired ?_ held.2⟩, lower⟩
    -- The counter no longer matters.
    intro _ still
    rw [held.1] at still
    cases still
  obtain ⟨⟨_, healthy⟩, length⟩ := bounded
  refine ⟨?_, step_enabled fun raised => ?_⟩
  · have most : s.phase.remaining ≤ 5 := by cases s.phase <;> simp [Phase.remaining]
    omega
  · have sound := healthy.sound
    rw [raised] at sound
    exact sound

/-! ### The subscription heals -/

structure Heals (s : Subscription) : Prop where
  survives : s.phase ≠ .raised
  lasts : s.closing = false → s.phase ≠ .ended
  waits : ∀ delay ∈ s.waits, 0 ≤ delay ∧ delay ≤ maxBackoffSeconds
  ends : s.closing = true → s.Ends
  closed : s.phase = .ended → s.reported.getLast? = some .closed ∧ s.reported.count .closed = 1

theorem Healthy.heals (healthy : s.Healthy) : s.Heals where
  survives := by
    intro raised
    have sound := healthy.sound
    rw [raised] at sound
    exact sound
  lasts := by
    intro still ended
    have sound := healthy.sound
    rw [ended] at sound
    rw [sound.1] at still
    cases still
  waits := healthy.waits
  ends := healthy.ends
  closed := by
    intro ended
    have sound := healthy.sound
    rw [ended] at sound
    obtain ⟨_, earlier, reported, silent⟩ := sound
    rw [reported]
    exact ⟨by simp, by simp [List.count_append, List.count_eq_zero_of_not_mem silent]⟩

theorem step_refused (fired : s.step .refused = .ok t) : t = s.afterTry := by
  unfold step at fired
  cases point : s.phase with
  | connecting =>
    rw [point] at fired
    exact (Except.ok.inj fired).symm
  | _ =>
    rw [point] at fired
    cases fired

/-- The refusal after 1024 others ends the task with an exception. -/
theorem afterTry_raised (running : s.closing = false) (many : 1024 ≤ s.attempts) :
    s.afterTry.phase = .raised := by
  have none : backoff (s.attempts + 1) = none := by
    rw [← Option.not_isSome_iff_eq_none, backoff_isSome]
    omega
  unfold afterTry
  simp only [running, Bool.false_eq_true, if_false, none]

/-- The subscription heals in every state of a run exactly if before `close` no connection is refused
after 1024 failures: after 1024 refusals at the start, or after the loss of a connection and 1023
refusals. -/
theorem task_heals_iff {log : List (Fired Subscription LiveEvent)} (run : Run step subscribe log s) :
    (subscribe.Heals ∧ ∀ e ∈ log, e.post.Heals) ↔ Few (log.map Fired.act) := by
  constructor
  · -- The refusal that comes too late computes a power that is no float.
    rintro ⟨-, heals⟩ before after split still
    by_contra many
    obtain ⟨front, rest, rfl, rfl, later⟩ := List.map_eq_append_iff.mp split
    obtain ⟨e, back, rfl, refused, -⟩ := List.map_eq_cons_iff.mp later
    obtain ⟨start, fired, -⟩ := run.around
    obtain ⟨closes, counted⟩ := attempts_eq start
    have running : e.pre.closing = false := by
      rw [← Bool.not_eq_true, closes]
      exact still
    rw [refused] at fired
    apply (heals e (by simp)).survives
    rw [step_refused fired]
    refine afterTry_raised running ?_
    rw [counted running]
    exact not_lt.mp many
  · intro few
    -- Every part of the run meets the condition as well.
    refine ⟨subscribe_healthy.heals, fun e member => ?_⟩
    obtain ⟨before, after, rfl⟩ := List.append_of_mem member
    obtain ⟨start, fired, -⟩ := run.around
    refine (run_healthy (start.snoc fired) ?_).heals
    rw [List.append_cons, List.map_append] at few
    exact few.before

/-- Events of a run with one refusal, a message whose handler raises, and a call of `close`. -/
def sampleEvents : List LiveEvent :=
  [.started, .callbackReturned, .refused, .callbackReturned, .timedOut, .callbackReturned, .opened,
    .callbackReturned, .frame, .handlerRaised, .left, .callbackReturned, .close, .woken,
    .callbackReturned]

theorem task_heals_iff_sample :
    (sampleEvents.foldl (settle step) subscribe).phase = .ended ∧
      subscribe.Heals ∧ ∀ e ∈ trace step subscribe sampleEvents, e.post.Heals :=
  ⟨by decide +kernel,
    (task_heals_iff (.of_trace step subscribe sampleEvents)).mpr (few_of_length (by decide +kernel))⟩

theorem loopHead_again (running : s.closing = false) (tried : s.attempts ≠ 0) :
    s.loopHead = s.report .reconnecting .announcing := by
  unfold loopHead
  rw [running, if_neg (by decide), if_neg tried]

/-- One round of the loop in which the connection is refused. -/
theorem refused_round (point : s.phase = .connecting) (running : s.closing = false) (few : s.attempts < 1024) :
    ∃ log t, Run step s log t ∧ t.phase = .connecting ∧ t.closing = false ∧
      t.attempts = s.attempts + 1 := by
  -- Below 1024 attempts the wait is computed, so the loop goes round: wait, time out, report.
  obtain ⟨delay, computed⟩ := Option.isSome_iff_exists.mp ((backoff_isSome s.attempts).mpr few)
  have refused : s.step .refused =
      .ok ({ s with attempts := s.attempts + 1 }.report .reconnecting (.announcingDrop delay)) := by
    unfold step
    rw [point]
    simp only [afterTry, report, running, Bool.false_eq_true, if_false, computed]
  generalize dropped : ({ s with attempts := s.attempts + 1 } : Subscription).report .reconnecting
    (.announcingDrop delay) = t at refused
  have waits : t.step .callbackReturned =
      .ok { t with phase := .sleeping, waits := t.waits ++ [delay] } := by
    unfold step
    rw [← dropped]
    rfl
  have again : ({ t with phase := .sleeping, waits := t.waits ++ [delay] } : Subscription).step .timedOut =
      .ok (({ t with phase := .sleeping, waits := t.waits ++ [delay] } : Subscription).report
        .reconnecting .announcing) := by
    rw [← loopHead_again]
    · rfl
    · rw [← dropped]
      exact running
    · rw [← dropped]
      exact Nat.succ_ne_zero _
  refine ⟨_, _, .cons refused (.cons waits (.cons again (.cons (a := .callbackReturned) rfl .nil))),
    rfl, ?_, ?_⟩
  · rw [← dropped]
    exact running
  · rw [← dropped]
    rfl

theorem refusals (k : Nat) (few : k ≤ 1024) :
    ∃ log t, Run step subscribe log t ∧ t.phase = .connecting ∧ t.closing = false ∧ t.attempts = k := by
  induction k with
  | zero =>
    exact ⟨_, _, .cons (a := .started) rfl (.cons (a := .callbackReturned) rfl .nil), rfl, rfl, rfl⟩
  | succ k ih =>
    obtain ⟨log, s, run, point, running, attempts⟩ := ih (by omega)
    obtain ⟨more, t, rest, point', running', attempts'⟩ := refused_round point running (by omega)
    exact ⟨_, t, run.append rest, point', running', by rw [attempts', attempts]⟩

/-- The 1025th refusal in a row is one too many. -/
theorem task_raises : ¬∀ log s, Run step subscribe log s → s.Heals := by
  intro heals
  obtain ⟨log, s, run, point, running, attempts⟩ := refusals 1024 (le_refl _)
  have refused : s.step .refused = .ok s.afterTry := by
    unfold step
    rw [point]
  exact (heals _ _ (run.snoc refused)).survives (afterTry_raised running (by omega))

end Subscription
end Python
end AgentFuel.Clients
