import AgentFuel.Clients.MobileChannels

/-!
# Calls of the WebSocket service one after the other

The service does not wait for a call that is under way. Where its callers do, it holds one connection:
what a call takes away is closed by then, and what it opens is stored.
-/
namespace AgentFuel.Clients.Mobile

open Transition

namespace AgentFuelWsService

variable (s : AgentFuelWsService)

/-- A call that may open a channel begins when no call is under way, and a call that only closes one
when none is that may open one. A new path is watched only where none was, or after a `stop()`. -/
def Alone (s : AgentFuelWsService) : WsAction → Prop
  | .watch path _ => s.tasks = [] ∧ (s.watched = none ∨ s.watched = some path ∨ s.ended = true)
  | .reconnect | .reconnectFired | .lifecycle .resumed _ => s.tasks = []
  | .stop | .dispose | .lifecycle .paused _ | .lifecycle .detached _ =>
    ∀ task ∈ s.tasks, task.after ≠ .connect
  | _ => True

instance Alone.decidable (act : WsAction) : Decidable (s.Alone act) :=
  match act with
  | .watch _ _ => inferInstanceAs (Decidable (_ ∧ (_ ∨ _ ∨ _)))
  | .reconnect | .reconnectFired | .lifecycle .resumed _ => inferInstanceAs (Decidable (s.tasks = []))
  | .stop | .dispose | .lifecycle .paused _ | .lifecycle .detached _ =>
    inferInstanceAs (Decidable (∀ task ∈ s.tasks, task.after ≠ .connect))
  | .lifecycle .inactive _ | .lifecycle .hidden _ | .pingFailed | .resume _ _ | .ready _ _ | .frame _
  | .streamError _ | .streamDone _ | .lost _ => isTrue trivial

/-! ### What such a run keeps -/

/-- Every channel has closed. -/
def Quiet : Prop := ∀ c, (s.channels c).state = .gone

/-- What is open is stored. A call waits for the stored channel to close, and when it goes on nothing
is open; a call that may open a channel is the only one. -/
structure Calm : Prop where
  held : ∀ c, (s.channels c).state ≠ .gone → s.channel = some c
  closing : ∀ task ∈ s.tasks, ∀ channel, task.point = .closingSink channel →
    ∀ c, ¬ s.Live c ∧ ((s.channels c).state ≠ .gone → channel = some c)
  returning : ∀ task ∈ s.tasks, task.point = .returning → s.Quiet
  alone : ∀ task ∈ s.tasks, task.after = .connect → s.tasks = [task]

variable {s : AgentFuelWsService} {t : AgentFuelWsService} {act : WsAction}

/-- Channels may close by themselves. -/
theorem Calm.of_eq (calm : s.Calm) (tasks : t.tasks = s.tasks) (channel : t.channel = s.channel)
    (closes : ∀ c, (t.channels c).state = (s.channels c).state ∨ (t.channels c).state = .gone) :
    t.Calm := by
  have open' : ∀ c, (t.channels c).state ≠ .gone → (t.channels c).state = (s.channels c).state :=
    fun c stays => (closes c).resolve_right stays
  refine ⟨?_, ?_, ?_, ?_⟩
  · intro c stays
    rw [channel]
    exact calm.held c (open' c stays ▸ stays)
  · intro task member waited point c
    rw [tasks] at member
    obtain ⟨told, stored⟩ := calm.closing task member waited point c
    refine ⟨fun live => ?_, fun stays => stored (open' c stays ▸ stays)⟩
    have stays : (t.channels c).state ≠ .gone := by
      rw [show (t.channels c).state = .live from live]
      decide
    exact told ((open' c stays).symm.trans live)
  · intro task member point c
    rw [tasks] at member
    have gone := calm.returning task member point c
    rcases closes c with same | gone'
    · rw [same, gone]
    · exact gone'
  · intro task member after
    rw [tasks] at member ⊢
    exact calm.alone task member after

theorem scheduleReconnect_calm (calm : s.Calm) : s.scheduleReconnect.Calm := by
  unfold scheduleReconnect
  split
  · exact calm
  · exact calm.of_eq rfl rfl fun _ => .inl rfl

theorem updateChannel_calm (calm : s.Calm) (c : Nat) {f : WebSocketChannel → WebSocketChannel}
    (closes : ∀ channel, (f channel).state = channel.state ∨ (f channel).state = .gone) :
    (s.updateChannel c f).Calm := by
  refine calm.of_eq rfl rfl fun other => ?_
  rw [updateChannel_apply]
  split
  next same =>
    rw [same]
    exact closes _
  · exact .inl rfl

/-- A new call that disconnects is under way beside those that only close. -/
theorem disconnect_calm (calm : s.Calm) {after : After}
    (alone : s.tasks = [] ∨ after ≠ .connect ∧ ∀ task ∈ s.tasks, task.after ≠ .connect) :
    (s.disconnect after).Calm := by
  have states : ∀ c, ((s.disconnect after).channels c).state = (s.channels c).state := by
    intro c
    unfold disconnect
    rw [updateReferred_eq]
    dsimp only
    split <;> rfl
  have tasks : (s.disconnect after).tasks = s.tasks ++ [⟨.cancelling, after⟩] := by
    unfold disconnect
    rw [updateReferred_eq]
  have channel : (s.disconnect after).channel = s.channel := by
    unfold disconnect
    rw [updateReferred_eq]
  refine ⟨?_, ?_, ?_, ?_⟩
  · intro c stays
    rw [states] at stays
    rw [channel]
    exact calm.held c stays
  · -- The new call waits for a cancellation, not yet for a sink.
    intro task member waited point c
    rw [tasks] at member
    rw [live_disconnect, states]
    rcases List.mem_append.mp member with old | new
    · exact calm.closing task old waited point c
    · rw [List.mem_singleton.mp new] at point
      cases point
  · intro task member point c
    rw [tasks] at member
    rw [states]
    rcases List.mem_append.mp member with old | new
    · exact calm.returning task old point c
    · rw [List.mem_singleton.mp new] at point
      cases point
  · intro task member later
    rw [tasks] at member ⊢
    -- A call that connects is the only one.
    rcases alone with none | ⟨other, others⟩
    · rw [none, List.nil_append] at member ⊢
      rw [List.mem_singleton.mp member]
    · rcases List.mem_append.mp member with old | new
      · exact absurd later (others task old)
      · rw [List.mem_singleton.mp new] at later
        exact absurd later other

/-! ### Opening a channel -/

theorem openChannel_calm (quiet : s.Quiet) (none : s.tasks = []) (path : String) :
    (s.openChannel path).Calm := by
  have tasks : (s.openChannel path).tasks = [] := none
  refine ⟨?_, by simp [tasks], by simp [tasks], by simp [tasks]⟩
  intro c stays
  unfold openChannel at stays ⊢
  dsimp only at stays ⊢
  rw [Function.update_apply] at stays
  split at stays
  next same => rw [same]
  next => exact absurd (quiet c) stays

theorem connect_calm (calm : s.Calm) (quiet : s.Quiet) (none : s.tasks = []) (opens : Bool) :
    (s.connect opens).Calm := by
  unfold connect
  split
  · exact calm
  · split
    · exact calm
    · split
      · exact openChannel_calm quiet none _
      · exact scheduleReconnect_calm calm

/-! ### Resumptions -/

theorem index_single {i : Nat} {task old : Task} (found : [task][i]? = some old) : i = 0 := by
  simpa using (List.getElem?_eq_some_iff.mp found).1

theorem alone_set {tasks : List Task} {i : Nat} {old new task : Task}
    (alone : ∀ task ∈ tasks, task.after = .connect → tasks = [task]) (found : tasks[i]? = some old)
    (same : new.after = old.after) (member : task ∈ tasks.set i new) (after : task.after = .connect) :
    tasks.set i new = [task] := by
  have only : ∀ other ∈ tasks, other.after = .connect → tasks.set i new = [new] := by
    intro other held connects
    have single := alone other held connects
    rw [single] at found ⊢
    rw [index_single found]
    rfl
  have single : tasks.set i new = [new] := by
    rcases List.mem_or_eq_of_mem_set member with before | rfl
    · exact only task before after
    · exact only old (List.mem_of_getElem? found) (same.symm.trans after)
  rw [single] at member ⊢
  rw [List.mem_singleton.mp member]

theorem cancelling_calm {i : Nat} {after : After} (calm : s.Calm) (inv : s.Inv)
    (found : s.tasks[i]? = some ⟨.cancelling, after⟩) (opens : Bool) :
    (s.resumeTask i opens ⟨.cancelling, after⟩).Calm := by
  have stays := cancelling_stays inv found opens
  have tasks : (s.resumeTask i opens ⟨.cancelling, after⟩).tasks =
      s.tasks.set i ⟨.closingSink s.channel, after⟩ := by
    unfold resumeTask
    dsimp only
    rw [updateReferred_eq]
  have held : ∀ c, ((s.resumeTask i opens ⟨.cancelling, after⟩).channels c).state ≠ .gone →
      s.channel = some c := by
    -- No step takes a channel out of the field before it is closed.
    intro c open'
    exact calm.held c fun gone => open' (stays.gone c gone)
  refine ⟨?_, ?_, ?_, ?_⟩
  · intro c open'
    rw [stays.channel]
    exact held c open'
  · intro task member waited point c
    rw [tasks] at member
    rcases List.mem_or_eq_of_mem_set member with before | rfl
    · obtain ⟨told, stored⟩ := calm.closing task before waited point c
      exact ⟨fun live => told (stays.live c live), fun open' => stored fun gone => open' (stays.gone c gone)⟩
    · -- The stored channel is told to close.
      obtain rfl := Suspension.closingSink.inj point
      refine ⟨fun live => ?_, held c⟩
      have stored := held c fun gone => by cases gone.symm.trans live
      unfold Live resumeTask at live
      dsimp only at live
      rw [updateReferred_eq] at live
      dsimp only at live
      rw [if_pos stored] at live
      dsimp only at live
      split at live
      · cases live
      next told => exact told live
  · intro task member point c
    rw [tasks] at member
    rcases List.mem_or_eq_of_mem_set member with before | rfl
    · exact stays.gone c (calm.returning task before point c)
    · cases point
  · intro task member later
    rw [tasks] at member ⊢
    exact alone_set calm.alone found rfl member later

theorem closingSink_quiet {i : Nat} {channel : Option Nat} {after : After} (calm : s.Calm)
    (found : s.tasks[i]? = some ⟨.closingSink channel, after⟩) (opens : Bool) :
    (s.resumeTask i opens ⟨.closingSink channel, after⟩).Quiet := by
  intro c
  rw [closingSink_eq]
  dsimp only
  split
  · rfl
  next other =>
    by_contra open'
    exact other ((calm.closing _ (List.mem_of_getElem? found) channel rfl c).2 open')

theorem closingSink_calm {i : Nat} {channel : Option Nat} {after : After} (calm : s.Calm)
    (found : s.tasks[i]? = some ⟨.closingSink channel, after⟩) (opens : Bool) :
    (s.resumeTask i opens ⟨.closingSink channel, after⟩).Calm := by
  have quiet := closingSink_quiet calm found opens
  have tasks : (s.resumeTask i opens ⟨.closingSink channel, after⟩).tasks =
      s.tasks.set i ⟨.returning, after⟩ := by
    rw [closingSink_eq]
  refine ⟨fun c open' => absurd (quiet c) open', ?_, fun _ _ _ => quiet, ?_⟩
  · intro task _ waited _ c
    refine ⟨fun live => ?_, fun open' => absurd (quiet c) open'⟩
    cases (quiet c).symm.trans live
  · intro task member later
    rw [tasks] at member ⊢
    exact alone_set calm.alone found rfl member later

theorem returning_calm {i : Nat} {after : After} (calm : s.Calm)
    (found : s.tasks[i]? = some ⟨.returning, after⟩) (opens : Bool) :
    (s.resumeTask i opens ⟨.returning, after⟩).Calm := by
  have held := List.mem_of_getElem? found
  have quiet := calm.returning _ held rfl
  have subset : s.tasks.eraseIdx i ⊆ s.tasks := List.eraseIdx_subset
  have only : ∀ task ∈ s.tasks, task.after = .connect → s.tasks.eraseIdx i = [] := by
    intro task member later
    have single := calm.alone task member later
    rw [single] at found ⊢
    rw [index_single found]
    rfl
  have left : ({ s with tasks := s.tasks.eraseIdx i } : AgentFuelWsService).Calm := by
    refine ⟨calm.held, fun task member => calm.closing task (subset member),
      fun task member => calm.returning task (subset member), fun task member later => ?_⟩
    -- A call that may open a channel was the only one, and this one has gone.
    have none : task ∈ [] := only task (subset member) later ▸ member
    cases none
  cases after with
  | connect => exact connect_calm left quiet (only _ held rfl) opens
  | stop watches => exact left.of_eq rfl rfl fun _ => .inl rfl
  | nothing => exact left

/-! ### Every step -/

theorem step_calm (inv : s.Inv) (calm : s.Calm) (alone : s.Alone act) (fired : s.step act = .ok t) :
    t.Calm := by
  cases act with
  | watch path headers =>
    cases fired
    unfold watch
    dsimp only
    split
    · exact calm.of_eq rfl rfl fun _ => .inl rfl
    · refine disconnect_calm ?_ (.inl alone.1)
      exact calm.of_eq rfl rfl fun _ => .inl rfl
  | stop =>
    cases fired
    refine disconnect_calm ?_ (.inr ⟨(fun other => by cases other), alone⟩)
    exact calm.of_eq rfl rfl fun _ => .inl rfl
  | dispose =>
    cases fired
    refine disconnect_calm ?_ (.inr ⟨(fun other => by cases other), alone⟩)
    exact calm.of_eq rfl rfl fun _ => .inl rfl
  | reconnect =>
    cases fired
    unfold reconnect
    split
    · exact calm
    · exact disconnect_calm calm (.inl alone)
  | lifecycle state opens =>
    simp only [step] at fired
    split at fired <;> cases fired
    cases state with
    | resumed =>
      unfold didChangeAppLifecycleState
      dsimp only
      split
      next asked =>
        -- No channel is stored, so every one has closed.
        have quiet : s.Quiet := by
          intro c
          by_contra open'
          cases asked.2.symm.trans (calm.held c open')
        have running : ({ s with stopped := false } : AgentFuelWsService).Calm :=
          calm.of_eq rfl rfl fun _ => .inl rfl
        exact connect_calm running quiet alone opens
      · exact calm
    | paused | detached =>
      exact disconnect_calm calm (.inr ⟨(fun other => by cases other), alone⟩)
    | inactive | hidden => exact calm
  | reconnectFired =>
    simp only [step] at fired
    split at fired <;> cases fired
    refine disconnect_calm ?_ (.inl alone)
    exact calm.of_eq rfl rfl fun _ => .inl rfl
  | pingFailed =>
    simp only [step] at fired
    split at fired <;> cases fired
    exact scheduleReconnect_calm calm
  | resume i opens =>
    simp only [step] at fired
    split at fired
    next task found =>
      cases fired
      obtain ⟨point, after⟩ := task
      cases point with
      | cancelling => exact cancelling_calm calm inv found opens
      | closingSink channel => exact closingSink_calm calm found opens
      | returning => exact returning_calm calm found opens
    · cases fired
  | ready c ok =>
    simp only [step] at fired
    split at fired <;> cases fired
    have first := updateChannel_calm calm c (f := fun channel => { channel with pending := false })
      fun _ => .inl rfl
    split
    · split
      · exact first
      · exact first.of_eq rfl rfl fun _ => .inl rfl
    · exact scheduleReconnect_calm (updateChannel_calm first c fun _ => .inr rfl)
  | frame c =>
    simp only [step] at fired
    split at fired <;> cases fired
    exact calm
  | streamError c =>
    simp only [step] at fired
    split at fired <;> cases fired
    exact scheduleReconnect_calm (updateChannel_calm calm c fun _ => .inl rfl)
  | streamDone c =>
    simp only [step] at fired
    split at fired <;> cases fired
    exact scheduleReconnect_calm (updateChannel_calm calm c fun _ => .inl rfl)
  | lost c =>
    cases fired
    exact updateChannel_calm calm c fun _ => .inr rfl

theorem initial_calm : initial.Calm where
  held _ open' := absurd rfl open'
  closing _ member := by cases member
  returning _ member := by cases member
  alone _ member := by cases member

/-- A step of such a run finds what it needs. -/
theorem Calm.finds (calm : s.Calm) (one : s.OneConnection) (alone : s.Alone act) : s.Finds act := by
  cases act with
  | watch path headers =>
    intro c live
    have watched := one.path c live
    rcases alone.2 with none | same | ended
    · cases none.symm.trans watched
    · exact (Option.some.inj (same.symm.trans watched)).symm
    · cases (one.ended ended c).symm.trans live
  | resume i opens =>
    unfold Finds
    dsimp only
    split
    next channel after found =>
      exact fun c => (calm.closing _ (List.mem_of_getElem? found) _ rfl c).1
    next found =>
      intro _ _ _ c live
      cases (calm.returning _ (List.mem_of_getElem? found) rfl c).symm.trans live
    next found => exact fun _ => calm.returning _ (List.mem_of_getElem? found) rfl
    next => trivial
  | _ => trivial

/-- In a run in which no call that may open a channel overlaps with another call, and a new path is
watched only after a `stop()`, there is one connection throughout. -/
theorem one_connection {log : List (Fired AgentFuelWsService WsAction)} (run : Run step initial log s)
    (alone : ∀ e ∈ log, e.pre.Alone e.act) : ∀ e ∈ log, e.post.OneConnection := by
  refine (one_connection_iff run).mpr fun e member => ?_
  obtain ⟨before, after, rfl⟩ := List.append_of_mem member
  have kept : e.pre.Inv ∧ e.pre.Calm ∧ e.pre.OneConnection := by
    refine run.around.1.preserves (I := fun s => s.Inv ∧ s.Calm ∧ s.OneConnection)
      (A := fun e => e.pre.Alone e.act) ?_
      (fun d earlier => alone d (List.mem_append_left _ earlier)) ⟨initial_inv, initial_calm, initial_one⟩
    rintro d alone fired ⟨inv, calm, one⟩
    have settles := step_settles inv fired
    exact ⟨settles.inv, step_calm inv calm alone fired, (settles.one one).mpr (calm.finds one alone)⟩
  exact kept.2.1.finds kept.2.2 (alone e member)

/-- A path is watched, connected to once more, left by `stop()` while the app is paused, and another one
is watched. -/
def switch : List WsAction :=
  [.watch "/ws/agents/A" none, .resume 0 true, .resume 0 true, .resume 0 true, .ready 0 true, .frame 0,
    .reconnect, .resume 0 true, .resume 0 true, .resume 0 true, .ready 1 true,
    .lifecycle .paused true, .stop, .resume 0 true, .resume 1 true, .resume 0 true, .resume 1 true,
    .resume 0 true, .resume 0 true,
    .watch "/ws/agents/B" none, .resume 0 true, .resume 0 true, .resume 0 true, .ready 2 true, .frame 2]

theorem one_connection_switch :
    ((switch.foldl (settle step) initial).channels 2).state = .live ∧
      (trace step initial switch).length = switch.length ∧
      ∀ e ∈ trace step initial switch, e.post.OneConnection :=
  ⟨by decide, by decide, one_connection (.of_trace step initial switch) (by decide)⟩

/-- Two calls that overlap have a channel each. -/
theorem two_connections : ∃ log s, Run step initial log s ∧ s.Live 0 ∧ s.Live 1 := by
  have run : Run step initial _ _ :=
    .cons (a := .watch "/ws/agents/A" none) rfl (.cons (a := .watch "/ws/agents/A" none) rfl
      -- The subscriptions are cancelled, the channels closed, and each call connects.
      (.cons (a := .resume 0 true) rfl (.cons (a := .resume 1 true) rfl
        (.cons (a := .resume 0 true) rfl (.cons (a := .resume 1 true) rfl
          (.cons (a := .resume 0 true) rfl (.cons (a := .resume 0 true) rfl .nil)))))))
  exact ⟨_, _, run, rfl, rfl⟩

end AgentFuelWsService

end AgentFuel.Clients.Mobile
