import AgentFuel.Clients.MobileWs

/-!
# What each step of the WebSocket service must find

A step opens a channel, takes the stored one away or leaves both alone. There is one connection
throughout a run exactly if every step finds what it needs for that.
-/
namespace AgentFuel.Clients.Mobile

open Transition

namespace AgentFuelWsService

variable (s : AgentFuelWsService)

/-- What a step must find for that to stay. -/
def Finds (s : AgentFuelWsService) : WsAction → Prop
  | .watch path _ => ∀ c, s.Live c → (s.channels c).path = path
  | .resume i opens =>
    match s.tasks[i]? with
    | some ⟨.closingSink _, _⟩ => ∀ c, ¬ s.Live c
    | some ⟨.returning, .connect⟩ =>
      opens = true → s.stopped = false → s.currentPath ≠ none → ∀ c, ¬ s.Live c
    | some ⟨.returning, .stop watches⟩ =>
      watches = s.watches → ∀ c, (s.channels c).state = .gone
    | _ => True
  | _ => True

/-! ### What every run keeps -/

/-- No `watch` is in force. -/
def Still : Prop := s.stopped = true ∧ s.currentPath = none

structure Inv : Prop where
  live : ∀ c, s.Live c → c < s.created
  stored : ∀ c, s.channel = some c → c < s.created
  /-- What a task waits to see closed was told to close. -/
  closing : ∀ task ∈ s.tasks, ∀ c, task.point = .closingSink (some c) → c < s.created ∧ ¬ s.Live c
  watched : ∀ path, s.currentPath = some path → s.watched = some path
  earlier : ∀ task ∈ s.tasks, ∀ watches, task.after = .stop watches → watches ≤ s.watches
  stops : ∀ task ∈ s.tasks, task.after = .stop s.watches → s.Still
  ended : s.ended = true → s.Still

/-- A step that opens no channel and is no `watch`. -/
structure Keeps (s t : AgentFuelWsService) : Prop where
  live : ∀ c, t.Live c → s.Live c
  gone : ∀ c, (s.channels c).state = .gone → (t.channels c).state = .gone
  path : ∀ c, (t.channels c).path = (s.channels c).path
  created : t.created = s.created
  stored : ∀ c, t.channel = some c → s.channel = some c
  current : ∀ path, t.currentPath = some path → s.currentPath = some path
  still : s.Still → t.Still
  watched : t.watched = s.watched
  watches : t.watches = s.watches
  closing : ∀ task ∈ t.tasks, ∀ c, task.point = .closingSink (some c) →
    task ∈ s.tasks ∨ c < s.created ∧ ¬ t.Live c
  stops : ∀ task ∈ t.tasks, ∀ watches, task.after = .stop watches →
    (∃ old ∈ s.tasks, old.after = .stop watches) ∨ watches = s.watches ∧ t.Still
  ended : t.ended = true → s.ended = true ∨ ∃ task ∈ s.tasks, task.after = .stop s.watches

/-- A step that leaves the stored channel alone as well. -/
structure Stays (s t : AgentFuelWsService) : Prop extends Keeps s t where
  channel : t.channel = s.channel
  finished : t.ended = s.ended

variable {s : AgentFuelWsService} {t : AgentFuelWsService} {act : WsAction} {path : String}

theorem Keeps.inv (keeps : Keeps s t) (inv : s.Inv) : t.Inv where
  live c live := by
    rw [keeps.created]
    exact inv.live c (keeps.live c live)
  stored c stored := by
    rw [keeps.created]
    exact inv.stored c (keeps.stored c stored)
  closing task member c point := by
    rw [keeps.created]
    rcases keeps.closing task member c point with old | new
    · obtain ⟨known, told⟩ := inv.closing task old c point
      exact ⟨known, fun live => told (keeps.live c live)⟩
    · exact new
  watched path current := by
    rw [keeps.watched]
    exact inv.watched path (keeps.current path current)
  earlier task member watches after := by
    rw [keeps.watches]
    rcases keeps.stops task member watches after with ⟨old, member, after⟩ | ⟨rfl, -⟩
    · exact inv.earlier old member watches after
    · exact Nat.le_refl _
  stops task member after := by
    rw [keeps.watches] at after
    rcases keeps.stops task member _ after with ⟨old, member, after⟩ | ⟨-, still⟩
    · exact keeps.still (inv.stops old member after)
    · exact still
  ended ended := by
    rcases keeps.ended ended with before | ⟨task, member, after⟩
    · exact keeps.still (inv.ended before)
    · exact keeps.still (inv.stops task member after)

theorem Stays.one (stays : Stays s t) (one : s.OneConnection) : t.OneConnection where
  stored c live := by
    rw [stays.channel]
    exact one.stored c (stays.live c live)
  path c live := by
    rw [stays.watched, stays.toKeeps.path]
    exact one.path c (stays.live c live)
  ended ended c := by
    rw [stays.finished] at ended
    exact stays.gone c (one.ended ended c)

/-! ### The parts of a step -/

/-- Fields that no statement here reads may change. -/
theorem stays_of_eq (channels : ∀ c, (t.channels c).state = (s.channels c).state ∧
      (t.channels c).path = (s.channels c).path) (created : t.created = s.created)
    (channel : t.channel = s.channel) (current : t.currentPath = s.currentPath)
    (stopped : t.stopped = s.stopped) (watched : t.watched = s.watched)
    (watches : t.watches = s.watches) (tasks : t.tasks = s.tasks) (ended : t.ended = s.ended) :
    Stays s t where
  live c live := by
    unfold Live at *
    rwa [← (channels c).1]
  gone c gone := by rw [(channels c).1, gone]
  path c := (channels c).2
  created := created
  stored c stored := by rwa [← channel]
  current path some := by rwa [← current]
  still still := by
    unfold Still at *
    rwa [stopped, current]
  watched := watched
  watches := watches
  closing task member c _ := .inl (tasks ▸ member)
  stops task member watches after := .inl ⟨task, tasks ▸ member, after⟩
  ended some := .inl (ended ▸ some)
  channel := channel
  finished := ended

theorem scheduleReconnect_stays (s : AgentFuelWsService) : Stays s s.scheduleReconnect := by
  unfold scheduleReconnect
  split <;> exact stays_of_eq (fun _ => ⟨rfl, rfl⟩) rfl rfl rfl rfl rfl rfl rfl rfl

theorem updateChannel_apply (s : AgentFuelWsService) (c other : Nat)
    (f : WebSocketChannel → WebSocketChannel) :
    (s.updateChannel c f).channels other = if other = c then f (s.channels c) else s.channels other :=
  Function.update_apply ..

/-- A channel may be told to close and may be lost, never the other way. -/
theorem updateChannel_stays (s : AgentFuelWsService) (c : Nat) (f : WebSocketChannel → WebSocketChannel)
    (live : ∀ channel, (f channel).state = .live → channel.state = .live)
    (gone : ∀ channel, channel.state = .gone → (f channel).state = .gone)
    (path : ∀ channel, (f channel).path = channel.path) : Stays s (s.updateChannel c f) where
  live other := by
    unfold Live
    rw [updateChannel_apply]
    split
    next same =>
      rw [same]
      exact live _
    · exact id
  gone other := by
    rw [updateChannel_apply]
    split
    next same =>
      rw [same]
      exact gone _
    · exact id
  path other := by
    rw [updateChannel_apply]
    split
    next same =>
      rw [same]
      exact path _
    · rfl
  created := rfl
  stored _ := id
  current _ := id
  still := id
  watched := rfl
  watches := rfl
  closing _ member _ _ := .inl member
  stops task member _ after := .inl ⟨task, member, after⟩
  ended := .inl
  channel := rfl
  finished := rfl

theorem updateReferred_eq (s : AgentFuelWsService) (channel : Option Nat)
    (f : WebSocketChannel → WebSocketChannel) :
    s.updateReferred channel f = { s with
      channels := fun c => if channel = some c then f (s.channels c) else s.channels c } := by
  cases channel with
  | none => simp [updateReferred]
  | some stored =>
    have channels : Function.update s.channels stored (f (s.channels stored)) =
        fun c => if some stored = some c then f (s.channels c) else s.channels c := by
      funext c
      rw [Function.update_apply]
      by_cases same : c = stored
      · simp [same]
      · rw [if_neg same, if_neg fun other => same (Option.some.inj other).symm]
    exact congrArg (fun channels => { s with channels }) channels

theorem disconnect_stays (s : AgentFuelWsService) (after : After)
    (stop : after = .stop s.watches ∧ s.Still ∨ ∀ watches, after ≠ .stop watches) :
    Stays s (s.disconnect after) := by
  unfold disconnect
  rw [updateReferred_eq]
  refine ⟨⟨?_, ?_, ?_, rfl, fun _ => id, fun _ => id, id, rfl, rfl, ?_, ?_, .inl⟩, rfl, rfl⟩
  -- Only the subscription of a channel is cancelled.
  · intro c live
    unfold Live at *
    dsimp only at live
    split at live <;> exact live
  · intro c gone
    dsimp only
    split <;> exact gone
  · intro c
    dsimp only
    split <;> rfl
  · intro task member c point
    rcases List.mem_append.mp member with old | new
    · exact .inl old
    · rw [List.mem_singleton.mp new] at point
      cases point
  · intro task member watches later
    rcases List.mem_append.mp member with old | new
    · exact .inl ⟨task, old, later⟩
    · rw [List.mem_singleton.mp new] at later
      dsimp only at later
      rcases stop with ⟨same, still⟩ | other
      · rw [later] at same
        exact .inr ⟨After.stop.inj same, still⟩
      · exact absurd later (other watches)

theorem erase_stays (s : AgentFuelWsService) (i : Nat) :
    Stays s { s with tasks := s.tasks.eraseIdx i } := by
  have subset : s.tasks.eraseIdx i ⊆ s.tasks := List.eraseIdx_subset
  exact ⟨⟨fun _ => id, fun _ => id, fun _ => rfl, rfl, fun _ => id, fun _ => id, id, rfl, rfl,
    fun _ member _ _ => .inl (subset member),
    fun task member _ after => .inl ⟨task, subset member, after⟩, .inl⟩, rfl, rfl⟩

/-! ### Opening a channel -/

theorem live_openChannel (s : AgentFuelWsService) (path : String) (c : Nat) :
    (s.openChannel path).Live c ↔ c = s.created ∨ s.Live c := by
  unfold Live openChannel
  dsimp only
  rw [Function.update_apply]
  by_cases same : c = s.created
  · simp [same]
  · simp [same]

theorem openChannel_inv (inv : s.Inv) (path : String) : (s.openChannel path).Inv where
  live c live := by
    rcases (s.live_openChannel path c).mp live with rfl | old
    · exact Nat.lt_succ_self _
    · exact Nat.lt_succ_of_lt (inv.live c old)
  stored c stored := by
    rw [← Option.some.inj stored]
    exact Nat.lt_succ_self _
  closing task member c point := by
    obtain ⟨known, told⟩ := inv.closing task member c point
    refine ⟨Nat.lt_succ_of_lt known, ?_⟩
    rw [live_openChannel, not_or]
    exact ⟨Nat.ne_of_lt known, told⟩
  watched := inv.watched
  earlier := inv.earlier
  stops := inv.stops
  ended := inv.ended

theorem openChannel_one (inv : s.Inv) (current : s.currentPath = some path) :
    (s.openChannel path).OneConnection ↔ ∀ c, ¬ s.Live c := by
  constructor
  · intro after c live
    -- The new channel is stored, and it is another one.
    have stored := after.stored c ((s.live_openChannel path c).mpr (.inr live))
    exact absurd (Option.some.inj stored) (Nat.ne_of_gt (inv.live c live))
  · intro none
    have only : ∀ c, (s.openChannel path).Live c → c = s.created := by
      intro c live
      exact ((s.live_openChannel path c).mp live).resolve_right (none c)
    refine ⟨?_, ?_, ?_⟩
    · intro c live
      rw [only c live]
      rfl
    · intro c live
      rw [only c live]
      simpa [openChannel] using inv.watched path current
    · intro ended
      have still := inv.ended ended
      rw [Still, current] at still
      cases still.2

theorem connect_inv (inv : s.Inv) (opens : Bool) : (s.connect opens).Inv := by
  unfold connect
  split
  · exact inv
  · split
    · exact inv
    next path current =>
      split
      · exact openChannel_inv inv path
      · exact (scheduleReconnect_stays s).inv inv

theorem connect_one (inv : s.Inv) (one : s.OneConnection) (opens : Bool) :
    (s.connect opens).OneConnection ↔
      (opens = true → s.stopped = false → s.currentPath ≠ none → ∀ c, ¬ s.Live c) := by
  unfold connect
  cases stopped : s.stopped with
  | true => simp [one]
  | false =>
    cases current : s.currentPath with
    | none => simp [one]
    | some path =>
      cases opens with
      | true => simpa using openChannel_one inv current
      | false => simpa using (scheduleReconnect_stays s).one one

/-! ### The entry points -/

/-- What `watch` has set when it leaves or disconnects. -/
structure Notes (s : AgentFuelWsService) (path : String) (t : AgentFuelWsService) : Prop where
  channels : t.channels = s.channels
  created : t.created = s.created
  channel : t.channel = s.channel
  tasks : t.tasks = s.tasks
  current : t.currentPath = some path
  watched : t.watched = some path
  watches : t.watches = s.watches + 1
  ended : t.ended = false

theorem Notes.inv (notes : Notes s path t) (inv : s.Inv) : t.Inv where
  live c live := by
    unfold Live at live
    rw [notes.channels] at live
    rw [notes.created]
    exact inv.live c live
  stored c stored := by
    rw [notes.channel] at stored
    rw [notes.created]
    exact inv.stored c stored
  closing task member c point := by
    unfold Live
    rw [notes.created, notes.channels]
    exact inv.closing task (notes.tasks ▸ member) c point
  watched other current := by
    rw [notes.watched]
    exact notes.current.symm.trans current
  earlier task member watches after := by
    rw [notes.watches]
    exact Nat.le_succ_of_le (inv.earlier task (notes.tasks ▸ member) watches after)
  -- Every `stop()` came before this call.
  stops task member after := by
    have before := inv.earlier task (notes.tasks ▸ member) _ after
    rw [notes.watches] at before
    exact absurd before (Nat.not_succ_le_self _)
  ended ended := by
    rw [notes.ended] at ended
    cases ended

theorem Notes.one (notes : Notes s path t) (one : s.OneConnection) :
    t.OneConnection ↔ ∀ c, s.Live c → (s.channels c).path = path := by
  have same : ∀ c, t.Live c ↔ s.Live c := by
    intro c
    unfold Live
    rw [notes.channels]
  constructor
  · intro after c live
    have watched := after.path c ((same c).mpr live)
    rw [notes.watched, notes.channels] at watched
    exact (Option.some.inj watched).symm
  · intro paths
    refine ⟨?_, ?_, ?_⟩
    · intro c live
      rw [notes.channel]
      exact one.stored c ((same c).mp live)
    · intro c live
      rw [notes.watched, notes.channels, paths c ((same c).mp live)]
    · intro ended
      rw [notes.ended] at ended
      cases ended

theorem live_disconnect (s : AgentFuelWsService) (after : After) (c : Nat) :
    (s.disconnect after).Live c ↔ s.Live c := by
  unfold Live disconnect
  rw [updateReferred_eq]
  dsimp only
  split <;> rfl

theorem disconnect_one (s : AgentFuelWsService) (after : After)
    (stop : after = .stop s.watches ∧ s.Still ∨ ∀ watches, after ≠ .stop watches) :
    (s.disconnect after).OneConnection ↔ s.OneConnection := by
  have stays := disconnect_stays s after stop
  refine ⟨?_, stays.one⟩
  intro one
  refine ⟨?_, ?_, ?_⟩
  · intro c live
    rw [← stays.channel]
    exact one.stored c ((s.live_disconnect after c).mpr live)
  · intro c live
    rw [← stays.watched, ← stays.toKeeps.path]
    exact one.path c ((s.live_disconnect after c).mpr live)
  · intro ended c
    have gone := one.ended (stays.finished.trans ended) c
    unfold disconnect at gone
    rw [updateReferred_eq] at gone
    dsimp only at gone
    split at gone <;> exact gone

/-- What is to be shown of every step. -/
structure Settles (s : AgentFuelWsService) (act : WsAction) (t : AgentFuelWsService) : Prop where
  inv : t.Inv
  one : s.OneConnection → (t.OneConnection ↔ s.Finds act)

theorem Stays.settles (stays : Stays s t) (inv : s.Inv) (finds : s.Finds act) : Settles s act t where
  inv := stays.inv inv
  one one := iff_of_true (stays.one one) finds

theorem Settles.stays {u : AgentFuelWsService} (settles : Settles s act t) (stays : Stays t u)
    (finds : s.Finds act) : Settles s act u where
  inv := stays.inv settles.inv
  one one := iff_of_true (stays.one ((settles.one one).mpr finds)) finds

theorem watch_settles (inv : s.Inv) (path : String) (headers : Option Nat) :
    Settles s (.watch path headers) (s.watch path headers) := by
  unfold watch
  dsimp only
  split
  next already =>
    have notes : Notes s path { s with watched := some path, watches := s.watches + 1, ended := false } :=
      ⟨rfl, rfl, rfl, rfl, already.1, rfl, rfl, rfl⟩
    exact ⟨notes.inv inv, notes.one⟩
  · have notes : Notes s path { s with
        watched := some path, watches := s.watches + 1, ended := false, stopped := false,
        currentPath := some path, currentHeaders := headers } :=
      ⟨rfl, rfl, rfl, rfl, rfl, rfl, rfl, rfl⟩
    have connects : ∀ watches, After.connect ≠ .stop watches := fun _ other => After.noConfusion other
    exact ⟨(disconnect_stays _ .connect (.inr connects)).inv (notes.inv inv),
      fun one => (disconnect_one _ .connect (.inr connects)).trans (notes.one one)⟩

theorem stopping_stays (s : AgentFuelWsService) (observing : Bool) :
    Stays s { s with stopped := true, currentPath := none, observing } where
  live _ := id
  gone _ := id
  path _ := rfl
  created := rfl
  stored _ := id
  current _ none := by cases none
  still _ := ⟨rfl, rfl⟩
  watched := rfl
  watches := rfl
  closing _ member _ _ := .inl member
  stops task member _ after := .inl ⟨task, member, after⟩
  ended := .inl
  channel := rfl
  finished := rfl

theorem stop_settles (inv : s.Inv) (observing : Bool) (finds : s.Finds act) :
    Settles s act ({ s with observing } : AgentFuelWsService).stop := by
  let stopping : AgentFuelWsService := { s with stopped := true, currentPath := none, observing }
  have first : Stays s stopping := stopping_stays s observing
  have second : Stays stopping (stopping.disconnect (.stop s.watches)) :=
    disconnect_stays stopping _ (.inl ⟨rfl, rfl, rfl⟩)
  exact (first.settles inv finds).stays second finds

theorem disconnect_settles (inv : s.Inv) (after : After) (other : ∀ watches, after ≠ .stop watches)
    (finds : s.Finds act) : Settles s act (s.disconnect after) :=
  (disconnect_stays s after (.inr other)).settles inv finds

theorem self_stays (s : AgentFuelWsService) : Stays s s :=
  stays_of_eq (fun _ => ⟨rfl, rfl⟩) rfl rfl rfl rfl rfl rfl rfl rfl

theorem lifecycle_settles (inv : s.Inv) (opens : Bool) (state : AppLifecycleState) :
    Settles s (.lifecycle state opens) (s.didChangeAppLifecycleState opens state) := by
  cases state with
  | resumed =>
    unfold didChangeAppLifecycleState
    dsimp only
    split
    next asked =>
      obtain ⟨current, closed⟩ := asked
      have first : Stays s { s with stopped := false } := by
        refine ⟨⟨fun _ => id, fun _ => id, fun _ => rfl, rfl, fun _ => id, fun _ => id, ?_, rfl, rfl,
          fun _ member _ _ => .inl member, fun task member _ after => .inl ⟨task, member, after⟩,
          .inl⟩, rfl, rfl⟩
        exact fun still => absurd still.2 current
      refine ⟨connect_inv (first.inv inv) opens, ?_⟩
      intro one
      refine iff_of_true ?_ trivial
      rw [connect_one (first.inv inv) (first.one one)]
      -- No channel is stored, so none is left open.
      intro _ _ _ c live
      have stored := one.stored c live
      rw [closed] at stored
      cases stored
    · exact (self_stays s).settles inv trivial
  | paused | detached => exact disconnect_settles inv .nothing (fun _ other => by cases other) trivial
  | inactive | hidden => exact (self_stays s).settles inv trivial

/-! ### Resumptions -/

theorem mem_set {tasks : List Task} {i : Nat} {point : Suspension} {task old new : Task}
    (found : tasks[i]? = some old) (same : new = ⟨point, old.after⟩) (member : task ∈ tasks.set i new) :
    task ∈ tasks ∨ task.point = point ∧ ∃ old ∈ tasks, task.after = old.after := by
  rcases List.mem_or_eq_of_mem_set member with before | rfl
  · exact .inl before
  · subst same
    exact .inr ⟨rfl, old, List.mem_of_getElem? found, rfl⟩

theorem cancelling_stays {i : Nat} {after : After} (inv : s.Inv)
    (found : s.tasks[i]? = some ⟨.cancelling, after⟩) (opens : Bool) :
    Stays s (s.resumeTask i opens ⟨.cancelling, after⟩) := by
  unfold resumeTask
  dsimp only
  rw [updateReferred_eq]
  refine ⟨⟨?_, ?_, ?_, rfl, fun _ => id, fun _ => id, id, rfl, rfl, ?_, ?_, .inl⟩, rfl, rfl⟩
  · -- Being told to close makes no channel live.
    intro c live
    unfold Live at *
    dsimp only at live
    split at live
    · dsimp only at live
      split at live
      · cases live
      · exact live
    · exact live
  · intro c gone
    dsimp only
    split
    · simp [gone]
    · exact gone
  · intro c
    dsimp only
    split <;> rfl
  · intro task member c point
    rcases mem_set found rfl member with before | ⟨told, -⟩
    · exact .inl before
    · -- The channel that is told to close is the stored one.
      have stored : s.channel = some c := Suspension.closingSink.inj (told.symm.trans point)
      refine .inr ⟨inv.stored c stored, ?_⟩
      unfold Live
      dsimp only
      rw [if_pos stored]
      dsimp only
      split
      · simp
      next other => exact other
  · intro task member watches later
    rcases mem_set found rfl member with before | ⟨-, old, before, same⟩
    · exact .inl ⟨task, before, later⟩
    · exact .inl ⟨old, before, same.symm.trans later⟩

theorem closingSink_eq (s : AgentFuelWsService) (i : Nat) (opens : Bool) (channel : Option Nat)
    (after : After) : s.resumeTask i opens ⟨.closingSink channel, after⟩ = { s with
      channels := fun c =>
        if channel = some c then { s.channels c with state := .gone } else s.channels c
      channel := none
      tasks := s.tasks.set i ⟨.returning, after⟩ } := by
  unfold resumeTask
  dsimp only
  rw [updateReferred_eq]

theorem closingSink_settles {i : Nat} {channel : Option Nat} {after : After} (inv : s.Inv)
    (found : s.tasks[i]? = some ⟨.closingSink channel, after⟩) (opens : Bool) :
    Settles s (.resume i opens) (s.resumeTask i opens ⟨.closingSink channel, after⟩) := by
  have finds : s.Finds (.resume i opens) ↔ ∀ c, ¬ s.Live c := by
    simp only [Finds, found]
  -- What the task waited for was not open any more.
  have awaited : ∀ c, channel = some c → ¬ s.Live c := by
    rintro c rfl
    exact (inv.closing _ (List.mem_of_getElem? found) c rfl).2
  rw [closingSink_eq]
  have live : ∀ c, ((if channel = some c then { s.channels c with state := .gone } else s.channels c) :
      WebSocketChannel).state = .live ↔ s.Live c := by
    intro c
    split
    next same => exact iff_of_false (fun other => by cases other) (awaited c same)
    · rfl
  have gone : ∀ c, (s.channels c).state = .gone → ((if channel = some c then
      { s.channels c with state := .gone } else s.channels c) : WebSocketChannel).state = .gone := by
    intro c gone
    split
    · rfl
    · exact gone
  refine ⟨Keeps.inv (s := s) ?_ inv, ?_⟩
  · refine ⟨fun c => (live c).mp, gone, ?_, rfl, (fun _ none => by cases none), fun _ => id, id, rfl,
      rfl, ?_, ?_, .inl⟩
    · intro c
      dsimp only
      split <;> rfl
    · intro task member c point
      rcases mem_set found rfl member with before | ⟨returning, -⟩
      · exact .inl before
      · cases returning.symm.trans point
    · intro task member watches later
      rcases mem_set found rfl member with before | ⟨-, old, before, same⟩
      · exact .inl ⟨task, before, later⟩
      · exact .inl ⟨old, before, same.symm.trans later⟩
  · intro one
    rw [finds]
    constructor
    · intro settled c open'
      cases settled.stored c ((live c).mpr open')
    · intro closed
      refine ⟨?_, ?_, ?_⟩
      · exact fun c open' => absurd ((live c).mp open') (closed c)
      · exact fun c open' => absurd ((live c).mp open') (closed c)
      · exact fun ended c => gone c (one.ended ended c)

theorem returning_settles {i : Nat} {after : After} (inv : s.Inv)
    (found : s.tasks[i]? = some ⟨.returning, after⟩) (opens : Bool) :
    Settles s (.resume i opens) (s.resumeTask i opens ⟨.returning, after⟩) := by
  have first := erase_stays s i
  cases after with
  | connect =>
    have finds : s.Finds (.resume i opens) ↔
        (opens = true → s.stopped = false → s.currentPath ≠ none → ∀ c, ¬ s.Live c) := by
      simp only [Finds, found]
    refine ⟨connect_inv (first.inv inv) opens, ?_⟩
    intro one
    rw [finds]
    exact connect_one (first.inv inv) (first.one one) opens
  | nothing =>
    have finds : s.Finds (.resume i opens) := by simp only [Finds, found]
    exact first.settles inv finds
  | stop watches =>
    have finds : s.Finds (.resume i opens) ↔
        (watches = s.watches → ∀ c, (s.channels c).state = .gone) := by
      simp only [Finds, found]
    have ended : (s.resumeTask i opens ⟨.returning, .stop watches⟩).ended = true ↔
        s.ended = true ∨ watches = s.watches := by
      simp [resumeTask]
    have keeps : Keeps s (s.resumeTask i opens ⟨.returning, .stop watches⟩) := by
      refine { first.toKeeps with ended := ?_ }
      -- A `stop()` ends here unless a channel was watched in the meantime.
      intro over'
      refine (ended.mp over').imp_right ?_
      rintro rfl
      exact ⟨_, List.mem_of_getElem? found, rfl⟩
    refine ⟨keeps.inv inv, ?_⟩
    intro one
    rw [finds]
    constructor
    · exact fun after latest => after.ended (ended.mpr (.inr latest))
    · intro closed
      refine ⟨one.stored, one.path, ?_⟩
      intro over' c
      rcases ended.mp over' with before | latest
      · exact one.ended before c
      · exact closed latest c

/-! ### Every step -/

theorem lost_stays (s : AgentFuelWsService) (c : Nat) :
    Stays s (s.updateChannel c fun channel => { channel with state := .gone }) :=
  updateChannel_stays s c _ (fun _ live => by cases live) (fun _ _ => rfl) fun _ => rfl

theorem unlisten_settles (inv : s.Inv) (c : Nat) (finds : s.Finds act) :
    Settles s act
      (s.updateChannel c fun channel => { channel with listened := false }).scheduleReconnect := by
  have first := updateChannel_stays s c (fun channel => { channel with listened := false })
    (fun _ => id) (fun _ => id) fun _ => rfl
  have second := scheduleReconnect_stays
    (s.updateChannel c fun channel => { channel with listened := false })
  exact (first.settles inv finds).stays second finds

theorem step_settles (inv : s.Inv) (fired : s.step act = .ok t) : Settles s act t := by
  cases act with
  | watch path headers =>
    cases fired
    exact watch_settles inv path headers
  | stop =>
    cases fired
    exact stop_settles inv s.observing trivial
  | dispose =>
    cases fired
    exact stop_settles inv false trivial
  | reconnect =>
    cases fired
    unfold reconnect
    split
    · exact (self_stays s).settles inv trivial
    · exact disconnect_settles inv .connect (fun _ other => by cases other) trivial
  | lifecycle state opens =>
    simp only [step] at fired
    split at fired <;> cases fired
    exact lifecycle_settles inv opens state
  | reconnectFired =>
    simp only [step] at fired
    split at fired <;> cases fired
    -- Clearing the timer changes no channel; what follows is a disconnect that connects.
    have first : Stays s { s with reconnectTimer := none } :=
      stays_of_eq (fun _ => ⟨rfl, rfl⟩) rfl rfl rfl rfl rfl rfl rfl rfl
    have second := disconnect_stays { s with reconnectTimer := none } .connect
      (.inr fun _ other => by cases other)
    exact Settles.stays (first.settles inv trivial) second trivial
  | pingFailed =>
    simp only [step] at fired
    split at fired <;> cases fired
    exact (scheduleReconnect_stays s).settles inv trivial
  | resume i opens =>
    simp only [step] at fired
    split at fired
    next task found =>
      cases fired
      obtain ⟨point, after⟩ := task
      cases point with
      | cancelling =>
        refine (cancelling_stays inv found opens).settles inv ?_
        simp only [Finds, found]
      | closingSink channel => exact closingSink_settles inv found opens
      | returning => exact returning_settles inv found opens
    · cases fired
  | ready c ok =>
    simp only [step] at fired
    split at fired <;> cases fired
    -- The channel is no longer pending. If it is lost, another attempt is scheduled.
    have first := updateChannel_stays s c (fun channel => { channel with pending := false })
      (fun _ => id) (fun _ => id) fun _ => rfl
    generalize s.updateChannel c (fun channel => { channel with pending := false }) = u at first
    split
    · split
      · exact first.settles inv trivial
      · have second : Stays u { u with reconnectAttempts := 0 } :=
          stays_of_eq (fun _ => ⟨rfl, rfl⟩) rfl rfl rfl rfl rfl rfl rfl rfl
        exact Settles.stays (first.settles inv trivial) second trivial
    · have second := lost_stays u c
      have third := scheduleReconnect_stays (u.updateChannel c fun channel => { channel with state := .gone })
      exact Settles.stays (Settles.stays (first.settles inv trivial) second trivial) third trivial
  | frame c =>
    simp only [step] at fired
    split at fired <;> cases fired
    exact (self_stays s).settles inv trivial
  | streamError c =>
    simp only [step] at fired
    split at fired <;> cases fired
    exact unlisten_settles inv c trivial
  | streamDone c =>
    simp only [step] at fired
    split at fired <;> cases fired
    exact unlisten_settles inv c trivial
  | lost c =>
    cases fired
    exact (lost_stays s c).settles inv trivial

theorem initial_inv : initial.Inv where
  live c live := by cases live
  stored c stored := by cases stored
  closing task member := by cases member
  watched path current := by cases current
  earlier task member := by cases member
  stops task member := by cases member
  ended ended := by cases ended

theorem initial_one : initial.OneConnection where
  stored c live := by cases live
  path c live := by cases live
  ended ended := by cases ended

/-- There is one connection throughout a run exactly if every step of it finds what it needs. -/
theorem one_connection_iff {log : List (Fired AgentFuelWsService WsAction)} (run : Run step initial log s) :
    (∀ e ∈ log, e.post.OneConnection) ↔ ∀ e ∈ log, e.pre.Finds e.act := by
  induction run with
  | nil => simp
  | @snoc log t act u shorter fired ih =>
    rw [List.forall_mem_append, List.forall_mem_append, List.forall_mem_singleton,
      List.forall_mem_singleton, ← ih]
    refine and_congr_right ?_
    intro earlier
    have inv : t.Inv := shorter.invariant (fun _ _ _ fired inv => (step_settles inv fired).inv) initial_inv
    have one : t.OneConnection := by
      refine shorter.preserves (A := fun e => e.post.OneConnection) ?_ earlier initial_one
      exact fun _ holds _ _ => holds
    exact (step_settles inv fired).one one

end AgentFuelWsService

end AgentFuel.Clients.Mobile
