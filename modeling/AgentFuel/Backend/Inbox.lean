import AgentFuel.Backend.Handlers

/-!
# The inbox of an owner

Alerts are listed in pages, counted and marked as read while new ones arrive and decisions clear
those of their requests. No alert is marked twice, whatever the order of the statements, and a
reader who follows the pages misses nothing that was there and has stayed unread.
-/
namespace AgentFuel.Backend.Handlers

open Spends Dialogue Paging

/-! ### Read marks -/

/-- The primary key of `alerts`. -/
structure Numbered (alerts : AlertTable) : Prop where
  below : ∀ row ∈ alerts.rows, row.id < alerts.nextId
  distinct : (alerts.rows.map AlertRow.id).Nodup

/-- Whose alert it is, once it is read. -/
def readBy (alerts : AlertTable) (id : Nat) : Option String :=
  (alerts.rows.find? fun row => Decidable.decide (row.id = id)).bind fun row =>
    if row.read then some row.alert.owner else none

def AlertRow.unreadFor (owner : String) (row : AlertRow) : Bool :=
  Decidable.decide (row.alert.owner = owner) && !row.read

/-- What `unread_count` counts. -/
def unread (alerts : AlertTable) (owner : String) : Nat :=
  alerts.rows.countP (AlertRow.unreadFor owner)

variable {alerts alerts' : AlertTable} {row other : AlertRow} {id : Nat} {owner : String}

theorem Numbered.eq_of_id (numbered : Numbered alerts) (member : row ∈ alerts.rows)
    (inside : other ∈ alerts.rows) (same : row.id = other.id) : row = other :=
  List.inj_on_of_nodup_map numbered.distinct member inside same

theorem Numbered.readBy_eq_some (numbered : Numbered alerts) : readBy alerts id = some owner ↔
    ∃ row ∈ alerts.rows, row.id = id ∧ row.read = true ∧ row.alert.owner = owner := by
  unfold readBy
  rw [Option.bind_eq_some_iff]
  constructor
  · rintro ⟨row, found, marked⟩
    have same := List.find?_some found
    split at marked
    next read =>
      exact ⟨row, List.mem_of_find?_eq_some found, of_decide_eq_true same, read, Option.some.inj marked⟩
    · cases marked
  · rintro ⟨row, member, rfl, read, rfl⟩
    obtain ⟨other, found⟩ : ∃ other,
        alerts.rows.find? (fun other => Decidable.decide (other.id = row.id)) = some other := by
      rw [← Option.isSome_iff_exists, List.find?_isSome]
      exact ⟨row, member, decide_eq_true rfl⟩
    have same := List.find?_some found
    rw [found, numbered.eq_of_id (List.mem_of_find?_eq_some found) member (of_decide_eq_true same)]
    exact ⟨row, rfl, if_pos read⟩

/-- A statement took the table to another one and marked these alerts as read. -/
structure Marks (alerts alerts' : AlertTable) (taken : List (Nat × String)) : Prop where
  numbered : Numbered alerts → Numbered alerts'
  once : Numbered alerts → (taken.map Prod.fst).Nodup
  fresh : Numbered alerts → ∀ entry ∈ taken, readBy alerts entry.1 = none
  reads : Numbered alerts → ∀ id owner, readBy alerts' id = some owner ↔
    readBy alerts id = some owner ∨ (id, owner) ∈ taken

theorem Marks.refl (alerts : AlertTable) : Marks alerts alerts [] where
  numbered := id
  once _ := List.nodup_nil
  fresh _ entry member := by cases member
  reads _ id owner := (or_iff_left (by rintro ⟨⟩)).symm

/-- The rows of an update, with those it writes marked. -/
def marked (hit : AlertRow → Bool) (row : AlertRow) : AlertRow :=
  if hit row = true then { row with read := true } else row

theorem marked_id (hit : AlertRow → Bool) (row : AlertRow) : (marked hit row).id = row.id := by
  unfold marked
  split <;> rfl

theorem marked_alert (hit : AlertRow → Bool) (row : AlertRow) : (marked hit row).alert = row.alert := by
  unfold marked
  split <;> rfl

theorem marked_read (hit : AlertRow → Bool) (row : AlertRow) :
    (marked hit row).read = true ↔ row.read = true ∨ hit row = true := by
  unfold marked
  split
  next here => simp [here]
  next apart => simp [apart]

/-- An update of alerts of one owner. -/
theorem markWhere_marks {hit : AlertRow → Bool} (owned : ∀ row, hit row = true → row.alert.owner = owner) :
    Marks alerts (AlertTable.markWhere alerts hit).1
      ((AlertTable.markWhere alerts hit).2.map fun id => (id, owner)) := by
  have ids : (alerts.rows.map (marked hit)).map AlertRow.id = alerts.rows.map AlertRow.id := by
    rw [List.map_map]
    exact List.map_congr_left fun row _ => marked_id hit row
  have kept : Numbered alerts → Numbered (AlertTable.markWhere alerts hit).1 := by
    intro numbered
    constructor
    · intro row member
      obtain ⟨old, inside, rfl⟩ := List.mem_map.mp member
      have below := numbered.below old inside
      have same := marked_id hit old
      unfold marked at same
      rw [same]
      exact below
    · exact ids.symm ▸ numbered.distinct
  constructor
  · exact kept
  · intro numbered
    have ids : ((AlertTable.markWhere alerts hit).2.map fun id => (id, owner)).map Prod.fst =
        (alerts.rows.filter fun row => hit row && !row.read).map AlertRow.id := by
      rw [List.map_map]
      exact List.map_id _
    rw [ids]
    exact numbered.distinct.sublist (List.filter_sublist.map AlertRow.id)
  · intro numbered entry member
    obtain ⟨id, written, rfl⟩ := List.mem_map.mp member
    obtain ⟨row, inside, rfl⟩ := List.mem_map.mp written
    obtain ⟨held, here⟩ := List.mem_filter.mp inside
    cases before : readBy alerts row.id with
    | none => rfl
    | some reader =>
      -- The update only writes what is unread.
      obtain ⟨old, present, same, read, -⟩ := numbered.readBy_eq_some.mp before
      rw [numbered.eq_of_id present held same] at read
      simp [read] at here
  · intro numbered id reader
    rw [(kept numbered).readBy_eq_some, numbered.readBy_eq_some]
    constructor
    · rintro ⟨_, changed, rfl, read, rfl⟩
      obtain ⟨row, inside, rfl⟩ := List.mem_map.mp changed
      change (marked hit row).read = true at read
      change (∃ _, _ ∧ _ = (marked hit row).id ∧ _ ∧ _ = (marked hit row).alert.owner) ∨
        ((marked hit row).id, (marked hit row).alert.owner) ∈ _
      rw [marked_id, marked_alert]
      by_cases before : row.read = true
      · exact .inl ⟨row, inside, rfl, before, rfl⟩
      · have here := ((marked_read hit row).mp read).resolve_left before
        refine .inr (List.mem_map.mpr ⟨row.id, List.mem_map_of_mem (List.mem_filter.mpr ⟨inside, ?_⟩), ?_⟩)
        · simp [here, before]
        · rw [owned row here]
    · rintro (⟨row, inside, rfl, read, rfl⟩ | taken)
      · refine ⟨marked hit row, List.mem_map_of_mem inside, marked_id hit row, ?_, ?_⟩
        · exact (marked_read hit row).mpr (.inl read)
        · rw [marked_alert]
      · obtain ⟨_, written, same⟩ := List.mem_map.mp taken
        obtain ⟨rfl, rfl⟩ := Prod.mk.inj same
        obtain ⟨row, inside, rfl⟩ := List.mem_map.mp written
        obtain ⟨held, here⟩ := List.mem_filter.mp inside
        rw [Bool.and_eq_true] at here
        refine ⟨marked hit row, List.mem_map_of_mem held, marked_id hit row, ?_, ?_⟩
        · exact (marked_read hit row).mpr (.inr here.1)
        · rw [marked_alert]
          exact owned row here.1

theorem insertAlert_marks (alert : Alert) :
    Marks alerts ⟨alerts.rows ++ [⟨alerts.nextId, alert, false⟩], alerts.nextId + 1⟩ [] := by
  have kept : Numbered alerts →
      Numbered ⟨alerts.rows ++ [⟨alerts.nextId, alert, false⟩], alerts.nextId + 1⟩ := by
    intro numbered
    constructor
    · rw [List.forall_mem_append, List.forall_mem_singleton]
      exact ⟨fun row member => (numbered.below row member).trans (Nat.lt_succ_self _), Nat.lt_succ_self _⟩
    · rw [List.map_append, List.map_singleton, ← List.concat_eq_append]
      refine numbered.distinct.concat ?_
      intro held
      obtain ⟨old, member, same⟩ := List.mem_map.mp held
      have less := numbered.below old member
      exact absurd same less.ne
  refine ⟨kept, fun _ => List.nodup_nil, ?_, ?_⟩
  · intro numbered entry member
    cases member
  intro numbered id owner
  rw [(kept numbered).readBy_eq_some, numbered.readBy_eq_some, or_iff_left (by rintro ⟨⟩)]
  constructor
  · rintro ⟨row, member, same, read, own⟩
    rcases List.mem_append.mp member with old | new
    · exact ⟨row, old, same, read, own⟩
    · rw [List.mem_singleton.mp new] at read
      cases read
  · rintro ⟨row, member, rest⟩
    exact ⟨row, List.mem_append_left _ member, rest⟩

/-! ### What an answer marks -/

/-- The alerts that an exchange marks, with their owner. -/
def marks : Asked → List (Nat × String)
  | ⟨.markRead _ owner, .ok (.ok written)⟩ => List.map (fun id : Nat => (id, owner)) written
  | ⟨.markAllRead owner, .ok (.ok written)⟩ => List.map (fun id : Nat => (id, owner)) written
  | _ => []

/-- The exchange stores an alert of the owner. -/
def inserts (owner : String) : Asked → Bool
  | ⟨.insertAlert alert, .ok (.ok _)⟩ => Decidable.decide (alert.owner = owner)
  | _ => false

variable {rt : RequestRuntime} {dr : DispatchRuntime} {s : State}

theorem execute_marks (s : State) (q : Query) :
    Marks s.alerts (execute rt dr s q).1.alerts (marks ⟨q, .ok (execute rt dr s q).2⟩) := by
  cases q with
  | insertAlert alert => exact insertAlert_marks alert
  | markRead id owner =>
    apply markWhere_marks
    exact fun row here => (of_decide_eq_true here).2
  | markAllRead owner =>
    apply markWhere_marks
    exact fun row here => of_decide_eq_true here
  | _ => exact .refl s.alerts

theorem answer_marks (s : State) (succeeds : Bool) (q : Query) :
    Marks s.alerts (answer rt dr s succeeds q).1.alerts (marks ⟨q, .ok (answer rt dr s succeeds q).2⟩) := by
  cases succeeds with
  | true =>
    rw [answer_true]
    exact execute_marks s q
  | false =>
    -- A statement that failed marks nothing.
    cases q <;> exact .refl s.alerts

theorem marks_latch (rt : RequestRuntime) (dr : DispatchRuntime) : Pool.Latches (desk rt dr) (fun s => Numbered s.alerts)
    (fun s => readBy s.alerts) marks where
  answered s succeeds q numbered := (answer_marks s succeeds q).numbered numbered
  once s succeeds q numbered := (answer_marks s succeeds q).once numbered
  fresh s succeeds q numbered := (answer_marks s succeeds q).fresh numbered
  values s succeeds q numbered := (answer_marks s succeeds q).reads numbered
  dropped q e := by cases q <;> rfl
  moved s m numbered := ⟨numbered, fun _ => rfl⟩

/-! ### Counts -/

def markedFor (owner : String) (taken : List (Nat × String)) : Nat :=
  taken.countP fun entry => Decidable.decide (entry.2 = owner)

/-- What an update of one owner's alerts takes from the unread ones. -/
theorem unread_marked {hit : AlertRow → Bool} {reader : String}
    (owned : ∀ row, hit row = true → row.alert.owner = reader) (rows : List AlertRow) :
    (rows.map (marked hit)).countP (AlertRow.unreadFor owner) +
      markedFor owner (((rows.filter fun row => hit row && !row.read).map AlertRow.id).map
        fun id => (id, reader)) = rows.countP (AlertRow.unreadFor owner) := by
  induction rows with
  | nil => rfl
  | cons row rows ih =>
    rw [List.map_cons, List.countP_cons, List.countP_cons, List.filter_cons]
    cases here : hit row with
    | false =>
      have same : marked hit row = row := by simp [marked, here]
      rw [same, Bool.false_and, if_neg Bool.false_ne_true]
      omega
    | true =>
      have own := owned row here
      -- An alert that was read before is neither marked nor unread.
      cases before : row.read with
      | true =>
        have one : AlertRow.unreadFor owner (marked hit row) = false := by simp [AlertRow.unreadFor, marked, here]
        have two : AlertRow.unreadFor owner row = false := by simp [AlertRow.unreadFor, before]
        rw [one, two, Bool.not_true, Bool.and_false]
        simp only [Bool.false_eq_true, if_false]
        omega
      | false =>
        -- One that was not leaves the unread ones and is marked, if it is of this owner.
        have one : AlertRow.unreadFor owner (marked hit row) = false := by simp [AlertRow.unreadFor, marked, here]
        have two : AlertRow.unreadFor owner row = Decidable.decide (reader = owner) := by
          simp [AlertRow.unreadFor, before, own]
        rw [one, two, Bool.not_false, Bool.and_true, if_pos rfl, List.map_cons, List.map_cons, markedFor,
          List.countP_cons]
        rw [markedFor] at ih
        simp only [Bool.false_eq_true, if_false]
        omega

/-- Each statement keeps the balance of unread, marked and stored alerts. -/
theorem execute_unread (s : State) (q : Query) :
    unread (execute rt dr s q).1.alerts owner + markedFor owner (marks ⟨q, .ok (execute rt dr s q).2⟩) =
      unread s.alerts owner + (inserts owner ⟨q, .ok (execute rt dr s q).2⟩).toNat := by
  cases q with
  | insertAlert alert =>
    change (s.alerts.rows ++ [_]).countP _ + 0 = _
    rw [List.countP_append, List.countP_singleton, Nat.add_zero]
    apply congrArg (s.alerts.rows.countP _ + ·)
    simp only [AlertRow.unreadFor, Bool.not_false, Bool.and_true, inserts, execute, Tables.emit]
    cases Decidable.decide (alert.owner = owner) <;> rfl
  | markRead id reader =>
    apply unread_marked
    exact fun row here => (of_decide_eq_true here).2
  | markAllRead reader =>
    apply unread_marked
    exact fun row here => of_decide_eq_true here
  | _ => rfl

theorem answer_unread (rt : RequestRuntime) (dr : DispatchRuntime) (owner : String) (s : State)
    (succeeds : Bool) (q : Query) :
    unread (answer rt dr s succeeds q).1.alerts owner +
        markedFor owner (marks ⟨q, .ok (answer rt dr s succeeds q).2⟩) =
      unread s.alerts owner + (inserts owner ⟨q, .ok (answer rt dr s succeeds q).2⟩).toNat := by
  cases succeeds with
  | true =>
    rw [answer_true]
    exact execute_unread s q
  | false => cases q <;> rfl

theorem unread_keeps (s : State) (owner : String) :
    Pool.Keeps (E := Stopped) (desk rt dr) fun s' history =>
      unread s'.alerts owner + markedFor owner (Pool.settledIn marks history) =
        unread s.alerts owner + history.countP (inserts owner) where
  answer s' history succeeds q holds := by
    have step := answer_unread rt dr owner s' succeeds q
    rw [Pool.settledIn_snoc, markedFor, List.countP_append, List.countP_append, List.countP_singleton]
    rw [markedFor] at holds step
    have here : (if inserts owner ⟨q, .ok (answer rt dr s' succeeds q).2⟩ = true then 1 else 0) =
        (inserts owner ⟨q, .ok (answer rt dr s' succeeds q).2⟩).toNat := by
      cases inserts owner ⟨q, .ok (answer rt dr s' succeeds q).2⟩ <;> rfl
    change unread (answer rt dr s' succeeds q).1.alerts owner + (_ + _) = _ + (_ + if inserts owner
      ⟨q, .ok (answer rt dr s' succeeds q).2⟩ = true then 1 else 0)
    rw [here]
    change _ + (_ + List.countP _ (marks ⟨q, .ok (answer rt dr s' succeeds q).2⟩)) = _
    omega
  drop s' history q e holds := by
    have nothing : marks ⟨q, .error e⟩ = [] := by cases q <;> rfl
    have none : inserts owner ⟨q, .error e⟩ = false := by cases q <;> rfl
    rw [Pool.settledIn_snoc, nothing, List.append_nil, List.countP_append, List.countP_singleton, none]
    exact holds
  move s' history m holds := holds

/-! ### What callers are told -/

/-- The alerts of an owner that an endpoint has told its caller to be marked. -/
def toldMarks (owner : String) (t : Pool.Thread Kind Stopped Query Query.Answer Reply) : Nat :=
  match t.kind, t.rest with
  | .markRead caller _, .done (.ok .noContent) => if caller = owner then 1 else 0
  | .markAllRead caller, .done (.ok (.marked count)) => if caller = owner then count else 0
  | _, _ => 0

theorem markedFor_map {caller : String} (own : caller = owner) (written : List Nat) :
    markedFor owner (written.map fun id => (id, caller)) = written.length := by
  rw [markedFor, List.countP_map, List.countP_eq_length.mpr]
  exact fun id _ => decide_eq_true own

/-- Nobody is told more than their statement has marked. -/
theorem toldMarks_le {t : Pool.Thread Kind Stopped Query Query.Answer Reply}
    (follows : t.Follows (program rt dr)) :
    toldMarks owner t ≤ (t.log.map fun x => markedFor owner (marks x)).sum := by
  obtain ⟨kind, log, rest⟩ := t
  unfold toldMarks
  dsimp only
  split
  next caller id =>
    split
    next own =>
      have runs := follows [] _ (.done _)
      rw [List.append_nil] at runs
      obtain ⟨_, -, ended⟩ | ⟨answer, before, after, rfl, first, rest⟩ := runs_bind.mp runs
      · -- The handler has stopped before it answered, so it was told nothing.
        cases ended
      · rw [sql, runs_question] at first
        subst first
        cases answer with
        | error e =>
          obtain ⟨-, told⟩ := runs_pure.mp rest
          cases told
        | ok written =>
          -- A row that is not there is answered by 404, which tells of no mark.
          have some : written.length ≠ 0 := by
            intro none
            simp only [if_pos none] at rest
            obtain ⟨-, told⟩ := runs_pure.mp rest
            cases told
          have weight : markedFor owner (marks ⟨.markRead id caller, .ok (.ok written)⟩) = written.length :=
            markedFor_map own written
          rw [List.singleton_append, List.map_cons, List.sum_cons, weight]
          exact Nat.le_trans (Nat.one_le_iff_ne_zero.mpr some) (Nat.le_add_right _ _)
    · exact Nat.zero_le _
  next caller count =>
    split
    next own =>
      have runs := follows [] _ (.done _)
      rw [List.append_nil] at runs
      obtain ⟨_, -, ended⟩ | ⟨answer, before, after, rfl, first, rest⟩ := runs_bind.mp runs
      · cases ended
      · rw [sql, runs_question] at first
        subst first
        cases answer with
        | error e =>
          obtain ⟨-, told⟩ := runs_pure.mp rest
          cases told
        | ok written =>
          obtain ⟨-, told⟩ := runs_pure.mp rest
          cases told
          have weight : markedFor owner (marks ⟨.markAllRead caller, .ok (.ok written)⟩) = written.length :=
            markedFor_map own written
          rw [List.singleton_append, List.map_cons, List.sum_cons, weight]
          exact Nat.le_add_right _ _
    · exact Nat.zero_le _
  · exact Nat.zero_le _

/-- Whatever runs at once: no alert is marked twice, an owner's alerts are unread, marked or both
never, and all that the owner's calls have been told together is no more than what was marked. -/
theorem inbox_counts {t : Threads}
    {log : List (Transition.Fired Threads (Pool.Action Refresh Bool Kind Stopped))}
    (numbered : Numbered s.alerts) (run : Serving rt dr s log t) (owner : String) :
    ((Pool.settledIn marks t.asked).map Prod.fst).Nodup ∧
    (∀ id, readBy t.world.alerts id = some owner ↔
      readBy s.alerts id = some owner ∨ (id, owner) ∈ Pool.settledIn marks t.asked) ∧
    unread t.world.alerts owner + markedFor owner (Pool.settledIn marks t.asked) =
      unread s.alerts owner + t.asked.countP (inserts owner) ∧
    (t.threads.map (toldMarks owner)).sum ≤ markedFor owner (Pool.settledIn marks t.asked) := by
  have latched := (marks_latch rt dr).run numbered run
  have orderly := Pool.PoolRun.orderly run
  refine ⟨latched.once, fun id => latched.values id owner, ?_, ?_⟩
  · exact (unread_keeps s owner).run run rfl
  · have weighed := orderly.weigh fun x => markedFor owner (marks x)
    have total : markedFor owner (Pool.settledIn marks t.asked) =
        (t.asked.map fun x => markedFor owner (marks x)).sum := List.countP_flatMap
    rw [total, ← weighed]
    apply List.sum_le_sum
    intro u member
    obtain ⟨place, found⟩ := List.mem_iff_getElem?.mp member
    exact toldMarks_le (orderly.logs place u found).2

/-- The agent's request is answered with an alert, and the owner marks all there is. -/
theorem inbox_counts_requested :
    let acts := Shift.requested ++ [.start (.markAllRead "owner"), .turn 1 true]
    unread (Shift.after acts).world.alerts "owner" + markedFor "owner"
        (Pool.settledIn marks (Shift.after acts).asked) = 1 ∧
      ((Shift.after acts).threads.map (toldMarks "owner")).sum ≤
        markedFor "owner" (Pool.settledIn marks (Shift.after acts).asked) := by
  intro acts
  have empty : Numbered Desk.state.alerts := ⟨fun row member => (by cases member), List.nodup_nil⟩
  obtain ⟨-, -, balance, told⟩ := inbox_counts empty (Shift.serving acts) "owner"
  exact ⟨balance, told⟩

/-! ### Pages -/

/-- Alerts stay as they are but for the read mark, which stays where it is. -/
structure Grows (alerts alerts' : AlertTable) : Prop where
  stays : ∀ row ∈ alerts.rows, ∃ row' ∈ alerts'.rows,
    row'.id = row.id ∧ row'.alert = row.alert ∧ (row.read = true → row'.read = true)

theorem Grows.refl (alerts : AlertTable) : Grows alerts alerts where
  stays row member := ⟨row, member, rfl, rfl, id⟩

theorem Grows.trans {first second third : AlertTable} (one : Grows first second)
    (two : Grows second third) : Grows first third where
  stays row member := by
    obtain ⟨row', member', same, alert, read⟩ := one.stays row member
    obtain ⟨row'', member'', same', alert', read'⟩ := two.stays row' member'
    exact ⟨row'', member'', same'.trans same, alert'.trans alert, fun before => read' (read before)⟩

theorem markWhere_grows (hit : AlertRow → Bool) :
    Grows alerts (AlertTable.markWhere alerts hit).1 where
  stays row member := by
    refine ⟨marked hit row, List.mem_map_of_mem member, marked_id hit row, marked_alert hit row, ?_⟩
    exact fun before => (marked_read hit row).mpr (.inl before)

theorem execute_grows (s : State) (q : Query) : Grows s.alerts (execute rt dr s q).1.alerts := by
  cases q with
  | insertAlert alert => exact ⟨fun row member => ⟨row, List.mem_append_left _ member, rfl, rfl, id⟩⟩
  | markRead id owner => exact markWhere_grows _
  | markAllRead owner => exact markWhere_grows _
  | _ => exact .refl s.alerts

theorem answer_grows (rt : RequestRuntime) (dr : DispatchRuntime) (s : State) (succeeds : Bool) (q : Query) :
    Grows s.alerts (answer rt dr s succeeds q).1.alerts := by
  cases succeeds with
  | true =>
    rw [answer_true]
    exact execute_grows s q
  | false => cases q <;> exact .refl s.alerts

/-- A page was read from the table as it was at some moment since the start. -/
def ReadFrom (start now : AlertTable) : Asked → Prop
  | ⟨.listAlerts owner beforeId onlyUnread limit, .ok (.ok rows)⟩ => ∃ alerts, Numbered alerts ∧
    Grows start alerts ∧ Grows alerts now ∧ rows = listRows alerts owner beforeId onlyUnread limit
  | _ => True

theorem ReadFrom.later {start now next : AlertTable} {x : Asked} (grows : Grows now next)
    (read : ReadFrom start now x) : ReadFrom start next x := by
  unfold ReadFrom at read ⊢
  split at read
  · obtain ⟨alerts, numbered, since, till, rows⟩ := read
    exact ⟨alerts, numbered, since, till.trans grows, rows⟩
  · trivial

theorem answer_readFrom {start : AlertTable} (numbered : Numbered s.alerts)
    (since : Grows start s.alerts) (succeeds : Bool) (q : Query) :
    ReadFrom start (answer rt dr s succeeds q).1.alerts ⟨q, .ok (answer rt dr s succeeds q).2⟩ := by
  cases succeeds with
  | true =>
    rw [answer_true]
    cases q with
    | listAlerts owner beforeId onlyUnread limit => exact ⟨s.alerts, numbered, since, .refl s.alerts, rfl⟩
    | _ => trivial
  | false => cases q <;> trivial

/-- Every page that was read so far. -/
theorem pages_kept (rt : RequestRuntime) (dr : DispatchRuntime) (start : AlertTable) : Pool.Keeps (E := Stopped) (desk rt dr) fun s history =>
    Numbered s.alerts ∧ Grows start s.alerts ∧ ∀ x ∈ history, ReadFrom start s.alerts x where
  answer s history succeeds q holds := by
    obtain ⟨numbered, since, read⟩ := holds
    have grows := answer_grows rt dr s succeeds q
    refine ⟨(answer_marks s succeeds q).numbered numbered, since.trans grows, ?_⟩
    rw [List.forall_mem_append, List.forall_mem_singleton]
    exact ⟨fun x member => (read x member).later grows, answer_readFrom numbered since succeeds q⟩
  drop s history q e holds := by
    obtain ⟨numbered, since, read⟩ := holds
    refine ⟨numbered, since, ?_⟩
    rw [List.forall_mem_append, List.forall_mem_singleton]
    refine ⟨read, ?_⟩
    cases q <;> trivial
  move s history m holds := holds

/-- The alerts that a reader wants to see. -/
def Wanted (owner : String) (onlyUnread : Bool) (row : AlertRow) : Prop :=
  row.alert.owner = owner ∧ (onlyUnread = true → row.read = false)

theorem wanted_iff {onlyUnread : Bool} : (Decidable.decide (row.alert.owner = owner) && (!onlyUnread || !row.read)) = true ↔
    Wanted owner onlyUnread row := by
  cases onlyUnread <;> simp [Wanted]

/-- A page that is empty ends the alerts; another one is cut after its last row. -/
structure OfTable (alerts : AlertTable) (owner : String) (beforeId : Int) (onlyUnread : Bool)
    (rows : List AlertRow) : Prop where
  sorted : rows.Pairwise fun a b => b.id < a.id
  below : ∀ row ∈ rows, (row.id : Int) < beforeId
  inside : ∀ row ∈ rows, row ∈ alerts.rows ∧ Wanted owner onlyUnread row
  all : ∀ row ∈ alerts.rows, Wanted owner onlyUnread row → (row.id : Int) < beforeId →
    row ∈ rows ∨ ∃ last, rows.getLast? = some last ∧ row.id < last.id

theorem listRows_ofTable (numbered : Numbered alerts) {limit : Nat} (positive : 0 < limit)
    (owner : String) (beforeId : Int) (onlyUnread : Bool) :
    OfTable alerts owner beforeId onlyUnread (listRows alerts owner beforeId onlyUnread limit) := by
  unfold listRows
  generalize own : (alerts.rows.filter fun row =>
    Decidable.decide (row.alert.owner = owner) && (!onlyUnread || !row.read)) = rows
  have mine : ∀ row, row ∈ rows ↔ row ∈ alerts.rows ∧ Wanted owner onlyUnread row := by
    intro row
    rw [← own, List.mem_filter, wanted_iff]
  have distinct : (rows.map AlertRow.id).Nodup := by
    rw [← own]
    exact numbered.distinct.sublist (List.filter_sublist.map AlertRow.id)
  cases ends : ((Descending.stable alertId).page limit (some beforeId) rows).getLast? with
  | none =>
    have empty := List.getLast?_eq_none_iff.mp ends
    have nothing := (Descending.stable alertId).page_eq_nil positive empty
    rw [empty]
    refine ⟨.nil, (fun row member => by cases member), (fun row member => by cases member), ?_⟩
    intro row member wanted below
    have left : row ∈ remaining alertId (some beforeId) rows :=
      List.mem_filter.mpr ⟨(mine row).mpr ⟨member, wanted⟩, decide_eq_true fun c cursor => by
        obtain rfl := Option.some.inj cursor
        exact below⟩
    rw [nothing] at left
    cases left
  | some last =>
    obtain ⟨rest, turn⟩ := (Descending.stable alertId).turn ends
    generalize (Descending.stable alertId).page limit (some beforeId) rows = page at ends turn
    have shown : ∀ row ∈ page, row ∈ rows := by
      intro row member
      exact List.mem_of_mem_filter (turn.perm.mem_iff.mpr (List.mem_append_left _ member))
    -- The keys are distinct, so the order is strict.
    have apart : (page ++ rest).Pairwise fun a b => a.id ≠ b.id := by
      have once : ((remaining alertId (some beforeId) rows).map AlertRow.id).Nodup :=
        distinct.sublist (List.filter_sublist.map AlertRow.id)
      exact List.pairwise_map.mp ((turn.perm.map AlertRow.id).nodup_iff.mp once)
    have strict : (page ++ rest).Pairwise fun a b => b.id < a.id := by
      refine (turn.sorted.and apart).imp ?_
      rintro a b ⟨less, other⟩
      exact Nat.lt_of_le_of_ne (Int.ofNat_le.mp less) (Ne.symm other)
    refine ⟨(List.pairwise_append.mp strict).1, ?_, fun row member => (mine row).mp (shown row member), ?_⟩
    · intro row member
      exact turn.below (List.mem_append_left _ member) beforeId rfl
    · intro row member wanted below
      have left : row ∈ remaining alertId (some beforeId) rows :=
        List.mem_filter.mpr ⟨(mine row).mpr ⟨member, wanted⟩, decide_eq_true fun c cursor => by
          obtain rfl := Option.some.inj cursor
          exact below⟩
      rcases List.mem_append.mp (turn.perm.mem_iff.mp left) with here | later
      · exact .inl here
      · exact .inr ⟨last, ends, (List.pairwise_append.mp strict).2.2 last turn.last_mem row later⟩

/-- The replies of a reader who asks for what is before the last row of each page, to an empty one. -/
inductive Pages (t : Threads) (owner : String) (onlyUnread : Bool) : Option Int → List AlertRow → Prop
  | ended {place : Nat} {limit beforeId : Option Int} {unread : Option Bool} {asked : List Asked} :
    unread.getD false = onlyUnread →
    t.threads[place]? = some ⟨.list owner ⟨limit, beforeId, unread⟩, asked, .done (.ok (.rows []))⟩ →
    Pages t owner onlyUnread beforeId []
  | page {place : Nat} {limit beforeId : Option Int} {unread : Option Bool} {asked : List Asked}
    {rows shown : List AlertRow} {last : AlertRow} : unread.getD false = onlyUnread →
    t.threads[place]? = some ⟨.list owner ⟨limit, beforeId, unread⟩, asked, .done (.ok (.rows rows))⟩ →
    rows.getLast? = some last → Pages t owner onlyUnread (some last.id) shown →
    Pages t owner onlyUnread beforeId (rows ++ shown)

theorem list_told {caller : String} {query : ListQuery} {asked : List Asked} {rows : List AlertRow}
    (runs : Runs (list caller query) asked (.ok (.rows rows))) :
    ⟨.listAlerts caller (query.beforeId.getD (2 ^ 63 - 1)) (query.unread.getD false) query.pageLimit,
      .ok (.ok rows)⟩ ∈ asked := by
  obtain ⟨_, -, ended⟩ | ⟨answer, before, after, rfl, first, rest⟩ := runs_bind.mp runs
  · cases ended
  · rw [sql, runs_question] at first
    subst first
    cases answer with
    | error e =>
      obtain ⟨-, told⟩ := runs_pure.mp rest
      cases told
    | ok written =>
      obtain ⟨-, told⟩ := runs_pure.mp rest
      cases told
      exact List.mem_cons_self

theorem ListQuery.pageLimit_pos (query : ListQuery) : 0 < query.pageLimit := by
  unfold ListQuery.pageLimit
  omega

/-- A page that somebody was told. -/
theorem told_ofTable {t : Threads}
    {log : List (Transition.Fired Threads (Pool.Action Refresh Bool Kind Stopped))}
    (numbered : Numbered s.alerts) (run : Serving rt dr s log t) {place : Nat} {query : ListQuery}
    {asked : List Asked} {rows : List AlertRow}
    (found : t.threads[place]? = some ⟨.list owner query, asked, .done (.ok (.rows rows))⟩) :
    ∃ alerts, Numbered alerts ∧ Grows s.alerts alerts ∧ Grows alerts t.world.alerts ∧
      OfTable alerts owner (query.beforeId.getD (2 ^ 63 - 1)) (query.unread.getD false) rows := by
  obtain ⟨runs, logged⟩ := (Pool.PoolRun.orderly run).ended found
  have entry := Pool.mem_history_of_logAt (logged ▸ list_told runs)
  obtain ⟨-, -, read⟩ := (pages_kept rt dr s.alerts).run run
    ⟨numbered, .refl s.alerts, by
      intro x member
      cases member⟩
  obtain ⟨alerts, numbered', since, till, rfl⟩ := read _ (List.mem_map_of_mem entry)
  exact ⟨alerts, numbered', since, till, listRows_ofTable numbered' query.pageLimit_pos _ _ _⟩

/-- What a reader has seen below a cursor. -/
structure Seen (start now : AlertTable) (owner : String) (onlyUnread : Bool) (beforeId : Int)
    (shown : List AlertRow) : Prop where
  sorted : shown.Pairwise fun a b => b.id < a.id
  below : ∀ row ∈ shown, (row.id : Int) < beforeId
  stored : ∀ row ∈ shown, Wanted owner onlyUnread row ∧
    ∃ row' ∈ now.rows, row'.id = row.id ∧ row'.alert = row.alert ∧ (row.read = true → row'.read = true)
  all : ∀ row ∈ start.rows, row.alert.owner = owner →
    (onlyUnread = true → readBy now row.id = none) → (row.id : Int) < beforeId →
    ∃ row' ∈ shown, row'.id = row.id ∧ row'.alert = row.alert

/-- An alert of the start that is still wanted was wanted all the time. -/
theorem Grows.wanted {start now : AlertTable} {onlyUnread : Bool} (numbered : Numbered now)
    (since : Grows start alerts) (till : Grows alerts now) (member : row ∈ start.rows)
    (own : row.alert.owner = owner) (still : onlyUnread = true → readBy now row.id = none) :
    ∃ row' ∈ alerts.rows, row'.id = row.id ∧ row'.alert = row.alert ∧ Wanted owner onlyUnread row' := by
  obtain ⟨row', member', same, alert, -⟩ := since.stays row member
  refine ⟨row', member', same, alert, alert ▸ own, ?_⟩
  intro only
  by_contra read
  obtain ⟨last, inside, same', alert', kept⟩ := till.stays row' member'
  have reader : readBy now row.id = some owner := numbered.readBy_eq_some.mpr
    ⟨last, inside, same'.trans same, kept (Bool.eq_true_of_not_eq_false read), by rw [alert', alert, own]⟩
  rw [still only] at reader
  cases reader

theorem Pages.seen {t : Threads}
    {log : List (Transition.Fired Threads (Pool.Action Refresh Bool Kind Stopped))}
    (numbered : Numbered s.alerts) (run : Serving rt dr s log t) {onlyUnread : Bool}
    {beforeId : Option Int} {shown : List AlertRow} (pages : Pages t owner onlyUnread beforeId shown) :
    Seen s.alerts t.world.alerts owner onlyUnread (beforeId.getD (2 ^ 63 - 1)) shown := by
  have ends : Numbered t.world.alerts :=
    ((pages_kept rt dr s.alerts).run run
      ⟨numbered, .refl s.alerts, by
        intro x member
        cases member⟩).1
  -- By induction on the pages. Each was read from a table between the first and the last.
  induction pages with
  | ended filter found =>
    subst filter
    obtain ⟨alerts, numbered', since, till, table⟩ := told_ofTable numbered run found
    refine ⟨.nil, (fun row member => by cases member), (fun row member => by cases member), ?_⟩
    intro row member own still below
    -- On an empty page nothing below the cursor was wanted, at that time or at the end.
    obtain ⟨row', member', same, -, wanted⟩ := since.wanted ends till member own still
    rw [← same] at below
    obtain nothing | ⟨last, none, -⟩ := table.all row' member' wanted below
    · cases nothing
    · cases none
  | @page place limit beforeId unread asked rows shown last filter found final rest ih =>
    subst filter
    obtain ⟨alerts, numbered', since, till, table⟩ := told_ofTable numbered run found
    have lowest := table.below last (List.mem_of_getLast? final)
    dsimp only at table lowest
    -- Whatever a later page shows is below the last row of this one.
    constructor
    · rw [List.pairwise_append]
      refine ⟨table.sorted, ih.sorted, ?_⟩
      intro a earlier b later
      have under : b.id < last.id := Int.ofNat_lt.mp (ih.below b later)
      obtain ⟨init, rfl⟩ := List.getLast?_eq_some_iff.mp final
      rcases List.mem_append.mp earlier with before | here
      · have less := (List.pairwise_append.mp table.sorted).2.2 a before last (List.mem_singleton_self last)
        exact under.trans less
      · rw [List.mem_singleton.mp here]
        exact under
    · rw [List.forall_mem_append]
      exact ⟨table.below, fun row later => (ih.below row later).trans lowest⟩
    · rw [List.forall_mem_append]
      refine ⟨?_, ih.stored⟩
      intro row member
      obtain ⟨inside, wanted⟩ := table.inside row member
      exact ⟨wanted, till.stays row inside⟩
    · intro row member own still below
      obtain ⟨row', member', same, alert, wanted⟩ := since.wanted ends till member own still
      rw [← same] at below
      obtain here | ⟨last', final', under⟩ := table.all row' member' wanted below
      · exact ⟨row', List.mem_append_left _ here, same, alert⟩
      · obtain rfl := Option.some.inj (final.symm.trans final')
        obtain ⟨found, shown, same', alert'⟩ := ih.all row member own still (by
          rw [← same]
          exact Int.ofNat_lt.mpr under)
        exact ⟨found, List.mem_append_right _ shown, same', alert'⟩

/-- Whatever runs between the pages, a reader sees each alert once and the newest first, as they are
stored, and sees all that were there at the start and are, if asked for, still unread. -/
theorem inbox_paged {t : Threads}
    {log : List (Transition.Fired Threads (Pool.Action Refresh Bool Kind Stopped))}
    (numbered : Numbered s.alerts) (fits : s.alerts.nextId < 2 ^ 63) (run : Serving rt dr s log t)
    {onlyUnread : Bool} {shown : List AlertRow} (pages : Pages t owner onlyUnread none shown) :
    (shown.Pairwise fun a b => b.id < a.id) ∧
    (∀ row ∈ shown, row.alert.owner = owner ∧ ∃ row' ∈ t.world.alerts.rows, row'.id = row.id ∧
      row'.alert = row.alert ∧ (row.read = true → row'.read = true)) ∧
    ∀ row ∈ s.alerts.rows, row.alert.owner = owner →
      (onlyUnread = true → readBy t.world.alerts row.id = none) →
      ∃ row' ∈ shown, row'.id = row.id ∧ row'.alert = row.alert := by
  have seen := pages.seen numbered run
  refine ⟨seen.sorted, ?_, ?_⟩
  · intro row member
    obtain ⟨wanted, stored⟩ := seen.stored row member
    exact ⟨wanted.1, stored⟩
  · intro row member own still
    have below := numbered.below row member
    refine seen.all row member own still ?_
    rw [Option.getD_none]
    omega

/-- An inbox with a read and an unread alert. -/
def held : State :=
  let note : Alert := ⟨"owner", .vaultFunded, .info, "Deposit", "0.00 USDC", .null⟩
  { Desk.state with alerts := ⟨[⟨1, note, true⟩, ⟨2, note, false⟩], 3⟩ }

/-- Between the first page and the second the agent makes a request. -/
def paged : List (Pool.Action Refresh Bool Kind Stopped) :=
  .start (.list "owner" ⟨some 1, none, none⟩) :: .turn 0 true ::
    .start (.request "owner" (Desk.body "agent" 5)) :: List.replicate 6 (.turn 1 true) ++
    [.start (.list "owner" ⟨some 1, some 2, none⟩), .turn 2 true,
      .start (.list "owner" ⟨some 1, some 1, none⟩), .turn 3 true]

theorem inbox_paged_held : ∃ t : Threads, t.world.alerts.rows.map AlertRow.id = [1, 2, 3] ∧
    ∃ shown, Pages t "owner" false none shown ∧ shown.map AlertRow.id = [2, 1] ∧
      ∀ row ∈ held.alerts.rows, ∃ row' ∈ shown, row'.id = row.id ∧ row'.alert = row.alert := by
  have numbered : Numbered held.alerts := ⟨by decide, by decide⟩
  have run := Transition.Run.of_trace
    (Pool.step (desk Desk.runtime Shift.runtime) (program Desk.runtime Shift.runtime)) (.start held) paged
  have pages : Pages (paged.foldl (Transition.settle
      (Pool.step (desk Desk.runtime Shift.runtime) (program Desk.runtime Shift.runtime))) (.start held))
      "owner" false none (held.alerts.rows.drop 1 ++ (held.alerts.rows.take 1 ++ [])) := by
    have first : ∀ t : Threads, ∀ asked, t.threads[0]? = some ⟨.list "owner" ⟨some 1, none, none⟩, asked,
        .done (.ok (.rows (held.alerts.rows.drop 1)))⟩ → Pages t "owner" false (some 2) (held.alerts.rows.take 1 ++ []) →
        Pages t "owner" false none (held.alerts.rows.drop 1 ++ (held.alerts.rows.take 1 ++ [])) :=
      fun t asked found rest => .page rfl found rfl rest
    have second : ∀ t : Threads, ∀ asked, t.threads[2]? = some ⟨.list "owner" ⟨some 1, some 2, none⟩, asked,
        .done (.ok (.rows (held.alerts.rows.take 1)))⟩ → Pages t "owner" false (some 1) [] →
        Pages t "owner" false (some 2) (held.alerts.rows.take 1 ++ []) :=
      fun t asked found rest => .page rfl found rfl rest
    have third : ∀ t : Threads, ∀ asked, t.threads[3]? = some ⟨.list "owner" ⟨some 1, some 1, none⟩, asked,
        .done (.ok (.rows []))⟩ → Pages t "owner" false (some 1) [] :=
      fun t asked found => .ended rfl found
    exact first _ _ rfl (second _ _ rfl (third _ _ rfl))
  obtain ⟨-, -, all⟩ := inbox_paged numbered (by decide) run pages
  refine ⟨_, rfl, _, pages, rfl, ?_⟩
  intro row member
  exact all row member (by
    revert row
    decide) (by rintro ⟨⟩)

end AgentFuel.Backend.Handlers
