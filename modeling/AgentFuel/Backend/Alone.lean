import AgentFuel.Backend.Handlers

/-!
# Handlers that run alone

While nothing else is under way, the statements of a delivery do to the tables what its model of one
piece does, and those of a request for approval leave the same state and reply.
-/
namespace AgentFuel.Backend.Handlers

open Spends Pool

variable {rt : RequestRuntime} {dr : DispatchRuntime} {s : State} {A B : Type}

/-- A handler alone, with the statements that succeed. -/
def alone (rt : RequestRuntime) (dr : DispatchRuntime) (succeeds : Query → Bool) (s : State)
    (handler : Handler A) : State × Except Stopped A :=
  solo (desk rt dr) succeeds s handler

/-! ### Parts of handlers -/

theorem alone_bind (succeeds : Query → Bool) (s : State) (x : Handler A) (f : A → Handler B) :
    alone rt dr succeeds s (x >>= f) =
      proceed (alone rt dr succeeds s x) fun s' a => alone rt dr succeeds s' (f a) :=
  solo_bind succeeds s x f

theorem alone_sql (succeeds : Query → Bool) (s : State) (q : Query) :
    alone rt dr succeeds s (sql q) =
      ((answer rt dr s (succeeds q) q).1, .ok (answer rt dr s (succeeds q) q).2) := rfl

/-- A part that goes on with an answer goes on from the state that the answer left. -/
theorem alone_sql_bind (succeeds : Query → Bool) (s : State) (q : Query)
    (f : Except Failed q.Rows → Handler B) :
    alone rt dr succeeds s (sql q >>= f) = alone rt dr succeeds (answer rt dr s (succeeds q) q).1
      (f (answer rt dr s (succeeds q) q).2) := by
  rw [alone_bind, alone_sql]
  rfl

/-- `emit` fails with its statement, and otherwise does what its model does. -/
theorem alone_emit (succeeds : Query → Bool) (s : State) (alert : Alert) :
    alone rt dr succeeds s (emit alert) = if succeeds (.insertAlert alert) = true then
      ((s.emit rt alert).1, .ok (.ok (s.emit rt alert).2))
    else (s, .ok (.error .failed)) := by
  rw [emit, andThen, alone_sql_bind]
  cases succeeds (.insertAlert alert) <;> rfl

/-! ### Deliveries -/

/-- Every statement succeeds. -/
def works (_ : Query) : Bool := true

/-- The handler ends, and leaves these tables. -/
structure Leaves (rt : RequestRuntime) (dr : DispatchRuntime) (s : State) (handler : Handler A)
    (t : Tables) : Prop where
  ends : ∃ result, (alone rt dr works s handler).2 = .ok result
  tables : (alone rt dr works s handler).1.toTables = t

theorem Leaves.pure (a : A) : Leaves rt dr s (pure a : Handler A) s.toTables := ⟨⟨a, rfl⟩, rfl⟩

theorem Leaves.bind {x : Handler A} {f : A → Handler B} {t u : Tables} (first : Leaves rt dr s x t)
    (second : ∀ (s' : State) a, s'.toTables = t → Leaves rt dr s' (f a) u) :
    Leaves rt dr s (x >>= f) u := by
  obtain ⟨⟨a, ended⟩, tables⟩ := first
  have next := second _ a tables
  have whole : alone rt dr works s (x >>= f) = alone rt dr works (alone rt dr works s x).1 (f a) := by
    rw [alone_bind, proceed, ended]
  exact ⟨whole ▸ next.ends, whole ▸ next.tables⟩

/-- A statement that succeeds, and what follows it. -/
theorem Leaves.andThen {q : Query} {f : q.Rows → Handler (Except Failed B)} {t : Tables}
    (rest : Leaves rt dr (execute rt dr s q).1 (match (execute rt dr s q).2 with
      | .ok rows => f rows
      | .error e => (Pure.pure (.error e) : Handler (Except Failed B))) t) :
    Leaves rt dr s (andThen (sql q) f) t := by
  have whole : alone rt dr works s (Handlers.andThen (sql q) f) =
      alone rt dr works (execute rt dr s q).1 (match (execute rt dr s q).2 with
        | .ok rows => f rows
        | .error e => (Pure.pure (.error e) : Handler (Except Failed B))) := by
    rw [Handlers.andThen, alone_sql_bind, works, answer_true]
    cases (execute rt dr s q).2 <;> rfl
  exact ⟨whole ▸ rest.ends, whole ▸ rest.tables⟩

/-- A part that succeeds, and what follows it. -/
theorem Leaves.after {part : Handler (Except Failed A)} {f : A → Handler (Except Failed B)}
    {s' : State} {a : A} {t : Tables} (first : alone rt dr works s part = (s', .ok (.ok a)))
    (rest : Leaves rt dr s' (f a) t) : Leaves rt dr s (Handlers.andThen part f) t := by
  have whole : alone rt dr works s (Handlers.andThen part f) = alone rt dr works s' (f a) := by
    rw [Handlers.andThen, alone_bind, proceed, first]
  exact ⟨whole ▸ rest.ends, whole ▸ rest.tables⟩

theorem leaves_emitSome (alert : Option Alert) :
    Leaves rt dr s (emitSome alert) (s.toTables.announce alert) := by
  cases alert with
  | none => exact .pure _
  | some alert => exact ⟨⟨_, rfl⟩, rfl⟩

theorem leaves_budgetAlert (ev : ParsedEvent String) :
    Leaves rt dr s (budgetAlert ev) (s.toTables.budgetAlert ev) := by
  unfold budgetAlert Tables.budgetAlert
  cases ev.text "vault" with
  | none => exact .pure _
  | some vaultPubkey =>
    refine .andThen ?_
    dsimp only [execute]
    rw [Option.bind_map]
    dsimp only [Function.comp_def]
    cases (s.db.vaults vaultPubkey).bind fun row =>
        budgetCrossing ⟨row, s.lastBudgetAlertPct vaultPubkey⟩ with
    | none => exact .pure _
    | some crossing => exact .andThen ⟨⟨_, rfl⟩, rfl⟩

theorem leaves_scoreAlert (ev : ParsedEvent String) :
    Leaves rt dr s (scoreAlert ev) (s.toTables.announce (Backend.scoreAlert s.db s.scoreHistory ev)) := by
  unfold scoreAlert Backend.scoreAlert
  cases ev.text "agent" with
  | none => exact .pure _
  | some agentPubkey =>
    cases ev.asI64 "score" with
    | none => exact .pure _
    | some newScore =>
      simp only [Option.bind_eq_bind, Option.bind_some]
      refine .andThen ?_
      dsimp only [execute]
      cases s.db.agents agentPubkey with
      | none => exact .pure _
      | some agent =>
        refine .andThen ?_
        dsimp only [execute]
        rw [Option.bind_some]
        split
        · exact .pure _
        · exact leaves_emitSome (some _)

theorem leaves_spendRequestedAlert (ev : ParsedEvent String) :
    Leaves rt dr s (spendRequestedAlert dr ev) (s.toTables.spendRequestedAlert dr ev) := by
  unfold spendRequestedAlert Tables.spendRequestedAlert
  cases spendRequest ev with
  | none => exact .pure _
  | some request =>
    refine .andThen ?_
    dsimp only [execute]
    cases s.db.vaults request.vault with
    | none => exact .pure _
    | some vault =>
      dsimp only [Option.map_some]
      refine .andThen ?_
      cases outcome : s.pending.request vault.owner request (dr.now s.pending.nextId) with
      | mk pending id =>
        dsimp only [execute]
        rw [outcome]
        cases id with
        | none => exact ⟨⟨_, rfl⟩, rfl⟩
        | some id => exact ⟨⟨_, rfl⟩, rfl⟩

/-- The read mark reaches the same alerts, read ones included. -/
theorem markWhere_markRead (alerts : AlertTable) (owner : String) (id : Nat) :
    (AlertTable.markWhere alerts fun row =>
      Decidable.decide ((row.id : Int) = (id : Int) ∧ row.alert.owner = owner)).1 =
      alerts.markRead owner (some id) := by
  simp only [AlertTable.markWhere, AlertTable.markRead, Nat.cast_inj, decide_eq_true_eq]

theorem leaves_settle (row : PendingRow String) (alert : Alert) :
    Leaves rt dr s (settle row alert)
      ({ s.toTables with alerts := s.alerts.markRead row.owner row.alertId }.announce (some alert)) := by
  unfold settle
  cases row.alertId with
  | none => exact leaves_emitSome (some alert)
  | some alertId =>
    have marked : ∀ u : State, u.toTables =
        { s.toTables with alerts := s.alerts.markRead row.owner (some alertId) } →
        Leaves rt dr u (emitSome (some alert))
          ({ s.toTables with alerts := s.alerts.markRead row.owner (some alertId) }.announce (some alert)) := by
      intro u same
      rw [← same]
      exact leaves_emitSome (some alert)
    have next := marked (execute rt dr s (.markRead alertId row.owner)).1 (by
      rw [← markWhere_markRead]
      rfl)
    exact ⟨next.ends, next.tables⟩

/-- With nothing in between, the sub-select and the `UPDATE` are one statement. -/
theorem approve_eq (dr : DispatchRuntime) (table : PendingTable String) (payment : SpendPayment String) :
    table.approve dr.oldest payment = match oldestRow dr table payment with
      | none => (table, none)
      | some id => approveRow table id := by
  unfold PendingTable.approve oldestRow
  cases found : dr.oldest.pick (table.rows.filter (PendingRow.awaits payment)) with
  | none => rfl
  | some chosen =>
    have member := (List.mem_filter.mp (dr.oldest.pick_mem found)).1
    dsimp only [Option.map_some, approveRow]
    rw [PendingTable.find?_id member]
    rfl

theorem alone_approveOldest (rt : RequestRuntime) (dr : DispatchRuntime) (s : State)
    (payment : SpendPayment String) :
    alone rt dr works s (approveOldest payment) =
      ({ s with pending := (s.pending.approve dr.oldest payment).1 },
        .ok (.ok (s.pending.approve dr.oldest payment).2)) := by
  refine (alone_sql_bind works s (.oldestPending payment) _).trans ?_
  rw [approve_eq]
  dsimp only [works, answer, if_true, execute]
  cases oldestRow dr s.pending payment with
  | none => rfl
  | some id => rfl

theorem leaves_spendApprovedMirror (ev : ParsedEvent String) :
    Leaves rt dr s (spendApprovedMirror dr ev) (s.toTables.spendApprovedMirror dr ev) := by
  unfold spendApprovedMirror Tables.spendApprovedMirror
  cases spendPayment ev with
  | none => exact .pure _
  | some payment =>
    dsimp only
    have first := alone_approveOldest rt dr s payment
    cases outcome : s.pending.approve dr.oldest payment with
    | mk pending row =>
      rw [outcome] at first
      refine .after first ?_
      cases row with
      | none =>
        -- Without a row that waits nothing is written.
        have same : pending = s.pending := by
          unfold PendingTable.approve at outcome
          split at outcome
          · exact (congrArg Prod.fst outcome).symm
          · cases outcome
        rw [same]
        exact .pure _
      | some row => exact leaves_settle row _

theorem leaves_spendRejectedMirror (ev : ParsedEvent String) :
    Leaves rt dr s (spendRejectedMirror dr ev) (s.toTables.spendRejectedMirror dr ev) := by
  unfold spendRejectedMirror Tables.spendRejectedMirror
  cases ev.text "pending_spend" with
  | none => exact .pure _
  | some key =>
    refine .andThen ?_
    cases outcome : s.pending.reject key with
    | mk pending row =>
      dsimp only [execute]
      rw [outcome]
      cases row with
      | none =>
        have same : pending.rows = s.pending.rows := by
          unfold PendingTable.reject at outcome
          obtain ⟨rfl, nobody⟩ := Prod.mk.inj outcome
          rw [Option.map_eq_none_iff, List.find?_eq_none] at nobody
          calc _ = s.pending.rows.map id := by
                apply List.map_congr_left
                intro row member
                rw [if_neg (nobody row member), id]
            _ = s.pending.rows := List.map_id _
        have next : s.pending.nextId = pending.nextId :=
          congrArg (fun out => PendingTable.nextId out.1) outcome
        have table : pending = s.pending := by
          cases pending
          cases held : s.pending
          simp only [held] at same next
          subst same
          subst next
          rfl
        rw [table]
        exact .pure _
      | some row => exact leaves_settle row _

theorem leaves_dispatchEvent (ev : ParsedEvent String) :
    Leaves rt dr s (dispatchEvent dr ev) (s.toTables.dispatch dr ev) := by
  unfold dispatchEvent Tables.dispatch
  cases ev.decoded.eventName with
  | spent =>
    refine (leaves_spendApprovedMirror ev).bind fun s' a same => ?_
    rw [← same]
    refine (leaves_budgetAlert ev).bind fun s'' b same' => ?_
    rw [← same']
    exact .pure _
  | claimed => exact leaves_budgetAlert ev
  | scoreComputed => exact leaves_scoreAlert ev
  | deposited => exact leaves_emitSome _
  | vaultFrozen => exact leaves_emitSome _
  | spendRequested => exact leaves_spendRequestedAlert ev
  | spendRejected => exact leaves_spendRejectedMirror ev
  | _ => exact .pure _

/-- A delivery that runs alone leaves the tables of the model of one piece. -/
theorem dispatch_alone (rt : RequestRuntime) (dr : DispatchRuntime) (s : State)
    (events : List (ParsedEvent String)) :
    Leaves rt dr s (dispatch dr events) (events.foldl (Tables.dispatch dr) s.toTables) := by
  induction events generalizing s with
  | nil => exact .pure _
  | cons ev events ih =>
    refine (leaves_dispatchEvent ev).bind fun s' _ same => ?_
    rw [List.foldl_cons, ← same]
    exact ih s'

/-! ### Requests -/

/-- The statement a query of the endpoint stands for. -/
def Query.statement : Query → Option Statement
  | vaultOwner _ => some .vaultOwner
  | insertPending _ _ => some .insertPending
  | insertAlert _ => some .insertAlert
  | linkAlert _ _ => some .linkAlert
  | _ => none

/-- The statements of the endpoint fail as given. -/
def unlessFails (fails : Statement → Bool) (q : Query) : Bool :=
  q.statement.elim true fun statement => !fails statement

/-- How the endpoint ended. -/
def outcome : Spends.Reply → Except Stopped Reply
  | .panicked => .error .panicked
  | reply => .ok (.request reply)

theorem answer_unlessFails {fails : Statement → Bool} {q : Query} {statement : Statement}
    (named : q.statement = some statement) : answer rt dr s (unlessFails fails q) q =
      if fails statement = true then (s, .error .failed) else execute rt dr s q := by
  have chance : unlessFails fails q = !fails statement := by
    rw [unlessFails, named]
    rfl
  rw [chance]
  cases q with
  | broadcast => cases named
  | notify => cases named
  | _ => cases fails statement <;> rfl

/-- A request for approval that runs alone ends as its model of one piece does. -/
theorem request_alone (rt : RequestRuntime) (dr : DispatchRuntime) (fails : Statement → Bool) (s : State)
    (caller : String) (req : RequestSpendBody) :
    alone rt dr (unlessFails fails) s (request caller rt req) =
      ((Spends.request rt fails s caller req).1, outcome (Spends.request rt fails s caller req).2) := by
  unfold request Spends.request
  split
  · rfl
  · -- Both go through the same statements; each either fails in both or succeeds in both.
    rw [alone_sql_bind, answer_unlessFails rfl]
    split
    · rfl
    · dsimp only [execute]
      cases (s.db.vaults req.vault).map VaultRow.owner with
      | none => rfl
      | some owner =>
        dsimp only
        split
        · rfl
        · rw [alone_sql_bind, answer_unlessFails rfl]
          split
          · rfl
          · dsimp only [execute]
            cases approvalRequired rt owner s.pending.nextId req with
            | none => rfl
            | some alert =>
              dsimp only
              rw [alone_bind, alone_emit]
              cases third : fails .insertAlert with
              | true =>
                have stops : unlessFails fails (.insertAlert alert) = false := by
                  simp [unlessFails, Query.statement, third]
                rw [stops]
                rfl
              | false =>
                have goes : unlessFails fails (.insertAlert alert) = true := by
                  simp [unlessFails, Query.statement, third]
                rw [goes, if_pos rfl]
                dsimp only [proceed]
                rw [alone_bind, ignore, alone_sql_bind, answer_unlessFails rfl]
                cases fails .linkAlert <;> rfl

end AgentFuel.Backend.Handlers
