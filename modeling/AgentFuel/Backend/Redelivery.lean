import AgentFuel.Backend.Outcomes
import AgentFuel.Backend.Rerun

/-!
# The same delivery once more

Alerts have no key of their own: whatever is announced for an event of a batch is announced again
when the batch is retried, unless the first announcement has left a trace that keeps the second one
away.
-/
namespace AgentFuel.Backend

open Checked FirstFailure

/-! ### The approval flow -/

section Approval

variable (dr : DispatchRuntime) (t : Tables) (ev : ParsedEvent String)

theorem updateWhere_none {table : PendingTable String} {hit : PendingRow String → Bool}
    (missed : ∀ row ∈ table.rows, hit row = false) (f : PendingRow String → PendingRow String)
    (same : ∀ row, (f row).id = row.id) : table.updateWhere hit f same = table := by
  have rows : table.rows.map (fun row => if hit row then f row else row) = table.rows := by
    refine (List.map_congr_left fun row member => ?_).trans (List.map_id _)
    rw [missed row member]
    rfl
  unfold PendingTable.updateWhere PendingTable.update
  cases table
  simp only at rows
  simp only [rows]

theorem spendApprovedMirror_pending (sr : SpendRuntime String) (oldest : sr.oldest = dr.oldest) :
    (t.spendApprovedMirror dr ev).pending = spendApprovedMirror t.pending sr ev := by
  unfold Tables.spendApprovedMirror spendApprovedMirror
  rw [oldest]
  cases spendPayment ev with
  | none => rfl
  | some payment =>
    dsimp only
    unfold PendingTable.approve
    cases dr.oldest.pick (t.pending.rows.filter (PendingRow.awaits payment)) with
    | none => rfl
    | some chosen => rfl

theorem spendRejectedMirror_pending :
    (t.spendRejectedMirror dr ev).pending = spendRejectedMirror t.pending ev := by
  unfold Tables.spendRejectedMirror spendRejectedMirror
  cases ev.text "pending_spend" with
  | none => rfl
  | some key =>
    dsimp only
    unfold PendingTable.reject
    cases found : t.pending.rows.find? (PendingRow.isOpen key) with
    | none =>
      -- Without an open row nothing is rewritten.
      have missed : ∀ row ∈ t.pending.rows, PendingRow.isOpen key row = false :=
        fun row member => Bool.eq_false_of_not_eq_true (List.find?_eq_none.mp found row member)
      exact (updateWhere_none missed (fun row => { row with status := .rejected }) fun _ => rfl).symm
    | some chosen => rfl

theorem spendRequestedAlert_pending : (t.spendRequestedAlert dr ev).pending = spendRequestedAlert
    t.pending ⟨dr.oldest, dr.now, fun _ => some t.alerts.nextId⟩ t.db ev := by
  unfold Tables.spendRequestedAlert spendRequestedAlert
  cases spendRequest ev with
  | none => rfl
  | some request =>
    dsimp only
    cases t.db.vaults request.vault with
    | none => rfl
    | some vault =>
      dsimp only
      obtain ⟨pending, id⟩ := t.pending.request vault.owner request (dr.now t.pending.nextId)
      cases id with
      | none => rfl
      | some id => rfl

/-- The pending spends go the way of `dispatchSpend`, where an alert can always be inserted. -/
theorem dispatch_pending : (t.dispatch dr ev).pending =
    dispatchSpend ⟨dr.oldest, dr.now, fun _ => some t.alerts.nextId⟩ t.db t.pending ev := by
  unfold Tables.dispatch dispatchSpend
  cases ev.decoded.eventName with
  | spent =>
    rw [(budgetAlert_keeps _ ev).2.2]
    exact spendApprovedMirror_pending dr t ev _ rfl
  | claimed => exact (budgetAlert_keeps t ev).2.2
  | scoreComputed => exact (announce_keeps t _).2.2.2
  | deposited => exact (announce_keeps t _).2.2.2
  | vaultFrozen => exact (announce_keeps t _).2.2.2
  | spendRequested => exact spendRequestedAlert_pending dr t ev
  | spendRejected => exact spendRejectedMirror_pending dr t ev
  | _ => rfl

end Approval

/-- The rows that are left when the batch has been served, its requests aside. -/
def PendingTable.served (dr : DispatchRuntime) (table : PendingTable String)
    (batch : List (ParsedEvent String)) : PendingTable String :=
  (batch.filter fun ev => decide (ev.decoded.eventName ≠ .spendRequested)).foldl
    (dispatchSpend ⟨dr.oldest, dr.now, fun _ => none⟩ .empty) table

/-- The statements look at nothing but the rows. -/
theorem dispatchSpend_rows_eq {sr sr' : SpendRuntime String} {db db' : Database String}
    {table table' : PendingTable String} {ev : ParsedEvent String}
    (other : ev.decoded.eventName ≠ .spendRequested) (oldest : sr'.oldest = sr.oldest)
    (rows : table'.rows = table.rows) :
    (dispatchSpend sr' db' table' ev).rows = (dispatchSpend sr db table ev).rows := by
  unfold dispatchSpend
  cases named : ev.decoded.eventName with
  | spent =>
    dsimp only
    unfold spendApprovedMirror
    cases spendPayment ev with
    | none => exact rows
    | some payment =>
      dsimp only
      unfold PendingTable.approve
      rw [oldest, rows]
      cases sr.oldest.pick (table.rows.filter (PendingRow.awaits payment)) with
      | none => exact rows
      | some chosen => exact congrArg (List.map _) rows
  | spendRequested => exact absurd named other
  | spendRejected =>
    dsimp only
    unfold spendRejectedMirror
    cases ev.text "pending_spend" with
    | none => exact rows
    | some key => exact congrArg (List.map _) rows
  | _ => exact rows

/-- No request of the batch is announced. -/
def NoRequest (db : Database String) (batch : List (ParsedEvent String)) : Prop :=
  ∀ ev ∈ batch, ev.decoded.eventName = .spendRequested → requestAnnounced db ev = false

/-- A request that is not announced makes no row. -/
theorem dispatch_request {dr : DispatchRuntime} {t : Tables} {ev : ParsedEvent String}
    (named : ev.decoded.eventName = .spendRequested) (quiet : requestAnnounced t.db ev = false) :
    (t.dispatch dr ev).pending.rows = t.pending.rows := by
  have silent : t.announces dr ev = false := by
    rw [Tables.announces, named]
    exact quiet
  exact ((dispatch_outcome dr t ev).silent silent).pending

theorem dispatches_served {dr : DispatchRuntime} {t : Tables} {table : PendingTable String}
    {batch : List (ParsedEvent String)} (quiet : NoRequest t.db batch)
    (rows : t.pending.rows = table.rows) :
    (batch.foldl (Tables.dispatch dr) t).pending.rows = (table.served dr batch).rows := by
  induction batch generalizing t table with
  | nil => exact rows
  | cons ev rest ih =>
    rw [NoRequest, List.forall_mem_cons] at quiet
    have later : NoRequest (t.dispatch dr ev).db rest := by
      rw [(dispatch_keeps dr t ev).1]
      exact quiet.2
    rw [List.foldl_cons, PendingTable.served]
    by_cases named : ev.decoded.eventName = .spendRequested
    · rw [List.filter_cons_of_neg (by simp [named])]
      exact ih later ((dispatch_request named (quiet.1 named)).trans rows)
    · rw [List.filter_cons_of_pos (by simp [named]), List.foldl_cons]
      refine ih later ?_
      rw [dispatch_pending]
      exact dispatchSpend_rows_eq named rfl rows

/-- The event lets `spend_rejected_mirror` run for the request. -/
def ParsedEvent.rejects (ev : ParsedEvent String) (key : String) : Prop :=
  ev.decoded.eventName = .spendRejected ∧ ev.text "pending_spend" = some key

/-- What has been rejected is not open any more. -/
theorem dispatch_closed {dr : DispatchRuntime} {t : Tables} {ev : ParsedEvent String} {key : String}
    (quiet : ev.decoded.eventName = .spendRequested → requestAnnounced t.db ev = false)
    (closed : t.pending.rows.any (PendingRow.isOpen key) = false ∨ ev.rejects key) :
    (t.dispatch dr ev).pending.rows.any (PendingRow.isOpen key) = false := by
  rw [List.any_eq_false]
  intro row' member isOpen
  have isOpen : row'.pendingSpendPubkey = some key ∧ row'.status = .pending := of_decide_eq_true isOpen
  rcases closed with closed | ⟨named, read⟩
  · rw [List.any_eq_false] at closed
    by_cases named : ev.decoded.eventName = .spendRequested
    · rw [dispatch_request named (quiet named)] at member
      exact closed row' member (decide_eq_true isOpen)
    · rw [dispatch_pending] at member
      rcases dispatchSpend_rows member with ⟨row, inside, same, fate⟩ | ⟨_, request, -⟩
      · cases fate with
        | kept status =>
          exact closed row inside
            (decide_eq_true ⟨same.pendingSpendPubkey.symm.trans isOpen.1, status.symm.trans isOpen.2⟩)
        | approved _ _ _ _ status =>
          rw [isOpen.2] at status
          cases status
        | rejected _ _ _ _ status =>
          rw [isOpen.2] at status
          cases status
      · exact absurd request named
  · rw [dispatch_pending, dispatchSpend, named] at member
    simp only [spendRejectedMirror, read, PendingTable.reject, PendingTable.updateWhere,
      PendingTable.update] at member
    obtain ⟨row, inside, rfl⟩ := List.mem_map.mp member
    split at isOpen
    · cases isOpen.2
    next missed => exact missed (decide_eq_true isOpen)

theorem dispatches_closed {dr : DispatchRuntime} {t : Tables} {batch : List (ParsedEvent String)}
    {key : String} (quiet : NoRequest t.db batch)
    (closed : t.pending.rows.any (PendingRow.isOpen key) = false ∨ ∃ ev ∈ batch, ev.rejects key) :
    (batch.foldl (Tables.dispatch dr) t).pending.rows.any (PendingRow.isOpen key) = false := by
  induction batch generalizing t with
  | nil => exact closed.resolve_right (by simp)
  | cons ev rest ih =>
    rw [NoRequest, List.forall_mem_cons] at quiet
    have later : NoRequest (t.dispatch dr ev).db rest := by
      rw [(dispatch_keeps dr t ev).1]
      exact quiet.2
    rw [List.foldl_cons]
    apply ih later
    rcases closed with closed | ⟨other, member, rejects⟩
    · exact .inl (dispatch_closed quiet.1 (.inl closed))
    · rcases List.mem_cons.mp member with rfl | behind
      · exact .inl (dispatch_closed quiet.1 (.inr rejects))
      · exact .inr ⟨other, behind, rejects⟩

/-! ### A second delivery -/

/-- Whether an event of a batch that has been delivered is announced once more, where `left` are
the pending spends that the batch leaves. -/
def recurs (dr : DispatchRuntime) (db : Database String) (history : List ScoreRow)
    (left : PendingTable String) (ev : ParsedEvent String) : Bool :=
  match ev.decoded.eventName with
  -- Another row may wait for the same payment.
  | .spent => left.awaited ev
  | .scoreComputed => (scoreAlert db history ev).isSome
  | .deposited => (depositAlert dr ev).isSome
  | .vaultFrozen => (freezeAlert ev).isSome
  | .spendRequested => requestAnnounced db ev
  | _ => false

theorem dispatches_announce (dr dr' : DispatchRuntime) (t : Tables) (batch : List (ParsedEvent String)) :
    batch.any ((batch.foldl (Tables.dispatch dr) t).announces dr') =
      batch.any (recurs dr' t.db t.scoreHistory (t.pending.served dr batch)) := by
  obtain ⟨db, history⟩ := dispatches_keep dr t batch
  by_cases quiet : NoRequest t.db batch
  · have rows : (batch.foldl (Tables.dispatch dr) t).pending.rows = (t.pending.served dr batch).rows :=
      dispatches_served quiet rfl
    -- The first pass has stored the threshold of every vault that the batch names.
    have due : ∀ ev ∈ batch, ev.decoded.eventName = .spent ∨ ev.decoded.eventName = .claimed →
        (ev.text "vault").any (batch.foldl (Tables.dispatch dr) t).budgetDue = false := by
      intro ev member named
      rw [Option.any_eq_false]
      intro vaultPubkey read
      exact dispatches_due dr t batch vaultPubkey (.inr ⟨ev, member, named, read⟩)
    rw [Bool.eq_iff_iff, List.any_eq_true, List.any_eq_true]
    -- Event by event, what the second pass would announce is what recurs.
    refine exists_congr fun ev => and_congr_right fun member => Bool.eq_iff_iff.mp ?_
    unfold Tables.announces recurs
    cases named : ev.decoded.eventName with
    | spent =>
      dsimp only
      rw [due ev member (.inl named), Bool.or_false, PendingTable.awaited, PendingTable.awaited, rows]
    | claimed => exact due ev member (.inr named)
    | scoreComputed => simp only [db, history]
    | spendRequested => simp only [db]
    | spendRejected =>
      dsimp only
      rw [Option.any_eq_false]
      intro key read
      exact dispatches_closed quiet (.inr ⟨ev, member, named, read⟩)
    | _ => rfl
  · -- The request that is announced is announced on both sides.
    simp only [NoRequest, not_forall, Bool.not_eq_false] at quiet
    obtain ⟨ev, member, named, announced⟩ := quiet
    have first : (batch.foldl (Tables.dispatch dr) t).announces dr' ev = true := by
      rw [Tables.announces, named, db]
      exact announced
    have second : recurs dr' t.db t.scoreHistory (t.pending.served dr batch) ev = true := by
      rw [recurs, named]
      exact announced
    rw [List.any_eq_true.mpr ⟨ev, member, first⟩, List.any_eq_true.mpr ⟨ev, member, second⟩]

/-- A vault without a row has no threshold. -/
def Tables.Clean (t : Tables) : Prop := ∀ key, t.db.vaults key = none → t.lastBudgetAlertPct key = 0

theorem ingest_vault {rt : Runtime String} {db : Database String} {key : String}
    (batch : List (ParsedEvent String)) (held : (db.vaults key).isSome) :
    ((ingest rt zeroKeyText db batch).1.vaults key).isSome := by
  rw [ingest_eq]
  generalize (rt.order (affected batch)).entities = entities
  have held : (({ db with events := insertEvents db.events batch } : Database String).vaults key).isSome :=
    held
  revert held
  generalize ({ db with events := insertEvents db.events batch } : Database String) = start
  intro held
  induction entities generalizing start with
  | nil => exact held
  | cons entity rest ih =>
    by_cases done : ∃ t, entity.refresh rt zeroKeyText start = .ok t
    · obtain ⟨t, done⟩ := done
      rw [runUntil_ok done]
      apply ih
      by_cases own : (Entity.vault key : Entity String) = entity
      · subst own
        rcases refreshVault_ok done with rfl | ⟨row, rfl⟩
        · exact held
        · simp
      · rw [← (Entity.refresh_frame done own).2]
        exact held
    · rw [runUntil_fails fun t ok => done ⟨t, ok⟩]
      exact held

theorem store_clean (rt : Runtime String) (t : Tables) (batch : List (ParsedEvent String)) :
    (t.store rt batch).Clean := by
  intro key missing
  have before : ¬(t.db.vaults key).isSome = true := by
    intro held
    have after : ((ingest rt zeroKeyText t.db batch).1.vaults key).isSome := ingest_vault batch held
    rw [show (ingest rt zeroKeyText t.db batch).1.vaults key = none from missing] at after
    cases after
  exact if_neg before

theorem dispatch_clean {t : Tables} (clean : t.Clean) (dr : DispatchRuntime) (ev : ParsedEvent String) :
    (t.dispatch dr ev).Clean := by
  -- A threshold is stored only for a vault that has a row.
  have budget : ∀ {t : Tables}, t.Clean → (t.budgetAlert ev).Clean := by
    intro t clean key missing
    rw [(budgetAlert_keeps t ev).1] at missing
    unfold Tables.budgetAlert
    split
    · exact clean key missing
    next vaultPubkey _ =>
      split
      · exact clean key missing
      next crossing found =>
        obtain ⟨row, held, -⟩ := Option.bind_eq_some_iff.mp found
        have apart : key ≠ vaultPubkey := by
          rintro rfl
          rw [missing] at held
          cases held
        simp only [Tables.emit, Function.update_of_ne apart]
        exact clean key missing
  have same : ∀ {t' : Tables}, t'.db = t.db → t'.lastBudgetAlertPct = t.lastBudgetAlertPct →
      t'.Clean := by
    intro t' db pct key missing
    rw [pct]
    rw [db] at missing
    exact clean key missing
  unfold Tables.dispatch
  cases ev.decoded.eventName with
  | spent =>
    obtain ⟨db, pct, -⟩ := spendApprovedMirror_keeps dr t ev
    exact budget (same db pct)
  | claimed => exact budget clean
  | scoreComputed | deposited | vaultFrozen =>
    exact same (announce_keeps t _).1 (announce_keeps t _).2.1
  | spendRequested =>
    exact same (spendRequestedAlert_keeps dr t ev).1 (spendRequestedAlert_keeps dr t ev).2.1
  | spendRejected =>
    exact same (spendRejectedMirror_keeps dr t ev).1 (spendRejectedMirror_keeps dr t ev).2.1
  | _ => exact clean

theorem deliver_clean (rt : Runtime String) (dr : DispatchRuntime) (t : Tables)
    (batch : List (ParsedEvent String)) : (t.deliver rt dr batch).Clean := by
  have dispatches : ∀ (events : List (ParsedEvent String)) {t : Tables}, t.Clean →
      (events.foldl (Tables.dispatch dr) t).Clean := by
    intro events
    induction events with
    | nil => exact fun clean => clean
    | cons ev rest ih => exact fun clean => ih (dispatch_clean clean dr ev)
  exact dispatches batch (store_clean rt t batch)

/-- Storing a delivered batch again changes the mirror or nothing. -/
theorem store_again {rt again : Runtime String} {dr : DispatchRuntime} {t : Tables}
    {batch : List (ParsedEvent String)} (rebuilt : Rebuilt rt again zeroKeyText t.db batch) :
    (t.deliver rt dr batch).store (rt.inOrderOf again) batch = t.deliver rt dr batch := by
  have clean := deliver_clean rt dr t batch
  obtain ⟨db, history⟩ := dispatches_keep dr (t.store rt batch) batch
  have mirror : (ingest (rt.inOrderOf again) zeroKeyText (t.deliver rt dr batch).db batch).1 =
      (t.deliver rt dr batch).db := by
    rw [Tables.deliver, db]
    exact (ingest_again_iff rt again zeroKeyText t.db batch).mpr rebuilt
  have scores : recordScores (t.deliver rt dr batch).scoreHistory batch =
      (t.deliver rt dr batch).scoreHistory := by
    rw [Tables.deliver, history]
    exact recordScores_again t.scoreHistory batch
  have thresholds : (fun key => if ((t.deliver rt dr batch).db.vaults key).isSome then
      (t.deliver rt dr batch).lastBudgetAlertPct key else 0) =
        (t.deliver rt dr batch).lastBudgetAlertPct := by
    funext key
    cases held : (t.deliver rt dr batch).db.vaults key with
    | none => exact (clean key held).symm
    | some row => rfl
  rw [Tables.store, mirror, scores, thresholds]

/-- A second delivery of a batch leaves every row as it is exactly if the refresh rebuilds nothing
that the first one had to leave and no event is announced once more. -/
theorem delivered_again_iff (rt again : Runtime String) (dr dr' : DispatchRuntime) (t : Tables)
    (batch : List (ParsedEvent String)) :
    SameTables (t.deliver rt dr batch)
        ((t.deliver rt dr batch).deliver (rt.inOrderOf again) dr' batch) ↔
      Rebuilt rt again zeroKeyText t.db batch ∧
        ∀ ev ∈ batch, recurs dr' (ingest rt zeroKeyText t.db batch).1
          (recordScores t.scoreHistory batch) (t.pending.served dr batch) ev = false := by
  have announced := dispatches_announce dr dr' (t.store rt batch) batch
  -- Nothing is announced on either side, or the same is.
  have silent : batch.any ((t.deliver rt dr batch).announces dr') = false ↔
      ∀ ev ∈ batch, recurs dr' (ingest rt zeroKeyText t.db batch).1
        (recordScores t.scoreHistory batch) (t.pending.served dr batch) ev = false := by
    rw [Tables.deliver, announced, List.any_eq_false]
    exact forall₂_congr fun _ _ => Bool.not_eq_true _ ▸ Iff.rfl
  -- If the mirror is rebuilt as it was, only the alerts are left to compare.
  have second : Rebuilt rt again zeroKeyText t.db batch →
      (t.deliver rt dr batch).deliver (rt.inOrderOf again) dr' batch =
        batch.foldl (Tables.dispatch dr') (t.deliver rt dr batch) :=
    fun rebuilt => congrArg (batch.foldl (Tables.dispatch dr')) (store_again rebuilt)
  constructor
  · intro same
    have rebuilt : Rebuilt rt again zeroKeyText t.db batch := by
      rw [← ingest_again_iff]
      have first : (t.deliver rt dr batch).db = (ingest rt zeroKeyText t.db batch).1 :=
        (dispatches_keep dr (t.store rt batch) batch).1
      have stored : ((t.deliver rt dr batch).deliver (rt.inOrderOf again) dr' batch).db =
          (ingest (rt.inOrderOf again) zeroKeyText (t.deliver rt dr batch).db batch).1 :=
        (dispatches_keep dr' _ batch).1
      rw [← first]
      exact stored.symm.trans same.db
    rw [second rebuilt] at same
    exact ⟨rebuilt, silent.mp ((dispatches_outcome dr' _ batch).same_iff.mp same)⟩
  · rintro ⟨rebuilt, quiet⟩
    rw [second rebuilt]
    exact (dispatches_outcome dr' _ batch).same_iff.mpr (silent.mpr quiet)

/-- A deposit of the owner `O` into the vault `V`. -/
def depositEvent : ParsedEvent String where
  signature := "s"
  slot := 1
  logIndex := 0
  programId := []
  decoded := ⟨.deposited, .obj [("vault", .str "V"), ("owner", .str "O"), ("amount_usdc", .num 5),
    ("new_total_deposited", .num 5)]⟩

def Tables.empty : Tables := ⟨.empty, fun _ => 0, [], .empty, ⟨[], 1⟩⟩

/-- The owner reads twice of one deposit. -/
theorem deposit_announced_twice :
    ¬SameTables (Tables.empty.deliver .standard .standard [depositEvent])
        ((Tables.empty.deliver .standard .standard [depositEvent]).deliver
          (Runtime.standard.inOrderOf .standard) .standard [depositEvent]) := by
  intro same
  have alerts := congrArg List.length same.alerts
  revert alerts
  decide +kernel

end AgentFuel.Backend
