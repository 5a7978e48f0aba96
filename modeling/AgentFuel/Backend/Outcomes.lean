import AgentFuel.Backend.Dispatch

/-!
# What the handlers of a batch leave

An event is announced or it changes no table. A batch keeps the mirror and the scores, and announces
the thresholds that its payments reach.
-/
namespace AgentFuel.Backend

open Checked

/-! ### Announcements -/

/-- The tables have the same rows. -/
structure SameTables (t t' : Tables) : Prop where
  db : t'.db = t.db
  lastBudgetAlertPct : t'.lastBudgetAlertPct = t.lastBudgetAlertPct
  scoreHistory : t'.scoreHistory = t.scoreHistory
  pending : t'.pending.rows = t.pending.rows
  alerts : t'.alerts.rows = t.alerts.rows

theorem SameTables.refl (t : Tables) : SameTables t t := ⟨rfl, rfl, rfl, rfl, rfl⟩

theorem SameTables.trans {t t' t'' : Tables} (first : SameTables t t') (second : SameTables t' t'') :
    SameTables t t'' where
  db := second.db.trans first.db
  lastBudgetAlertPct := second.lastBudgetAlertPct.trans first.lastBudgetAlertPct
  scoreHistory := second.scoreHistory.trans first.scoreHistory
  pending := second.pending.trans first.pending
  alerts := second.alerts.trans first.alerts

/-- The vault has spent enough for a threshold that has not been announced. -/
def Tables.budgetDue (t : Tables) (vaultPubkey : String) : Bool :=
  ((t.db.vaults vaultPubkey).bind fun row =>
    budgetCrossing ⟨row, t.lastBudgetAlertPct vaultPubkey⟩).isSome

/-- A request for a vault that has a row, of an amount that the table takes. -/
def requestAnnounced (db : Database String) (ev : ParsedEvent String) : Bool :=
  (spendRequest ev).any fun request =>
    (db.vaults request.vault).isSome && decide (0 < request.amountUsdc)

/-- An undecided row is there for the payment. -/
def PendingTable.awaited (table : PendingTable String) (ev : ParsedEvent String) : Bool :=
  (spendPayment ev).any fun payment => table.rows.any (PendingRow.awaits payment)

/-- Whether the event is announced. -/
def Tables.announces (t : Tables) (dr : DispatchRuntime) (ev : ParsedEvent String) : Bool :=
  match ev.decoded.eventName with
  | .spent => t.pending.awaited ev || (ev.text "vault").any t.budgetDue
  | .claimed => (ev.text "vault").any t.budgetDue
  | .scoreComputed => (scoreAlert t.db t.scoreHistory ev).isSome
  | .deposited => (depositAlert dr ev).isSome
  | .vaultFrozen => (freezeAlert ev).isSome
  | .spendRequested => requestAnnounced t.db ev
  | .spendRejected => (ev.text "pending_spend").any fun key => t.pending.rows.any (PendingRow.isOpen key)
  | _ => false

theorem budgetDue_eq {t t' : Tables} (db : t'.db = t.db)
    (pct : t'.lastBudgetAlertPct = t.lastBudgetAlertPct) : t'.budgetDue = t.budgetDue := by
  funext vaultPubkey
  rw [Tables.budgetDue, Tables.budgetDue, db, pct]

theorem announces_eq {t t' : Tables} (same : SameTables t t') (dr : DispatchRuntime)
    (ev : ParsedEvent String) : t'.announces dr ev = t.announces dr ev := by
  have due : t'.budgetDue = t.budgetDue := budgetDue_eq same.db same.lastBudgetAlertPct
  simp only [Tables.announces, PendingTable.awaited, due, same.db, same.scoreHistory, same.pending]

/-- Either something is announced or no row changes. -/
structure Outcome (t t' : Tables) (announced : Bool) : Prop where
  silent : announced = false → SameTables t t'
  heard : announced = true → t.alerts.rows.length < t'.alerts.rows.length

namespace Outcome

variable {t t' t'' : Tables} {announced later : Bool}

theorem length_le (outcome : Outcome t t' announced) :
    t.alerts.rows.length ≤ t'.alerts.rows.length := by
  cases announced with
  | false => rw [(outcome.silent rfl).alerts]
  | true => exact (outcome.heard rfl).le

theorem append (first : Outcome t t' announced) (second : Outcome t' t'' later) :
    Outcome t t'' (announced || later) where
  silent quiet := by
    rw [Bool.or_eq_false_iff] at quiet
    exact (first.silent quiet.1).trans (second.silent quiet.2)
  heard loud := by
    rcases (Bool.or_eq_true_iff).mp loud with here | there
    · exact (first.heard here).trans_le second.length_le
    · exact first.length_le.trans_lt (second.heard there)

theorem same_iff (outcome : Outcome t t' announced) : SameTables t t' ↔ announced = false := by
  refine ⟨fun same => ?_, outcome.silent⟩
  by_contra loud
  have grown := outcome.heard (Bool.not_eq_false _ ▸ loud)
  rw [same.alerts] at grown
  exact lt_irrefl _ grown

end Outcome

@[simp]
theorem markRead_length (alerts : AlertTable) (owner : String) (id : Option Nat) :
    (alerts.markRead owner id).rows.length = alerts.rows.length := by
  cases id with
  | none => rfl
  | some id => exact List.length_map _

section Handlers

variable (dr : DispatchRuntime) (t : Tables) (ev : ParsedEvent String)

theorem announce_outcome (alert : Option Alert) : Outcome t (t.announce alert) alert.isSome := by
  cases alert with
  | none => exact ⟨fun _ => .refl t, by simp⟩
  | some alert => exact ⟨by simp, fun _ => by simp [Tables.announce, Tables.emit]⟩

theorem budgetAlert_outcome : Outcome t (t.budgetAlert ev) ((ev.text "vault").any t.budgetDue) := by
  unfold Tables.budgetAlert
  cases ev.text "vault" with
  | none => exact ⟨fun _ => .refl t, by simp⟩
  | some vaultPubkey =>
    dsimp only
    rw [Option.any_some, Tables.budgetDue]
    split
    next none => exact ⟨fun _ => .refl t, by simp [none]⟩
    next crossing found => exact ⟨by simp [found], fun _ => by simp [Tables.emit]⟩

theorem spendRequestedAlert_outcome :
    Outcome t (t.spendRequestedAlert dr ev) (requestAnnounced t.db ev) := by
  unfold Tables.spendRequestedAlert requestAnnounced
  cases spendRequest ev with
  | none => exact ⟨fun _ => .refl t, by simp⟩
  | some request =>
    dsimp only
    rw [Option.any_some]
    cases t.db.vaults request.vault with
    | none => exact ⟨fun _ => .refl t, by simp⟩
    | some vault =>
      by_cases positive : 0 < request.amountUsdc
      · refine ⟨by simp [positive], fun _ => ?_⟩
        have inserted : ∃ id, (t.pending.request vault.owner request (dr.now t.pending.nextId)).2 =
            some id := by
          unfold PendingTable.request
          rw [if_neg (by omega)]
          split
          · exact ⟨_, rfl⟩
          · exact ⟨_, rfl⟩
        obtain ⟨id, inserted⟩ := inserted
        dsimp only
        split
        next none =>
          rw [none] at inserted
          cases inserted
        next => simp [Tables.emit]
      · -- The sequence is advanced, no row is inserted.
        have refused : t.pending.request vault.owner request (dr.now t.pending.nextId) =
            (t.pending.skip, none) := if_pos (by omega)
        dsimp only
        rw [refused]
        exact ⟨fun _ => ⟨rfl, rfl, rfl, rfl, rfl⟩, by simp [positive]⟩

theorem spendApprovedMirror_outcome :
    Outcome t (t.spendApprovedMirror dr ev) (t.pending.awaited ev) := by
  unfold Tables.spendApprovedMirror PendingTable.awaited
  cases spendPayment ev with
  | none => exact ⟨fun _ => .refl t, by simp⟩
  | some payment =>
    dsimp only
    rw [Option.any_some]
    unfold PendingTable.approve
    cases found : dr.oldest.pick (t.pending.rows.filter (PendingRow.awaits payment)) with
    | none =>
      refine ⟨fun _ => .refl t, fun waiting => ?_⟩
      obtain ⟨row, member, awaits⟩ := List.any_eq_true.mp waiting
      have held := List.mem_filter.mpr ⟨member, awaits⟩
      rw [dr.oldest.pick_none found] at held
      cases held
    | some chosen =>
      obtain ⟨member, awaits⟩ := List.mem_filter.mp (dr.oldest.pick_mem found)
      have waiting : t.pending.rows.any (PendingRow.awaits payment) = true :=
        List.any_eq_true.mpr ⟨chosen, member, awaits⟩
      exact ⟨by simp [waiting], fun _ => by simp [Tables.announce, Tables.emit]⟩

theorem spendRejectedMirror_outcome : Outcome t (t.spendRejectedMirror dr ev)
    ((ev.text "pending_spend").any fun key => t.pending.rows.any (PendingRow.isOpen key)) := by
  unfold Tables.spendRejectedMirror
  cases ev.text "pending_spend" with
  | none => exact ⟨fun _ => .refl t, by simp⟩
  | some key =>
    dsimp only
    rw [Option.any_some]
    unfold PendingTable.reject
    cases found : t.pending.rows.find? (PendingRow.isOpen key) with
    | none =>
      refine ⟨fun _ => .refl t, fun waiting => ?_⟩
      obtain ⟨row, member, isOpen⟩ := List.any_eq_true.mp waiting
      exact absurd isOpen (List.find?_eq_none.mp found row member)
    | some chosen =>
      have waiting : t.pending.rows.any (PendingRow.isOpen key) = true :=
        List.any_eq_true.mpr ⟨chosen, List.mem_of_find?_eq_some found, List.find?_some found⟩
      exact ⟨by simp [waiting], fun _ => by simp [Tables.announce, Tables.emit]⟩

/-- No handler of the approval flow touches the mirror, the thresholds or the scores. -/
theorem spendApprovedMirror_keeps : (t.spendApprovedMirror dr ev).db = t.db ∧
    (t.spendApprovedMirror dr ev).lastBudgetAlertPct = t.lastBudgetAlertPct ∧
    (t.spendApprovedMirror dr ev).scoreHistory = t.scoreHistory := by
  unfold Tables.spendApprovedMirror
  split
  · exact ⟨rfl, rfl, rfl⟩
  · split
    · exact ⟨rfl, rfl, rfl⟩
    · exact ⟨rfl, rfl, rfl⟩

/-- An event is announced exactly if `announces` says so, and otherwise changes no row. -/
theorem dispatch_outcome : Outcome t (t.dispatch dr ev) (t.announces dr ev) := by
  unfold Tables.dispatch Tables.announces
  cases ev.decoded.eventName with
  | spent =>
    obtain ⟨db, pct, -⟩ := spendApprovedMirror_keeps dr t ev
    have budget := budgetAlert_outcome (t.spendApprovedMirror dr ev) ev
    rw [budgetDue_eq db pct] at budget
    exact (spendApprovedMirror_outcome dr t ev).append budget
  | claimed => exact budgetAlert_outcome t ev
  | scoreComputed => exact announce_outcome t _
  | deposited => exact announce_outcome t _
  | vaultFrozen => exact announce_outcome t _
  | spendRequested => exact spendRequestedAlert_outcome dr t ev
  | spendRejected => exact spendRejectedMirror_outcome dr t ev
  | _ => exact ⟨fun _ => .refl t, by simp⟩

end Handlers

theorem dispatches_outcome (dr : DispatchRuntime) (t : Tables) (batch : List (ParsedEvent String)) :
    Outcome t (batch.foldl (Tables.dispatch dr) t) (batch.any (t.announces dr)) := by
  induction batch generalizing t with
  | nil => exact ⟨fun _ => .refl t, by simp⟩
  | cons ev rest ih =>
    have first := dispatch_outcome dr t ev
    rw [List.foldl_cons, List.any_cons]
    cases announced : t.announces dr ev with
    | true =>
      rw [announced] at first
      exact ⟨by simp, fun _ => (first.heard rfl).trans_le (ih _).length_le⟩
    | false =>
      rw [announced] at first
      have same : (t.dispatch dr ev).announces dr = t.announces dr :=
        funext fun other => announces_eq (first.silent rfl) dr other
      have later := ih (t.dispatch dr ev)
      rw [same] at later
      exact first.append later

/-! ### What a delivery leaves -/

section Keeps

variable (dr : DispatchRuntime) (t : Tables) (ev : ParsedEvent String)

theorem budgetAlert_keeps : (t.budgetAlert ev).db = t.db ∧
    (t.budgetAlert ev).scoreHistory = t.scoreHistory ∧ (t.budgetAlert ev).pending = t.pending := by
  unfold Tables.budgetAlert
  split
  · exact ⟨rfl, rfl, rfl⟩
  · split
    · exact ⟨rfl, rfl, rfl⟩
    · exact ⟨rfl, rfl, rfl⟩

theorem announce_keeps (alert : Option Alert) : (t.announce alert).db = t.db ∧
    (t.announce alert).lastBudgetAlertPct = t.lastBudgetAlertPct ∧
    (t.announce alert).scoreHistory = t.scoreHistory ∧ (t.announce alert).pending = t.pending := by
  cases alert with
  | none => exact ⟨rfl, rfl, rfl, rfl⟩
  | some alert => exact ⟨rfl, rfl, rfl, rfl⟩

theorem spendRequestedAlert_keeps : (t.spendRequestedAlert dr ev).db = t.db ∧
    (t.spendRequestedAlert dr ev).lastBudgetAlertPct = t.lastBudgetAlertPct ∧
    (t.spendRequestedAlert dr ev).scoreHistory = t.scoreHistory := by
  unfold Tables.spendRequestedAlert
  split
  · exact ⟨rfl, rfl, rfl⟩
  · split
    · exact ⟨rfl, rfl, rfl⟩
    · split
      · exact ⟨rfl, rfl, rfl⟩
      · exact ⟨rfl, rfl, rfl⟩

theorem spendRejectedMirror_keeps : (t.spendRejectedMirror dr ev).db = t.db ∧
    (t.spendRejectedMirror dr ev).lastBudgetAlertPct = t.lastBudgetAlertPct ∧
    (t.spendRejectedMirror dr ev).scoreHistory = t.scoreHistory := by
  unfold Tables.spendRejectedMirror
  split
  · exact ⟨rfl, rfl, rfl⟩
  · split
    · exact ⟨rfl, rfl, rfl⟩
    · exact ⟨rfl, rfl, rfl⟩

theorem dispatch_keeps : (t.dispatch dr ev).db = t.db ∧
    (t.dispatch dr ev).scoreHistory = t.scoreHistory := by
  unfold Tables.dispatch
  split
  · obtain ⟨db, -, history⟩ := spendApprovedMirror_keeps dr t ev
    obtain ⟨db', history', -⟩ := budgetAlert_keeps (t.spendApprovedMirror dr ev) ev
    exact ⟨db'.trans db, history'.trans history⟩
  · exact ⟨(budgetAlert_keeps t ev).1, (budgetAlert_keeps t ev).2.1⟩
  · exact ⟨(announce_keeps t _).1, (announce_keeps t _).2.2.1⟩
  · exact ⟨(announce_keeps t _).1, (announce_keeps t _).2.2.1⟩
  · exact ⟨(announce_keeps t _).1, (announce_keeps t _).2.2.1⟩
  · exact ⟨(spendRequestedAlert_keeps dr t ev).1, (spendRequestedAlert_keeps dr t ev).2.2⟩
  · exact ⟨(spendRejectedMirror_keeps dr t ev).1, (spendRejectedMirror_keeps dr t ev).2.2⟩
  · exact ⟨rfl, rfl⟩

/-- A threshold that has been stored is not due any more. -/
theorem budgetAlert_due (vaultPubkey : String)
    (quiet : t.budgetDue vaultPubkey = false ∨ ev.text "vault" = some vaultPubkey) :
    (t.budgetAlert ev).budgetDue vaultPubkey = false := by
  unfold Tables.budgetAlert
  cases named : ev.text "vault" with
  | none =>
    rw [named] at quiet
    exact quiet.resolve_right (by simp)
  | some key =>
    dsimp only
    split
    next none =>
      rcases quiet with quiet | same
      · exact quiet
      · obtain rfl := Option.some.inj (named.symm.trans same)
        rw [Tables.budgetDue, none]
        rfl
    next crossing found =>
      by_cases same : vaultPubkey = key
      · subst same
        -- The vault crosses the threshold once more only above the one that is stored now.
        simp only [Tables.emit, Tables.budgetDue, Function.update_self]
        obtain ⟨row, held, crossed⟩ := Option.bind_eq_some_iff.mp found
        rw [held, Option.bind_some]
        unfold budgetCrossing at crossed ⊢
        split at crossed
        · cases crossed
        next limited =>
          rw [if_neg limited]
          dsimp only at crossed ⊢
          split at crossed
          · cases crossed
          next =>
            obtain rfl := Option.some.inj crossed
            rw [if_pos (le_refl _)]
            rfl
      · simp only [Tables.emit, Tables.budgetDue, Function.update_of_ne same]
        exact quiet.resolve_right fun other => same (Option.some.inj (named.symm.trans other)).symm

/-- The event lets `budget_alert` run for the vault. -/
def ParsedEvent.spends (ev : ParsedEvent String) (vaultPubkey : String) : Prop :=
  (ev.decoded.eventName = .spent ∨ ev.decoded.eventName = .claimed) ∧ ev.text "vault" = some vaultPubkey

theorem dispatch_due (vaultPubkey : String)
    (quiet : t.budgetDue vaultPubkey = false ∨ ev.spends vaultPubkey) :
    (t.dispatch dr ev).budgetDue vaultPubkey = false := by
  unfold Tables.dispatch
  rw [ParsedEvent.spends] at quiet
  cases named : ev.decoded.eventName with
  | spent =>
    obtain ⟨db, pct, -⟩ := spendApprovedMirror_keeps dr t ev
    apply budgetAlert_due
    rw [budgetDue_eq db pct]
    exact quiet.imp_right And.right
  | claimed => exact budgetAlert_due t ev vaultPubkey (quiet.imp_right And.right)
  | scoreComputed | deposited | vaultFrozen =>
    have quiet := quiet.resolve_right (by simp [named])
    dsimp only
    rwa [budgetDue_eq (announce_keeps t _).1 (announce_keeps t _).2.1]
  | spendRequested =>
    have quiet := quiet.resolve_right (by simp [named])
    dsimp only
    rwa [budgetDue_eq (spendRequestedAlert_keeps dr t ev).1 (spendRequestedAlert_keeps dr t ev).2.1]
  | spendRejected =>
    have quiet := quiet.resolve_right (by simp [named])
    dsimp only
    rwa [budgetDue_eq (spendRejectedMirror_keeps dr t ev).1 (spendRejectedMirror_keeps dr t ev).2.1]
  | _ => exact quiet.resolve_right (by simp [named])

end Keeps

theorem dispatches_keep (dr : DispatchRuntime) (t : Tables) (batch : List (ParsedEvent String)) :
    (batch.foldl (Tables.dispatch dr) t).db = t.db ∧
      (batch.foldl (Tables.dispatch dr) t).scoreHistory = t.scoreHistory := by
  induction batch generalizing t with
  | nil => exact ⟨rfl, rfl⟩
  | cons ev rest ih =>
    obtain ⟨db, history⟩ := dispatch_keeps dr t ev
    obtain ⟨db', history'⟩ := ih (t.dispatch dr ev)
    exact ⟨db'.trans db, history'.trans history⟩

/-- After the batch no vault has a threshold to announce for a payment of the batch. -/
theorem dispatches_due (dr : DispatchRuntime) (t : Tables) (batch : List (ParsedEvent String))
    (vaultPubkey : String)
    (quiet : t.budgetDue vaultPubkey = false ∨ ∃ ev ∈ batch, ev.spends vaultPubkey) :
    (batch.foldl (Tables.dispatch dr) t).budgetDue vaultPubkey = false := by
  induction batch generalizing t with
  | nil => exact quiet.resolve_right (by simp)
  | cons ev rest ih =>
    rw [List.foldl_cons]
    apply ih
    rcases quiet with quiet | ⟨other, member, spends⟩
    · exact .inl (dispatch_due dr t ev vaultPubkey (.inl quiet))
    · rcases List.mem_cons.mp member with rfl | later
      · exact .inl (dispatch_due dr t other vaultPubkey (.inr spends))
      · exact .inr ⟨other, later, spends⟩
end AgentFuel.Backend
