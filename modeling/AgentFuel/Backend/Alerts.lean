import AgentFuel.Backend.Mirror
import AgentFuel.Library.Transition

/-!
# Budget alerts

A run of `budget_alert` reads the row of its vault, writes the threshold it found and announces
it, in three statements. Several webhook batches run at once, so that the statements of several
runs interleave with each other and with the refreshes of the row.
-/
namespace AgentFuel.Backend

open Checked

inductive AlertKind where
  | budgetThreshold
  | scoreChange
  | tierCrossed
  | vaultFunded
  | vaultFrozen
  | approvalRequired
  | approvalApproved
  | approvalRejected
  deriving DecidableEq, Repr

def AlertKind.asStr : AlertKind → String
  | .budgetThreshold => "budget_threshold"
  | .scoreChange => "score_change"
  | .tierCrossed => "tier_crossed"
  | .vaultFunded => "vault_funded"
  | .vaultFrozen => "vault_frozen"
  | .approvalRequired => "approval_required"
  | .approvalApproved => "approval_approved"
  | .approvalRejected => "approval_rejected"

inductive AlertSeverity where
  | urgent
  | info
  deriving DecidableEq, Repr

def AlertSeverity.asStr : AlertSeverity → String
  | .urgent => "urgent"
  | .info => "info"

structure Alert where
  owner : String
  kind : AlertKind
  severity : AlertSeverity
  title : String
  body : String
  data : Json String

/-- `BUDGET_THRESHOLDS` -/
def budgetThresholds : List Int := [70, 80, 90]

def thresholdFor (pct : Int) : Int := (budgetThresholds.reverse.find? fun t => decide (pct ≥ t)).getD 0

/-- A row of `vaults` with the column that no refresh touches. -/
structure AlertedVault where
  row : VaultRow String
  lastBudgetAlertPct : Int

/-- What a run of `budget_alert` knows after its `SELECT`. -/
structure Crossing where
  owner : String
  newThreshold : Int
  pct : Int
  totalSpent : Int
  lifetimeLimit : Int

/-- `budget_alert` up to its `UPDATE`, which it reaches with a threshold that is new to it. -/
def budgetCrossing (vault : AlertedVault) : Option Crossing :=
  -- A lifetime limit of zero is no limit.
  if vault.row.lifetimeLimitUsdc ≤ 0 then none
  else
    let pct := Int.bmod ((vault.row.totalSpent * 100).tdiv vault.row.lifetimeLimitUsdc) (2 ^ 16)
    let newThreshold := thresholdFor pct
    if newThreshold ≤ vault.lastBudgetAlertPct then none
    else
      some ⟨vault.row.owner, newThreshold, pct, vault.row.totalSpent, vault.row.lifetimeLimitUsdc⟩

/-- The alert that `budget_alert` emits. -/
def Crossing.alert (vaultPubkey : String) (crossing : Crossing) : Alert where
  owner := crossing.owner
  kind := .budgetThreshold
  severity := if crossing.newThreshold ≥ 90 then .urgent else .info
  title := "Vault " ++ toString crossing.newThreshold ++ "% spent"
  body := "Spending reached " ++ toString crossing.pct ++ "% of the lifetime cap (" ++
    toString crossing.totalSpent ++ "/" ++ toString crossing.lifetimeLimit ++ " USDC lamports)."
  data := .obj [("vault", .str vaultPubkey), ("threshold_pct", .num crossing.newThreshold),
    ("current_pct", .num crossing.pct), ("total_spent", .num crossing.totalSpent),
    ("lifetime_limit_usdc", .num crossing.lifetimeLimit)]

/-- The row of one vault, the runs of `budget_alert` on it and the alerts they have inserted. -/
structure BudgetState where
  vault : Option AlertedVault
  selected : List Crossing
  updated : List Crossing
  alerts : List Alert

inductive BudgetAction where
  /-- `refresh_vault` inserts or updates the row. -/
  | refresh (row : VaultRow String)
  | select
  /-- The run at a place of the list goes on with its `UPDATE`. -/
  | update (place : Nat)
  | emit (place : Nat)
  /-- A statement fails, which ends the run. -/
  | failUpdate (place : Nat)
  | failEmit (place : Nat)

inductive BudgetError where
  | noSuchRun
  deriving DecidableEq, Repr

def BudgetState.step (vaultPubkey : String) (s : BudgetState) :
    BudgetAction → Except BudgetError BudgetState
  | .refresh row => .ok { s with
      vault := some (match s.vault with
        | none => ⟨row, 0⟩
        | some old => { old with row }) }
  | .select => .ok { s with selected := s.selected ++ (s.vault.bind budgetCrossing).toList }
  | .update place => do
    let crossing ← okOr s.selected[place]? .noSuchRun
    pure { s with
      vault := s.vault.map fun vault => { vault with lastBudgetAlertPct := crossing.newThreshold }
      selected := s.selected.eraseIdx place
      updated := s.updated ++ [crossing] }
  | .emit place => do
    let crossing ← okOr s.updated[place]? .noSuchRun
    pure { s with
      updated := s.updated.eraseIdx place
      alerts := s.alerts ++ [crossing.alert vaultPubkey] }
  | .failUpdate place => .ok { s with selected := s.selected.eraseIdx place }
  | .failEmit place => .ok { s with updated := s.updated.eraseIdx place }

abbrev BudgetRun (vaultPubkey : String) (s : BudgetState)
    (log : List (Transition.Fired BudgetState BudgetAction)) (s' : BudgetState) : Prop :=
  Transition.Run (BudgetState.step vaultPubkey) s log s'

/-- No run is under way and nothing has been announced. -/
def BudgetState.start (vault : Option AlertedVault) : BudgetState := ⟨vault, [], [], []⟩

/-! ### Thresholds -/

variable {vaultPubkey : String} {s s' : BudgetState}
  {log : List (Transition.Fired BudgetState BudgetAction)}

def Alert.thresholdPct (alert : Alert) : Option Int :=
  match alert.data.get "threshold_pct" with
  | some (.num n) => some n
  | _ => none

def BudgetState.lastBudgetAlertPct (s : BudgetState) : Int :=
  s.vault.elim 0 AlertedVault.lastBudgetAlertPct

/-- How often a threshold has been announced. -/
def BudgetState.announcements (s : BudgetState) (threshold : Int) : Nat :=
  s.alerts.countP fun alert => decide (alert.kind = .budgetThreshold ∧
    alert.thresholdPct = some threshold)

/-- The thresholds that are announced or about to be. -/
def BudgetState.claimed (s : BudgetState) : List Int :=
  s.updated.map Crossing.newThreshold ++ s.alerts.filterMap Alert.thresholdPct

/-- An `UPDATE` that stores more than the row holds. -/
def Raises (e : Transition.Fired BudgetState BudgetAction) : Prop :=
  match e.act with
  | .update place => ∀ crossing ∈ e.pre.selected[place]?,
    e.pre.lastBudgetAlertPct < crossing.newThreshold
  | _ => True

instance (e : Transition.Fired BudgetState BudgetAction) : Decidable (Raises e) := by
  unfold Raises
  cases e.act <;> infer_instance

@[simp]
theorem Crossing.alert_thresholdPct (crossing : Crossing) :
    (crossing.alert vaultPubkey).thresholdPct = some crossing.newThreshold := rfl

/-- What is announced is announced once, and the row remembers it. -/
structure BudgetInvariant (s : BudgetState) : Prop where
  there : s.selected ≠ [] → s.vault ≠ none
  below : ∀ threshold ∈ s.claimed, threshold ≤ s.lastBudgetAlertPct
  once : s.claimed.Nodup

theorem BudgetInvariant.start (vault : Option AlertedVault) : BudgetInvariant (.start vault) where
  there some := absurd rfl some
  below _ member := by cases member
  once := List.nodup_nil

/-- What a step keeps that claims nothing new. -/
theorem BudgetInvariant.fewer (inv : BudgetInvariant s) (there : s'.selected ≠ [] → s'.vault ≠ none)
    (kept : s'.lastBudgetAlertPct = s.lastBudgetAlertPct) (less : List.Subperm s'.claimed s.claimed) :
    BudgetInvariant s' where
  there := there
  below threshold member := (inv.below threshold (less.subset member)).trans_eq kept.symm
  once := by
    obtain ⟨part, same, within⟩ := less
    exact same.nodup_iff.mp (inv.once.sublist within)

/-- The run that claims a threshold finds a lower one in the row, so that nobody has claimed it. -/
theorem BudgetInvariant.update {place : Nat} (inv : BudgetInvariant s)
    (fired : s.step vaultPubkey (.update place) = .ok s') (raises : Raises ⟨s, .update place, s'⟩) :
    BudgetInvariant s' ∧ s.lastBudgetAlertPct ≤ s'.lastBudgetAlertPct := by
  simp only [BudgetState.step, bind_eq_ok, okOr_eq_ok, pure_eq_ok] at fired
  obtain ⟨crossing, found, rfl⟩ := fired
  -- The threshold that is claimed is above the stored one, and so above all claimed before.
  have higher : s.lastBudgetAlertPct < crossing.newThreshold := raises crossing found
  have under_way : s.selected ≠ [] := List.ne_nil_of_mem (List.mem_of_getElem? found)
  obtain ⟨vault, held⟩ := Option.ne_none_iff_exists'.mp (inv.there under_way)
  have stored : crossing.newThreshold = (s.vault.map fun vault =>
      { vault with lastBudgetAlertPct := crossing.newThreshold }).elim 0
        AlertedVault.lastBudgetAlertPct := by
    rw [held]
    rfl
  have more : ∀ threshold ∈ s.claimed, threshold < crossing.newThreshold :=
    fun threshold member => (inv.below threshold member).trans_lt higher
  refine ⟨⟨?_, ?_, ?_⟩, higher.le.trans_eq stored⟩
  · intro _
    rw [held]
    exact Option.some_ne_none _
  · intro threshold member
    refine le_of_le_of_eq ?_ stored
    simp only [BudgetState.claimed, List.map_append, List.map_singleton, List.mem_append,
      List.mem_singleton] at member
    rcases member with (earlier | rfl) | announced
    · exact (more threshold (List.mem_append_left _ earlier)).le
    · exact le_refl _
    · exact (more threshold (List.mem_append_right _ announced)).le
  · have rearranged : (s.updated.map Crossing.newThreshold ++ [crossing.newThreshold] ++
        s.alerts.filterMap Alert.thresholdPct).Perm (crossing.newThreshold :: s.claimed) := by
      rw [List.append_assoc, List.singleton_append]
      exact List.perm_middle
    simp only [BudgetState.claimed, List.map_append, List.map_singleton]
    refine rearranged.nodup_iff.mpr (List.nodup_cons.mpr ⟨?_, inv.once⟩)
    intro member
    exact lt_irrefl _ (more _ member)

/-- An announcement claims nothing that its `UPDATE` has not claimed. -/
theorem emit_claimed {place : Nat} (fired : s.step vaultPubkey (.emit place) = .ok s') :
    s'.claimed.Perm s.claimed := by
  simp only [BudgetState.step, bind_eq_ok, okOr_eq_ok, pure_eq_ok] at fired
  obtain ⟨crossing, found, rfl⟩ := fired
  have inside : place < s.updated.length := (List.getElem?_eq_some_iff.mp found).1
  have here : s.updated[place] = crossing := (List.getElem?_eq_some_iff.mp found).2
  have taken := (List.getElem_cons_eraseIdx_perm inside).map Crossing.newThreshold
  rw [List.map_cons, here] at taken
  simp only [BudgetState.claimed, List.filterMap_append, List.filterMap_cons, List.filterMap_nil,
    Crossing.alert_thresholdPct]
  rw [← List.append_assoc]
  exact List.perm_append_comm.trans (taken.append_right _)

theorem BudgetInvariant.step {act : BudgetAction} (inv : BudgetInvariant s)
    (fired : s.step vaultPubkey act = .ok s') (raises : Raises ⟨s, act, s'⟩) :
    BudgetInvariant s' ∧ s.lastBudgetAlertPct ≤ s'.lastBudgetAlertPct := by
  cases act with
  | refresh row =>
    obtain rfl := Except.ok.inj fired
    have kept : (match s.vault with
        | none => ⟨row, 0⟩
        | some old => { old with row } : AlertedVault).lastBudgetAlertPct = s.lastBudgetAlertPct := by
      unfold BudgetState.lastBudgetAlertPct
      cases s.vault <;> rfl
    exact ⟨inv.fewer (fun _ => Option.some_ne_none _) kept (.refl _), kept.ge⟩
  | select =>
    obtain rfl := Except.ok.inj fired
    refine ⟨inv.fewer ?_ rfl (.refl _), le_refl _⟩
    intro selected none
    -- Without a row there is nothing to select.
    dsimp only at selected none
    rw [none, Option.bind_none, Option.toList_none, List.append_nil] at selected
    exact inv.there selected none
  | update place => exact inv.update fired raises
  | emit place =>
    have claimed := emit_claimed fired
    simp only [BudgetState.step, bind_eq_ok, okOr_eq_ok, pure_eq_ok] at fired
    obtain ⟨crossing, found, rfl⟩ := fired
    exact ⟨inv.fewer inv.there rfl claimed.subperm, le_refl _⟩
  | failUpdate place =>
    obtain rfl := Except.ok.inj fired
    refine ⟨inv.fewer ?_ rfl (.refl _), le_refl _⟩
    intro selected
    apply inv.there
    rintro empty
    dsimp only at selected
    rw [empty] at selected
    exact selected rfl
  | failEmit place =>
    obtain rfl := Except.ok.inj fired
    have less := ((List.eraseIdx_sublist s.updated place).map Crossing.newThreshold).append
      (.refl (s.alerts.filterMap Alert.thresholdPct))
    exact ⟨inv.fewer inv.there rfl less.subperm, le_refl _⟩

theorem BudgetRun.invariant {vault : Option AlertedVault}
    (run : BudgetRun vaultPubkey (.start vault) log s) (raises : ∀ e ∈ log, Raises e) :
    BudgetInvariant s ∧ ∀ e ∈ log, e.pre.lastBudgetAlertPct ≤ e.post.lastBudgetAlertPct := by
  induction run with
  | nil => exact ⟨.start vault, by simp⟩
  | snoc _ fired ih =>
    rw [List.forall_mem_append, List.forall_mem_singleton] at raises ⊢
    obtain ⟨inv, climbs⟩ := ih raises.1
    obtain ⟨inv, rises⟩ := inv.step fired raises.2
    exact ⟨inv, climbs, rises⟩

theorem BudgetInvariant.announced (inv : BudgetInvariant s) (threshold : Int) :
    s.announcements threshold ≤ 1 := by
  have counted : s.announcements threshold ≤
      (s.alerts.filterMap Alert.thresholdPct).count threshold := by
    unfold BudgetState.announcements
    induction s.alerts with
    | nil => exact le_refl _
    | cons alert rest ih =>
      rw [List.countP_cons, List.filterMap_cons]
      cases named : alert.thresholdPct with
      | none => simpa [named] using ih
      | some other =>
        rw [List.count_cons]
        by_cases same : other = threshold
        · subst same
          simp only [beq_self_eq_true, ↓reduceIte]
          split <;> omega
        · simpa [named, same] using ih
  exact counted.trans (List.nodup_iff_count_le_one.mp (inv.once.of_append_right) threshold)

/-- What the comment on the column promises of a run. -/
def AnnouncedOnce (log : List (Transition.Fired BudgetState BudgetAction)) (s : BudgetState) : Prop :=
  (∀ threshold ∈ budgetThresholds, s.announcements threshold ≤ 1) ∧
    ∀ e ∈ log, e.pre.lastBudgetAlertPct ≤ e.post.lastBudgetAlertPct

/-- As long as every `UPDATE` raises the value in the row, no threshold is announced twice. -/
theorem budget_announced_once (vaultPubkey : String) (vault : Option AlertedVault) (s : BudgetState)
    (log : List (Transition.Fired BudgetState BudgetAction))
    (run : BudgetRun vaultPubkey (.start vault) log s) (raises : ∀ e ∈ log, Raises e) :
    AnnouncedOnce log s := by
  obtain ⟨inv, climbs⟩ := run.invariant raises
  exact ⟨fun threshold _ => inv.announced threshold, climbs⟩

/-- A vault of which so many percent of its lifetime limit are spent. -/
def spentVault (percent : Int) : VaultRow String :=
  ⟨"O", "A", "M", "T", percent, 0, percent, 0, false, 10, 10, 100, false, [], 1, 1⟩

/-- One run after the other. -/
theorem budget_announced_once_two :
    let acts : List BudgetAction := [.select, .update 0, .refresh (spentVault 85), .emit 0, .select,
      .update 0, .emit 0, .select]
    let start : BudgetState := .start (some ⟨spentVault 75, 0⟩)
    let log := Transition.trace (BudgetState.step "V") start acts
    let s := acts.foldl (Transition.settle (BudgetState.step "V")) start
    s.alerts.filterMap Alert.thresholdPct = [70, 80] ∧ AnnouncedOnce log s := by
  exact ⟨by decide +kernel, budget_announced_once "V" _ _ _ (.of_trace _ _ _) (by decide +kernel)⟩

/-- Two runs that both read the row before one of them writes it announce the same threshold, and
a run that read the row long ago takes a higher threshold back. -/
theorem budget_announced_twice :
    (∃ log s, BudgetRun "V" (.start (some ⟨spentVault 75, 0⟩)) log s ∧ s.announcements 70 = 2 ∧
      ¬AnnouncedOnce log s) ∧
    ∃ log s, BudgetRun "V" (.start (some ⟨spentVault 75, 0⟩)) log s ∧
      ∃ e ∈ log, e.pre.lastBudgetAlertPct = 90 ∧ e.post.lastBudgetAlertPct = 70 := by
  constructor
  · have twice : (([.select, .select, .update 0, .update 0, .emit 0, .emit 0] : List BudgetAction).foldl
        (Transition.settle (BudgetState.step "V")) (.start (some ⟨spentVault 75, 0⟩))).announcements
        70 = 2 := by decide +kernel
    refine ⟨_, _, .of_trace _ _ _, twice, ?_⟩
    rintro ⟨once, -⟩
    have single := once 70 (by decide)
    rw [twice] at single
    exact absurd single (by decide)
  · refine ⟨_, _, .of_trace _ _ [.select, .refresh (spentVault 95), .select, .update 1, .update 0], ?_⟩
    decide +kernel

end AgentFuel.Backend
