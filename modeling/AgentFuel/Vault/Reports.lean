import AgentFuel.Vault.View

/-!
# What the events of a vault say

An event carries post-values of some of the fields its instruction wrote. `Reports` states
what the view before and the view after have to do with it.
-/
namespace AgentFuel.Vault

open Solana

variable {K : Type}

/-- The vault an event is about. -/
def VaultEvent.vault : VaultEvent K → K
  | vaultCreated vault _ _ _ _ _ => vault
  | deposited vault _ _ _ _ => vault
  | spent vault _ _ _ _ _ => vault
  | claimed vault _ _ _ _ _ => vault
  | vaultFrozen vault _ _ => vault
  | vaultUnfrozen vault _ _ => vault
  | policyUpdated vault _ _ _ _ _ _ _ => vault
  | withdrawn vault _ _ _ _ => vault
  | spendRequested vault _ _ _ _ _ _ => vault
  | spendRejected vault _ _ _ _ => vault

def VaultEvent.slot : VaultEvent K → Nat
  | vaultCreated _ _ _ _ _ slot => slot
  | deposited _ _ _ _ slot => slot
  | spent _ _ _ _ _ slot => slot
  | claimed _ _ _ _ _ slot => slot
  | vaultFrozen _ _ slot => slot
  | vaultUnfrozen _ _ slot => slot
  | policyUpdated _ _ _ _ _ _ _ slot => slot
  | withdrawn _ _ _ _ slot => slot
  | spendRequested _ _ _ _ _ _ slot => slot
  | spendRejected _ _ _ _ slot => slot

def VaultEvent.newTotalDeposited : VaultEvent K → Option Nat
  | deposited _ _ _ newTotalDeposited _ => some newTotalDeposited
  | _ => none

def VaultEvent.newTotalWithdrawn : VaultEvent K → Option Nat
  | withdrawn _ _ _ newTotalWithdrawn _ => some newTotalWithdrawn
  | _ => none

def VaultEvent.newTotalSpent : VaultEvent K → Option Nat
  | spent _ _ _ _ newTotalSpent _ => some newTotalSpent
  | claimed _ _ _ newTotalSpent _ _ => some newTotalSpent
  | _ => none

def VaultEvent.newTotalClaimed : VaultEvent K → Option Nat
  | claimed _ _ _ _ newTotalClaimed _ => some newTotalClaimed
  | _ => none

def VaultEvent.newFrozen : VaultEvent K → Option Bool
  | vaultFrozen .. => some true
  | vaultUnfrozen .. => some false
  | _ => none

/-- What `update_policy` can set. -/
@[ext] structure Terms (K : Type) where
  perTxLimitUsdc : Nat
  hourlyLimitUsdc : Nat
  lifetimeLimitUsdc : Nat
  allowPostPay : Bool
  whitelist : Vector K whitelistLen

def SpendPolicy.terms (policy : SpendPolicy K) : Terms K where
  perTxLimitUsdc := policy.perTxLimitUsdc
  hourlyLimitUsdc := policy.hourlyLimitUsdc
  lifetimeLimitUsdc := policy.lifetimeLimitUsdc
  allowPostPay := policy.allowPostPay
  whitelist := policy.whitelist

/-- Spending is no change of the terms. -/
theorem SpendPolicy.charged_terms (policy : SpendPolicy K) (slot amountUsdc : Nat) :
    (policy.charged slot amountUsdc).terms = policy.terms := by
  unfold SpendPolicy.charged
  split <;> rfl

def VaultEvent.newTerms : VaultEvent K → Option (Terms K)
  | policyUpdated _ _ perTx hourly lifetime allowPostPay whitelist _ =>
    some ⟨perTx, hourly, lifetime, allowPostPay, whitelist⟩
  | _ => none

/-- The event of a creation. -/
def VaultEvent.isCreation : VaultEvent K → Bool
  | vaultCreated .. => true
  | _ => false

/-- The events whose instruction leaves `last_active_slot` as it is. -/
def VaultEvent.isPassive : VaultEvent K → Bool
  | policyUpdated .. => true
  | spendRejected .. => true
  | _ => false

/-- An instruction on the vault at `v` took its view from `s` to `s'` and emitted the event. -/
structure Reports (v : K) (s : VaultView K) (ev : VaultEvent K) (s' : VaultView K) : Prop where
  vault : ev.vault = v
  slot : ev.slot = s.slot
  existing : ev.isCreation = false
  deposited : s'.vault.totalDeposited = ev.newTotalDeposited.getD s.vault.totalDeposited
  withdrawn : s'.vault.totalWithdrawn = ev.newTotalWithdrawn.getD s.vault.totalWithdrawn
  spent : s'.vault.totalSpent = ev.newTotalSpent.getD s.vault.totalSpent
  claimed : s'.vault.totalClaimed = ev.newTotalClaimed.getD s.vault.totalClaimed
  grows : s.vault.totalDeposited ≤ s'.vault.totalDeposited ∧
    s.vault.totalWithdrawn ≤ s'.vault.totalWithdrawn ∧
    s.vault.totalSpent ≤ s'.vault.totalSpent ∧ s.vault.totalClaimed ≤ s'.vault.totalClaimed
  frozen : s'.vault.frozen = ev.newFrozen.getD s.vault.frozen
  terms : s'.policy.terms = ev.newTerms.getD s.policy.terms
  lastActive : s'.vault.lastActiveSlot = if ev.isPassive then s.vault.lastActiveSlot else s.slot

end AgentFuel.Vault
