import AgentFuel.Library.Numbers
import AgentFuel.Vault.State

/-!
# Accounts of the credit vault as the clients decode them

The clients in TypeScript and in Python show an account by a record of their own, with the empty
slots of the whitelist left out and a balance made of four counters. Numbers are doubles in
TypeScript, where a value that may not be exact is refused, and of any size in Python.
-/
namespace AgentFuel.Clients

open Checked Numbers Solana Vault

variable {K : Type}

structure CreditVaultAccount (K : Type) where
  pubkey : K
  owner : K
  agent : K
  usdcMint : K
  vaultTokenAccount : K
  totalDeposited : Int
  totalWithdrawn : Int
  totalSpent : Int
  totalClaimed : Int
  balance : Int
  frozen : Bool
  createdSlot : Int
  lastActiveSlot : Int
  pendingCount : Int

structure SpendPolicyAccount (K : Type) where
  pubkey : K
  vault : K
  whitelist : List K
  perTxLimitUsdc : Int
  hourlyLimitUsdc : Int
  lifetimeLimitUsdc : Int
  hourlyWindowStartSlot : Int
  hourlyWindowSpentUsdc : Int
  allowPostPay : Bool

structure PendingSpendAccount (K : Type) where
  pubkey : K
  vault : K
  agent : K
  service : K
  amountUsdc : Int
  nonce : Int
  requestedSlot : Int

/-! ### TypeScript -/

namespace TypeScript

inductive DecodeError where
  /-- "Number can only safely store up to 53 bits" -/
  | unsafeNumber
  deriving DecidableEq, Repr

/-- `bnToNum` -/
def bnToNum (n : Nat) : Except DecodeError Int :=
  if (n : Int) ≤ maxSafe then .ok n else .error .unsafeNumber

def decodeCreditVault (pubkey : K) (raw : CreditVault K) :
    Except DecodeError (CreditVaultAccount K) := do
  let totalDeposited ← bnToNum raw.totalDeposited
  let totalWithdrawn ← bnToNum raw.totalWithdrawn
  let totalSpent ← bnToNum raw.totalSpent
  let totalClaimed ← bnToNum raw.totalClaimed
  let createdSlot ← bnToNum raw.createdSlot
  let lastActiveSlot ← bnToNum raw.lastActiveSlot
  let pendingCount ← bnToNum raw.pendingCount
  pure
    { pubkey
      owner := raw.owner
      agent := raw.agent
      usdcMint := raw.usdcMint
      vaultTokenAccount := raw.vaultTokenAccount
      totalDeposited, totalWithdrawn, totalSpent, totalClaimed
      balance := double (double (double (totalDeposited - totalWithdrawn) - totalSpent) + totalClaimed)
      frozen := raw.frozen
      createdSlot, lastActiveSlot, pendingCount }

def decodePendingSpend (pubkey : K) (raw : PendingSpend K) :
    Except DecodeError (PendingSpendAccount K) := do
  let amountUsdc ← bnToNum raw.amountUsdc
  let nonce ← bnToNum raw.nonce
  let requestedSlot ← bnToNum raw.requestedSlot
  pure
    { pubkey
      vault := raw.vault
      agent := raw.agent
      service := raw.service
      amountUsdc, nonce, requestedSlot }

def decodeSpendPolicy [DecidableEq K] [AddressSpace K] (pubkey : K) (raw : SpendPolicy K) :
    Except DecodeError (SpendPolicyAccount K) := do
  let perTxLimitUsdc ← bnToNum raw.perTxLimitUsdc
  let hourlyLimitUsdc ← bnToNum raw.hourlyLimitUsdc
  let lifetimeLimitUsdc ← bnToNum raw.lifetimeLimitUsdc
  let hourlyWindowStartSlot ← bnToNum raw.hourlyWindowStartSlot
  let hourlyWindowSpentUsdc ← bnToNum raw.hourlyWindowSpentUsdc
  pure
    { pubkey
      vault := raw.vault
      whitelist := raw.whitelist.toList.filter fun pk => decide (pk ≠ defaultKey)
      perTxLimitUsdc, hourlyLimitUsdc, lifetimeLimitUsdc, hourlyWindowStartSlot
      hourlyWindowSpentUsdc
      allowPostPay := raw.allowPostPay }

end TypeScript

/-! ### Python -/

namespace Python

/-- `decode_credit_vault` behind the layout. -/
def decodeCreditVault (pubkey : K) (r : CreditVault K) : CreditVaultAccount K where
  pubkey
  owner := r.owner
  agent := r.agent
  usdcMint := r.usdcMint
  vaultTokenAccount := r.vaultTokenAccount
  totalDeposited := r.totalDeposited
  totalWithdrawn := r.totalWithdrawn
  totalSpent := r.totalSpent
  totalClaimed := r.totalClaimed
  balance := r.totalDeposited - r.totalWithdrawn - r.totalSpent + r.totalClaimed
  frozen := r.frozen
  createdSlot := r.createdSlot
  lastActiveSlot := r.lastActiveSlot
  pendingCount := r.pendingCount

/-- `decode_pending_spend` behind the layout. -/
def decodePendingSpend (pubkey : K) (r : PendingSpend K) : PendingSpendAccount K where
  pubkey
  vault := r.vault
  agent := r.agent
  service := r.service
  amountUsdc := r.amountUsdc
  nonce := r.nonce
  requestedSlot := r.requestedSlot

/-- `decode_spend_policy` behind the layout. -/
def decodeSpendPolicy [DecidableEq K] [AddressSpace K] (pubkey : K) (r : SpendPolicy K) :
    SpendPolicyAccount K where
  pubkey
  vault := r.vault
  whitelist := r.whitelist.toList.filter fun pk => decide (pk ≠ defaultKey)
  perTxLimitUsdc := r.perTxLimitUsdc
  hourlyLimitUsdc := r.hourlyLimitUsdc
  lifetimeLimitUsdc := r.lifetimeLimitUsdc
  hourlyWindowStartSlot := r.hourlyWindowStartSlot
  hourlyWindowSpentUsdc := r.hourlyWindowSpentUsdc
  allowPostPay := r.allowPostPay

end Python

/-! ### The decoders on accounts in range -/

/-- The fields of 64 bits are representable numbers. -/
structure SafeVault (vault : CreditVault K) : Prop where
  totalDeposited : (vault.totalDeposited : Int) ≤ maxSafe
  totalWithdrawn : (vault.totalWithdrawn : Int) ≤ maxSafe
  totalSpent : (vault.totalSpent : Int) ≤ maxSafe
  totalClaimed : (vault.totalClaimed : Int) ≤ maxSafe
  createdSlot : (vault.createdSlot : Int) ≤ maxSafe
  lastActiveSlot : (vault.lastActiveSlot : Int) ≤ maxSafe
  pendingCount : (vault.pendingCount : Int) ≤ maxSafe

structure SafePolicy (policy : SpendPolicy K) : Prop where
  perTxLimitUsdc : (policy.perTxLimitUsdc : Int) ≤ maxSafe
  hourlyLimitUsdc : (policy.hourlyLimitUsdc : Int) ≤ maxSafe
  lifetimeLimitUsdc : (policy.lifetimeLimitUsdc : Int) ≤ maxSafe
  hourlyWindowStartSlot : (policy.hourlyWindowStartSlot : Int) ≤ maxSafe
  hourlyWindowSpentUsdc : (policy.hourlyWindowSpentUsdc : Int) ≤ maxSafe

theorem bnToNum_eq_ok {n : Nat} {value : Int} :
    TypeScript.bnToNum n = .ok value ↔ (n : Int) ≤ maxSafe ∧ value = n := by
  unfold TypeScript.bnToNum
  split <;> simp_all [eq_comm]

/-- The client in TypeScript refuses an account exactly if a counter is too large for it. -/
theorem decodeCreditVault_ok (pubkey : K) (vault : CreditVault K) :
    (∃ account, TypeScript.decodeCreditVault pubkey vault = .ok account) ↔ SafeVault vault := by
  simp only [TypeScript.decodeCreditVault, bind_eq_ok, bnToNum_eq_ok, pure_eq_ok]
  constructor
  · rintro ⟨_, _, ⟨deposited, rfl⟩, _, ⟨withdrawn, rfl⟩, _, ⟨spent, rfl⟩, _, ⟨claimed, rfl⟩, _,
      ⟨created, rfl⟩, _, ⟨active, rfl⟩, _, ⟨pending, rfl⟩, -⟩
    exact ⟨deposited, withdrawn, spent, claimed, created, active, pending⟩
  · intro safe
    exact ⟨_, _, ⟨safe.totalDeposited, rfl⟩, _, ⟨safe.totalWithdrawn, rfl⟩, _, ⟨safe.totalSpent, rfl⟩,
      _, ⟨safe.totalClaimed, rfl⟩, _, ⟨safe.createdSlot, rfl⟩, _, ⟨safe.lastActiveSlot, rfl⟩, _,
      ⟨safe.pendingCount, rfl⟩, rfl⟩

/-- Both clients show the same account, but for the rounding of the balance. -/
theorem decodeCreditVault_eq {pubkey : K} {vault : CreditVault K} {account : CreditVaultAccount K}
    (decoded : TypeScript.decodeCreditVault pubkey vault = .ok account) :
    account = { Python.decodeCreditVault pubkey vault with
      balance := double (double (double (vault.totalDeposited - vault.totalWithdrawn) -
        vault.totalSpent) + vault.totalClaimed) } := by
  simp only [TypeScript.decodeCreditVault, bind_eq_ok, bnToNum_eq_ok, pure_eq_ok] at decoded
  obtain ⟨_, ⟨-, rfl⟩, _, ⟨-, rfl⟩, _, ⟨-, rfl⟩, _, ⟨-, rfl⟩, _, ⟨-, rfl⟩, _, ⟨-, rfl⟩, _, ⟨-, rfl⟩,
    rfl⟩ := decoded
  rfl

theorem decodeSpendPolicy_ok [DecidableEq K] [AddressSpace K] (pubkey : K) {policy : SpendPolicy K}
    (safe : SafePolicy policy) :
    TypeScript.decodeSpendPolicy pubkey policy = .ok (Python.decodeSpendPolicy pubkey policy) := by
  simp only [TypeScript.decodeSpendPolicy, bind_eq_ok, bnToNum_eq_ok, pure_eq_ok]
  exact ⟨_, ⟨safe.perTxLimitUsdc, rfl⟩, _, ⟨safe.hourlyLimitUsdc, rfl⟩, _, ⟨safe.lifetimeLimitUsdc, rfl⟩,
    _, ⟨safe.hourlyWindowStartSlot, rfl⟩, _, ⟨safe.hourlyWindowSpentUsdc, rfl⟩, rfl⟩

end AgentFuel.Clients
