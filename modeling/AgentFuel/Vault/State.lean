import AgentFuel.Library.Checked
import AgentFuel.Solana.Token

/-!
# Accounts, errors and events of the credit vault program

Account records hold the fields some instruction reads or writes; padding is left out.
Unsigned 64-bit fields are natural numbers, and every addition the program checks for
overflow is a `checkedAdd 64`.
-/
namespace AgentFuel.Vault

open Checked Solana

/-- `SLOTS_PER_HOUR` -/
def slotsPerHour : Nat := 9000

/-- `WHITELIST_LEN` -/
def whitelistLen : Nat := 8

structure CreditVault (K : Type) where
  owner : K
  agent : K
  usdcMint : K
  vaultTokenAccount : K
  totalDeposited : Nat := 0
  totalWithdrawn : Nat := 0
  totalSpent : Nat := 0
  totalClaimed : Nat := 0
  frozen : Bool := false
  createdSlot : Nat
  lastActiveSlot : Nat
  bump : UInt8
  pendingCount : Nat := 0
  deriving DecidableEq

structure SpendPolicy (K : Type) where
  vault : K
  whitelist : Vector K whitelistLen
  perTxLimitUsdc : Nat
  hourlyLimitUsdc : Nat
  lifetimeLimitUsdc : Nat
  hourlyWindowStartSlot : Nat := 0
  hourlyWindowSpentUsdc : Nat := 0
  allowPostPay : Bool
  bump : UInt8
  deriving DecidableEq

structure PendingSpend (K : Type) where
  vault : K
  agent : K
  service : K
  amountUsdc : Nat
  requestedSlot : Nat
  nonce : Nat
  bump : UInt8
  deriving DecidableEq

inductive VaultError where
  | overflow
  | zeroAmount
  | frozen
  | notWhitelisted
  | perTxLimitExceeded
  | hourlyLimitExceeded
  | lifetimeLimitExceeded
  | alreadyFrozen
  | notFrozen
  | postPayDisabled
  | pendingSpendVaultMismatch
  | pendingNonceOverflow
  deriving DecidableEq, Repr

inductive ProgramError where
  | vault (e : VaultError)
  | anchor (e : AnchorError)
  | token (e : TokenError)
  deriving DecidableEq, Repr

inductive VaultEvent (K : Type) where
  | vaultCreated (vault owner agent usdcMint vaultTokenAccount : K) (slot : Nat)
  | deposited (vault owner : K) (amountUsdc newTotalDeposited slot : Nat)
  | spent (vault agent service : K) (amountUsdc newTotalSpent slot : Nat)
  | claimed (vault service : K) (amountUsdc newTotalSpent newTotalClaimed slot : Nat)
  | vaultFrozen (vault owner : K) (slot : Nat)
  | vaultUnfrozen (vault owner : K) (slot : Nat)
  | policyUpdated (vault owner : K) (perTxLimitUsdc hourlyLimitUsdc lifetimeLimitUsdc : Nat)
      (allowPostPay : Bool) (whitelist : Vector K whitelistLen) (slot : Nat)
  | withdrawn (vault owner : K) (amountUsdc newTotalWithdrawn slot : Nat)
  | spendRequested (vault agent service pendingSpend : K) (amountUsdc nonce slot : Nat)
  | spendRejected (vault owner pendingSpend : K) (nonce slot : Nat)
  deriving DecidableEq

/-- The chain as the program sees it: the clock, the token programs' accounts and, for
each account type of its own, the accounts at their addresses. -/
@[ext] structure World (K : Type) where
  slot : Nat
  tokens : TokenLedger K
  vaults : K → Option (CreditVault K)
  policies : K → Option (SpendPolicy K)
  pendings : K → Option (PendingSpend K)

namespace World

variable {K : Type} (w : World K) (key : K)

def loadVault : Except ProgramError (CreditVault K) :=
  okOr (w.vaults key) (.anchor .accountNotInitialized)

def loadPolicy : Except ProgramError (SpendPolicy K) :=
  okOr (w.policies key) (.anchor .accountNotInitialized)

def loadPending : Except ProgramError (PendingSpend K) :=
  okOr (w.pendings key) (.anchor .accountNotInitialized)

def loadToken : Except ProgramError (TokenAccount K) :=
  okOr (w.tokens.accounts key) (.anchor .accountNotInitialized)

def loadMint : Except ProgramError (Mint K) :=
  okOr (w.tokens.mints key) (.anchor .accountNotInitialized)

@[simp] theorem loadVault_eq_ok (vault : CreditVault K) :
    w.loadVault key = .ok vault ↔ w.vaults key = some vault :=
  okOr_eq_ok _ _ _

@[simp] theorem loadPolicy_eq_ok (policy : SpendPolicy K) :
    w.loadPolicy key = .ok policy ↔ w.policies key = some policy :=
  okOr_eq_ok _ _ _

@[simp] theorem loadPending_eq_ok (pending : PendingSpend K) :
    w.loadPending key = .ok pending ↔ w.pendings key = some pending :=
  okOr_eq_ok _ _ _

@[simp] theorem loadToken_eq_ok (account : TokenAccount K) :
    w.loadToken key = .ok account ↔ w.tokens.accounts key = some account :=
  okOr_eq_ok _ _ _

@[simp] theorem loadMint_eq_ok (mint : Mint K) :
    w.loadMint key = .ok mint ↔ w.tokens.mints key = some mint :=
  okOr_eq_ok _ _ _

variable [DecidableEq K]

def setVault (vault : CreditVault K) : World K :=
  { w with vaults := Function.update w.vaults key (some vault) }

def setPolicy (policy : SpendPolicy K) : World K :=
  { w with policies := Function.update w.policies key (some policy) }

def setPending (pending : PendingSpend K) : World K :=
  { w with pendings := Function.update w.pendings key (some pending) }

/-- `close = owner` -/
def closePending : World K :=
  { w with pendings := Function.update w.pendings key none }

def setTokens (tokens : TokenLedger K) : World K := { w with tokens }

/-- An address at which `init` can create an account. -/
def Vacant : Prop :=
  w.vaults key = none ∧ w.policies key = none ∧ w.pendings key = none ∧ w.tokens.Vacant key

instance : Decidable (w.Vacant key) :=
  inferInstanceAs (Decidable (_ ∧ _ ∧ _ ∧ _))

variable (k : K) (vault : CreditVault K) (policy : SpendPolicy K)
  (pending : PendingSpend K) (tokens : TokenLedger K)

@[simp] theorem setVault_slot : (w.setVault key vault).slot = w.slot := rfl
@[simp] theorem setVault_tokens : (w.setVault key vault).tokens = w.tokens := rfl
@[simp] theorem setVault_policies : (w.setVault key vault).policies = w.policies := rfl
@[simp] theorem setVault_pendings : (w.setVault key vault).pendings = w.pendings := rfl
@[simp] theorem setVault_vaults :
    (w.setVault key vault).vaults k = if k = key then some vault else w.vaults k := by
  simp [setVault, Function.update_apply]

@[simp] theorem setPolicy_slot : (w.setPolicy key policy).slot = w.slot := rfl
@[simp] theorem setPolicy_tokens : (w.setPolicy key policy).tokens = w.tokens := rfl
@[simp] theorem setPolicy_vaults : (w.setPolicy key policy).vaults = w.vaults := rfl
@[simp] theorem setPolicy_pendings : (w.setPolicy key policy).pendings = w.pendings := rfl
@[simp] theorem setPolicy_policies :
    (w.setPolicy key policy).policies k = if k = key then some policy else w.policies k := by
  simp [setPolicy, Function.update_apply]

@[simp] theorem setPending_slot : (w.setPending key pending).slot = w.slot := rfl
@[simp] theorem setPending_tokens : (w.setPending key pending).tokens = w.tokens := rfl
@[simp] theorem setPending_vaults : (w.setPending key pending).vaults = w.vaults := rfl
@[simp] theorem setPending_policies : (w.setPending key pending).policies = w.policies := rfl
@[simp] theorem setPending_pendings :
    (w.setPending key pending).pendings k = if k = key then some pending else w.pendings k := by
  simp [setPending, Function.update_apply]

@[simp] theorem closePending_slot : (w.closePending key).slot = w.slot := rfl
@[simp] theorem closePending_tokens : (w.closePending key).tokens = w.tokens := rfl
@[simp] theorem closePending_vaults : (w.closePending key).vaults = w.vaults := rfl
@[simp] theorem closePending_policies : (w.closePending key).policies = w.policies := rfl
@[simp] theorem closePending_pendings :
    (w.closePending key).pendings k = if k = key then none else w.pendings k := by
  simp [closePending, Function.update_apply]

omit [DecidableEq K]

@[simp] theorem setTokens_slot : (w.setTokens tokens).slot = w.slot := rfl
@[simp] theorem setTokens_tokens : (w.setTokens tokens).tokens = tokens := rfl
@[simp] theorem setTokens_vaults : (w.setTokens tokens).vaults = w.vaults := rfl
@[simp] theorem setTokens_policies : (w.setTokens tokens).policies = w.policies := rfl
@[simp] theorem setTokens_pendings : (w.setTokens tokens).pendings = w.pendings := rfl

end World
end AgentFuel.Vault
