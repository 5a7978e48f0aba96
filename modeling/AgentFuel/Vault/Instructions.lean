import AgentFuel.Library.Transition
import AgentFuel.Vault.Policy

/-!
# The instructions of the credit vault program

Each instruction has the account list of its `#[derive(Accounts)]` struct, the
validation Anchor generates for it (`tryAccounts`) and its `handler`. Accounts are
loaded in field order before any constraint is checked; a handler returns the world it
leaves and the event it emits.
-/
namespace AgentFuel.Vault

open Checked Solana

variable {K : Type} [DecidableEq K] [AddressSpace K]

/-! ### Constraints several instructions share -/

/-- `seeds = [b"vault", vault.owner, vault.agent], bump = vault.bump` -/
def requireVaultSeeds (key : K) (vault : CreditVault K) : Except ProgramError Unit :=
  require (key = createProgramAddress (.vault vault.owner vault.agent) vault.bump)
    (.anchor .constraintSeeds)

/-- `seeds = [b"policy", vault.key()], bump = policy.bump, constraint = policy.vault == vault.key()` -/
def requirePolicyOf (vaultKey key : K) (policy : SpendPolicy K) : Except ProgramError Unit := do
  require (key = createProgramAddress (.policy vaultKey) policy.bump) (.anchor .constraintSeeds)
  require (policy.vault = vaultKey) (.anchor .constraintRaw)

/-- `seeds = [b"pending", vault.key(), pending_spend.nonce], bump = pending_spend.bump,
constraint = pending_spend.vault == vault.key() @ VaultError::PendingSpendVaultMismatch` -/
def requirePendingOf (vaultKey key : K) (pending : PendingSpend K) : Except ProgramError Unit := do
  require (key = createProgramAddress (.pending vaultKey pending.nonce) pending.bump)
    (.anchor .constraintSeeds)
  require (pending.vault = vaultKey) (.vault .pendingSpendVaultMismatch)

/-- `init` with seeds: the derived address, not yet in use. -/
def requireInit (w : World K) (key : K) (seeds : Seeds K) : Except ProgramError Unit := do
  require (key = findProgramAddress seeds) (.anchor .constraintSeeds)
  require (w.Vacant key) (.anchor .accountAlreadyInUse)

/-- `token::transfer` under the signer seeds of the vault. -/
def transferSigned (w : World K) (vaultKey : K) (vault : CreditVault K) (source destination : K)
    (amount : Nat) : Except ProgramError (TokenLedger K) := do
  require (createProgramAddress (.vault vault.owner vault.agent) vault.bump = vaultKey)
    (.anchor .privilegeEscalation)
  (w.tokens.transfer source destination vaultKey amount).mapError .token

section Specification

variable (w : World K) (vaultKey key source destination : K) (amount : Nat) (seeds : Seeds K)
  (vault : CreditVault K) (policy : SpendPolicy K) (pending : PendingSpend K)
  (tokens : TokenLedger K) (u : Unit)

@[simp] theorem requireVaultSeeds_eq_ok :
    requireVaultSeeds key vault = .ok u ↔
      key = createProgramAddress (.vault vault.owner vault.agent) vault.bump := by
  simp [requireVaultSeeds]

@[simp] theorem requirePolicyOf_eq_ok :
    requirePolicyOf vaultKey key policy = .ok u ↔
      key = createProgramAddress (.policy vaultKey) policy.bump ∧ policy.vault = vaultKey := by
  simp [requirePolicyOf]

@[simp] theorem requirePendingOf_eq_ok :
    requirePendingOf vaultKey key pending = .ok u ↔
      key = createProgramAddress (.pending vaultKey pending.nonce) pending.bump ∧
        pending.vault = vaultKey := by
  simp [requirePendingOf]

@[simp] theorem requireInit_eq_ok :
    requireInit w key seeds = .ok u ↔ key = findProgramAddress seeds ∧ w.Vacant key := by
  simp [requireInit]

@[simp] theorem transferSigned_eq_ok :
    transferSigned w vaultKey vault source destination amount = .ok tokens ↔
      createProgramAddress (.vault vault.owner vault.agent) vault.bump = vaultKey ∧
        w.tokens.transfer source destination vaultKey amount = .ok tokens := by
  simp [transferSigned]

end Specification

/-! ### create_vault -/

structure CreateVault (K : Type) [AddressSpace K] where
  owner : Signer K
  agent : K
  usdcMint : K
  vault : K
  policy : K
  vaultTokenAccount : K

/-- The three `init` accounts are opened in order; the token account comes from the
associated-token program. -/
def CreateVault.tryAccounts (ctx : CreateVault K) (w : World K) :
    Except ProgramError (TokenLedger K) := do
  let _ ← w.loadMint ctx.usdcMint
  requireInit w ctx.vault (.vault ctx.owner.key ctx.agent)
  requireInit w ctx.policy (.policy ctx.vault)
  require (ctx.vaultTokenAccount = associatedTokenAddress ctx.vault ctx.usdcMint)
    (.anchor .constraintAssociated)
  require (w.Vacant ctx.vaultTokenAccount) (.anchor .accountAlreadyInUse)
  (w.tokens.openAccount ctx.vaultTokenAccount ctx.usdcMint ctx.vault).mapError .token

def CreateVault.handler (ctx : CreateVault K) (w : World K)
    (perTxLimitUsdc hourlyLimitUsdc lifetimeLimitUsdc : Nat) (allowPostPay : Bool) :
    Except ProgramError (World K × VaultEvent K) := do
  let tokens ← ctx.tryAccounts w
  let vault : CreditVault K :=
    { owner := ctx.owner.key
      agent := ctx.agent
      usdcMint := ctx.usdcMint
      vaultTokenAccount := ctx.vaultTokenAccount
      createdSlot := w.slot
      lastActiveSlot := w.slot
      bump := canonicalBump (.vault ctx.owner.key ctx.agent) }
  let policy : SpendPolicy K :=
    { vault := ctx.vault
      whitelist := Vector.replicate whitelistLen defaultKey
      perTxLimitUsdc, hourlyLimitUsdc, lifetimeLimitUsdc, allowPostPay
      bump := canonicalBump (.policy ctx.vault) }
  pure (((w.setTokens tokens).setVault ctx.vault vault).setPolicy ctx.policy policy,
    .vaultCreated ctx.vault ctx.owner.key ctx.agent ctx.usdcMint ctx.vaultTokenAccount w.slot)

/-! ### deposit -/

structure Deposit (K : Type) [AddressSpace K] where
  owner : Signer K
  vault : K
  ownerTokenAccount : K
  vaultTokenAccount : K

def Deposit.tryAccounts (ctx : Deposit K) (w : World K) :
    Except ProgramError (CreditVault K) := do
  let vault ← w.loadVault ctx.vault
  let ownerTokenAccount ← w.loadToken ctx.ownerTokenAccount
  let _ ← w.loadToken ctx.vaultTokenAccount
  requireVaultSeeds ctx.vault vault
  require (vault.owner = ctx.owner.key) (.anchor .constraintHasOne)
  require (ownerTokenAccount.mint = vault.usdcMint) (.anchor .constraintRaw)
  require (ctx.vaultTokenAccount = vault.vaultTokenAccount) (.anchor .constraintRaw)
  pure vault

def Deposit.handler (ctx : Deposit K) (w : World K) (amountUsdc : Nat) :
    Except ProgramError (World K × VaultEvent K) := do
  let vault ← ctx.tryAccounts w
  require (0 < amountUsdc) (.vault .zeroAmount)
  let tokens ← (w.tokens.transfer ctx.ownerTokenAccount ctx.vaultTokenAccount ctx.owner.key
    amountUsdc).mapError .token
  let totalDeposited ← okOr (checkedAdd 64 vault.totalDeposited amountUsdc) (.vault .overflow)
  let vault := { vault with totalDeposited, lastActiveSlot := w.slot }
  pure ((w.setTokens tokens).setVault ctx.vault vault,
    .deposited ctx.vault ctx.owner.key amountUsdc vault.totalDeposited w.slot)

/-! ### spend -/

structure Spend (K : Type) [AddressSpace K] where
  agent : Signer K
  vault : K
  policy : K
  vaultTokenAccount : K
  serviceTokenAccount : K

def Spend.tryAccounts (ctx : Spend K) (w : World K) :
    Except ProgramError (CreditVault K × SpendPolicy K × TokenAccount K) := do
  -- Accounts are loaded in the order they are listed, and the constraints checked afterwards.
  let vault ← w.loadVault ctx.vault
  let policy ← w.loadPolicy ctx.policy
  let _ ← w.loadToken ctx.vaultTokenAccount
  let serviceTokenAccount ← w.loadToken ctx.serviceTokenAccount
  requireVaultSeeds ctx.vault vault
  require (vault.agent = ctx.agent.key) (.anchor .constraintHasOne)
  requirePolicyOf ctx.vault ctx.policy policy
  require (ctx.vaultTokenAccount = vault.vaultTokenAccount) (.anchor .constraintRaw)
  require (serviceTokenAccount.mint = vault.usdcMint) (.anchor .constraintRaw)
  pure (vault, policy, serviceTokenAccount)

def Spend.handler (ctx : Spend K) (w : World K) (amountUsdc : Nat) :
    Except ProgramError (World K × VaultEvent K) := do
  let (vault, policy, serviceTokenAccount) ← ctx.tryAccounts w
  -- The recipient is whoever owns the destination, not an account of the instruction.
  let service := serviceTokenAccount.owner
  let (vault, policy) ←
    (checkAndRecordSpend vault policy service amountUsdc w.slot).mapError .vault
  -- `serviceTokenAccount` is not compared with the vault's own account.
  let tokens ← transferSigned w ctx.vault vault ctx.vaultTokenAccount ctx.serviceTokenAccount
    amountUsdc
  let vault := { vault with lastActiveSlot := w.slot }
  pure (((w.setTokens tokens).setVault ctx.vault vault).setPolicy ctx.policy policy,
    .spent ctx.vault ctx.agent.key service amountUsdc vault.totalSpent w.slot)

/-! ### freeze_vault and unfreeze_vault -/

structure FreezeVault (K : Type) [AddressSpace K] where
  owner : Signer K
  vault : K

def FreezeVault.tryAccounts (ctx : FreezeVault K) (w : World K) :
    Except ProgramError (CreditVault K) := do
  let vault ← w.loadVault ctx.vault
  requireVaultSeeds ctx.vault vault
  require (vault.owner = ctx.owner.key) (.anchor .constraintHasOne)
  pure vault

def FreezeVault.freezeHandler (ctx : FreezeVault K) (w : World K) :
    Except ProgramError (World K × VaultEvent K) := do
  let vault ← ctx.tryAccounts w
  require (vault.frozen = false) (.vault .alreadyFrozen)
  pure (w.setVault ctx.vault { vault with frozen := true, lastActiveSlot := w.slot },
    .vaultFrozen ctx.vault ctx.owner.key w.slot)

def FreezeVault.unfreezeHandler (ctx : FreezeVault K) (w : World K) :
    Except ProgramError (World K × VaultEvent K) := do
  let vault ← ctx.tryAccounts w
  require (vault.frozen = true) (.vault .notFrozen)
  pure (w.setVault ctx.vault { vault with frozen := false, lastActiveSlot := w.slot },
    .vaultUnfrozen ctx.vault ctx.owner.key w.slot)

/-! ### update_policy -/

structure UpdatePolicy (K : Type) [AddressSpace K] where
  owner : Signer K
  vault : K
  policy : K

def UpdatePolicy.tryAccounts (ctx : UpdatePolicy K) (w : World K) :
    Except ProgramError (SpendPolicy K) := do
  let vault ← w.loadVault ctx.vault
  let policy ← w.loadPolicy ctx.policy
  requireVaultSeeds ctx.vault vault
  require (vault.owner = ctx.owner.key) (.anchor .constraintHasOne)
  requirePolicyOf ctx.vault ctx.policy policy
  pure policy

/-- The rolling-window fields stay as they are. -/
def UpdatePolicy.handler (ctx : UpdatePolicy K) (w : World K)
    (newPerTxLimitUsdc newHourlyLimitUsdc newLifetimeLimitUsdc : Nat) (newAllowPostPay : Bool)
    (newWhitelist : Vector K whitelistLen) : Except ProgramError (World K × VaultEvent K) := do
  let policy ← ctx.tryAccounts w
  let policy := { policy with
    perTxLimitUsdc := newPerTxLimitUsdc
    hourlyLimitUsdc := newHourlyLimitUsdc
    lifetimeLimitUsdc := newLifetimeLimitUsdc
    allowPostPay := newAllowPostPay
    whitelist := newWhitelist }
  pure (w.setPolicy ctx.policy policy,
    .policyUpdated ctx.vault ctx.owner.key newPerTxLimitUsdc newHourlyLimitUsdc
      newLifetimeLimitUsdc newAllowPostPay newWhitelist w.slot)

/-! ### withdraw -/

structure Withdraw (K : Type) [AddressSpace K] where
  owner : Signer K
  vault : K
  vaultTokenAccount : K
  ownerTokenAccount : K

def Withdraw.tryAccounts (ctx : Withdraw K) (w : World K) :
    Except ProgramError (CreditVault K) := do
  let vault ← w.loadVault ctx.vault
  let _ ← w.loadToken ctx.vaultTokenAccount
  let ownerTokenAccount ← w.loadToken ctx.ownerTokenAccount
  requireVaultSeeds ctx.vault vault
  require (vault.owner = ctx.owner.key) (.anchor .constraintHasOne)
  require (ctx.vaultTokenAccount = vault.vaultTokenAccount) (.anchor .constraintRaw)
  require (ownerTokenAccount.mint = vault.usdcMint) (.anchor .constraintRaw)
  pure vault

def Withdraw.handler (ctx : Withdraw K) (w : World K) (amountUsdc : Nat) :
    Except ProgramError (World K × VaultEvent K) := do
  let vault ← ctx.tryAccounts w
  require (0 < amountUsdc) (.vault .zeroAmount)
  -- No look at `frozen`: the owner can always withdraw.
  let tokens ← transferSigned w ctx.vault vault ctx.vaultTokenAccount ctx.ownerTokenAccount
    amountUsdc
  let totalWithdrawn ← okOr (checkedAdd 64 vault.totalWithdrawn amountUsdc) (.vault .overflow)
  let vault := { vault with totalWithdrawn, lastActiveSlot := w.slot }
  pure ((w.setTokens tokens).setVault ctx.vault vault,
    .withdrawn ctx.vault ctx.owner.key amountUsdc vault.totalWithdrawn w.slot)

/-! ### claim -/

structure Claim (K : Type) [AddressSpace K] where
  service : Signer K
  vault : K
  policy : K
  vaultTokenAccount : K
  serviceTokenAccount : K

def Claim.tryAccounts (ctx : Claim K) (w : World K) :
    Except ProgramError (CreditVault K × SpendPolicy K) := do
  let vault ← w.loadVault ctx.vault
  let policy ← w.loadPolicy ctx.policy
  let _ ← w.loadToken ctx.vaultTokenAccount
  let serviceTokenAccount ← w.loadToken ctx.serviceTokenAccount
  requireVaultSeeds ctx.vault vault
  requirePolicyOf ctx.vault ctx.policy policy
  require (ctx.vaultTokenAccount = vault.vaultTokenAccount) (.anchor .constraintRaw)
  require (serviceTokenAccount.mint = vault.usdcMint) (.anchor .constraintRaw)
  require (serviceTokenAccount.owner = ctx.service.key) (.anchor .constraintRaw)
  pure (vault, policy)

def Claim.handler (ctx : Claim K) (w : World K) (amountUsdc : Nat) :
    Except ProgramError (World K × VaultEvent K) := do
  let (vault, policy) ← ctx.tryAccounts w
  require (policy.allowPostPay = true) (.vault .postPayDisabled)
  let (vault, policy) ←
    (checkAndRecordSpend vault policy ctx.service.key amountUsdc w.slot).mapError .vault
  let tokens ← transferSigned w ctx.vault vault ctx.vaultTokenAccount ctx.serviceTokenAccount
    amountUsdc
  let totalClaimed ← okOr (checkedAdd 64 vault.totalClaimed amountUsdc) (.vault .overflow)
  let vault := { vault with totalClaimed, lastActiveSlot := w.slot }
  pure (((w.setTokens tokens).setVault ctx.vault vault).setPolicy ctx.policy policy,
    .claimed ctx.vault ctx.service.key amountUsdc vault.totalSpent vault.totalClaimed w.slot)

/-! ### request_spend -/

structure RequestSpend (K : Type) [AddressSpace K] where
  agent : Signer K
  vault : K
  serviceTokenAccount : K
  pendingSpend : K

/-- The new account is opened while the accounts are loaded, before the constraints. -/
def RequestSpend.tryAccounts (ctx : RequestSpend K) (w : World K) :
    Except ProgramError (CreditVault K × TokenAccount K) := do
  let vault ← w.loadVault ctx.vault
  let serviceTokenAccount ← w.loadToken ctx.serviceTokenAccount
  requireInit w ctx.pendingSpend (.pending ctx.vault vault.pendingCount)
  requireVaultSeeds ctx.vault vault
  require (vault.agent = ctx.agent.key) (.anchor .constraintHasOne)
  require (serviceTokenAccount.mint = vault.usdcMint) (.anchor .constraintRaw)
  pure (vault, serviceTokenAccount)

def RequestSpend.handler (ctx : RequestSpend K) (w : World K) (amountUsdc : Nat) :
    Except ProgramError (World K × VaultEvent K) := do
  let (vault, serviceTokenAccount) ← ctx.tryAccounts w
  require (0 < amountUsdc) (.vault .zeroAmount)
  require (vault.frozen = false) (.vault .frozen)
  let nonce := vault.pendingCount
  let service := serviceTokenAccount.owner
  let pending : PendingSpend K :=
    { vault := ctx.vault
      agent := ctx.agent.key
      service, amountUsdc
      requestedSlot := w.slot
      nonce
      bump := canonicalBump (.pending ctx.vault nonce) }
  -- The request carries the old count, the vault the new one.
  let pendingCount ← okOr (checkedAdd 64 vault.pendingCount 1) (.vault .pendingNonceOverflow)
  let vault := { vault with pendingCount, lastActiveSlot := w.slot }
  pure ((w.setPending ctx.pendingSpend pending).setVault ctx.vault vault,
    .spendRequested ctx.vault ctx.agent.key service ctx.pendingSpend amountUsdc nonce w.slot)

/-! ### approve_spend -/

structure ApproveSpend (K : Type) [AddressSpace K] where
  owner : Signer K
  vault : K
  policy : K
  pendingSpend : K
  vaultTokenAccount : K
  serviceTokenAccount : K

/-- The seeds name the signing owner, not the stored one. -/
def ApproveSpend.tryAccounts (ctx : ApproveSpend K) (w : World K) :
    Except ProgramError (CreditVault K × SpendPolicy K × PendingSpend K) := do
  let vault ← w.loadVault ctx.vault
  let policy ← w.loadPolicy ctx.policy
  let pending ← w.loadPending ctx.pendingSpend
  let _ ← w.loadToken ctx.vaultTokenAccount
  let serviceTokenAccount ← w.loadToken ctx.serviceTokenAccount
  require (ctx.vault = createProgramAddress (.vault ctx.owner.key vault.agent) vault.bump)
    (.anchor .constraintSeeds)
  require (vault.owner = ctx.owner.key) (.anchor .constraintHasOne)
  requirePolicyOf ctx.vault ctx.policy policy
  requirePendingOf ctx.vault ctx.pendingSpend pending
  require (ctx.vaultTokenAccount = vault.vaultTokenAccount) (.anchor .constraintRaw)
  require (serviceTokenAccount.owner = pending.service) (.anchor .constraintRaw)
  require (serviceTokenAccount.mint = vault.usdcMint) (.anchor .constraintRaw)
  pure (vault, policy, pending)

def ApproveSpend.handler (ctx : ApproveSpend K) (w : World K) :
    Except ProgramError (World K × VaultEvent K) := do
  let (vault, policy, pending) ← ctx.tryAccounts w
  -- The freeze, the amount and the whitelist are checked by hand: an approval does not go
  -- through the ladder and is not limited.
  require (vault.frozen = false) (.vault .frozen)
  let amountUsdc := pending.amountUsdc
  require (0 < amountUsdc) (.vault .zeroAmount)
  (checkWhitelist policy.whitelist.toList pending.service).mapError .vault
  let tokens ← transferSigned w ctx.vault vault ctx.vaultTokenAccount ctx.serviceTokenAccount
    amountUsdc
  let totalSpent ← okOr (checkedAdd 64 vault.totalSpent amountUsdc) (.vault .overflow)
  let vault := { vault with totalSpent, lastActiveSlot := w.slot }
  pure (((w.setTokens tokens).setVault ctx.vault vault).closePending ctx.pendingSpend,
    .spent ctx.vault pending.agent pending.service amountUsdc vault.totalSpent w.slot)

/-! ### cancel_spend -/

structure CancelSpend (K : Type) [AddressSpace K] where
  owner : Signer K
  vault : K
  pendingSpend : K

def CancelSpend.tryAccounts (ctx : CancelSpend K) (w : World K) :
    Except ProgramError (PendingSpend K) := do
  let vault ← w.loadVault ctx.vault
  let pending ← w.loadPending ctx.pendingSpend
  require (ctx.vault = createProgramAddress (.vault ctx.owner.key vault.agent) vault.bump)
    (.anchor .constraintSeeds)
  require (vault.owner = ctx.owner.key) (.anchor .constraintHasOne)
  requirePendingOf ctx.vault ctx.pendingSpend pending
  pure pending

def CancelSpend.handler (ctx : CancelSpend K) (w : World K) :
    Except ProgramError (World K × VaultEvent K) := do
  -- Cancelling writes neither the vault nor the ledger.
  let pending ← ctx.tryAccounts w
  pure (w.closePending ctx.pendingSpend,
    .spendRejected ctx.vault ctx.owner.key ctx.pendingSpend pending.nonce w.slot)

/-! ### The program and its surroundings -/

inductive Instruction (K : Type) [AddressSpace K] where
  | createVault (ctx : CreateVault K) (perTxLimitUsdc hourlyLimitUsdc lifetimeLimitUsdc : Nat)
      (allowPostPay : Bool)
  | deposit (ctx : Deposit K) (amountUsdc : Nat)
  | spend (ctx : Spend K) (amountUsdc : Nat)
  | freezeVault (ctx : FreezeVault K)
  | unfreezeVault (ctx : FreezeVault K)
  | updatePolicy (ctx : UpdatePolicy K)
      (newPerTxLimitUsdc newHourlyLimitUsdc newLifetimeLimitUsdc : Nat) (newAllowPostPay : Bool)
      (newWhitelist : Vector K whitelistLen)
  | withdraw (ctx : Withdraw K) (amountUsdc : Nat)
  | claim (ctx : Claim K) (amountUsdc : Nat)
  | requestSpend (ctx : RequestSpend K) (amountUsdc : Nat)
  | approveSpend (ctx : ApproveSpend K)
  | cancelSpend (ctx : CancelSpend K)

def Instruction.handler (w : World K) :
    Instruction K → Except ProgramError (World K × VaultEvent K)
  | createVault ctx perTx hourly lifetime allowPostPay =>
    ctx.handler w perTx hourly lifetime allowPostPay
  | deposit ctx amountUsdc => ctx.handler w amountUsdc
  | spend ctx amountUsdc => ctx.handler w amountUsdc
  | freezeVault ctx => ctx.freezeHandler w
  | unfreezeVault ctx => ctx.unfreezeHandler w
  | updatePolicy ctx perTx hourly lifetime allowPostPay whitelist =>
    ctx.handler w perTx hourly lifetime allowPostPay whitelist
  | withdraw ctx amountUsdc => ctx.handler w amountUsdc
  | claim ctx amountUsdc => ctx.handler w amountUsdc
  | requestSpend ctx amountUsdc => ctx.handler w amountUsdc
  | approveSpend ctx => ctx.handler w
  | cancelSpend ctx => ctx.handler w

/-- Every instruction has one signer field. -/
def Instruction.signer : Instruction K → K
  | createVault ctx _ _ _ _ => ctx.owner.key
  | deposit ctx _ => ctx.owner.key
  | spend ctx _ => ctx.agent.key
  | freezeVault ctx => ctx.owner.key
  | unfreezeVault ctx => ctx.owner.key
  | updatePolicy ctx _ _ _ _ _ => ctx.owner.key
  | withdraw ctx _ => ctx.owner.key
  | claim ctx _ => ctx.service.key
  | requestSpend ctx _ => ctx.agent.key
  | approveSpend ctx => ctx.owner.key
  | cancelSpend ctx => ctx.owner.key

/-- The vault account an instruction names. -/
def Instruction.vault : Instruction K → K
  | createVault ctx _ _ _ _ => ctx.vault
  | deposit ctx _ => ctx.vault
  | spend ctx _ => ctx.vault
  | freezeVault ctx => ctx.vault
  | unfreezeVault ctx => ctx.vault
  | updatePolicy ctx _ _ _ _ _ => ctx.vault
  | withdraw ctx _ => ctx.vault
  | claim ctx _ => ctx.vault
  | requestSpend ctx _ => ctx.vault
  | approveSpend ctx => ctx.vault
  | cancelSpend ctx => ctx.vault

/-- What can happen on the chain: an instruction of the program, a token instruction sent
by anybody, or the clock moving on. -/
inductive Action (K : Type) [AddressSpace K] where
  | program (ix : Instruction K)
  | token (ix : TokenInstruction K)
  | advance (slots : Nat)

/-- The key that signs an action. -/
def Action.signer : Action K → Option K
  | .program ix => some ix.signer
  | .token ix => some ix.signer
  | .advance _ => none

/-- A failed instruction is rolled back by the runtime and is not a step. -/
def step (w : World K) : Action K → Except ProgramError (World K)
  | .program ix => Prod.fst <$> ix.handler w
  | .token ix => w.setTokens <$> (w.tokens.process ix).mapError .token
  | .advance slots => .ok { w with slot := w.slot + slots }

/-- Before the program has run it owns no account. -/
structure Genesis (w : World K) : Prop where
  vaults : ∀ k, w.vaults k = none
  policies : ∀ k, w.policies k = none
  pendings : ∀ k, w.pendings k = none

abbrev Step (K : Type) [AddressSpace K] := Transition.Fired (World K) (Action K)

abbrev Run (w : World K) (log : List (Step K)) (w' : World K) : Prop :=
  Transition.Run step w log w'

/-- The states some run reaches from a world without vaults. -/
def Reachable (w : World K) : Prop := ∃ w₀ log, Genesis w₀ ∧ Run w₀ log w

end AgentFuel.Vault
