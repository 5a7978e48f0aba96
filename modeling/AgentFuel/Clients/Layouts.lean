import AgentFuel.Backend.Events
import AgentFuel.Clients.Accounts
import AgentFuel.Library.Construct
import AgentFuel.Library.Sha256

/-!
# Account layouts written by hand

Three readers know the bytes of an account without the types of the programs: the Python client
declares layouts, the runtime reads a counter at a fixed offset, and the backend compares an owner
at one. The accounts are packed, in the order of their fields.
-/
namespace AgentFuel.Clients

open Backend Checked Construct

/-! ### The accounts on the chain -/

inductive AccountName where
  | creditVault
  | spendPolicy
  | pendingSpend
  | serviceRegistry
  | agentProfile
  deriving DecidableEq

def AccountName.text : AccountName → String
  | creditVault => "account:CreditVault"
  | spendPolicy => "account:SpendPolicy"
  | pendingSpend => "account:PendingSpend"
  | serviceRegistry => "account:ServiceRegistry"
  | agentProfile => "account:AgentProfile"

/-- The discriminator of an account: the first bytes of the hash of its name. -/
def AccountName.discriminator (name : AccountName) : Binary :=
  (Sha256.hash (Sha256.ascii name.text)).take 8

def u64 (n : Nat) : Binary := Format.writeNat 8 n
def u32 (n : Nat) : Binary := Format.writeNat 4 n
def u16 (n : Nat) : Binary := Format.writeNat 2 n
def boolean (b : Bool) : Binary := [if b then 1 else 0]

/-- An account with its padding. The fields are within the widths of their types. -/
structure StoredVault extends Vault.CreditVault Pubkey where
  padding : Vector UInt8 56
  totalDeposited_lt : totalDeposited < 2 ^ 64
  totalWithdrawn_lt : totalWithdrawn < 2 ^ 64
  totalSpent_lt : totalSpent < 2 ^ 64
  totalClaimed_lt : totalClaimed < 2 ^ 64
  createdSlot_lt : createdSlot < 2 ^ 64
  lastActiveSlot_lt : lastActiveSlot < 2 ^ 64
  pendingCount_lt : pendingCount < 2 ^ 64

structure StoredPolicy extends Vault.SpendPolicy Pubkey where
  padding : Vector UInt8 64
  perTxLimitUsdc_lt : perTxLimitUsdc < 2 ^ 64
  hourlyLimitUsdc_lt : hourlyLimitUsdc < 2 ^ 64
  lifetimeLimitUsdc_lt : lifetimeLimitUsdc < 2 ^ 64
  hourlyWindowStartSlot_lt : hourlyWindowStartSlot < 2 ^ 64
  hourlyWindowSpentUsdc_lt : hourlyWindowSpentUsdc < 2 ^ 64

structure StoredPending extends Vault.PendingSpend Pubkey where
  padding : Vector UInt8 31
  amountUsdc_lt : amountUsdc < 2 ^ 64
  requestedSlot_lt : requestedSlot < 2 ^ 64
  nonce_lt : nonce < 2 ^ 64

structure StoredService extends Reputation.ServiceRegistry Pubkey where
  padding : Vector UInt8 64
  totalAgentsServed_lt : totalAgentsServed < 2 ^ 64
  totalVolumeReceivedUsdc_lt : totalVolumeReceivedUsdc < 2 ^ 64
  firstActiveSlot_lt : firstActiveSlot < 2 ^ 64
  lastActiveSlot_lt : lastActiveSlot < 2 ^ 64

structure StoredAgent extends Reputation.AgentProfile Pubkey where
  padding : Vector UInt8 64
  externalAgentId_lt : externalAgentId < 2 ^ 64
  totalTransactions_lt : totalTransactions < 2 ^ 64
  totalVolumeUsdc_lt : totalVolumeUsdc < 2 ^ 64
  consecutiveSuccess_lt : consecutiveSuccess < 2 ^ 32
  totalFeedbackCount_lt : totalFeedbackCount < 2 ^ 32
  activeNegativeFeedbackCount_lt : activeNegativeFeedbackCount < 2 ^ 32
  servicesUsed_lt : servicesUsed < 2 ^ 16
  firstActiveSlot_lt : firstActiveSlot < 2 ^ 64
  lastActiveSlot_lt : lastActiveSlot < 2 ^ 64
  reputationScore_lt : reputationScore < 2 ^ 16

def StoredVault.data (v : StoredVault) : Binary :=
  AccountName.creditVault.discriminator ++ v.owner.toList ++ v.agent.toList ++ v.usdcMint.toList ++
    v.vaultTokenAccount.toList ++ u64 v.totalDeposited ++ u64 v.totalWithdrawn ++ u64 v.totalSpent ++
    u64 v.totalClaimed ++ boolean v.frozen ++ u64 v.createdSlot ++ u64 v.lastActiveSlot ++ [v.bump] ++
    u64 v.pendingCount ++ v.padding.toList

def StoredPolicy.data (v : StoredPolicy) : Binary :=
  AccountName.spendPolicy.discriminator ++ v.vault.toList ++ v.whitelist.toList.flatMap Vector.toList ++
    u64 v.perTxLimitUsdc ++ u64 v.hourlyLimitUsdc ++ u64 v.lifetimeLimitUsdc ++
    u64 v.hourlyWindowStartSlot ++ u64 v.hourlyWindowSpentUsdc ++ boolean v.allowPostPay ++ [v.bump] ++
    v.padding.toList

def StoredPending.data (v : StoredPending) : Binary :=
  AccountName.pendingSpend.discriminator ++ v.vault.toList ++ v.agent.toList ++ v.service.toList ++
    u64 v.amountUsdc ++ u64 v.requestedSlot ++ u64 v.nonce ++ [v.bump] ++ v.padding.toList

def StoredService.data (v : StoredService) : Binary :=
  AccountName.serviceRegistry.discriminator ++ v.authority.toList ++ v.name.toList ++ v.serviceUri.toList ++
    [UInt8.ofNat (categoryTag v.category)] ++ u64 v.totalAgentsServed ++
    u64 v.totalVolumeReceivedUsdc ++ boolean v.active ++ u64 v.firstActiveSlot ++ u64 v.lastActiveSlot ++
    [v.bump] ++ v.padding.toList

def StoredAgent.data (v : StoredAgent) : Binary :=
  AccountName.agentProfile.discriminator ++ v.authority.toList ++ v.owner.toList ++ v.agentUri.toList ++
    u64 v.externalAgentId ++ u64 v.totalTransactions ++ u64 v.totalVolumeUsdc ++
    u32 v.consecutiveSuccess ++ u32 v.totalFeedbackCount ++ u32 v.activeNegativeFeedbackCount ++
    u16 v.servicesUsed ++ u64 v.firstActiveSlot ++ u64 v.lastActiveSlot ++ u16 v.reputationScore ++
    [v.bump] ++ v.padding.toList

/-! ### The layouts of the Python client -/

namespace Python

/-- `DISCRIMINATORS` -/
def discriminators : AccountName → Binary
  | .creditVault => [143, 180, 135, 248, 84, 85, 183, 70]
  | .spendPolicy => [139, 90, 209, 31, 205, 15, 68, 243]
  | .pendingSpend => [193, 205, 85, 66, 25, 3, 67, 134]
  | .serviceRegistry => [105, 133, 96, 79, 207, 176, 202, 67]
  | .agentProfile => [60, 227, 42, 24, 0, 87, 86, 205]

/-- `_pubkey()` -/
def pubkey : Layout Pubkey := bytes 32

/-- `_CREDIT_VAULT_LAYOUT` -/
def creditVaultLayout : Layout (Vault.CreditVault Pubkey) := do
  const (discriminators .creditVault)
  let owner ← pubkey
  let agent ← pubkey
  let usdcMint ← pubkey
  let vaultTokenAccount ← pubkey
  let totalDeposited ← int 8
  let totalWithdrawn ← int 8
  let totalSpent ← int 8
  let totalClaimed ← int 8
  let frozen ← flag
  let createdSlot ← int 8
  let lastActiveSlot ← int 8
  let bump ← int8ub
  let pendingCount ← int 8
  let _ ← bytes 56
  pure
    { owner, agent, usdcMint, vaultTokenAccount, totalDeposited, totalWithdrawn, totalSpent
      totalClaimed, frozen, createdSlot, lastActiveSlot, bump, pendingCount }

/-- `_SPEND_POLICY_LAYOUT` -/
def spendPolicyLayout : Layout (Vault.SpendPolicy Pubkey) := do
  const (discriminators .spendPolicy)
  let vault ← pubkey
  let whitelist ← array 8 (Format.array 32 .byte)
  let perTxLimitUsdc ← int 8
  let hourlyLimitUsdc ← int 8
  let lifetimeLimitUsdc ← int 8
  let hourlyWindowStartSlot ← int 8
  let hourlyWindowSpentUsdc ← int 8
  let allowPostPay ← flag
  let bump ← int8ub
  let _ ← bytes 64
  pure
    { vault, whitelist, perTxLimitUsdc, hourlyLimitUsdc, lifetimeLimitUsdc, hourlyWindowStartSlot
      hourlyWindowSpentUsdc, allowPostPay, bump }

/-- `_PENDING_SPEND_LAYOUT` -/
def pendingSpendLayout : Layout (Vault.PendingSpend Pubkey) := do
  const (discriminators .pendingSpend)
  let vault ← pubkey
  let agent ← pubkey
  let service ← pubkey
  let amountUsdc ← int 8
  let requestedSlot ← int 8
  let nonce ← int 8
  let bump ← int8ub
  let _ ← bytes 31
  pure { vault, agent, service, amountUsdc, requestedSlot, nonce, bump }

/-- `_category_from_index` -/
def categoryFromIndex (i : Nat) : Reputation.ServiceCategory :=
  match i with
  | 0 => .dataFeed
  | 1 => .compute
  | 2 => .swap
  | 3 => .rpc
  | _ => .other

/-- `_SERVICE_REGISTRY_LAYOUT` behind the discriminator. The category is an index here. -/
def serviceRegistryFields : Layout (Reputation.ServiceRegistry Pubkey) := do
  let authority ← pubkey
  let name ← bytes 32
  let serviceUri ← bytes 128
  let category ← int8ub
  let totalAgentsServed ← int 8
  let totalVolumeReceivedUsdc ← int 8
  let active ← flag
  let firstActiveSlot ← int 8
  let lastActiveSlot ← int 8
  let bump ← int8ub
  let _ ← bytes 64
  pure
    { authority, name, serviceUri, category := categoryFromIndex category.toNat, totalAgentsServed
      totalVolumeReceivedUsdc, active, firstActiveSlot, lastActiveSlot, bump }

/-- `_SERVICE_REGISTRY_LAYOUT` -/
def serviceRegistryLayout : Layout (Reputation.ServiceRegistry Pubkey) := do
  const (discriminators .serviceRegistry)
  serviceRegistryFields

/-- `_AGENT_PROFILE_LAYOUT` -/
def agentProfileLayout : Layout (Reputation.AgentProfile Pubkey) := do
  const (discriminators .agentProfile)
  let authority ← pubkey
  let owner ← pubkey
  let agentUri ← bytes 128
  let externalAgentId ← int 8
  let totalTransactions ← int 8
  let totalVolumeUsdc ← int 8
  let consecutiveSuccess ← int 4
  let totalFeedbackCount ← int 4
  let activeNegativeFeedbackCount ← int 4
  let servicesUsed ← int 2
  let firstActiveSlot ← int 8
  let lastActiveSlot ← int 8
  let reputationScore ← int 2
  let bump ← int8ub
  let _ ← bytes 64
  pure
    { authority, owner, agentUri, externalAgentId, totalTransactions, totalVolumeUsdc
      consecutiveSuccess, totalFeedbackCount, activeNegativeFeedbackCount, servicesUsed
      firstActiveSlot, lastActiveSlot, reputationScore, bump }

structure ServiceRegistryAccount where
  pubkey : Pubkey
  authority : Pubkey
  name : String
  category : Reputation.ServiceCategory
  totalAgentsServed : Int
  totalVolumeReceivedUsdc : Int
  active : Bool
  firstActiveSlot : Int
  lastActiveSlot : Int

structure AgentProfileAccount where
  pubkey : Pubkey
  authority : Pubkey
  owner : Pubkey
  agentUri : String
  externalAgentId : Int
  totalTransactions : Int
  totalVolumeUsdc : Int
  consecutiveSuccess : Int
  totalFeedbackCount : Int
  activeNegativeFeedbackCount : Int
  servicesUsed : Int
  firstActiveSlot : Int
  lastActiveSlot : Int
  reputationScore : Int

section Decoders

variable (pubkey : Pubkey) (data : Binary)

/-- `decode_credit_vault` -/
def readCreditVault : Option (CreditVaultAccount Pubkey) :=
  (creditVaultLayout.parse data).map (decodeCreditVault pubkey)

/-- `_DEFAULT_PUBKEY` -/
def defaultPubkey : Pubkey := Vector.replicate 32 0

/-- `decode_spend_policy` -/
def readSpendPolicy : Option (SpendPolicyAccount Pubkey) := do
  let r ← spendPolicyLayout.parse data
  let whitelist := r.whitelist.toList.filter fun b => decide (b ≠ defaultPubkey)
  pure
    { pubkey
      vault := r.vault
      whitelist
      perTxLimitUsdc := r.perTxLimitUsdc
      hourlyLimitUsdc := r.hourlyLimitUsdc
      lifetimeLimitUsdc := r.lifetimeLimitUsdc
      hourlyWindowStartSlot := r.hourlyWindowStartSlot
      hourlyWindowSpentUsdc := r.hourlyWindowSpentUsdc
      allowPostPay := r.allowPostPay }

/-- `decode_pending_spend` -/
def readPendingSpend : Option (PendingSpendAccount Pubkey) :=
  (pendingSpendLayout.parse data).map (decodePendingSpend pubkey)

-- `bytes.decode("utf-8", errors="replace")`, which takes all bytes.
variable (decode : Binary → String)

/-- `_utf8_trim` -/
def utf8Trim (b : Binary) : String := decode (b.takeWhile fun byte => decide (byte ≠ 0))

/-- `decode_service_registry` -/
def readServiceRegistry : Option ServiceRegistryAccount := do
  let r ← serviceRegistryLayout.parse data
  pure
    { pubkey
      authority := r.authority
      name := utf8Trim decode r.name.toList
      category := r.category
      totalAgentsServed := r.totalAgentsServed
      totalVolumeReceivedUsdc := r.totalVolumeReceivedUsdc
      active := r.active
      firstActiveSlot := r.firstActiveSlot
      lastActiveSlot := r.lastActiveSlot }

/-- `decode_agent_profile` -/
def readAgentProfile : Option AgentProfileAccount := do
  let r ← agentProfileLayout.parse data
  pure
    { pubkey
      authority := r.authority
      owner := r.owner
      agentUri := utf8Trim decode r.agentUri.toList
      externalAgentId := r.externalAgentId
      totalTransactions := r.totalTransactions
      totalVolumeUsdc := r.totalVolumeUsdc
      consecutiveSuccess := r.consecutiveSuccess
      totalFeedbackCount := r.totalFeedbackCount
      activeNegativeFeedbackCount := r.activeNegativeFeedbackCount
      servicesUsed := r.servicesUsed
      firstActiveSlot := r.firstActiveSlot
      lastActiveSlot := r.lastActiveSlot
      reputationScore := r.reputationScore }

end Decoders

end Python

/-! ### The fixed offsets of the runtime and the backend -/

inductive FetchError where
  | notFound
  | tooSmall (bytes : Nat)
  deriving DecidableEq, Repr

/-- `PENDING_COUNT_OFFSET` -/
def pendingCountOffset : Nat := 186

/-- `u64::from_le_bytes` -/
def fromLeBytes (buf : Binary) : Nat := ((Format.nat 8).readAll buf).getD 0

/-- `fetch_pending_count`, on the data of the account that was found. -/
def fetchPendingCount (account : Option Binary) : Except FetchError Nat := do
  let data ← okOr account .notFound
  require (pendingCountOffset + 8 ≤ data.length) (.tooSmall data.length)
  pure (fromLeBytes ((data.drop pendingCountOffset).take 8))

/-- `AGENT_OWNER_OFFSET` -/
def agentOwnerOffset : Nat := 40

/-- `VAULT_OWNER_OFFSET` -/
def vaultOwnerOffset : Nat := 8

/-- `owner_matches_at` -/
def ownerMatchesAt (accountData : Binary) (expectedOwner : Pubkey) (offset : Nat) : Bool :=
  -- `saturating_add`
  let stop := min (offset + 32) (2 ^ 64 - 1)
  if accountData.length < stop then false
  else decide ((accountData.drop offset).take (stop - offset) = expectedOwner.toList)

/-! ### What the layouts read -/

theorem reads_u64 {n : Nat} (fits : n < 2 ^ 64) : Reads (int 8) n (u64 n) :=
  reads_int (by norm_num at fits ⊢; exact fits)

theorem reads_u32 {n : Nat} (fits : n < 2 ^ 32) : Reads (int 4) n (u32 n) :=
  reads_int (by norm_num at fits ⊢; exact fits)

theorem reads_u16 {n : Nat} (fits : n < 2 ^ 16) : Reads (int 2) n (u16 n) :=
  reads_int (by norm_num at fits ⊢; exact fits)

theorem reads_pubkeys {n : Nat} (keys : Vector Pubkey n) :
    Reads (array n (Format.array 32 .byte)) keys (keys.toList.flatMap Vector.toList) := by
  have slots : keys.toList.flatMap (Format.array 32 .byte).write = keys.toList.flatMap Vector.toList :=
    congrArg keys.toList.flatMap (funext fun key => List.flatMap_singleton' key.toList)
  rw [← slots]
  exact reads_array fun _ _ _ _ => trivial

/-- All discriminators but one are those of the programs. -/
theorem discriminators_eq {name : AccountName} (other : name ≠ .serviceRegistry) :
    Python.discriminators name = name.discriminator := by
  cases name with
  | serviceRegistry => exact absurd rfl other
  | _ => decide +kernel

theorem creditVault_reads (v : StoredVault) :
    Reads Python.creditVaultLayout v.toCreditVault v.data := by
  have reads : Reads Python.creditVaultLayout v.toCreditVault _ :=
    .bind (reads_const _) (.bind (reads_bytes v.owner) (.bind (reads_bytes v.agent)
      (.bind (reads_bytes v.usdcMint) (.bind (reads_bytes v.vaultTokenAccount)
      (.bind (reads_u64 v.totalDeposited_lt) (.bind (reads_u64 v.totalWithdrawn_lt)
      (.bind (reads_u64 v.totalSpent_lt) (.bind (reads_u64 v.totalClaimed_lt)
      (.bind (reads_flag v.frozen) (.bind (reads_u64 v.createdSlot_lt)
      (.bind (reads_u64 v.lastActiveSlot_lt) (.bind (reads_byte v.bump)
      (.bind (reads_u64 v.pendingCount_lt) (.bind (reads_bytes v.padding) (.pure _)))))))))))))))
  rw [discriminators_eq (by decide)] at reads
  simpa only [StoredVault.data, boolean, List.append_assoc, List.append_nil] using reads

theorem spendPolicy_reads (v : StoredPolicy) :
    Reads Python.spendPolicyLayout v.toSpendPolicy v.data := by
  have reads : Reads Python.spendPolicyLayout v.toSpendPolicy _ :=
    .bind (reads_const _) (.bind (reads_bytes v.vault)
      (.bind (reads_pubkeys v.whitelist) (.bind (reads_u64 v.perTxLimitUsdc_lt)
      (.bind (reads_u64 v.hourlyLimitUsdc_lt) (.bind (reads_u64 v.lifetimeLimitUsdc_lt)
      (.bind (reads_u64 v.hourlyWindowStartSlot_lt) (.bind (reads_u64 v.hourlyWindowSpentUsdc_lt)
      (.bind (reads_flag v.allowPostPay) (.bind (reads_byte v.bump)
      (.bind (reads_bytes v.padding) (.pure _)))))))))))
  rw [discriminators_eq (by decide)] at reads
  simpa only [StoredPolicy.data, boolean, List.append_assoc, List.append_nil] using reads

theorem pendingSpend_reads (v : StoredPending) :
    Reads Python.pendingSpendLayout v.toPendingSpend v.data := by
  have reads : Reads Python.pendingSpendLayout v.toPendingSpend _ :=
    .bind (reads_const _) (.bind (reads_bytes v.vault) (.bind (reads_bytes v.agent)
      (.bind (reads_bytes v.service) (.bind (reads_u64 v.amountUsdc_lt)
      (.bind (reads_u64 v.requestedSlot_lt) (.bind (reads_u64 v.nonce_lt) (.bind (reads_byte v.bump)
      (.bind (reads_bytes v.padding) (.pure _)))))))))
  rw [discriminators_eq (by decide)] at reads
  simpa only [StoredPending.data, List.append_assoc, List.append_nil] using reads

theorem agentProfile_reads (v : StoredAgent) :
    Reads Python.agentProfileLayout v.toAgentProfile v.data := by
  have reads : Reads Python.agentProfileLayout v.toAgentProfile _ :=
    .bind (reads_const _) (.bind (reads_bytes v.authority) (.bind (reads_bytes v.owner)
      (.bind (reads_bytes v.agentUri) (.bind (reads_u64 v.externalAgentId_lt)
      (.bind (reads_u64 v.totalTransactions_lt) (.bind (reads_u64 v.totalVolumeUsdc_lt)
      (.bind (reads_u32 v.consecutiveSuccess_lt) (.bind (reads_u32 v.totalFeedbackCount_lt)
      (.bind (reads_u32 v.activeNegativeFeedbackCount_lt) (.bind (reads_u16 v.servicesUsed_lt)
      (.bind (reads_u64 v.firstActiveSlot_lt) (.bind (reads_u64 v.lastActiveSlot_lt)
      (.bind (reads_u16 v.reputationScore_lt) (.bind (reads_byte v.bump)
      (.bind (reads_bytes v.padding) (.pure _))))))))))))))))
  rw [discriminators_eq (by decide)] at reads
  simpa only [StoredAgent.data, List.append_assoc, List.append_nil] using reads

/-- What follows the discriminator of a service is read as it is stored. -/
theorem serviceRegistry_reads (v : StoredService) :
    ∃ fields, v.data = AccountName.serviceRegistry.discriminator ++ fields ∧
      Reads Python.serviceRegistryFields v.toServiceRegistry fields := by
  have category : Python.categoryFromIndex (UInt8.ofNat (categoryTag v.category)).toNat = v.category := by
    cases v.category <;> rfl
  have reads : Reads Python.serviceRegistryFields
      { v.toServiceRegistry with
        category := Python.categoryFromIndex (UInt8.ofNat (categoryTag v.category)).toNat } _ :=
    .bind (reads_bytes v.authority) (.bind (reads_bytes v.name) (.bind (reads_bytes v.serviceUri)
      (.bind (reads_byte (UInt8.ofNat (categoryTag v.category)))
      (.bind (reads_u64 v.totalAgentsServed_lt) (.bind (reads_u64 v.totalVolumeReceivedUsdc_lt)
      (.bind (reads_flag v.active) (.bind (reads_u64 v.firstActiveSlot_lt)
      (.bind (reads_u64 v.lastActiveSlot_lt) (.bind (reads_byte v.bump)
      (.bind (reads_bytes v.padding) (.pure _)))))))))))
  rw [category] at reads
  refine ⟨_, ?_, reads⟩
  simp only [StoredService.data, boolean, List.append_assoc, List.append_nil]

/-! ### What the offsets read -/

theorem discriminator_length (name : AccountName) : name.discriminator.length = 8 := by
  rw [AccountName.discriminator, List.length_take, Sha256.hash_length]
  rfl

theorem u64_length (n : Nat) : (u64 n).length = 8 := writeNat_length 8 n

theorem fromLeBytes_u64 {n : Nat} (fits : n < 2 ^ 64) : fromLeBytes (u64 n) = n := by
  have valid : n < 256 ^ 8 := by norm_num at fits ⊢; exact fits
  have whole : (Format.nat 8).readAll (u64 n) = some n :=
    (Format.readAll_eq_some _ _ _).mpr ⟨valid, rfl⟩
  rw [fromLeBytes, whole, Option.getD_some]

theorem pendingCount_offset (v : StoredVault) : fetchPendingCount (some v.data) = .ok v.pendingCount := by
  -- What stands before the counter, and its length.
  let front := AccountName.creditVault.discriminator ++ v.owner.toList ++ v.agent.toList ++
    v.usdcMint.toList ++ v.vaultTokenAccount.toList ++ u64 v.totalDeposited ++ u64 v.totalWithdrawn ++
    u64 v.totalSpent ++ u64 v.totalClaimed ++ boolean v.frozen ++ u64 v.createdSlot ++
    u64 v.lastActiveSlot ++ [v.bump]
  have length : front.length = pendingCountOffset := by
    simp [front, discriminator_length, u64_length, boolean, pendingCountOffset]
  have slice : (v.data.drop pendingCountOffset).take 8 = u64 v.pendingCount := by
    rw [← length, ← u64_length v.pendingCount]
    exact slice_append front (u64 v.pendingCount) v.padding.toList
  have enough : pendingCountOffset + 8 ≤ v.data.length := by
    have whole : v.data = front ++ u64 v.pendingCount ++ v.padding.toList := rfl
    rw [whole, List.length_append, List.length_append, length, u64_length]
    omega
  simp [fetchPendingCount, okOr, require, enough, slice, fromLeBytes_u64 v.pendingCount_lt, bind,
    Except.bind, pure, Except.pure]

theorem ownerMatchesAt_iff {front back : Binary} {owner expected : Pubkey} {offset : Nat}
    (length : front.length = offset) (near : offset ≤ 40) :
    ownerMatchesAt (front ++ owner.toList ++ back) expected offset = true ↔ expected = owner := by
  have stop : min (offset + 32) (2 ^ 64 - 1) = offset + 32 := by omega
  have slice : ((front ++ owner.toList ++ back).drop offset).take 32 = owner.toList := by
    have whole := slice_append front owner.toList back
    rwa [length, Vector.length_toList] at whole
  have enough : ¬(front ++ owner.toList ++ back).length < offset + 32 := by
    rw [List.length_append, List.length_append, length, Vector.length_toList]
    omega
  unfold ownerMatchesAt
  dsimp only
  rw [stop, if_neg enough, Nat.add_sub_cancel_left, slice, decide_eq_true_iff, Vector.toList_inj]
  exact eq_comm

/-! ### The readers agree with the chain -/

inductive StoredAccount where
  | vault (v : StoredVault)
  | policy (v : StoredPolicy)
  | pending (v : StoredPending)
  | service (v : StoredService)
  | agent (v : StoredAgent)

def StoredAccount.name : StoredAccount → AccountName
  | vault _ => .creditVault
  | policy _ => .spendPolicy
  | pending _ => .pendingSpend
  | service _ => .serviceRegistry
  | agent _ => .agentProfile

/-- Every reader of the account recovers what is stored, for any way to decode texts. -/
def StoredAccount.Agrees (account : StoredAccount) : Prop :=
  ∀ (pubkey : Pubkey) (decode : Binary → String),
    match account with
    | vault v =>
      Python.readCreditVault pubkey v.data =
        some
          { pubkey
            owner := v.owner
            agent := v.agent
            usdcMint := v.usdcMint
            vaultTokenAccount := v.vaultTokenAccount
            totalDeposited := v.totalDeposited
            totalWithdrawn := v.totalWithdrawn
            totalSpent := v.totalSpent
            totalClaimed := v.totalClaimed
            balance := v.totalDeposited - v.totalWithdrawn - v.totalSpent + v.totalClaimed
            frozen := v.frozen
            createdSlot := v.createdSlot
            lastActiveSlot := v.lastActiveSlot
            pendingCount := v.pendingCount } ∧
      fetchPendingCount (some v.data) = .ok v.pendingCount ∧
      ∀ expected, ownerMatchesAt v.data expected vaultOwnerOffset = true ↔ expected = v.owner
    | policy v =>
      Python.readSpendPolicy pubkey v.data =
        some
          { pubkey
            vault := v.vault
            whitelist := v.whitelist.toList.filter fun b => decide (b ≠ Python.defaultPubkey)
            perTxLimitUsdc := v.perTxLimitUsdc
            hourlyLimitUsdc := v.hourlyLimitUsdc
            lifetimeLimitUsdc := v.lifetimeLimitUsdc
            hourlyWindowStartSlot := v.hourlyWindowStartSlot
            hourlyWindowSpentUsdc := v.hourlyWindowSpentUsdc
            allowPostPay := v.allowPostPay }
    | pending v =>
      Python.readPendingSpend pubkey v.data =
        some
          { pubkey
            vault := v.vault
            agent := v.agent
            service := v.service
            amountUsdc := v.amountUsdc
            nonce := v.nonce
            requestedSlot := v.requestedSlot }
    | service v =>
      Python.readServiceRegistry pubkey v.data decode =
        some
          { pubkey
            authority := v.authority
            name := Python.utf8Trim decode v.name.toList
            category := v.category
            totalAgentsServed := v.totalAgentsServed
            totalVolumeReceivedUsdc := v.totalVolumeReceivedUsdc
            active := v.active
            firstActiveSlot := v.firstActiveSlot
            lastActiveSlot := v.lastActiveSlot }
    | agent v =>
      Python.readAgentProfile pubkey v.data decode =
        some
          { pubkey
            authority := v.authority
            owner := v.owner
            agentUri := Python.utf8Trim decode v.agentUri.toList
            externalAgentId := v.externalAgentId
            totalTransactions := v.totalTransactions
            totalVolumeUsdc := v.totalVolumeUsdc
            consecutiveSuccess := v.consecutiveSuccess
            totalFeedbackCount := v.totalFeedbackCount
            activeNegativeFeedbackCount := v.activeNegativeFeedbackCount
            servicesUsed := v.servicesUsed
            firstActiveSlot := v.firstActiveSlot
            lastActiveSlot := v.lastActiveSlot
            reputationScore := v.reputationScore } ∧
      ∀ expected, ownerMatchesAt v.data expected agentOwnerOffset = true ↔ expected = v.owner

/-- The layout of a service asks for a discriminator that no service has. -/
theorem serviceRegistry_refused (v : StoredService) : Python.serviceRegistryLayout.parse v.data = none := by
  obtain ⟨fields, data, -⟩ := serviceRegistry_reads v
  have differ : AccountName.serviceRegistry.discriminator ≠ Python.discriminators .serviceRegistry := by
    decide +kernel
  have refused : (const (Python.discriminators .serviceRegistry)).run
      (AccountName.serviceRegistry.discriminator ++ fields) = none :=
    const_ne (discriminator_length _) differ
  unfold Layout.parse Python.serviceRegistryLayout
  rw [data, StateT.run_bind, refused]
  rfl

theorem service_disagrees (v : StoredService) : ¬(StoredAccount.service v).Agrees := by
  intro agrees
  have read := agrees Python.defaultPubkey fun _ => ""
  dsimp only at read
  rw [Python.readServiceRegistry, serviceRegistry_refused] at read
  cases read

/-- The readers agree with the chain on every account that is not a service, and on no service. -/
theorem readers_agree_iff (account : StoredAccount) : account.Agrees ↔ account.name ≠ .serviceRegistry := by
  constructor
  · intro agrees
    cases account with
    | service v => exact absurd agrees (service_disagrees v)
    | _ => simp [StoredAccount.name]
  · intro other pubkey decode
    cases account with
    | vault v =>
      refine ⟨?_, pendingCount_offset v, fun expected => ?_⟩
      · rw [Python.readCreditVault, (creditVault_reads v).whole]
        rfl
      · -- The owner stands right behind the discriminator.
        obtain ⟨back, data⟩ : AccountName.creditVault.discriminator ++ v.owner.toList <+: v.data := by
          unfold StoredVault.data
          iterate 13 apply List.prefix_append_of_prefix
          exact List.prefix_rfl
        rw [← data]
        exact ownerMatchesAt_iff (discriminator_length _) (by decide)
    | policy v =>
      dsimp only
      rw [Python.readSpendPolicy, (spendPolicy_reads v).whole]
      rfl
    | pending v =>
      dsimp only
      rw [Python.readPendingSpend, (pendingSpend_reads v).whole]
      rfl
    | service v => exact absurd rfl other
    | agent v =>
      refine ⟨?_, fun expected => ?_⟩
      · rw [Python.readAgentProfile, (agentProfile_reads v).whole]
        rfl
      · -- The owner stands behind the authority.
        obtain ⟨back, data⟩ : AccountName.agentProfile.discriminator ++ v.authority.toList ++
            v.owner.toList <+: v.data := by
          unfold StoredAgent.data
          iterate 13 apply List.prefix_append_of_prefix
          exact List.prefix_rfl
        rw [← data]
        refine ownerMatchesAt_iff ?_ (le_refl _)
        rw [List.length_append, discriminator_length, Vector.length_toList]
        rfl

/-- A service as `register_service` creates it. -/
def newService : StoredService where
  authority := Vector.replicate 32 1
  name := Vector.replicate 32 0
  serviceUri := Vector.replicate 128 0
  category := .compute
  active := true
  firstActiveSlot := 5
  lastActiveSlot := 5
  bump := 255
  padding := Vector.replicate 64 0
  totalAgentsServed_lt := by decide
  totalVolumeReceivedUsdc_lt := by decide
  firstActiveSlot_lt := by decide
  lastActiveSlot_lt := by decide

theorem newService_unread : ¬∀ account : StoredAccount, account.Agrees :=
  fun agree => service_disagrees newService (agree (.service newService))

end AgentFuel.Clients
