import AgentFuel.Clients.Batch
import AgentFuel.Clients.ServiceNames
import AgentFuel.Clients.Wire

/-!
# The instructions the clients build

The runtime, the Python client and the mobile client put instructions together by hand, byte by
byte and account by account. The programs take each of them for the one that was meant.
-/
namespace AgentFuel.Clients

open Backend Checked Reputation Solana

variable {K : Type} [AddressSpace K]

/-! ### The runtime -/

namespace Runtime

variable (cluster : Cluster K)

def spendIx (agent vault policy vaultAta serviceAta : K) (amountMicro : ℕ) : RawInstruction K where
  programId := cluster.programId .creditVault
  accounts :=
    [⟨agent, true, false⟩, ⟨vault, false, true⟩, ⟨policy, false, true⟩, ⟨vaultAta, false, true⟩,
      ⟨serviceAta, false, true⟩, ⟨cluster.programId .token, false, false⟩]
  data := discriminator "spend" ++ u64 amountMicro

def requestSpendIx (agent vault serviceAta pendingSpend : K) (amountMicro : ℕ) :
    RawInstruction K where
  programId := cluster.programId .creditVault
  accounts :=
    -- The agent pays for the new account.
    [⟨agent, true, true⟩, ⟨vault, false, true⟩, ⟨serviceAta, false, false⟩,
      ⟨pendingSpend, false, true⟩, ⟨cluster.programId .system, false, false⟩]
  data := discriminator "request_spend" ++ u64 amountMicro

def recordPaymentIx (service agentProfile serviceRegistry agentServiceLink receiptUsed : K)
    (amountUsdc : ℕ) (receiptHash : Hash) : RawInstruction K where
  programId := cluster.programId .reputation
  accounts :=
    [⟨service, true, true⟩, ⟨agentProfile, false, true⟩, ⟨serviceRegistry, false, true⟩,
      ⟨agentServiceLink, false, true⟩, ⟨receiptUsed, false, true⟩,
      ⟨cluster.programId .system, false, false⟩]
  data := discriminator "record_payment" ++ u64 amountUsdc ++ receiptHash.toList

/-- The caller is listed as read-only. -/
def computeScoreIx (caller agentProfile : K) : RawInstruction K where
  programId := cluster.programId .reputation
  accounts := [⟨caller, true, false⟩, ⟨agentProfile, false, true⟩]
  data := discriminator "compute_score"

def registerServiceIx (sponsor service registry : K) (name : Bytes 32) (category : UInt8)
    (uri : Bytes 128) : RawInstruction K where
  programId := cluster.programId .reputation
  accounts :=
    [⟨sponsor, true, true⟩, ⟨service, true, false⟩, ⟨registry, false, true⟩,
      ⟨cluster.programId .system, false, false⟩]
  data := discriminator "register_service" ++ name.toList ++ [category] ++ uri.toList

end Runtime

/-! ### The Python client -/

namespace Python

variable (cluster : Cluster K)

/-- `_u64_le`; `to_bytes` raises for a number that is negative or too large. -/
def u64Le (value : ℤ) : Option Binary :=
  if 0 ≤ value ∧ value < 2 ^ 64 then some (u64 value.toNat) else none

def spendIx (agent vault policy vaultTokenAccount serviceTokenAccount : K) (amountUsdc : ℤ) :
    Option (RawInstruction K) := do
  let amount ← u64Le amountUsdc
  some
    { programId := cluster.programId .creditVault
      accounts :=
        [⟨agent, true, false⟩, ⟨vault, false, true⟩, ⟨policy, false, true⟩,
          ⟨vaultTokenAccount, false, true⟩, ⟨serviceTokenAccount, false, true⟩,
          ⟨cluster.programId .token, false, false⟩]
      data := anchorDiscriminator "spend" ++ amount }

/-- A hash of another length is refused. -/
def recordPaymentIx (service agentProfile serviceRegistry agentServiceLink receiptUsed : K)
    (amountUsdc : ℤ) (receiptHash : Binary) : Option (RawInstruction K) := do
  if receiptHash.length ≠ 32 then none
  else
    let amount ← u64Le amountUsdc
    some
      { programId := cluster.programId .reputation
        accounts :=
          [⟨service, true, true⟩, ⟨agentProfile, false, true⟩, ⟨serviceRegistry, false, true⟩,
            ⟨agentServiceLink, false, true⟩, ⟨receiptUsed, false, true⟩,
            ⟨cluster.programId .system, false, false⟩]
        data := anchorDiscriminator "record_payment" ++ amount ++ receiptHash }

def computeScoreIx (caller agentProfile : K) : RawInstruction K where
  programId := cluster.programId .reputation
  accounts := [⟨caller, true, false⟩, ⟨agentProfile, false, true⟩]
  data := anchorDiscriminator "compute_score"

def requestSpendIx (agent vault serviceTokenAccount pendingSpend : K) (amountUsdc : ℤ) :
    Option (RawInstruction K) := do
  let amount ← u64Le amountUsdc
  some
    { programId := cluster.programId .creditVault
      accounts :=
        [⟨agent, true, true⟩, ⟨vault, false, true⟩, ⟨serviceTokenAccount, false, false⟩,
          ⟨pendingSpend, false, true⟩, ⟨cluster.programId .system, false, false⟩]
      data := anchorDiscriminator "request_spend" ++ amount }

/-- `register_service_ix` with the data as they are put together from the texts. -/
def registerServiceInstruction (sponsor service serviceRegistry : K) (name : PyString)
    (category : Reputation.ServiceCategory) (serviceUri : PyString) :
    Except ValueError (RawInstruction K) := do
  let data ← registerServiceIx name category serviceUri
  pure
    { programId := cluster.programId .reputation
      accounts :=
        [⟨sponsor, true, true⟩, ⟨service, true, false⟩, ⟨serviceRegistry, false, true⟩,
          ⟨cluster.programId .system, false, false⟩]
      data }

/-- `create_associated_token_account_idempotent_instruction` -/
def createAssociatedTokenAccountIdempotentInstruction (payer associatedToken owner mint : K) :
    RawInstruction K where
  programId := cluster.programId .associatedToken
  accounts :=
    [⟨payer, true, true⟩, ⟨associatedToken, false, true⟩, ⟨owner, false, false⟩,
      ⟨mint, false, false⟩, ⟨cluster.programId .system, false, false⟩,
      ⟨cluster.programId .token, false, false⟩]
  data := [1]

end Python

/-! ### The mobile client -/

namespace Mobile

/-- `OnchainAccounts`, as `deriveOnchainAccounts` fills it in. -/
structure OnchainAccounts (K : Type) where
  owner : K
  agent : K
  usdcMint : K
  agentProfile : K
  vault : K
  policy : K
  vaultAta : K
  ownerAta : K

def deriveOnchainAccounts (owner agent usdcMint : K) : OnchainAccounts K :=
  let vault := findProgramAddress (.vault owner agent)
  { owner, agent, usdcMint
    agentProfile := findProgramAddress (.agent agent)
    vault
    policy := findProgramAddress (.policy vault)
    vaultAta := associatedTokenAddress vault usdcMint
    ownerAta := associatedTokenAddress owner usdcMint }

/-- `_u64Le`: an integer of 64 bits in two's complement. -/
def u64Le (value : ℤ) : Binary := u64 (value % 2 ^ 64).toNat

def initializeAgentDiscriminator : Binary := [212, 81, 156, 211, 212, 110, 21, 28]
def createVaultDiscriminator : Binary := [29, 237, 247, 208, 193, 82, 54, 135]
def depositDiscriminator : Binary := [242, 35, 198, 137, 82, 225, 242, 182]
def withdrawDiscriminator : Binary := [183, 18, 70, 156, 148, 109, 161, 34]
def freezeVaultDiscriminator : Binary := [144, 211, 63, 236, 97, 31, 170, 175]
def unfreezeVaultDiscriminator : Binary := [145, 244, 206, 234, 251, 250, 116, 183]
def approveSpendDiscriminator : Binary := [248, 201, 151, 15, 28, 162, 112, 90]
def cancelSpendDiscriminator : Binary := [122, 254, 101, 132, 241, 232, 205, 179]
def updatePolicyDiscriminator : Binary := [212, 245, 246, 7, 163, 151, 18, 57]
def registerServiceDiscriminator : Binary := [11, 133, 158, 232, 193, 19, 229, 73]

/-- The constants are the first bytes of the hashes of the names. -/
theorem discriminators :
    initializeAgentDiscriminator = discriminator "initialize_agent" ∧
      createVaultDiscriminator = discriminator "create_vault" ∧
      depositDiscriminator = discriminator "deposit" ∧
      withdrawDiscriminator = discriminator "withdraw" ∧
      freezeVaultDiscriminator = discriminator "freeze_vault" ∧
      unfreezeVaultDiscriminator = discriminator "unfreeze_vault" ∧
      approveSpendDiscriminator = discriminator "approve_spend" ∧
      cancelSpendDiscriminator = discriminator "cancel_spend" ∧
      updatePolicyDiscriminator = discriminator "update_policy" ∧
      registerServiceDiscriminator = discriminator "register_service" := by
  decide +kernel

variable (cluster : Cluster K) (accounts : OnchainAccounts K)

def initializeAgentIx (agentUri128 : Bytes 128) (externalAgentId : ℤ) : RawInstruction K where
  programId := cluster.programId .reputation
  accounts :=
    [⟨accounts.owner, true, true⟩, ⟨accounts.agent, true, false⟩,
      ⟨accounts.agentProfile, false, true⟩, ⟨cluster.programId .system, false, false⟩]
  data := initializeAgentDiscriminator ++ agentUri128.toList ++ u64Le externalAgentId

def createVaultIx (perTxLimitUsdc hourlyLimitUsdc lifetimeLimitUsdc : ℤ) (allowPostPay : Bool) :
    RawInstruction K where
  programId := cluster.programId .creditVault
  accounts :=
    [⟨accounts.owner, true, true⟩, ⟨accounts.agent, false, false⟩,
      ⟨accounts.usdcMint, false, false⟩, ⟨accounts.vault, false, true⟩,
      ⟨accounts.policy, false, true⟩, ⟨accounts.vaultAta, false, true⟩,
      ⟨cluster.programId .token, false, false⟩, ⟨cluster.programId .associatedToken, false, false⟩,
      ⟨cluster.programId .system, false, false⟩]
  data := createVaultDiscriminator ++ u64Le perTxLimitUsdc ++ u64Le hourlyLimitUsdc ++
    u64Le lifetimeLimitUsdc ++ boolean allowPostPay

def depositIx (amountUsdc : ℤ) : RawInstruction K where
  programId := cluster.programId .creditVault
  accounts :=
    [⟨accounts.owner, true, true⟩, ⟨accounts.vault, false, true⟩, ⟨accounts.ownerAta, false, true⟩,
      ⟨accounts.vaultAta, false, true⟩, ⟨cluster.programId .token, false, false⟩]
  data := depositDiscriminator ++ u64Le amountUsdc

def withdrawIx (amountUsdc : ℤ) : RawInstruction K where
  programId := cluster.programId .creditVault
  accounts :=
    [⟨accounts.owner, true, true⟩, ⟨accounts.vault, false, true⟩, ⟨accounts.vaultAta, false, true⟩,
      ⟨accounts.ownerAta, false, true⟩, ⟨cluster.programId .token, false, false⟩]
  data := withdrawDiscriminator ++ u64Le amountUsdc

def freezeVaultIx : RawInstruction K where
  programId := cluster.programId .creditVault
  accounts := [⟨accounts.owner, true, false⟩, ⟨accounts.vault, false, true⟩]
  data := freezeVaultDiscriminator

def unfreezeVaultIx : RawInstruction K where
  programId := cluster.programId .creditVault
  accounts := [⟨accounts.owner, true, false⟩, ⟨accounts.vault, false, true⟩]
  data := unfreezeVaultDiscriminator

/-- Eight entries, those that are not there zero. -/
def padded (whitelist : List K) : Vector K Vault.whitelistLen :=
  Vector.ofFn fun i => whitelist.getD i defaultKey

/-- More than eight entries are refused. -/
def updatePolicyIx (perTxLimitUsdc hourlyLimitUsdc lifetimeLimitUsdc : ℤ) (allowPostPay : Bool)
    (whitelist : List K) : Option (RawInstruction K) :=
  if Vault.whitelistLen < whitelist.length then none
  else some
    { programId := cluster.programId .creditVault
      accounts :=
        [⟨accounts.owner, true, false⟩, ⟨accounts.vault, false, false⟩,
          ⟨accounts.policy, false, true⟩]
      data := updatePolicyDiscriminator ++ u64Le perTxLimitUsdc ++ u64Le hourlyLimitUsdc ++
        u64Le lifetimeLimitUsdc ++ boolean allowPostPay ++
        (padded whitelist).toList.flatMap cluster.pubkey.write }

def approveSpendIx (pendingSpend serviceTokenAccount : K) : RawInstruction K where
  programId := cluster.programId .creditVault
  accounts :=
    [⟨accounts.owner, true, true⟩, ⟨accounts.vault, false, true⟩, ⟨accounts.policy, false, true⟩,
      ⟨pendingSpend, false, true⟩, ⟨accounts.vaultAta, false, true⟩,
      ⟨serviceTokenAccount, false, true⟩, ⟨cluster.programId .token, false, false⟩]
  data := approveSpendDiscriminator

def cancelSpendIx (pendingSpend : K) : RawInstruction K where
  programId := cluster.programId .creditVault
  accounts :=
    [⟨accounts.owner, true, true⟩, ⟨accounts.vault, false, false⟩, ⟨pendingSpend, false, true⟩]
  data := cancelSpendDiscriminator

/-- `packFixed`: what does not fit is cut off. -/
def packFixed (encoded : List UInt8) (length : ℕ) : Bytes length :=
  zeroPadded length (encoded.take length)

def registerServiceIx (sponsor service registry : K) (name32 : Bytes 32) (categoryOnchain : UInt8)
    (uri128 : Bytes 128) : RawInstruction K where
  programId := cluster.programId .reputation
  accounts :=
    [⟨sponsor, true, true⟩, ⟨service, true, false⟩, ⟨registry, false, true⟩,
      ⟨cluster.programId .system, false, false⟩]
  data := registerServiceDiscriminator ++ name32.toList ++ [categoryOnchain] ++ uri128.toList

end Mobile

/-! ### What is meant by an instruction -/

/-- In a message this key pays for, the program takes the instruction for this one. -/
def Means (cluster : Cluster K) (feePayer : K) (raw : RawInstruction K)
    (ix : Backend.Instruction K) : Prop :=
  Fits cluster ix ∧ ∃ official, send cluster ix = some official ∧
    raw.programId = official.programId ∧ raw.data = official.data ∧
      List.Forall₂ (Suffices feePayer) raw.accounts official.accounts

variable {cluster : Cluster K} {feePayer : K} {raw : RawInstruction K} {ix : Backend.Instruction K}

/-- An instruction that is sent as it should be. -/
theorem Means.of_send (fits : Fits cluster ix) (sent : send cluster ix = some raw) :
    Means cluster feePayer raw ix :=
  ⟨fits, raw, sent, rfl, rfl, List.forall₂_same.mpr fun _ _ => ⟨rfl, .inl rfl⟩⟩

theorem Means.received [DecidableEq K] {tx : Transaction K} (means : Means cluster tx.feePayer raw ix)
    (listed : raw ∈ tx.instructions) : receive cluster (tx.deliver raw) raw = some ix := by
  obtain ⟨fits, official, sent, called, data, enough⟩ := means
  have granted := Transaction.deliver_grants listed enough
  have carries : Carries (tx.deliver raw) raw.data official :=
    ⟨data ▸ List.prefix_rfl, _, [], (List.append_nil _).symm, granted⟩
  exact receive_of_carries fits sent called carries

namespace Runtime

theorem spendIx_means (agent : Signer K) (vault policy vaultAta serviceAta : K) {amount : ℕ}
    (fits : amount < 2 ^ 64) :
    Means cluster feePayer (spendIx cluster agent.key vault policy vaultAta serviceAta amount)
      (.vault (.spend ⟨agent, vault, policy, vaultAta, serviceAta⟩ amount)) := by
  refine Means.of_send fits (congrArg some (RawInstruction.ext rfl rfl ?_))
  exact congrArg (discriminator "spend" ++ ·) (List.append_nil (u64 amount))

theorem requestSpendIx_means (agent : Signer K) (vault serviceAta pendingSpend : K) {amount : ℕ}
    (fits : amount < 2 ^ 64) :
    Means cluster feePayer (requestSpendIx cluster agent.key vault serviceAta pendingSpend amount)
      (.vault (.requestSpend ⟨agent, vault, serviceAta, pendingSpend⟩ amount)) := by
  refine Means.of_send fits (congrArg some (RawInstruction.ext rfl rfl ?_))
  exact congrArg (discriminator "request_spend" ++ ·) (List.append_nil (u64 amount))

theorem recordPaymentIx_means (service : Signer K) (profile registry link receipt : K) {amount : ℕ}
    (hash : Hash) (fits : amount < 2 ^ 64) :
    Means cluster feePayer
      (recordPaymentIx cluster service.key profile registry link receipt amount hash)
      (.reputation (.recordPayment ⟨service, profile, registry, link, receipt⟩ amount hash)) := by
  refine Means.of_send fits (congrArg some (RawInstruction.ext rfl rfl ?_))
  change _ ++ (u64 amount ++ ((Format.bytes 32).write hash ++ [])) = _ ++ u64 amount ++ hash.toList
  simp only [List.append_nil, Format.bytes_write, List.append_assoc]
  rfl

/-- The caller is not asked for as writable, but pays. -/
theorem computeScoreIx_means (caller : Signer K) (profile : K) (pays : caller.key = feePayer) :
    Means cluster feePayer (computeScoreIx cluster caller.key profile)
      (.reputation (.computeScore ⟨caller, profile⟩)) := by
  refine ⟨trivial, _, rfl, rfl, (List.append_nil _).symm, ?_⟩
  exact .cons ⟨rfl, .inr pays⟩ (.cons ⟨rfl, .inl rfl⟩ .nil)

theorem registerServiceIx_means (sponsor service : Signer K) (registry : K) (name : Bytes 32)
    (category : ServiceCategory) (uri : Bytes 128) :
    Means cluster feePayer
      (registerServiceIx cluster sponsor.key service.key registry name
        (Python.categoryIndex category) uri)
      (.reputation (.registerService ⟨sponsor, service, registry⟩ name category uri)) := by
  refine Means.of_send trivial (congrArg some (RawInstruction.ext rfl rfl ?_))
  have number : UInt8.ofNat (numberOf category) = Python.categoryIndex category := by
    cases category <;> rfl
  change _ ++ ((Format.bytes 32).write name ++ ([UInt8.ofNat (numberOf category)] ++
    ((Format.bytes 128).write uri ++ []))) = _ ++ name.toList ++ _ ++ uri.toList
  simp only [List.append_nil, Format.bytes_write, number, List.append_assoc]
  rfl

end Runtime

namespace Python

section Specification

omit [AddressSpace K]

theorem u64Le_eq_some {value : ℤ} {bytes : Binary} :
    u64Le value = some bytes ↔ ∃ n : ℕ, n < 2 ^ 64 ∧ value = n ∧ u64 n = bytes := by
  unfold u64Le
  constructor
  · intro packed
    obtain ⟨⟨positive, small⟩, same⟩ := Option.ite_none_right_eq_some.mp packed
    exact ⟨value.toNat, by omega, by omega, Option.some.inj same⟩
  · rintro ⟨n, small, rfl, rfl⟩
    rw [if_pos ⟨by omega, by exact_mod_cast small⟩, Int.toNat_natCast]

/-- The builder mirrors the one of the runtime, where it raises nothing. -/
theorem spendIx_eq_some {agent vault policy vaultTokenAccount serviceTokenAccount : K}
    {amountUsdc : ℤ} : spendIx cluster agent vault policy vaultTokenAccount serviceTokenAccount
        amountUsdc = some raw ↔
      ∃ n : ℕ, n < 2 ^ 64 ∧ amountUsdc = n ∧ Runtime.spendIx cluster agent vault policy
        vaultTokenAccount serviceTokenAccount n = raw := by
  simp only [spendIx, Option.bind_eq_bind, Option.bind_eq_some_iff, u64Le_eq_some, Option.some.injEq]
  constructor
  · rintro ⟨_, ⟨n, small, rfl, rfl⟩, rfl⟩
    exact ⟨n, small, rfl, rfl⟩
  · rintro ⟨n, small, rfl, rfl⟩
    exact ⟨_, ⟨n, small, rfl, rfl⟩, rfl⟩

theorem requestSpendIx_eq_some {agent vault serviceTokenAccount pendingSpend : K} {amountUsdc : ℤ} :
    requestSpendIx cluster agent vault serviceTokenAccount pendingSpend amountUsdc = some raw ↔
      ∃ n : ℕ, n < 2 ^ 64 ∧ amountUsdc = n ∧ Runtime.requestSpendIx cluster agent vault
        serviceTokenAccount pendingSpend n = raw := by
  simp only [requestSpendIx, Option.bind_eq_bind, Option.bind_eq_some_iff, u64Le_eq_some,
    Option.some.injEq]
  constructor
  · rintro ⟨_, ⟨n, small, rfl, rfl⟩, rfl⟩
    exact ⟨n, small, rfl, rfl⟩
  · rintro ⟨n, small, rfl, rfl⟩
    exact ⟨_, ⟨n, small, rfl, rfl⟩, rfl⟩

theorem recordPaymentIx_eq_some {service profile registry link receipt : K} {amountUsdc : ℤ}
    {hash : Hash} : recordPaymentIx cluster service profile registry link receipt amountUsdc
        hash.toList = some raw ↔
      ∃ n : ℕ, n < 2 ^ 64 ∧ amountUsdc = n ∧ Runtime.recordPaymentIx cluster service profile registry
        link receipt n hash = raw := by
  have whole : ¬hash.toList.length ≠ 32 := by simp
  rw [recordPaymentIx, if_neg whole]
  simp only [Option.bind_eq_bind, Option.bind_eq_some_iff, u64Le_eq_some, Option.some.injEq]
  constructor
  · rintro ⟨_, ⟨n, small, rfl, rfl⟩, rfl⟩
    exact ⟨n, small, rfl, rfl⟩
  · rintro ⟨n, small, rfl, rfl⟩
    exact ⟨_, ⟨n, small, rfl, rfl⟩, rfl⟩

/-- The texts are packed as they are, and stand where the program reads them. -/
theorem registerServiceInstruction_eq_ok {sponsor service registry : K} {name uri : PyString}
    {category : ServiceCategory} :
    registerServiceInstruction cluster sponsor service registry name category uri = .ok raw ↔
      name ≠ [] ∧ ∃ packedName packedUri, packFixed name nameBytes = .ok packedName ∧
        packFixed uri uriBytes = .ok packedUri ∧
          Runtime.registerServiceIx cluster sponsor service registry packedName
            (categoryIndex category) packedUri = raw := by
  simp only [registerServiceInstruction, registerServiceIx, bind_eq_ok, require_eq_ok, pure_eq_ok,
    exists_const]
  constructor
  · rintro ⟨_, ⟨named, packedName, first, packedUri, second, rfl⟩, rfl⟩
    exact ⟨named, packedName, packedUri, first, second, rfl⟩
  · rintro ⟨named, packedName, packedUri, first, second, rfl⟩
    exact ⟨_, ⟨named, packedName, first, packedUri, second, rfl⟩, rfl⟩

end Specification

end Python

namespace Mobile

/-- The accounts of an owner that signs. -/
abbrev accountsOf (owner : Signer K) (agent usdcMint : K) : OnchainAccounts K :=
  deriveOnchainAccounts owner.key agent usdcMint

variable (owner : Signer K) (agent usdcMint : K)

theorem wrapped_lt (value : ℤ) : (value % 2 ^ 64).toNat < 2 ^ 64 := by omega

theorem initializeAgentIx_means (agent : Signer K) (uri : Bytes 128) (id : ℤ) :
    Means cluster feePayer
      (initializeAgentIx cluster (accountsOf owner agent.key usdcMint) uri id)
      (.reputation (.initializeAgent ⟨owner, agent, findProgramAddress (.agent agent.key)⟩ uri
        (id % 2 ^ 64).toNat)) := by
  refine Means.of_send (wrapped_lt id) (congrArg some (RawInstruction.ext rfl rfl ?_))
  rw [initializeAgentIx, discriminators.1]
  change _ ++ ((Format.bytes 128).write uri ++ (u64Le id ++ [])) = _ ++ uri.toList ++ u64Le id
  simp only [List.append_nil, Format.bytes_write, List.append_assoc]
  rfl

/-- The accounts `createVaultIx` lists. -/
def createVault : Vault.CreateVault K :=
  let accounts := accountsOf owner agent usdcMint
  ⟨owner, agent, usdcMint, accounts.vault, accounts.policy, accounts.vaultAta⟩

theorem createVaultIx_means (perTx hourly lifetime : ℤ) (post : Bool) :
    Means cluster feePayer
      (createVaultIx cluster (accountsOf owner agent usdcMint) perTx hourly lifetime post)
      (.vault (.createVault (createVault owner agent usdcMint) (perTx % 2 ^ 64).toNat
        (hourly % 2 ^ 64).toNat (lifetime % 2 ^ 64).toNat post)) := by
  refine Means.of_send ⟨wrapped_lt perTx, wrapped_lt hourly, wrapped_lt lifetime⟩
    (congrArg some (RawInstruction.ext rfl rfl ?_))
  rw [createVaultIx, discriminators.2.1]
  change _ ++ (u64Le perTx ++ (u64Le hourly ++ (u64Le lifetime ++ (boolean post ++ [])))) =
    _ ++ u64Le perTx ++ u64Le hourly ++ u64Le lifetime ++ boolean post
  simp only [List.append_nil, List.append_assoc]
  rfl

/-! ### What the owner does to a vault -/

/-- `depositUsdc * 1000000`; an `int` of Dart has 64 bits and wraps. -/
def inMicro (amountUsdc : ℤ) : ℤ := Int.bmod (amountUsdc * 1000000) (2 ^ 64)

/-- The requests of `VaultActionService`. -/
inductive VaultAction (K : Type) where
  | fund (amountUsdc : ℤ)
  | withdraw (amountMicroUsdc : ℤ)
  | freeze
  | unfreeze
  | approveSpend (pendingSpend serviceOwner : K)
  | updatePolicy (perTxLimitUsdc hourlyLimitUsdc lifetimeLimitUsdc : ℤ) (allowPostPay : Bool)
      (whitelist : List K)
  | cancelSpend (pendingSpend : K)

def VaultAction.instruction (cluster : Cluster K) (accounts : OnchainAccounts K) :
    VaultAction K → Option (RawInstruction K)
  | fund amountUsdc => some (depositIx cluster accounts (inMicro amountUsdc))
  | withdraw amountMicroUsdc => some (withdrawIx cluster accounts amountMicroUsdc)
  | freeze => some (freezeVaultIx cluster accounts)
  | unfreeze => some (unfreezeVaultIx cluster accounts)
  | approveSpend pendingSpend serviceOwner =>
    some (approveSpendIx cluster accounts pendingSpend
      (associatedTokenAddress serviceOwner accounts.usdcMint))
  | updatePolicy perTx hourly lifetime allowPostPay whitelist =>
    updatePolicyIx cluster accounts (inMicro perTx) (inMicro hourly) (inMicro lifetime)
      allowPostPay whitelist
  | cancelSpend pendingSpend => some (cancelSpendIx cluster accounts pendingSpend)

/-- Micro-USDC of an amount in whole USDC, as 64 bits hold them. -/
def micro (amountUsdc : ℤ) : ℕ := (inMicro amountUsdc % 2 ^ 64).toNat

/-- What the owner means by a request. -/
def VaultAction.meant : VaultAction K → Vault.Instruction K
  | fund amountUsdc =>
    .deposit ⟨owner, (accountsOf owner agent usdcMint).vault,
      (accountsOf owner agent usdcMint).ownerAta, (accountsOf owner agent usdcMint).vaultAta⟩
      (micro amountUsdc)
  | withdraw amountMicroUsdc =>
    .withdraw ⟨owner, (accountsOf owner agent usdcMint).vault,
      (accountsOf owner agent usdcMint).vaultAta, (accountsOf owner agent usdcMint).ownerAta⟩
      (amountMicroUsdc % 2 ^ 64).toNat
  | freeze => .freezeVault ⟨owner, (accountsOf owner agent usdcMint).vault⟩
  | unfreeze => .unfreezeVault ⟨owner, (accountsOf owner agent usdcMint).vault⟩
  | approveSpend pendingSpend serviceOwner =>
    .approveSpend ⟨owner, (accountsOf owner agent usdcMint).vault,
      (accountsOf owner agent usdcMint).policy, pendingSpend,
      (accountsOf owner agent usdcMint).vaultAta, associatedTokenAddress serviceOwner usdcMint⟩
  | updatePolicy perTx hourly lifetime allowPostPay whitelist =>
    .updatePolicy ⟨owner, (accountsOf owner agent usdcMint).vault,
      (accountsOf owner agent usdcMint).policy⟩ (micro perTx) (micro hourly) (micro lifetime)
      allowPostPay (padded whitelist)
  | cancelSpend pendingSpend =>
    .cancelSpend ⟨owner, (accountsOf owner agent usdcMint).vault, pendingSpend⟩

/-- The keys a request writes into its data can be written. -/
def VaultAction.Writable (cluster : Cluster K) : VaultAction K → Prop
  | updatePolicy _ _ _ _ whitelist => ∀ key ∈ (padded whitelist).toList, cluster.pubkey.Valid key
  | _ => True

theorem VaultAction.instruction_means {action : VaultAction K} (writable : action.Writable cluster)
    (built : action.instruction cluster (accountsOf owner agent usdcMint) = some raw) :
    Means cluster feePayer raw (.vault (action.meant owner agent usdcMint)) := by
  obtain ⟨-, -, deposit, withdraw, freeze, unfreeze, approve, cancel, policy, -⟩ := discriminators
  cases action with
  | fund amount =>
    -- The bytes are those of the name and the arguments; the accounts are the same by definition.
    cases built
    refine Means.of_send (wrapped_lt _) (congrArg some (RawInstruction.ext rfl rfl ?_))
    rw [depositIx, deposit]
    exact congrArg (discriminator "deposit" ++ ·) (List.append_nil _)
  | withdraw amount =>
    cases built
    refine Means.of_send (wrapped_lt _) (congrArg some (RawInstruction.ext rfl rfl ?_))
    rw [withdrawIx, withdraw]
    exact congrArg (discriminator "withdraw" ++ ·) (List.append_nil _)
  | freeze =>
    cases built
    refine Means.of_send trivial (congrArg some (RawInstruction.ext rfl rfl ?_))
    rw [freezeVaultIx, freeze]
    exact List.append_nil _
  | unfreeze =>
    cases built
    refine Means.of_send trivial (congrArg some (RawInstruction.ext rfl rfl ?_))
    rw [unfreezeVaultIx, unfreeze]
    exact List.append_nil _
  | approveSpend pendingSpend serviceOwner =>
    cases built
    refine Means.of_send trivial (congrArg some (RawInstruction.ext rfl rfl ?_))
    rw [approveSpendIx, approve]
    exact List.append_nil _
  | updatePolicy perTx hourly lifetime post whitelist =>
    simp only [instruction, updatePolicyIx] at built
    split at built
    · cases built
    · cases built
      refine Means.of_send ⟨wrapped_lt _, wrapped_lt _, wrapped_lt _, writable⟩
        (congrArg some (RawInstruction.ext rfl rfl ?_))
      dsimp only
      rw [policy]
      change _ ++ (u64Le _ ++ (u64Le _ ++ (u64Le _ ++ (boolean post ++
        ((padded whitelist).toList.flatMap cluster.pubkey.write ++ []))))) = _
      simp only [List.append_nil, List.append_assoc]
      rfl
  | cancelSpend pendingSpend =>
    cases built
    refine Means.of_send trivial (congrArg some (RawInstruction.ext rfl rfl ?_))
    rw [cancelSpendIx, cancel]
    exact List.append_nil _

end Mobile

end AgentFuel.Clients
