import AgentFuel.Backend.Chain
import AgentFuel.Solana.Interface

/-!
# The instructions of the programs on the wire

What the two programs take for which instruction, from the signatures in their `lib.rs` and the
structs of their accounts, and the IDL of both that the clients carry with them.
-/
namespace AgentFuel.Clients

open Reputation Solana

variable {K : Type} [AddressSpace K]

/-! ### The credit vault program -/

namespace VaultWire

def createVault : Variant K (Vault.Instruction K) where
  name := "create_vault"
  accounts := [("owner", .signer true), ("agent", .account false), ("usdc_mint", .account false),
    ("vault", .account true), ("policy", .account true), ("vault_token_account", .account true),
    ("token_program", .program .token), ("associated_token_program", .program .associatedToken),
    ("system_program", .program .system)]
  args := [("per_tx_limit_usdc", .u64), ("hourly_limit_usdc", .u64), ("lifetime_limit_usdc", .u64),
    ("allow_post_pay", .bool)]
  build := fun (owner, agent, usdcMint, vault, policy, vaultTokenAccount, _)
      (perTxLimitUsdc, hourlyLimitUsdc, lifetimeLimitUsdc, allowPostPay, _) =>
    .createVault ⟨owner, agent, usdcMint, vault, policy, vaultTokenAccount⟩ perTxLimitUsdc
      hourlyLimitUsdc lifetimeLimitUsdc allowPostPay

def deposit : Variant K (Vault.Instruction K) where
  name := "deposit"
  accounts := [("owner", .signer true), ("vault", .account true),
    ("owner_token_account", .account true), ("vault_token_account", .account true),
    ("token_program", .program .token)]
  args := [("amount_usdc", .u64)]
  build := fun (owner, vault, ownerTokenAccount, vaultTokenAccount, _) (amountUsdc, _) =>
    .deposit ⟨owner, vault, ownerTokenAccount, vaultTokenAccount⟩ amountUsdc

def spend : Variant K (Vault.Instruction K) where
  name := "spend"
  accounts := [("agent", .signer false), ("vault", .account true), ("policy", .account true),
    ("vault_token_account", .account true), ("service_token_account", .account true),
    ("token_program", .program .token)]
  args := [("amount_usdc", .u64)]
  build := fun (agent, vault, policy, vaultTokenAccount, serviceTokenAccount, _) (amountUsdc, _) =>
    .spend ⟨agent, vault, policy, vaultTokenAccount, serviceTokenAccount⟩ amountUsdc

def freezeVault : Variant K (Vault.Instruction K) where
  name := "freeze_vault"
  accounts := [("owner", .signer false), ("vault", .account true)]
  args := []
  build := fun (owner, vault, _) _ => .freezeVault ⟨owner, vault⟩

def unfreezeVault : Variant K (Vault.Instruction K) where
  name := "unfreeze_vault"
  accounts := [("owner", .signer false), ("vault", .account true)]
  args := []
  build := fun (owner, vault, _) _ => .unfreezeVault ⟨owner, vault⟩

def updatePolicy : Variant K (Vault.Instruction K) where
  name := "update_policy"
  accounts := [("owner", .signer false), ("vault", .account false), ("policy", .account true)]
  args := [("new_per_tx_limit_usdc", .u64), ("new_hourly_limit_usdc", .u64),
    ("new_lifetime_limit_usdc", .u64), ("new_allow_post_pay", .bool),
    ("new_whitelist", .pubkeys Vault.whitelistLen)]
  build := fun (owner, vault, policy, _)
      (newPerTxLimitUsdc, newHourlyLimitUsdc, newLifetimeLimitUsdc, newAllowPostPay, newWhitelist,
        _) =>
    .updatePolicy ⟨owner, vault, policy⟩ newPerTxLimitUsdc newHourlyLimitUsdc newLifetimeLimitUsdc
      newAllowPostPay newWhitelist

def withdraw : Variant K (Vault.Instruction K) where
  name := "withdraw"
  accounts := [("owner", .signer true), ("vault", .account true),
    ("vault_token_account", .account true), ("owner_token_account", .account true),
    ("token_program", .program .token)]
  args := [("amount_usdc", .u64)]
  build := fun (owner, vault, vaultTokenAccount, ownerTokenAccount, _) (amountUsdc, _) =>
    .withdraw ⟨owner, vault, vaultTokenAccount, ownerTokenAccount⟩ amountUsdc

def claim : Variant K (Vault.Instruction K) where
  name := "claim"
  accounts := [("service", .signer false), ("vault", .account true), ("policy", .account true),
    ("vault_token_account", .account true), ("service_token_account", .account true),
    ("token_program", .program .token)]
  args := [("amount_usdc", .u64)]
  build := fun (service, vault, policy, vaultTokenAccount, serviceTokenAccount, _)
      (amountUsdc, _) =>
    .claim ⟨service, vault, policy, vaultTokenAccount, serviceTokenAccount⟩ amountUsdc

def requestSpend : Variant K (Vault.Instruction K) where
  name := "request_spend"
  accounts := [("agent", .signer true), ("vault", .account true),
    ("service_token_account", .account false), ("pending_spend", .account true),
    ("system_program", .program .system)]
  args := [("amount_usdc", .u64)]
  build := fun (agent, vault, serviceTokenAccount, pendingSpend, _) (amountUsdc, _) =>
    .requestSpend ⟨agent, vault, serviceTokenAccount, pendingSpend⟩ amountUsdc

def approveSpend : Variant K (Vault.Instruction K) where
  name := "approve_spend"
  accounts := [("owner", .signer true), ("vault", .account true), ("policy", .account true),
    ("pending_spend", .account true), ("vault_token_account", .account true),
    ("service_token_account", .account true), ("token_program", .program .token)]
  args := []
  build := fun (owner, vault, policy, pendingSpend, vaultTokenAccount, serviceTokenAccount, _) _ =>
    .approveSpend ⟨owner, vault, policy, pendingSpend, vaultTokenAccount, serviceTokenAccount⟩

def cancelSpend : Variant K (Vault.Instruction K) where
  name := "cancel_spend"
  accounts := [("owner", .signer true), ("vault", .account false), ("pending_spend", .account true)]
  args := []
  build := fun (owner, vault, pendingSpend, _) _ => .cancelSpend ⟨owner, vault, pendingSpend⟩

def variants : List (Variant K (Vault.Instruction K)) := [createVault, deposit, spend, freezeVault,
  unfreezeVault, updatePolicy, withdraw, claim, requestSpend, approveSpend, cancelSpend]

end VaultWire

/-! ### The reputation program -/

/-- The category with this number. -/
def categoryOf : Fin 5 → ServiceCategory
  | 0 => .dataFeed
  | 1 => .compute
  | 2 => .swap
  | 3 => .rpc
  | 4 => .other

/-- The number Borsh writes for a category. -/
def numberOf : ServiceCategory → Fin 5
  | .dataFeed => 0
  | .compute => 1
  | .swap => 2
  | .rpc => 3
  | .other => 4

namespace ReputationWire

def initializeAgent : Variant K (Reputation.Instruction K) where
  name := "initialize_agent"
  accounts := [("owner", .signer true), ("agent", .signer false), ("agent_profile", .account true),
    ("system_program", .program .system)]
  args := [("agent_uri", .bytes 128), ("external_agent_id", .u64)]
  build := fun (owner, agent, agentProfile, _) (agentUri, externalAgentId, _) =>
    .initializeAgent ⟨owner, agent, agentProfile⟩ agentUri externalAgentId

def registerService : Variant K (Reputation.Instruction K) where
  name := "register_service"
  accounts := [("sponsor", .signer true), ("service", .signer false),
    ("service_registry", .account true), ("system_program", .program .system)]
  args := [("name", .bytes 32), ("category", .enumeration 5), ("service_uri", .bytes 128)]
  build := fun (sponsor, service, serviceRegistry, _) (name, category, serviceUri, _) =>
    .registerService ⟨sponsor, service, serviceRegistry⟩ name (categoryOf category) serviceUri

def setServiceActive : Variant K (Reputation.Instruction K) where
  name := "set_service_active"
  accounts := [("service", .signer false), ("service_registry", .account true),
    ("authority", .account false)]
  args := [("active", .bool)]
  build := fun (service, serviceRegistry, authority, _) (active, _) =>
    .setServiceActive ⟨service, serviceRegistry, authority⟩ active

def recordPayment : Variant K (Reputation.Instruction K) where
  name := "record_payment"
  accounts := [("service", .signer true), ("agent_profile", .account true),
    ("service_registry", .account true), ("agent_service_link", .account true),
    ("receipt_used", .account true), ("system_program", .program .system)]
  args := [("amount_usdc", .u64), ("payment_receipt_hash", .bytes 32)]
  build := fun (service, agentProfile, serviceRegistry, agentServiceLink, receiptUsed, _)
      (amountUsdc, paymentReceiptHash, _) =>
    .recordPayment ⟨service, agentProfile, serviceRegistry, agentServiceLink, receiptUsed⟩
      amountUsdc paymentReceiptHash

def giveFeedback : Variant K (Reputation.Instruction K) where
  name := "give_feedback"
  accounts := [("service", .signer true), ("agent_profile", .account true),
    ("service_registry", .account true), ("agent_service_link", .account true),
    ("receipt_used", .account false), ("feedback_record", .account true),
    ("system_program", .program .system)]
  args := [("payment_receipt_hash", .bytes 32), ("value", .i8), ("tags", .u32),
    ("evidence_uri", .bytes 128), ("evidence_hash", .bytes 32)]
  build := fun (service, agentProfile, serviceRegistry, agentServiceLink, receiptUsed,
        feedbackRecord, _)
      (paymentReceiptHash, value, tags, evidenceUri, evidenceHash, _) =>
    .giveFeedback ⟨service, agentProfile, serviceRegistry, agentServiceLink, receiptUsed,
        feedbackRecord⟩
      paymentReceiptHash value tags evidenceUri evidenceHash

def appendResponse : Variant K (Reputation.Instruction K) where
  name := "append_response"
  accounts := [("responder", .signer true), ("agent_profile", .account true),
    ("feedback_record", .account true), ("system_program", .program .system)]
  args := [("payment_receipt_hash", .bytes 32), ("response_uri", .bytes 128),
    ("response_hash", .bytes 32)]
  build := fun (responder, agentProfile, feedbackRecord, _)
      (paymentReceiptHash, responseUri, responseHash, _) =>
    .appendResponse ⟨responder, agentProfile, feedbackRecord⟩ paymentReceiptHash responseUri
      responseHash

def revokeFeedback : Variant K (Reputation.Instruction K) where
  name := "revoke_feedback"
  accounts := [("service", .signer true), ("agent_profile", .account true),
    ("service_registry", .account true), ("feedback_record", .account true),
    ("system_program", .program .system)]
  args := [("payment_receipt_hash", .bytes 32)]
  build := fun (service, agentProfile, serviceRegistry, feedbackRecord, _)
      (paymentReceiptHash, _) =>
    .revokeFeedback ⟨service, agentProfile, serviceRegistry, feedbackRecord⟩ paymentReceiptHash

def computeScore : Variant K (Reputation.Instruction K) where
  name := "compute_score"
  accounts := [("caller", .signer true), ("agent_profile", .account true)]
  args := []
  build := fun (caller, agentProfile, _) _ => .computeScore ⟨caller, agentProfile⟩

def variants : List (Variant K (Reputation.Instruction K)) := [initializeAgent, registerService,
  setServiceActive, recordPayment, giveFeedback, appendResponse, revokeFeedback, computeScore]

end ReputationWire

/-! ### The vendored IDL -/

structure IdlAccount where
  name : String
  writable : Bool
  signer : Bool
  address : Option ProgramName
  deriving DecidableEq

structure IdlInstruction where
  name : String
  discriminator : Binary
  accounts : List IdlAccount
  args : List (String × ArgType)
  deriving DecidableEq

/-- `idl/credit-vault.json` -/
def creditVaultIdl : List IdlInstruction :=
  [⟨"approve_spend", [248, 201, 151, 15, 28, 162, 112, 90],
    [⟨"owner", true, true, none⟩, ⟨"vault", true, false, none⟩, ⟨"policy", true, false, none⟩,
      ⟨"pending_spend", true, false, none⟩, ⟨"vault_token_account", true, false, none⟩,
      ⟨"service_token_account", true, false, none⟩, ⟨"token_program", false, false, some .token⟩],
    []⟩,
   ⟨"cancel_spend", [122, 254, 101, 132, 241, 232, 205, 179],
    [⟨"owner", true, true, none⟩, ⟨"vault", false, false, none⟩,
      ⟨"pending_spend", true, false, none⟩],
    []⟩,
   ⟨"claim", [62, 198, 214, 193, 213, 159, 108, 210],
    [⟨"service", false, true, none⟩, ⟨"vault", true, false, none⟩, ⟨"policy", true, false, none⟩,
      ⟨"vault_token_account", true, false, none⟩, ⟨"service_token_account", true, false, none⟩,
      ⟨"token_program", false, false, some .token⟩],
    [("amount_usdc", .u64)]⟩,
   ⟨"create_vault", [29, 237, 247, 208, 193, 82, 54, 135],
    [⟨"owner", true, true, none⟩, ⟨"agent", false, false, none⟩, ⟨"usdc_mint", false, false, none⟩,
      ⟨"vault", true, false, none⟩, ⟨"policy", true, false, none⟩,
      ⟨"vault_token_account", true, false, none⟩, ⟨"token_program", false, false, some .token⟩,
      ⟨"associated_token_program", false, false, some .associatedToken⟩,
      ⟨"system_program", false, false, some .system⟩],
    [("per_tx_limit_usdc", .u64), ("hourly_limit_usdc", .u64), ("lifetime_limit_usdc", .u64),
      ("allow_post_pay", .bool)]⟩,
   ⟨"deposit", [242, 35, 198, 137, 82, 225, 242, 182],
    [⟨"owner", true, true, none⟩, ⟨"vault", true, false, none⟩,
      ⟨"owner_token_account", true, false, none⟩, ⟨"vault_token_account", true, false, none⟩,
      ⟨"token_program", false, false, some .token⟩],
    [("amount_usdc", .u64)]⟩,
   ⟨"freeze_vault", [144, 211, 63, 236, 97, 31, 170, 175],
    [⟨"owner", false, true, none⟩, ⟨"vault", true, false, none⟩],
    []⟩,
   ⟨"request_spend", [127, 12, 23, 75, 137, 178, 148, 71],
    [⟨"agent", true, true, none⟩, ⟨"vault", true, false, none⟩,
      ⟨"service_token_account", false, false, none⟩, ⟨"pending_spend", true, false, none⟩,
      ⟨"system_program", false, false, some .system⟩],
    [("amount_usdc", .u64)]⟩,
   ⟨"spend", [242, 205, 255, 87, 101, 217, 245, 57],
    [⟨"agent", false, true, none⟩, ⟨"vault", true, false, none⟩, ⟨"policy", true, false, none⟩,
      ⟨"vault_token_account", true, false, none⟩, ⟨"service_token_account", true, false, none⟩,
      ⟨"token_program", false, false, some .token⟩],
    [("amount_usdc", .u64)]⟩,
   ⟨"unfreeze_vault", [145, 244, 206, 234, 251, 250, 116, 183],
    [⟨"owner", false, true, none⟩, ⟨"vault", true, false, none⟩],
    []⟩,
   ⟨"update_policy", [212, 245, 246, 7, 163, 151, 18, 57],
    [⟨"owner", false, true, none⟩, ⟨"vault", false, false, none⟩, ⟨"policy", true, false, none⟩],
    [("new_per_tx_limit_usdc", .u64), ("new_hourly_limit_usdc", .u64),
      ("new_lifetime_limit_usdc", .u64), ("new_allow_post_pay", .bool),
      ("new_whitelist", .pubkeys 8)]⟩,
   ⟨"withdraw", [183, 18, 70, 156, 148, 109, 161, 34],
    [⟨"owner", true, true, none⟩, ⟨"vault", true, false, none⟩,
      ⟨"vault_token_account", true, false, none⟩, ⟨"owner_token_account", true, false, none⟩,
      ⟨"token_program", false, false, some .token⟩],
    [("amount_usdc", .u64)]⟩]

/-- `idl/reputation.json` -/
def reputationIdl : List IdlInstruction :=
  [⟨"append_response", [162, 210, 186, 50, 180, 4, 47, 104],
    [⟨"responder", true, true, none⟩, ⟨"agent_profile", true, false, none⟩,
      ⟨"feedback_record", true, false, none⟩, ⟨"system_program", false, false, some .system⟩],
    [("payment_receipt_hash", .bytes 32), ("response_uri", .bytes 128),
      ("response_hash", .bytes 32)]⟩,
   ⟨"compute_score", [161, 101, 4, 93, 120, 62, 41, 20],
    [⟨"caller", true, true, none⟩, ⟨"agent_profile", true, false, none⟩],
    []⟩,
   ⟨"give_feedback", [145, 136, 123, 3, 215, 165, 98, 41],
    [⟨"service", true, true, none⟩, ⟨"agent_profile", true, false, none⟩,
      ⟨"service_registry", true, false, none⟩, ⟨"agent_service_link", true, false, none⟩,
      ⟨"receipt_used", false, false, none⟩, ⟨"feedback_record", true, false, none⟩,
      ⟨"system_program", false, false, some .system⟩],
    [("payment_receipt_hash", .bytes 32), ("value", .i8), ("tags", .u32),
      ("evidence_uri", .bytes 128), ("evidence_hash", .bytes 32)]⟩,
   ⟨"initialize_agent", [212, 81, 156, 211, 212, 110, 21, 28],
    [⟨"owner", true, true, none⟩, ⟨"agent", false, true, none⟩,
      ⟨"agent_profile", true, false, none⟩, ⟨"system_program", false, false, some .system⟩],
    [("agent_uri", .bytes 128), ("external_agent_id", .u64)]⟩,
   ⟨"record_payment", [226, 154, 10, 27, 9, 14, 148, 137],
    [⟨"service", true, true, none⟩, ⟨"agent_profile", true, false, none⟩,
      ⟨"service_registry", true, false, none⟩, ⟨"agent_service_link", true, false, none⟩,
      ⟨"receipt_used", true, false, none⟩, ⟨"system_program", false, false, some .system⟩],
    [("amount_usdc", .u64), ("payment_receipt_hash", .bytes 32)]⟩,
   ⟨"register_service", [11, 133, 158, 232, 193, 19, 229, 73],
    [⟨"sponsor", true, true, none⟩, ⟨"service", false, true, none⟩,
      ⟨"service_registry", true, false, none⟩, ⟨"system_program", false, false, some .system⟩],
    [("name", .bytes 32), ("category", .enumeration 5), ("service_uri", .bytes 128)]⟩,
   ⟨"revoke_feedback", [211, 37, 230, 82, 118, 216, 137, 206],
    [⟨"service", true, true, none⟩, ⟨"agent_profile", true, false, none⟩,
      ⟨"service_registry", true, false, none⟩, ⟨"feedback_record", true, false, none⟩,
      ⟨"system_program", false, false, some .system⟩],
    [("payment_receipt_hash", .bytes 32)]⟩,
   ⟨"set_service_active", [221, 172, 149, 49, 212, 184, 77, 101],
    [⟨"service", false, true, none⟩, ⟨"service_registry", true, false, none⟩,
      ⟨"authority", false, false, none⟩],
    [("active", .bool)]⟩]

/-- What a client sends that reads the IDL: the addresses the IDL states, the keys it is given, and
the privileges and the discriminator of the IDL. -/
def IdlInstruction.request (cluster : Cluster K) (program : ProgramName) (idl : IdlInstruction)
    (keys : List K) (args : Binary) : RawInstruction K where
  programId := cluster.programId program
  accounts := List.zipWith (fun account key =>
    ⟨(account.address.map cluster.programId).getD key, account.signer, account.writable⟩)
    idl.accounts keys
  data := idl.discriminator ++ args

/-! ### The IDL describes the programs -/

def IdlAccount.ofField (field : String × AccountKind) : IdlAccount where
  name := field.1
  writable := field.2.isWritable
  signer := field.2.isSigner
  address := field.2.address

/-- What an IDL says of an instruction, except for its discriminator. -/
def IdlInstruction.Describes {α : Type} (idl : IdlInstruction) (v : Variant K α) : Prop :=
  idl.name = v.name ∧ idl.accounts = v.accounts.map IdlAccount.ofField ∧ idl.args = v.args

/-- The discriminators of an IDL are those of the names. -/
theorem idl_discriminators : ∀ idl ∈ creditVaultIdl ++ reputationIdl,
    idl.discriminator = discriminator idl.name := by
  decide +kernel

theorem exists_of_forall₂ {α β : Type*} {R : α → β → Prop} {as : List α} {bs : List β} {a : α}
    (related : List.Forall₂ R as bs) (member : a ∈ as) : ∃ b ∈ bs, R a b := by
  induction related with
  | nil => cases member
  | cons first _ ih =>
    rcases List.mem_cons.mp member with rfl | later
    · exact ⟨_, List.mem_cons_self, first⟩
    · obtain ⟨b, listed, holds⟩ := ih later
      exact ⟨b, List.mem_cons_of_mem _ listed, holds⟩

/-- The accounts of an instruction, as the IDL lists them. -/
theorem idl_accounts (cluster : Cluster K) (fields : List (String × AccountKind))
    (accounts : Accounts K (fields.map Prod.snd)) :
    List.zipWith (fun (account : IdlAccount) key =>
        (⟨(account.address.map cluster.programId).getD key, account.signer, account.writable⟩ :
          AccountMeta K))
      (fields.map IdlAccount.ofField) ((accounts.ask cluster).map AccountMeta.pubkey) =
      accounts.ask cluster := by
  induction fields with
  | nil => rfl
  | cons field fields ih =>
    obtain ⟨name, kind⟩ := field
    obtain ⟨first, others⟩ := accounts
    have rest := ih others
    cases kind <;> exact congrArg (List.cons _) rest

/-- A client that reads the IDL sends what the program takes. -/
theorem IdlInstruction.request_eq {α : Type} {cluster : Cluster K} {program : ProgramName}
    {idl : IdlInstruction} {v : Variant K α} (describes : idl.Describes v)
    (hashed : idl.discriminator = Solana.discriminator idl.name) (accounts : Accounts K v.kinds)
    (args : Args K v.types) :
    idl.request cluster program ((accounts.ask cluster).map AccountMeta.pubkey)
      ((Args.format cluster v.types).write args) = v.raw cluster program accounts args := by
  obtain ⟨named, listed, -⟩ := describes
  refine RawInstruction.ext rfl ?_ ?_
  · simp only [request, listed]
    exact idl_accounts cluster v.accounts accounts
  · rw [request, hashed, named]
    rfl

open VaultWire in
/-- Every entry of the IDL describes an instruction of the program. -/
theorem creditVaultIdl_describes {idl : IdlInstruction} (member : idl ∈ creditVaultIdl) :
    ∃ v ∈ VaultWire.variants (K := K), idl.Describes v := by
  have described : List.Forall₂ (fun idl v => idl.Describes v) creditVaultIdl
      [approveSpend (K := K), cancelSpend, claim, createVault, deposit, freezeVault, requestSpend,
        spend, unfreezeVault, updatePolicy, withdraw] := by
    unfold creditVaultIdl
    repeat' constructor
  obtain ⟨v, listed, describes⟩ := exists_of_forall₂ described member
  refine ⟨v, ?_, describes⟩
  simp only [List.mem_cons, List.not_mem_nil, or_false, variants] at listed ⊢
  tauto

open ReputationWire in
theorem reputationIdl_describes {idl : IdlInstruction} (member : idl ∈ reputationIdl) :
    ∃ v ∈ ReputationWire.variants (K := K), idl.Describes v := by
  have described : List.Forall₂ (fun idl v => idl.Describes v) reputationIdl
      [appendResponse (K := K), computeScore, giveFeedback, initializeAgent, recordPayment,
        registerService, revokeFeedback, setServiceActive] := by
    unfold reputationIdl
    repeat' constructor
  obtain ⟨v, listed, describes⟩ := exists_of_forall₂ described member
  refine ⟨v, ?_, describes⟩
  simp only [List.mem_cons, List.not_mem_nil, or_false, variants] at listed ⊢
  tauto

theorem vault_distinct :
    ((VaultWire.variants (K := K)).map fun v => discriminator v.name).Nodup := by
  have names : (["create_vault", "deposit", "spend", "freeze_vault", "unfreeze_vault",
      "update_policy", "withdraw", "claim", "request_spend", "approve_spend",
      "cancel_spend"].map discriminator).Nodup := by decide +kernel
  exact names

theorem reputation_distinct :
    ((ReputationWire.variants (K := K)).map fun v => discriminator v.name).Nodup := by
  have names : (["initialize_agent", "register_service", "set_service_active", "record_payment",
      "give_feedback", "append_response", "revoke_feedback",
      "compute_score"].map discriminator).Nodup := by decide +kernel
  exact names

section Programs

variable (cluster : Cluster K)

/-! ### Instructions as they are sent -/

open VaultWire in
def sendVault : Vault.Instruction K → RawInstruction K
  | .createVault ctx perTx hourly lifetime post =>
    createVault.raw cluster .creditVault
      (ctx.owner, ctx.agent, ctx.usdcMint, ctx.vault, ctx.policy, ctx.vaultTokenAccount, (), (), (), ())
      (perTx, hourly, lifetime, post, ())
  | .deposit ctx amount =>
    deposit.raw cluster .creditVault
      (ctx.owner, ctx.vault, ctx.ownerTokenAccount, ctx.vaultTokenAccount, (), ()) (amount, ())
  | .spend ctx amount =>
    spend.raw cluster .creditVault
      (ctx.agent, ctx.vault, ctx.policy, ctx.vaultTokenAccount, ctx.serviceTokenAccount, (), ())
      (amount, ())
  | .freezeVault ctx => freezeVault.raw cluster .creditVault (ctx.owner, ctx.vault, ()) ()
  | .unfreezeVault ctx => unfreezeVault.raw cluster .creditVault (ctx.owner, ctx.vault, ()) ()
  | .updatePolicy ctx perTx hourly lifetime post whitelist =>
    updatePolicy.raw cluster .creditVault (ctx.owner, ctx.vault, ctx.policy, ())
      (perTx, hourly, lifetime, post, whitelist, ())
  | .withdraw ctx amount =>
    withdraw.raw cluster .creditVault
      (ctx.owner, ctx.vault, ctx.vaultTokenAccount, ctx.ownerTokenAccount, (), ()) (amount, ())
  | .claim ctx amount =>
    claim.raw cluster .creditVault
      (ctx.service, ctx.vault, ctx.policy, ctx.vaultTokenAccount, ctx.serviceTokenAccount, (), ())
      (amount, ())
  | .requestSpend ctx amount =>
    requestSpend.raw cluster .creditVault
      (ctx.agent, ctx.vault, ctx.serviceTokenAccount, ctx.pendingSpend, (), ()) (amount, ())
  | .approveSpend ctx =>
    approveSpend.raw cluster .creditVault
      (ctx.owner, ctx.vault, ctx.policy, ctx.pendingSpend, ctx.vaultTokenAccount,
        ctx.serviceTokenAccount, (), ()) ()
  | .cancelSpend ctx =>
    cancelSpend.raw cluster .creditVault (ctx.owner, ctx.vault, ctx.pendingSpend, ()) ()

open ReputationWire in
def sendReputation : Reputation.Instruction K → RawInstruction K
  | .initializeAgent ctx agentUri externalAgentId =>
    initializeAgent.raw cluster .reputation (ctx.owner, ctx.agent, ctx.agentProfile, (), ())
      (agentUri, externalAgentId, ())
  | .registerService ctx name category serviceUri =>
    registerService.raw cluster .reputation (ctx.sponsor, ctx.service, ctx.serviceRegistry, (), ())
      (name, numberOf category, serviceUri, ())
  | .setServiceActive ctx active =>
    setServiceActive.raw cluster .reputation (ctx.service, ctx.serviceRegistry, ctx.authority, ())
      (active, ())
  | .recordPayment ctx amount hash =>
    recordPayment.raw cluster .reputation
      (ctx.service, ctx.agentProfile, ctx.serviceRegistry, ctx.agentServiceLink, ctx.receiptUsed, (),
        ()) (amount, hash, ())
  | .giveFeedback ctx hash value tags evidenceUri evidenceHash =>
    giveFeedback.raw cluster .reputation
      (ctx.service, ctx.agentProfile, ctx.serviceRegistry, ctx.agentServiceLink, ctx.receiptUsed,
        ctx.feedbackRecord, (), ()) (hash, value, tags, evidenceUri, evidenceHash, ())
  | .appendResponse ctx hash responseUri responseHash =>
    appendResponse.raw cluster .reputation
      (ctx.responder, ctx.agentProfile, ctx.feedbackRecord, (), ())
      (hash, responseUri, responseHash, ())
  | .revokeFeedback ctx hash =>
    revokeFeedback.raw cluster .reputation
      (ctx.service, ctx.agentProfile, ctx.serviceRegistry, ctx.feedbackRecord, (), ()) (hash, ())
  | .computeScore ctx => computeScore.raw cluster .reputation (ctx.caller, ctx.agentProfile, ()) ()

/-- The bytes and the accounts an instruction of one of the two programs is sent as. -/
def send : Backend.Instruction K → Option (RawInstruction K)
  | .vault ix => some (sendVault cluster ix)
  | .reputation ix => some (sendReputation cluster ix)
  | .token _ => none

/-- The arguments are within their types. -/
def Fits : Backend.Instruction K → Prop
  | .vault (.createVault _ perTxLimitUsdc hourlyLimitUsdc lifetimeLimitUsdc _) =>
    perTxLimitUsdc < 2 ^ 64 ∧ hourlyLimitUsdc < 2 ^ 64 ∧ lifetimeLimitUsdc < 2 ^ 64
  | .vault (.deposit _ amountUsdc) | .vault (.spend _ amountUsdc) | .vault (.withdraw _ amountUsdc)
  | .vault (.claim _ amountUsdc) | .vault (.requestSpend _ amountUsdc) => amountUsdc < 2 ^ 64
  | .vault (.updatePolicy _ perTxLimitUsdc hourlyLimitUsdc lifetimeLimitUsdc _ whitelist) =>
    perTxLimitUsdc < 2 ^ 64 ∧ hourlyLimitUsdc < 2 ^ 64 ∧ lifetimeLimitUsdc < 2 ^ 64 ∧
      ∀ key ∈ whitelist.toList, cluster.pubkey.Valid key
  | .reputation (.initializeAgent _ _ externalAgentId) => externalAgentId < 2 ^ 64
  | .reputation (.recordPayment _ amountUsdc _) => amountUsdc < 2 ^ 64
  | .reputation (.giveFeedback _ _ value tags _ _) => -128 ≤ value ∧ value ≤ 127 ∧ tags < 2 ^ 32
  | .vault _ | .reputation _ | .token _ => True

variable {cluster} {ix : Backend.Instruction K} {raw official : RawInstruction K}

open VaultWire in
/-- What the program builds from an encoding is what is encoded so. -/
theorem sendVault_eq {ix : Vault.Instruction K} : (∃ v ∈ variants, ∃ accounts args,
      v.raw cluster .creditVault accounts args = official ∧ v.build accounts args = ix ∧
        (Args.format cluster v.types).Valid args) ↔
    sendVault cluster ix = official ∧ Fits cluster (.vault ix) := by
  constructor
  · rintro ⟨v, member, accounts, args, rfl, rfl, valid⟩
    simp only [variants, List.mem_cons, List.not_mem_nil, or_false] at member
    rcases member with rfl | rfl | rfl | rfl | rfl | rfl | rfl | rfl | rfl | rfl | rfl
    · exact ⟨rfl, valid.1, valid.2.1, valid.2.2.1⟩
    · exact ⟨rfl, valid.1⟩
    · exact ⟨rfl, valid.1⟩
    · exact ⟨rfl, trivial⟩
    · exact ⟨rfl, trivial⟩
    · exact ⟨rfl, valid.1, valid.2.1, valid.2.2.1, valid.2.2.2.2.1⟩
    · exact ⟨rfl, valid.1⟩
    · exact ⟨rfl, valid.1⟩
    · exact ⟨rfl, valid.1⟩
    · exact ⟨rfl, trivial⟩
    · exact ⟨rfl, trivial⟩
  · rintro ⟨rfl, fits⟩
    cases ix with
    | createVault =>
      exact ⟨createVault, by simp [variants], _, _, rfl, rfl, fits.1, fits.2.1, fits.2.2, trivial,
        trivial⟩
    | deposit => exact ⟨deposit, by simp [variants], _, _, rfl, rfl, fits, trivial⟩
    | spend => exact ⟨spend, by simp [variants], _, _, rfl, rfl, fits, trivial⟩
    | freezeVault => exact ⟨freezeVault, by simp [variants], _, _, rfl, rfl, trivial⟩
    | unfreezeVault => exact ⟨unfreezeVault, by simp [variants], _, _, rfl, rfl, trivial⟩
    | updatePolicy =>
      exact ⟨updatePolicy, by simp [variants], _, _, rfl, rfl, fits.1, fits.2.1, fits.2.2.1, trivial,
        fits.2.2.2, trivial⟩
    | withdraw => exact ⟨withdraw, by simp [variants], _, _, rfl, rfl, fits, trivial⟩
    | claim => exact ⟨claim, by simp [variants], _, _, rfl, rfl, fits, trivial⟩
    | requestSpend => exact ⟨requestSpend, by simp [variants], _, _, rfl, rfl, fits, trivial⟩
    | approveSpend => exact ⟨approveSpend, by simp [variants], _, _, rfl, rfl, trivial⟩
    | cancelSpend => exact ⟨cancelSpend, by simp [variants], _, _, rfl, rfl, trivial⟩

theorem numberOf_categoryOf (i : Fin 5) : numberOf (categoryOf i) = i := by
  revert i
  decide

theorem categoryOf_numberOf (category : ServiceCategory) :
    categoryOf (numberOf category) = category := by
  cases category <;> rfl

open ReputationWire in
theorem sendReputation_eq {ix : Reputation.Instruction K} : (∃ v ∈ variants, ∃ accounts args,
      v.raw cluster .reputation accounts args = official ∧ v.build accounts args = ix ∧
        (Args.format cluster v.types).Valid args) ↔
    sendReputation cluster ix = official ∧ Fits cluster (.reputation ix) := by
  constructor
  · rintro ⟨v, member, accounts, args, rfl, rfl, valid⟩
    simp only [variants, List.mem_cons, List.not_mem_nil, or_false] at member
    rcases member with rfl | rfl | rfl | rfl | rfl | rfl | rfl | rfl
    · exact ⟨rfl, valid.2.1⟩
    · exact ⟨congrArg (fun number : Fin 5 => registerService.raw cluster .reputation accounts
        (args.1, number, args.2.2)) (numberOf_categoryOf args.2.1), trivial⟩
    · exact ⟨rfl, trivial⟩
    · exact ⟨rfl, valid.1⟩
    · exact ⟨rfl, valid.2.1.1, valid.2.1.2, valid.2.2.1⟩
    · exact ⟨rfl, trivial⟩
    · exact ⟨rfl, trivial⟩
    · exact ⟨rfl, trivial⟩
  · rintro ⟨rfl, fits⟩
    have all (n : ℕ) (bytes : Vector UInt8 n) : (Format.bytes n).Valid bytes :=
      Format.bytes_valid bytes
    cases ix with
    | initializeAgent =>
      exact ⟨initializeAgent, by simp [variants], _, _, rfl, rfl, all _ _, fits, trivial⟩
    | registerService ctx name category serviceUri =>
      have small : (numberOf category).val < 256 := by omega
      refine ⟨registerService, by simp [variants], _, _, rfl, ?_, all _ _, small, all _ _, trivial⟩
      simp only [registerService, categoryOf_numberOf]
    | setServiceActive =>
      exact ⟨setServiceActive, by simp [variants], _, _, rfl, rfl, trivial, trivial⟩
    | recordPayment =>
      exact ⟨recordPayment, by simp [variants], _, _, rfl, rfl, fits, all _ _, trivial⟩
    | giveFeedback =>
      exact ⟨giveFeedback, by simp [variants], _, _, rfl, rfl, all _ _, ⟨fits.1, fits.2.1⟩,
        fits.2.2, all _ _, all _ _, trivial⟩
    | appendResponse =>
      exact ⟨appendResponse, by simp [variants], _, _, rfl, rfl, all _ _, all _ _, all _ _, trivial⟩
    | revokeFeedback =>
      exact ⟨revokeFeedback, by simp [variants], _, _, rfl, rfl, all _ _, trivial⟩
    | computeScore => exact ⟨computeScore, by simp [variants], _, _, rfl, rfl, trivial⟩

theorem sendVault_program (ix : Vault.Instruction K) :
    (sendVault cluster ix).programId = cluster.programId .creditVault := by
  cases ix <;> rfl

theorem sendReputation_program (ix : Reputation.Instruction K) :
    (sendReputation cluster ix).programId = cluster.programId .reputation := by
  cases ix <;> rfl

omit [AddressSpace K] in
/-- The two programs are at two addresses. -/
theorem programs_apart : cluster.programId .reputation ≠ cluster.programId .creditVault := by
  intro same
  exact ProgramName.noConfusion (cluster.programId_injective same)

/-! ### What the programs take -/

variable [DecidableEq K] {infos : List (AccountInfo K)}

/-- What the called program takes an instruction for. -/
def receive (cluster : Cluster K) (infos : List (AccountInfo K)) (raw : RawInstruction K) :
    Option (Backend.Instruction K) :=
  if raw.programId = cluster.programId .creditVault then
    (entry cluster VaultWire.variants infos raw.data).map .vault
  else if raw.programId = cluster.programId .reputation then
    (entry cluster ReputationWire.variants infos raw.data).map .reputation
  else none

theorem vault_entry_eq_some {data : Binary} {ix : Vault.Instruction K} :
    entry cluster VaultWire.variants infos data = some ix ↔
      Fits cluster (.vault ix) ∧ Carries infos data (sendVault cluster ix) := by
  rw [entry_eq_some vault_distinct .creditVault]
  constructor
  · rintro ⟨v, member, accounts, args, built, valid, carries⟩
    obtain ⟨sent, fits⟩ := sendVault_eq.mp ⟨v, member, accounts, args, rfl, built, valid⟩
    exact ⟨fits, sent ▸ carries⟩
  · rintro ⟨fits, carries⟩
    obtain ⟨v, member, accounts, args, sent, built, valid⟩ := sendVault_eq.mpr ⟨rfl, fits⟩
    exact ⟨v, member, accounts, args, built, valid, sent ▸ carries⟩

theorem reputation_entry_eq_some {data : Binary} {ix : Reputation.Instruction K} :
    entry cluster ReputationWire.variants infos data = some ix ↔
      Fits cluster (.reputation ix) ∧ Carries infos data (sendReputation cluster ix) := by
  rw [entry_eq_some reputation_distinct .reputation]
  constructor
  · rintro ⟨v, member, accounts, args, built, valid, carries⟩
    obtain ⟨sent, fits⟩ := sendReputation_eq.mp ⟨v, member, accounts, args, rfl, built, valid⟩
    exact ⟨fits, sent ▸ carries⟩
  · rintro ⟨fits, carries⟩
    obtain ⟨v, member, accounts, args, sent, built, valid⟩ := sendReputation_eq.mpr ⟨rfl, fits⟩
    exact ⟨v, member, accounts, args, built, valid, sent ▸ carries⟩

/-- An instruction is received when its bytes and accounts are. -/
theorem receive_of_carries (fits : Fits cluster ix) (sent : send cluster ix = some official)
    (called : raw.programId = official.programId) (carries : Carries infos raw.data official) :
    receive cluster infos raw = some ix := by
  unfold receive
  cases ix with
  | vault ix =>
    obtain rfl := Option.some.inj sent
    rw [sendVault_program] at called
    rw [if_pos called, vault_entry_eq_some.mpr ⟨fits, carries⟩, Option.map_some]
  | reputation ix =>
    obtain rfl := Option.some.inj sent
    rw [sendReputation_program] at called
    have other : raw.programId ≠ cluster.programId .creditVault := called ▸ programs_apart
    rw [if_neg other, if_pos called, reputation_entry_eq_some.mpr ⟨fits, carries⟩, Option.map_some]
  | token ix => cases sent

end Programs

/-- The programs take data and accounts for an instruction if they begin with the bytes and the
accounts it is sent as, its arguments are within their types, and it is sent to the program they
come to; and for nothing else. -/
theorem instructions_round_trip [DecidableEq K] (cluster : Cluster K)
    (infos : List (AccountInfo K)) (raw : RawInstruction K) (ix : Backend.Instruction K) :
    receive cluster infos raw = some ix ↔ Fits cluster ix ∧
      ∃ official, send cluster ix = some official ∧ raw.programId = official.programId ∧
        Carries infos raw.data official := by
  constructor
  · intro received
    unfold receive at received
    split at received
    next called =>
      obtain ⟨_, taken, rfl⟩ := Option.map_eq_some_iff.mp received
      obtain ⟨fits, carries⟩ := vault_entry_eq_some.mp taken
      exact ⟨fits, _, rfl, called.trans (sendVault_program _).symm, carries⟩
    · split at received
      next called =>
        obtain ⟨_, taken, rfl⟩ := Option.map_eq_some_iff.mp received
        obtain ⟨fits, carries⟩ := reputation_entry_eq_some.mp taken
        exact ⟨fits, _, rfl, called.trans (sendReputation_program _).symm, carries⟩
      · cases received
  · rintro ⟨fits, official, sent, called, carries⟩
    exact receive_of_carries fits sent called carries

end AgentFuel.Clients
