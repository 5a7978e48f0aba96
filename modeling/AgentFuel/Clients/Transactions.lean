import AgentFuel.Clients.Builders

/-!
# The transactions of the clients

The clients put together messages of instructions they build or, in TypeScript, read off the vendored
IDL. Whatever a transaction is composed of, the programs take each instruction for the one that was
meant. The score is asked for without the right to write to the caller's account, which the payer of a
transaction has.
-/
namespace AgentFuel.Clients

open Backend Checked Reputation Solana

variable {K : Type} [AddressSpace K] {cluster : Cluster K} {feePayer : K} {raw : RawInstruction K}

/-! ### Messages -/

namespace Python

variable (cluster : Cluster K)

/-- What `pay` composes once its checks have passed; the vault is as it was read. The agent is the
first signer and pays. -/
def payMessage (agent service : Signer K) (owner : K) (vault : CreditVaultAccount K)
    (amountUsdc : ℤ) (receiptHash : Hash) : Option (Message K) := do
  let vaultAddr := findProgramAddress (.vault owner agent.key)
  let policyAddr := findProgramAddress (.policy vaultAddr)
  let serviceTokenAccount := associatedTokenAddress service.key vault.usdcMint
  let profile := findProgramAddress (.agent agent.key)
  let registry := findProgramAddress (.service service.key)
  let link := findProgramAddress (.link profile registry)
  let receipt := findProgramAddress (.receipt receiptHash)
  let spend ← spendIx cluster agent.key vaultAddr policyAddr vault.vaultTokenAccount
    serviceTokenAccount amountUsdc
  let record ← recordPaymentIx cluster service.key profile registry link receipt amountUsdc
    receiptHash.toList
  some ⟨agent.key, [createAssociatedTokenAccountIdempotentInstruction cluster agent.key
    serviceTokenAccount service.key vault.usdcMint, spend, record,
    computeScoreIx cluster agent.key profile]⟩

/-- What `spend` composes. -/
def spendMessage (agent : Signer K) (owner recipient : K) (vault : CreditVaultAccount K)
    (amountUsdc : ℤ) : Option (Message K) := do
  let vaultAddr := findProgramAddress (.vault owner agent.key)
  let policyAddr := findProgramAddress (.policy vaultAddr)
  let recipientTokenAccount := associatedTokenAddress recipient vault.usdcMint
  let burn ← spendIx cluster agent.key vaultAddr policyAddr vault.vaultTokenAccount
    recipientTokenAccount amountUsdc
  some ⟨agent.key, [createAssociatedTokenAccountIdempotentInstruction cluster agent.key
    recipientTokenAccount recipient vault.usdcMint, burn]⟩

/-- What `request_spend` composes, at the count it has read. -/
def requestSpendMessage (agent : Signer K) (owner service : K) (vault : CreditVaultAccount K)
    (nonce : ℕ) (amountUsdc : ℤ) : Option (Message K) := do
  let vaultAddr := findProgramAddress (.vault owner agent.key)
  let request ← requestSpendIx cluster agent.key vaultAddr
    (associatedTokenAddress service vault.usdcMint) (findProgramAddress (.pending vaultAddr nonce))
    amountUsdc
  some ⟨agent.key, [request]⟩

/-- What `register_service` composes; the sponsor pays. -/
def registerServiceMessage (sponsor service : Signer K) (name : PyString)
    (category : ServiceCategory) (serviceUri : PyString) : Except ValueError (Message K) := do
  let ix ← registerServiceInstruction cluster sponsor.key service.key
    (findProgramAddress (.service service.key)) name category serviceUri
  pure ⟨sponsor.key, [ix]⟩

end Python

namespace Spender

variable (cluster : Cluster K) (spender : Spender K)

/-- `build_spend_ix` -/
def rawSpend (service : K) (amountMicro : ℕ) : RawInstruction K :=
  Runtime.spendIx cluster spender.agent.key spender.vault (findProgramAddress (.policy spender.vault))
    (associatedTokenAddress spender.vault spender.usdcMint)
    (associatedTokenAddress service spender.usdcMint) amountMicro

def rawRecord (service : K) (item : ℕ × Hash) : RawInstruction K :=
  let registry := findProgramAddress (.service service)
  Runtime.recordPaymentIx cluster service spender.agentProfile registry
    (findProgramAddress (.link spender.agentProfile registry)) (findProgramAddress (.receipt item.2))
    item.1 item.2

/-- What `pay_batch` submits, and `pay` for one item. -/
def payMessage (service : Signer K) (items : List (ℕ × Hash)) : Message K where
  feePayer := spender.agent.key
  instructions := (items.flatMap fun item =>
    [spender.rawSpend cluster service.key item.1, spender.rawRecord cluster service.key item]) ++
      [Runtime.computeScoreIx cluster spender.agent.key spender.agentProfile]

/-- What `request_spend` submits. -/
def requestSpendMessage (service : K) (nonce amountMicro : ℕ) : Message K where
  feePayer := spender.agent.key
  instructions := [Runtime.requestSpendIx cluster spender.agent.key spender.vault
    (associatedTokenAddress service spender.usdcMint)
    (findProgramAddress (.pending spender.vault nonce)) amountMicro]

end Spender

namespace Mobile

variable (cluster : Cluster K)

/-- `AgentProvisioningService.build`: the agent and its vault, with a first deposit if there is
one. The limits are given in micro-USDC. -/
def provisionMessage (owner agent : Signer K) (usdcMint : K) (agentUri : List UInt8)
    (externalAgentId depositUsdc perTxMicro hourlyMicro lifetimeMicro : ℤ) (allowPostPay : Bool) :
    Message K where
  feePayer := owner.key
  instructions :=
    let accounts := accountsOf owner agent.key usdcMint
    [initializeAgentIx cluster accounts (packFixed agentUri 128) externalAgentId,
      createVaultIx cluster accounts perTxMicro hourlyMicro lifetimeMicro allowPostPay] ++
    if 0 < inMicro depositUsdc then [depositIx cluster accounts (inMicro depositUsdc)] else []

end Mobile

/-- A request of a client that reads the IDL, with what it is to the two programs. -/
inductive Requested (cluster : Cluster K) :
    RawInstruction K → Option (Backend.Instruction K) → Prop
  | vault {idl : IdlInstruction} {v : Variant K (Vault.Instruction K)} (member : idl ∈ creditVaultIdl)
    (listed : v ∈ VaultWire.variants) (describes : idl.Describes v) (accounts : Accounts K v.kinds)
    (args : Args K v.types) (valid : (Args.format cluster v.types).Valid args) :
    Requested cluster
      (idl.request cluster .creditVault ((accounts.ask cluster).map AccountMeta.pubkey)
        ((Args.format cluster v.types).write args))
      (some (.vault (v.build accounts args)))
  | reputation {idl : IdlInstruction} {v : Variant K (Reputation.Instruction K)}
    (member : idl ∈ reputationIdl) (listed : v ∈ ReputationWire.variants)
    (describes : idl.Describes v) (accounts : Accounts K v.kinds) (args : Args K v.types)
    (valid : (Args.format cluster v.types).Valid args) :
    Requested cluster
      (idl.request cluster .reputation ((accounts.ask cluster).map AccountMeta.pubkey)
        ((Args.format cluster v.types).write args))
      (some (.reputation (v.build accounts args)))
  | createAta (payer associatedToken owner mint : K) :
    Requested cluster (Python.createAssociatedTokenAccountIdempotentInstruction cluster payer
      associatedToken owner mint) none

/-- A message some client composes, with what its instructions are meant to be to the two
programs. -/
inductive Composed (cluster : Cluster K) : Message K → List (Option (Backend.Instruction K)) → Prop
  | pythonPay {agent service : Signer K} {owner : K} {vault : CreditVaultAccount K} {amount : ℕ}
    {hash : Hash} {message : Message K}
    (built : Python.payMessage cluster agent service owner vault amount hash = some message) :
    Composed cluster message
      [none,
        some (.vault (.spend ⟨agent, findProgramAddress (.vault owner agent.key),
          findProgramAddress (.policy (findProgramAddress (.vault owner agent.key))),
          vault.vaultTokenAccount, associatedTokenAddress service.key vault.usdcMint⟩ amount)),
        some (Spender.recordPaymentIx ⟨agent, owner, vault.usdcMint⟩ service amount hash),
        some (Spender.computeScoreIx ⟨agent, owner, vault.usdcMint⟩)]
  | pythonSpend {agent : Signer K} {owner recipient : K} {vault : CreditVaultAccount K} {amount : ℕ}
    {message : Message K}
    (built : Python.spendMessage cluster agent owner recipient vault amount = some message) :
    Composed cluster message
      [none,
        some (.vault (.spend ⟨agent, findProgramAddress (.vault owner agent.key),
          findProgramAddress (.policy (findProgramAddress (.vault owner agent.key))),
          vault.vaultTokenAccount, associatedTokenAddress recipient vault.usdcMint⟩ amount))]
  | pythonRequestSpend {agent : Signer K} {owner service : K} {vault : CreditVaultAccount K}
    {nonce amount : ℕ} {message : Message K}
    (built : Python.requestSpendMessage cluster agent owner service vault nonce amount =
      some message) :
    Composed cluster message
      [some (.vault (.requestSpend ⟨agent, findProgramAddress (.vault owner agent.key),
        associatedTokenAddress service vault.usdcMint,
        findProgramAddress (.pending (findProgramAddress (.vault owner agent.key)) nonce)⟩ amount))]
  | pythonRegisterService {sponsor service : Signer K} {name uri : PyString}
    {category : ServiceCategory} {message : Message K} {packedName : Bytes 32}
    {packedUri : Bytes 128}
    (built : Python.registerServiceMessage cluster sponsor service name category uri = .ok message)
    (named : Python.packFixed name nameBytes = .ok packedName)
    (located : Python.packFixed uri uriBytes = .ok packedUri) :
    Composed cluster message
      [some (.reputation (.registerService
        ⟨sponsor, service, findProgramAddress (.service service.key)⟩ packedName category packedUri))]
  | runtimePay {spender : Spender K} {service : Signer K} {items : List (ℕ × Hash)}
    (u64 : ∀ item ∈ items, item.1 < 2 ^ 64) :
    Composed cluster (spender.payMessage cluster service items)
      (((items.flatMap fun item => [spender.buildSpendIx service.key item.1,
        spender.recordPaymentIx service item.1 item.2]) ++ [spender.computeScoreIx]).map some)
  | runtimeRequestSpend {spender : Spender K} {service : K} {nonce amount : ℕ}
    (u64 : amount < 2 ^ 64) :
    Composed cluster (spender.requestSpendMessage cluster service nonce amount)
      [some (.vault (.requestSpend ⟨spender.agent, spender.vault,
        associatedTokenAddress service spender.usdcMint,
        findProgramAddress (.pending spender.vault nonce)⟩ amount))]
  | runtimeRegisterService {sponsor service : Signer K} {name : Bytes 32} {category : ServiceCategory}
    {uri : Bytes 128} :
    Composed cluster
      ⟨sponsor.key, [Runtime.registerServiceIx cluster sponsor.key service.key
        (findProgramAddress (.service service.key)) name (Python.categoryIndex category) uri]⟩
      [some (.reputation (.registerService
        ⟨sponsor, service, findProgramAddress (.service service.key)⟩ name category uri))]
  | mobileRegisterService {sponsor service : Signer K} {name uri : List UInt8}
    {category : ServiceCategory} :
    Composed cluster
      ⟨sponsor.key, [Mobile.registerServiceIx cluster sponsor.key service.key
        (findProgramAddress (.service service.key)) (Mobile.packFixed name 32)
        (Python.categoryIndex category) (Mobile.packFixed uri 128)]⟩
      [some (.reputation (.registerService
        ⟨sponsor, service, findProgramAddress (.service service.key)⟩ (Mobile.packFixed name 32)
        category (Mobile.packFixed uri 128)))]
  | mobileAction {owner : Signer K} {agent usdcMint : K} {action : Mobile.VaultAction K}
    {raw : RawInstruction K} (writable : action.Writable cluster)
    (built : action.instruction cluster (Mobile.accountsOf owner agent usdcMint) = some raw) :
    Composed cluster ⟨owner.key, [raw]⟩ [some (.vault (action.meant owner agent usdcMint))]
  | mobileProvision {owner agent : Signer K} {usdcMint : K} {uri : List UInt8}
    {id deposit perTx hourly lifetime : ℤ} {post : Bool} :
    Composed cluster
      (Mobile.provisionMessage cluster owner agent usdcMint uri id deposit perTx hourly lifetime post)
      ([some (.reputation (.initializeAgent ⟨owner, agent, findProgramAddress (.agent agent.key)⟩
          (Mobile.packFixed uri 128) (id % 2 ^ 64).toNat)),
        some (.vault (.createVault (Mobile.createVault owner agent.key usdcMint)
          (perTx % 2 ^ 64).toNat (hourly % 2 ^ 64).toNat (lifetime % 2 ^ 64).toNat post))] ++
        if 0 < Mobile.inMicro deposit then
          [some (.vault ((Mobile.VaultAction.fund deposit).meant owner agent.key usdcMint))]
        else [])
  | idl {feePayer : K} {raws : List (RawInstruction K)}
    {meant : List (Option (Backend.Instruction K))}
    (requested : List.Forall₂ (Requested cluster) raws meant) : Composed cluster ⟨feePayer, raws⟩ meant

/-- One instruction of a message: one of the two programs', as it is meant, or another program's. -/
inductive Part (cluster : Cluster K) (feePayer : K) (raw : RawInstruction K) :
    Option (Backend.Instruction K) → Prop
  | ours {ix : Backend.Instruction K} (means : Means cluster feePayer raw ix) :
    Part cluster feePayer raw (some ix)
  | others (vault : raw.programId ≠ cluster.programId .creditVault)
    (reputation : raw.programId ≠ cluster.programId .reputation) : Part cluster feePayer raw none

theorem Part.received [DecidableEq K] {tx : Transaction K}
    {meant : Option (Backend.Instruction K)} (part : Part cluster tx.feePayer raw meant)
    (listed : raw ∈ tx.instructions) : receive cluster (tx.deliver raw) raw = meant := by
  cases part with
  | ours means => exact means.received listed
  | others vault reputation =>
    unfold receive
    rw [if_neg vault, if_neg reputation]

theorem createAta_part {payer associatedToken owner mint : K} :
    Part cluster feePayer (Python.createAssociatedTokenAccountIdempotentInstruction cluster payer
      associatedToken owner mint) none := by
  constructor
  · intro same
    exact ProgramName.noConfusion (cluster.programId_injective same)
  · intro same
    exact ProgramName.noConfusion (cluster.programId_injective same)

theorem Requested.part {meant : Option (Backend.Instruction K)}
    (requested : Requested cluster raw meant) : Part cluster feePayer raw meant := by
  cases requested with
  | vault member listed describes accounts args valid =>
    have hashed := idl_discriminators _ (List.mem_append_left _ member)
    obtain ⟨sent, fits⟩ := sendVault_eq.mp ⟨_, listed, accounts, args, rfl, rfl, valid⟩
    rw [IdlInstruction.request_eq describes hashed]
    exact .ours (Means.of_send fits (congrArg some sent))
  | reputation member listed describes accounts args valid =>
    have hashed := idl_discriminators _ (List.mem_append_right _ member)
    obtain ⟨sent, fits⟩ := sendReputation_eq.mp ⟨_, listed, accounts, args, rfl, rfl, valid⟩
    rw [IdlInstruction.request_eq describes hashed]
    exact .ours (Means.of_send fits (congrArg some sent))
  | createAta => exact createAta_part

namespace Spender

variable {spender : Spender K} {service : Signer K} {items : List (ℕ × Hash)}

/-- Two instructions for each payment. -/
theorem payments_parts (u64 : ∀ item ∈ items, item.1 < 2 ^ 64) :
    List.Forall₂ (Part cluster feePayer)
      (items.flatMap fun item =>
        [spender.rawSpend cluster service.key item.1, spender.rawRecord cluster service.key item])
      ((items.flatMap fun item => [spender.buildSpendIx service.key item.1,
        spender.recordPaymentIx service item.1 item.2]).map some) := by
  induction items with
  | nil => exact .nil
  | cons item items ih =>
    rw [List.forall_mem_cons] at u64
    exact .cons (.ours (Runtime.spendIx_means _ _ _ _ _ u64.1))
      (.cons (.ours (Runtime.recordPaymentIx_means _ _ _ _ _ _ u64.1)) (ih u64.2))

end Spender

/-- Every instruction a client composes is what it is meant to be, in a message that is paid for as
the client says. -/
theorem Composed.parts {message : Message K} {meant : List (Option (Backend.Instruction K))}
    (composed : Composed cluster message meant) :
    List.Forall₂ (Part cluster message.feePayer) message.instructions meant := by
  -- What a builder was given is read off its result; then each instruction in turn.
  cases composed with
  | pythonPay built =>
    simp only [Python.payMessage, Option.bind_eq_bind, Option.bind_eq_some_iff,
      Python.spendIx_eq_some, Python.recordPaymentIx_eq_some, Option.some.injEq, Nat.cast_inj] at built
    obtain ⟨_, ⟨n, small, rfl, rfl⟩, _, ⟨_, _, rfl, rfl⟩, rfl⟩ := built
    exact .cons createAta_part (.cons (.ours (Runtime.spendIx_means _ _ _ _ _ small))
      (.cons (.ours (Runtime.recordPaymentIx_means _ _ _ _ _ _ small))
        (.cons (.ours (Runtime.computeScoreIx_means _ _ rfl)) .nil)))
  | pythonSpend built =>
    simp only [Python.spendMessage, Option.bind_eq_bind, Option.bind_eq_some_iff,
      Python.spendIx_eq_some, Option.some.injEq, Nat.cast_inj] at built
    obtain ⟨_, ⟨n, small, rfl, rfl⟩, rfl⟩ := built
    exact .cons createAta_part (.cons (.ours (Runtime.spendIx_means _ _ _ _ _ small)) .nil)
  | pythonRequestSpend built =>
    simp only [Python.requestSpendMessage, Option.bind_eq_bind, Option.bind_eq_some_iff,
      Python.requestSpendIx_eq_some, Option.some.injEq, Nat.cast_inj] at built
    obtain ⟨_, ⟨n, small, rfl, rfl⟩, rfl⟩ := built
    exact .cons (.ours (Runtime.requestSpendIx_means _ _ _ _ small)) .nil
  | pythonRegisterService built named located =>
    simp only [Python.registerServiceMessage, bind_eq_ok, pure_eq_ok,
      Python.registerServiceInstruction_eq_ok] at built
    obtain ⟨_, ⟨_, _, _, first, second, rfl⟩, rfl⟩ := built
    cases Except.ok.inj (first.symm.trans named)
    cases Except.ok.inj (second.symm.trans located)
    exact .cons (.ours (Runtime.registerServiceIx_means _ _ _ _ _ _)) .nil
  | runtimePay u64 =>
    rw [List.map_append]
    exact List.rel_append (Spender.payments_parts u64)
      (.cons (.ours (Runtime.computeScoreIx_means _ _ rfl)) .nil)
  | runtimeRequestSpend u64 => exact .cons (.ours (Runtime.requestSpendIx_means _ _ _ _ u64)) .nil
  | runtimeRegisterService =>
    exact .cons (.ours (Runtime.registerServiceIx_means _ _ _ _ _ _)) .nil
  | mobileRegisterService =>
    have same := Mobile.discriminators.2.2.2.2.2.2.2.2.2
    rw [Mobile.registerServiceIx, same]
    exact .cons (.ours (Runtime.registerServiceIx_means _ _ _ _ _ _)) .nil
  | mobileAction writable built =>
    exact .cons (.ours (Mobile.VaultAction.instruction_means _ _ _ writable built)) .nil
  | mobileProvision =>
    refine List.rel_append (.cons (.ours (Mobile.initializeAgentIx_means _ _ _ _ _))
      (.cons (.ours (Mobile.createVaultIx_means _ _ _ _ _ _ _)) .nil)) ?_
    split
    · exact .cons (.ours (Mobile.VaultAction.instruction_means _ _ _ trivial rfl)) .nil
    · exact .nil
  | idl requested => exact requested.imp fun _ _ request => request.part

/-- Whatever transaction a client composes and has signed, the programs take each of its
instructions for the one that was meant. -/
theorem transactions_arrive [DecidableEq K] {message : Message K}
    {meant : List (Option (Backend.Instruction K))} (composed : Composed cluster message meant)
    (tx : Transaction K) (same : tx.toMessage = message) :
    tx.instructions.map (fun raw => receive cluster (tx.deliver raw) raw) = meant := by
  subst same
  have listed := (List.forall₂_and_left tx.instructions meant).mpr ⟨fun _ => id, composed.parts⟩
  have received : List.Forall₂ (fun raw meant => receive cluster (tx.deliver raw) raw = meant)
      tx.instructions meant := listed.imp fun _ _ part => part.2.received part.1
  rwa [← List.forall₂_map_left_iff (f := fun raw => receive cluster (tx.deliver raw) raw),
    List.forall₂_eq_eq_eq] at received

/-! ### A transaction on symbolic keys -/

section Market

open SymbolicKey

/-- Programs at wallets of their own; wallets are written by their numbers. -/
def marketCluster : Cluster SymbolicKey where
  programId
    | .creditVault => .wallet 101
    | .reputation => .wallet 102
    | .token => .wallet 103
    | .associatedToken => .wallet 104
    | .system => .wallet 0
  programId_injective := by
    intro first second same
    cases first <;> cases second <;> first | rfl | cases same
  pubkey :=
    { Valid := fun key => ∃ n < 256 ^ 32, key = .wallet n
      write := fun
        | .wallet n => Format.writeNat 32 n
        | _ => []
      read := fun bytes => (Format.readNat 32 bytes).map fun (n, rest) => (.wallet n, rest)
      read_write := by
        rintro _ rest ⟨n, fits, rfl⟩
        simp only [Format.readNat_writeNat 32 n rest fits, Option.map_some]
      write_read := by
        intro bytes key rest taken
        simp only [Option.map_eq_some_iff, Prod.exists, Prod.mk.injEq] at taken
        obtain ⟨n, _, read, rfl, rfl⟩ := taken
        obtain ⟨fits, written⟩ := Format.writeNat_readNat read
        exact ⟨⟨n, fits, rfl⟩, written⟩ }

def marketPayment : ℕ × Hash := (5, Vector.replicate 32 7)

/-- The runtime pays the service of the market, and computes the score that follows. -/
def paying : Transaction SymbolicKey where
  toMessage := marketSpender.payMessage marketCluster Vault.Market.service [marketPayment]
  signed := by
    intro key signs
    -- Agent and service sign, whatever the data of the instructions.
    have either : key = marketSpender.agent.key ∨ key = Vault.Market.service.key := by
      simp only [Message.signs, Spender.payMessage, Spender.rawSpend, Spender.rawRecord, Runtime.spendIx,
        Runtime.recordPaymentIx, Runtime.computeScoreIx, List.flatMap_cons, List.flatMap_nil,
        List.cons_append, List.nil_append, List.any_cons, List.any_nil, Bool.and_true, Bool.and_false,
        Bool.or_false, Bool.or_eq_true, decide_eq_true_eq] at signs
      rcases signs with same | same | same | same
      · exact .inl same
      · exact .inl same.symm
      · exact .inr same.symm
      · exact .inl same.symm
    rcases either with rfl | rfl
    · exact marketSpender.agent.canSign
    · exact Vault.Market.service.canSign

/-- The score is computed for a caller that the client lists as read-only. -/
theorem transactions_arrive_paying :
    paying.instructions.map (fun raw => receive marketCluster (paying.deliver raw) raw) =
      [some (marketSpender.buildSpendIx Vault.Market.service.key 5),
        some (marketSpender.recordPaymentIx Vault.Market.service 5 (Vector.replicate 32 7)),
        some marketSpender.computeScoreIx] := by
  have u64 : ∀ item ∈ [marketPayment], item.1 < 2 ^ 64 := by simp [marketPayment]
  exact transactions_arrive (.runtimePay u64) paying rfl

end Market

end AgentFuel.Clients
