import AgentFuel.Clients.Batch
import AgentFuel.Clients.Guardrails
import AgentFuel.Library.Pool

/-!
# Calls of clients that meet on the chain

`pay` and `request_spend` of the clients as the questions they ask an RPC node: they read accounts,
compose one transaction, send it and wait. Calls of many clients and transactions of anybody else
interleave. A client can lose sight of a transaction that lands, at once or much later. Two clients
that compose the same bytes send one transaction: its signature is the same, and so is its fate.
-/
namespace AgentFuel.Clients.Calls

open Backend Checked Solana

deriving instance DecidableEq for Signer
deriving instance DecidableEq for TokenInstruction
deriving instance DecidableEq for Vault.CreateVault, Vault.Deposit, Vault.Spend, Vault.FreezeVault,
  Vault.UpdatePolicy, Vault.Withdraw, Vault.Claim, Vault.RequestSpend, Vault.ApproveSpend, Vault.CancelSpend
deriving instance DecidableEq for Vault.Instruction
deriving instance DecidableEq for Reputation.InitializeAgent, Reputation.RegisterService,
  Reputation.SetServiceActive, Reputation.RecordPayment, Reputation.GiveFeedback,
  Reputation.AppendResponse, Reputation.RevokeFeedback, Reputation.ComputeScore
deriving instance DecidableEq for Reputation.Instruction
deriving instance DecidableEq for Backend.Instruction

variable {K : Type} [DecidableEq K] [AddressSpace K]

/-! ### The network -/

/-- A transaction. `create_associated_token_account_idempotent` comes first, if there is one. -/
structure Tx (K : Type) [AddressSpace K] where
  opens : Option (Signer K × K × K)
  instructions : List (Backend.Instruction K)
  deriving DecidableEq

/-- The wallet's associated account is there and is the wallet's. -/
def Opened (p : Programs K) (wallet mint : K) : Prop :=
  ∃ account, p.vault.tokens.accounts (associatedTokenAddress wallet mint) = some account ∧
    account.owner = wallet ∧ account.mint = mint

instance (p : Programs K) (wallet mint : K) : Decidable (Opened p wallet mint) :=
  match found : p.vault.tokens.accounts (associatedTokenAddress wallet mint) with
  | none => isFalse (by
      rintro ⟨account, held, -⟩
      rw [found] at held
      cases held)
  | some account => decidable_of_iff (account.owner = wallet ∧ account.mint = mint) (by
      constructor
      · exact fun same => ⟨account, found, same⟩
      · rintro ⟨other, held, same⟩
        obtain rfl := Option.some.inj (found.symm.trans held)
        exact same)

/-- What a transaction runs in this state: an account that is there is not created again. -/
def Tx.resolve (tx : Tx K) (p : Programs K) : List (Backend.Instruction K) :=
  match tx.opens with
  | none => tx.instructions
  | some (payer, wallet, mint) =>
    if Opened p wallet mint then tx.instructions
    else .token (.createAssociatedToken payer wallet mint) :: tx.instructions

inductive RpcError where
  /-- The node did not answer, or not in time. -/
  | transport
  /-- The transaction failed in the simulation or on the chain. -/
  | refused (e : ChainError)

inductive Query (K : Type) [AddressSpace K] where
  | vault (address : K)
  | policy (address : K)
  | slot
  | send (tx : Tx K)
  /-- Wait until a transaction is confirmed. -/
  | confirm (signature : String)

/-- An account that is not there is read as none; a transaction is known by its signature. -/
def Query.Row : Query K → Type
  | vault _ => Option (Vault.CreditVault K)
  | policy _ => Option (Vault.SpendPolicy K)
  | slot => Nat
  | send _ => String
  | confirm _ => Unit

abbrev Query.Answer (q : Query K) : Type := Except RpcError q.Row

inductive Status where
  | onTheWay
  | landed
  | failed (e : ChainError)

/-- The chain, and what became of the transactions that were sent, by their signatures. -/
structure Net (K : Type) [AddressSpace K] where
  chain : Chain K
  sent : String → Option (Tx K × Status)

/-- A node with transactions on their way. -/
def Net.start (chain : Chain K) (onTheWay : String → Option (Tx K)) : Net K :=
  ⟨chain, fun signature => (onTheWay signature).map fun tx => (tx, .onTheWay)⟩

def Net.record (net : Net K) (signature : String) (tx : Tx K) (status : Status) : Net K :=
  { net with sent := Function.update net.sent signature (some (tx, status)) }

def Net.execute (net : Net K) (signature : String) (tx : Tx K) : Except ChainError (Chain K) :=
  net.chain.step (.transaction signature (tx.resolve net.chain.programs))

/-- `sendTransaction`: the node simulates the transaction before it takes it. Signatures are a
function of the bytes, recent blockhash included, and no two transactions share one. -/
def Net.take (net : Net K) (signature : String) (tx : Tx K) : Net K × Except RpcError String :=
  match net.execute signature tx with
  | .error e => (net, .error (.refused e))
  | .ok _ =>
    match net.sent signature with
    | none => (net.record signature tx .onTheWay, .ok signature)
    -- The same bytes again, which the node has and need not take twice.
    | some (other, .onTheWay) => (net, if other = tx then .ok signature else .error .transport)
    | some _ => (net, .error (.refused .duplicate))

/-- A transaction that fails changes nothing. -/
def Net.land (net : Net K) (signature : String) : Net K :=
  match net.sent signature with
  | some (tx, .onTheWay) =>
    match net.execute signature tx with
    | .ok chain => { net with chain }.record signature tx .landed
    | .error e => net.record signature tx (.failed e)
  | _ => net

/-- `getSignatureStatuses`; a client gives up while there is no status. -/
def Net.status (net : Net K) (signature : String) : Except RpcError Unit :=
  match net.sent signature with
  | some (_, .landed) => .ok ()
  | some (_, .failed e) => .error (.refused e)
  | _ => .error .transport

/-- How a question to the node turns out. -/
inductive Outcome where
  | answered
  /-- Done, but the client does not hear of it. -/
  | unseen
  | lost
  deriving DecidableEq

/-- What reaches the client. -/
def heard {A : Type} (outcome : Outcome) (a : Except RpcError A) : Except RpcError A :=
  if outcome = .answered then a else .error .transport

def answer (net : Net K) (chance : Outcome × String) : (q : Query K) → Net K × q.Answer
  | .vault address => (net, heard chance.1 (.ok (net.chain.programs.vault.vaults address)))
  | .policy address => (net, heard chance.1 (.ok (net.chain.programs.vault.policies address)))
  | .slot => (net, heard chance.1 (.ok net.chain.programs.vault.slot))
  | .send tx =>
    match chance.1 with
    | .answered => net.take chance.2 tx
    | .unseen => ((net.take chance.2 tx).1, .error .transport)
    | .lost => (net, .error .transport)
  | .confirm signature => (net, heard chance.1 (net.status signature))

/-- What happens besides: transactions of anybody and time, and what is on its way lands. -/
inductive Move (K : Type) [AddressSpace K] where
  | chain (act : ChainAction K)
  | land (signature : String)

def move (net : Net K) : Move K → Net K
  | .chain act => { net with chain := Transition.settle Chain.step net.chain act }
  | .land signature => net.land signature

def network : Pool.World (Net K) (Move K) (Outcome × String) (Query K) Query.Answer where
  answer := answer
  move := move

/-! ### The clients -/

/-- The process of the client ends. -/
inductive Stopped where
  | gone

inductive CallError (K : Type) where
  | zeroAmount
  /-- `receipt_hash must be 32 bytes` -/
  | receiptLength (length : Nat)
  | accountNotFound (address : K)
  | unsafeNumber
  | policy (e : SpendPolicyError K)
  /-- An amount that does not go into its eight bytes. -/
  | amountRange
  | noItems
  | rpc (e : RpcError)

inductive Reply (K : Type) where
  | paid (signature : String)
  | requested (signature : String) (pendingSpend : K) (nonce : Nat)
  | failed (e : CallError K)

abbrev Client (K : Type) [AddressSpace K] (A : Type) : Type :=
  Dialogue Stopped (Query K) Query.Answer A

def ask (q : Query K) : Client K (Except RpcError q.Row) := Dialogue.question q

/-- `_fetch_account_data`, `fetchNullable`: go on with the account that was read. -/
def fetched {A : Type} (address : K) (read : Client K (Except RpcError (Option A)))
    (next : A → Client K (Reply K)) : Client K (Reply K) := do
  match ← read with
  | .error e => pure (.failed (.rpc e))
  | .ok none => pure (.failed (.accountNotFound address))
  | .ok (some account) => next account

def sendAndConfirm (tx : Tx K) (reply : String → Reply K) : Client K (Reply K) := do
  match ← ask (.send tx) with
  | .error e => pure (.failed (.rpc e))
  | .ok signature =>
    match ← ask (.confirm signature) with
    | .error e => pure (.failed (.rpc e))
    | .ok () => pure (reply signature)

/-- What both SDKs send for a payment. -/
def payment (agent service : Signer K) (owner mint purse : K) (amount : Nat) (hash : Hash) : Tx K :=
  let spender : Spender K := ⟨agent, owner, mint⟩
  { opens := some (agent, service.key, mint)
    instructions :=
      [.vault (.spend { spender.spend service.key with vaultTokenAccount := purse } amount),
        spender.recordPaymentIx service amount hash, spender.computeScoreIx] }

def requestSpendIx (agent : Signer K) (vault purse pending : K) (amount : Nat) :
    Backend.Instruction K :=
  .vault (.requestSpend ⟨agent, vault, purse, pending⟩ amount)

/-- `bytes` of length 32. -/
def hashOf (bytes : List UInt8) : Option Hash :=
  if fits : bytes.length = 32 then some ⟨bytes.toArray, by rw [List.size_toArray, fits]⟩ else none

namespace Python

def pay (agent service : Signer K) (owner : K) (amountUsdc : Int) (receiptHash : List UInt8) :
    Client K (Reply K) :=
  if amountUsdc ≤ 0 then pure (.failed .zeroAmount)
  else
    match hashOf receiptHash with
    | none => pure (.failed (.receiptLength receiptHash.length))
    | some hash =>
      let vaultAddr := findProgramAddress (.vault owner agent.key)
      let policyAddr := findProgramAddress (.policy vaultAddr)
      fetched vaultAddr (ask (.vault vaultAddr)) fun rawVault =>
        fetched policyAddr (ask (.policy policyAddr)) fun rawPolicy => do
          match ← ask .slot with
          | .error e => pure (.failed (.rpc e))
          | .ok currentSlot =>
            match Python.guardSpend (Python.decodeCreditVault vaultAddr rawVault)
                (Python.decodeSpendPolicy policyAddr rawPolicy) service.key amountUsdc
                (Int.ofNat currentSlot) with
            | .error e => pure (.failed (.policy e))
            | .ok () =>
              if 2 ^ 64 ≤ amountUsdc then pure (.failed .amountRange)
              else
                sendAndConfirm (payment agent service owner rawVault.usdcMint
                  rawVault.vaultTokenAccount amountUsdc.toNat hash) .paid

def requestSpend (agent : Signer K) (owner service : K) (amountUsdc : Int) : Client K (Reply K) :=
  if amountUsdc ≤ 0 then pure (.failed .zeroAmount)
  else
    let vaultAddr := findProgramAddress (.vault owner agent.key)
    fetched vaultAddr (ask (.vault vaultAddr)) fun vault =>
      let nonce := vault.pendingCount
      let pending := findProgramAddress (.pending vaultAddr nonce)
      if 2 ^ 64 ≤ amountUsdc then pure (.failed .amountRange)
      else
        sendAndConfirm ⟨none, [requestSpendIx agent vaultAddr
          (associatedTokenAddress service vault.usdcMint) pending amountUsdc.toNat]⟩
          fun signature => .requested signature pending nonce

end Python

namespace TypeScript

/-- The two accounts as the decoders hand them to the guard. -/
def decoded (vaultAddr policyAddr : K) (rawVault : Vault.CreditVault K)
    (rawPolicy : Vault.SpendPolicy K) :
    Except Clients.TypeScript.DecodeError (CreditVaultAccount K × SpendPolicyAccount K) := do
  let vault ← Clients.TypeScript.decodeCreditVault vaultAddr rawVault
  let policy ← Clients.TypeScript.decodeSpendPolicy policyAddr rawPolicy
  pure (vault, policy)

/-- In which order the three requests of a `Promise.all` are answered. -/
inductive ReadOrder where
  | vaultPolicySlot
  | vaultSlotPolicy
  | policyVaultSlot
  | policySlotVault
  | slotVaultPolicy
  | slotPolicyVault

/-- The results of the requests, which were under way at once. -/
structure Fetched (K : Type) [AddressSpace K] where
  vault : Except RpcError (Option (Vault.CreditVault K))
  policy : Except RpcError (Option (Vault.SpendPolicy K))
  slot : Except RpcError Nat

def fetchAll (vaultAddr policyAddr : K) : ReadOrder → Client K (Fetched K)
  | .vaultPolicySlot => do
    let vault ← ask (.vault vaultAddr)
    let policy ← ask (.policy policyAddr)
    let slot ← ask .slot
    pure ⟨vault, policy, slot⟩
  | .vaultSlotPolicy => do
    let vault ← ask (.vault vaultAddr)
    let slot ← ask .slot
    let policy ← ask (.policy policyAddr)
    pure ⟨vault, policy, slot⟩
  | .policyVaultSlot => do
    let policy ← ask (.policy policyAddr)
    let vault ← ask (.vault vaultAddr)
    let slot ← ask .slot
    pure ⟨vault, policy, slot⟩
  | .policySlotVault => do
    let policy ← ask (.policy policyAddr)
    let slot ← ask .slot
    let vault ← ask (.vault vaultAddr)
    pure ⟨vault, policy, slot⟩
  | .slotVaultPolicy => do
    let slot ← ask .slot
    let vault ← ask (.vault vaultAddr)
    let policy ← ask (.policy policyAddr)
    pure ⟨vault, policy, slot⟩
  | .slotPolicyVault => do
    let slot ← ask .slot
    let policy ← ask (.policy policyAddr)
    let vault ← ask (.vault vaultAddr)
    pure ⟨vault, policy, slot⟩

/-- The `Promise.all` fails if one of the requests does. -/
def Fetched.all (fetched : Fetched K) :
    Except RpcError (Option (Vault.CreditVault K) × Option (Vault.SpendPolicy K) × Nat) := do
  let vault ← fetched.vault
  let policy ← fetched.policy
  let slot ← fetched.slot
  pure (vault, policy, slot)

/-- `new BN(amountUsdc)` takes safe integers. -/
def pay (order : ReadOrder) (agent service : Signer K) (owner : K) (amountUsdc : Int)
    (receiptHash : List UInt8) : Client K (Reply K) :=
  if amountUsdc ≤ 0 then pure (.failed .zeroAmount)
  else
    match hashOf receiptHash with
    | none => pure (.failed (.receiptLength receiptHash.length))
    | some hash =>
      let vaultAddr := findProgramAddress (.vault owner agent.key)
      let policyAddr := findProgramAddress (.policy vaultAddr)
      do
        match (← fetchAll vaultAddr policyAddr order).all with
        | .error e => pure (.failed (.rpc e))
        | .ok (none, _, _) => pure (.failed (.accountNotFound vaultAddr))
        | .ok (some _, none, _) => pure (.failed (.accountNotFound policyAddr))
        | .ok (some rawVault, some rawPolicy, currentSlot) =>
          match decoded vaultAddr policyAddr rawVault rawPolicy with
          | .error _ => pure (.failed .unsafeNumber)
          | .ok (vault, policy) =>
            match Clients.TypeScript.guardSpend vault policy service.key amountUsdc
                (Int.ofNat currentSlot) with
            | .error e => pure (.failed (.policy e))
            | .ok () =>
              if Numbers.maxSafe < amountUsdc then pure (.failed .amountRange)
              else
                sendAndConfirm (payment agent service owner rawVault.usdcMint
                  rawVault.vaultTokenAccount amountUsdc.toNat hash) .paid

def requestSpend (agent : Signer K) (owner service : K) (amountUsdc : Int) : Client K (Reply K) :=
  if amountUsdc ≤ 0 then pure (.failed .zeroAmount)
  else
    let vaultAddr := findProgramAddress (.vault owner agent.key)
    fetched vaultAddr (ask (.vault vaultAddr)) fun rawVault =>
      match Clients.TypeScript.decodeCreditVault vaultAddr rawVault with
      | .error _ => pure (.failed .unsafeNumber)
      | .ok vault =>
        let nonce := vault.pendingCount.toNat
        let pendingSpend := findProgramAddress (.pending vaultAddr nonce)
        if Numbers.maxSafe < amountUsdc then pure (.failed .amountRange)
        else
          sendAndConfirm ⟨none, [requestSpendIx agent vaultAddr
            (associatedTokenAddress service vault.usdcMint) pendingSpend amountUsdc.toNat]⟩
            fun signature => .requested signature pendingSpend nonce

end TypeScript

/-! ### The runtime -/

namespace Runtime

variable (spender : Spender K)

/-- `Spender::pay` -/
def pay (service : Signer K) (item : Nat × Hash) : Client K (Reply K) :=
  sendAndConfirm ⟨none, [spender.buildSpendIx service.key item.1,
    spender.recordPaymentIx service item.1 item.2, spender.computeScoreIx]⟩ .paid

/-- `Spender::pay_batch` -/
def payBatch (service : Signer K) (items : List (Nat × Hash)) : Client K (Reply K) :=
  if items = [] then pure (.failed .noItems)
  else
    let ixs := items.flatMap fun item =>
      [spender.buildSpendIx service.key item.1, spender.recordPaymentIx service item.1 item.2]
    sendAndConfirm ⟨none, ixs ++ [spender.computeScoreIx]⟩ .paid

/-- `Spender::request_spend` -/
def requestSpend (service : K) (amountMicro : Nat) : Client K (Reply K) :=
  fetched spender.vault (ask (.vault spender.vault)) fun account =>
    let nonce := account.pendingCount
    let pendingSpend := findProgramAddress (.pending spender.vault nonce)
    sendAndConfirm ⟨none, [requestSpendIx spender.agent spender.vault
      (associatedTokenAddress service spender.usdcMint) pendingSpend amountMicro]⟩
      fun signature => .requested signature pendingSpend nonce

end Runtime

/-- The calls that can be under way. -/
inductive Call (K : Type) [AddressSpace K] where
  | pythonPay (agent service : Signer K) (owner : K) (amountUsdc : Int) (receiptHash : List UInt8)
  | typescriptPay (order : TypeScript.ReadOrder) (agent service : Signer K) (owner : K) (amountUsdc : Int)
    (receiptHash : List UInt8)
  | pay (spender : Spender K) (service : Signer K) (item : Nat × Hash)
  | payBatch (spender : Spender K) (service : Signer K) (items : List (Nat × Hash))
  | pythonRequest (agent : Signer K) (owner service : K) (amountUsdc : Int)
  | typescriptRequest (agent : Signer K) (owner service : K) (amountUsdc : Int)
  | request (spender : Spender K) (service : K) (amountMicro : Nat)

def Call.program : Call K → Client K (Reply K)
  | pythonPay agent service owner amountUsdc receiptHash =>
    Python.pay agent service owner amountUsdc receiptHash
  | typescriptPay order agent service owner amountUsdc receiptHash =>
    TypeScript.pay order agent service owner amountUsdc receiptHash
  | pay spender service item => Runtime.pay spender service item
  | payBatch spender service items => Runtime.payBatch spender service items
  | pythonRequest agent owner service amountUsdc => Python.requestSpend agent owner service amountUsdc
  | typescriptRequest agent owner service amountUsdc =>
    TypeScript.requestSpend agent owner service amountUsdc
  | request spender service amountMicro => Runtime.requestSpend spender service amountMicro

abbrev Traffic (K : Type) [AddressSpace K] : Type :=
  Pool.State (Net K) (Call K) Stopped (Query K) Query.Answer (Reply K)

abbrev Acted (K : Type) [AddressSpace K] : Type :=
  Transition.Fired (Traffic K) (Pool.Action (Move K) (Outcome × String) (Call K) Stopped)

/-- Calls that begin while some transactions are on their way. -/
abbrev Meeting (chain : Chain K) (onTheWay : String → Option (Tx K)) (log : List (Acted K))
    (t : Traffic K) : Prop :=
  Pool.PoolRun network Call.program (.start (.start chain onTheWay)) log t

end AgentFuel.Clients.Calls
