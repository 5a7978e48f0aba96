import AgentFuel.Library.Encodings
import AgentFuel.Library.Format
import AgentFuel.Library.Json
import AgentFuel.Reputation.State
import AgentFuel.Vault.State

/-!
# The events on both sides of the wire

The programs declare an event as a structure, and Anchor writes its fields in Borsh behind an
8-byte discriminator. The backend declares the same structures once more; its derived reader
and serializer go by the order and the names of their fields.
-/
namespace AgentFuel.Backend

open Encodings Solana Vault Reputation

variable {K S : Type}

/-- The names of the events, in the order of the dispatch table of `decode`. -/
inductive EventName where
  | agentInitialized
  | serviceRegistered
  | serviceActiveSet
  | paymentRecorded
  | feedbackGiven
  | responseAppended
  | feedbackRevoked
  | scoreComputed
  | vaultCreated
  | deposited
  | spent
  | claimed
  | vaultFrozen
  | vaultUnfrozen
  | policyUpdated
  | withdrawn
  | spendRequested
  | spendRejected
  deriving DecidableEq, Repr

/-- `EventDescriptor::NAME` -/
def EventName.text : EventName → String
  | agentInitialized => "AgentInitialized"
  | serviceRegistered => "ServiceRegistered"
  | serviceActiveSet => "ServiceActiveSet"
  | paymentRecorded => "PaymentRecorded"
  | feedbackGiven => "FeedbackGiven"
  | responseAppended => "ResponseAppended"
  | feedbackRevoked => "FeedbackRevoked"
  | scoreComputed => "ScoreComputed"
  | vaultCreated => "VaultCreated"
  | deposited => "Deposited"
  | spent => "Spent"
  | claimed => "Claimed"
  | vaultFrozen => "VaultFrozen"
  | vaultUnfrozen => "VaultUnfrozen"
  | policyUpdated => "PolicyUpdated"
  | withdrawn => "Withdrawn"
  | spendRequested => "SpendRequested"
  | spendRejected => "SpendRejected"

/-! ### The events as the programs emit them -/

/-- A field of an on-chain event. -/
inductive Field (K : Type) where
  | pubkey (key : K)
  | u64 (n : Nat)
  | u32 (n : Nat)
  | u16 (n : Nat)
  | i8 (v : Int)
  | bool (b : Bool)
  | hash (h : Hash)
  | name (bytes : Bytes 32)
  | category (c : ServiceCategory)
  | pubkeys (keys : Vector K whitelistLen)

/-- An event of one of the two programs. -/
inductive Event (K : Type) where
  | vault (event : VaultEvent K)
  | reputation (event : ReputationEvent K)
  deriving DecidableEq

def Event.name : Event K → EventName
  | vault (.vaultCreated ..) => .vaultCreated
  | vault (.deposited ..) => .deposited
  | vault (.spent ..) => .spent
  | vault (.claimed ..) => .claimed
  | vault (.vaultFrozen ..) => .vaultFrozen
  | vault (.vaultUnfrozen ..) => .vaultUnfrozen
  | vault (.policyUpdated ..) => .policyUpdated
  | vault (.withdrawn ..) => .withdrawn
  | vault (.spendRequested ..) => .spendRequested
  | vault (.spendRejected ..) => .spendRejected
  | reputation (.agentInitialized ..) => .agentInitialized
  | reputation (.serviceRegistered ..) => .serviceRegistered
  | reputation (.serviceActiveSet ..) => .serviceActiveSet
  | reputation (.paymentRecorded ..) => .paymentRecorded
  | reputation (.feedbackGiven ..) => .feedbackGiven
  | reputation (.responseAppended ..) => .responseAppended
  | reputation (.feedbackRevoked ..) => .feedbackRevoked
  | reputation (.scoreComputed ..) => .scoreComputed

/-- The structures of `credit_vault/src/events.rs`. -/
def vaultFields : VaultEvent K → List (String × Field K)
  | .vaultCreated vault owner agent usdcMint vaultTokenAccount slot =>
    [("vault", .pubkey vault), ("owner", .pubkey owner), ("agent", .pubkey agent),
      ("usdc_mint", .pubkey usdcMint), ("vault_token_account", .pubkey vaultTokenAccount),
      ("slot", .u64 slot)]
  | .deposited vault owner amountUsdc newTotalDeposited slot =>
    [("vault", .pubkey vault), ("owner", .pubkey owner), ("amount_usdc", .u64 amountUsdc),
      ("new_total_deposited", .u64 newTotalDeposited), ("slot", .u64 slot)]
  | .spent vault agent service amountUsdc newTotalSpent slot =>
    [("vault", .pubkey vault), ("agent", .pubkey agent), ("service", .pubkey service),
      ("amount_usdc", .u64 amountUsdc), ("new_total_spent", .u64 newTotalSpent),
      ("slot", .u64 slot)]
  | .claimed vault service amountUsdc newTotalSpent newTotalClaimed slot =>
    [("vault", .pubkey vault), ("service", .pubkey service), ("amount_usdc", .u64 amountUsdc),
      ("new_total_spent", .u64 newTotalSpent), ("new_total_claimed", .u64 newTotalClaimed),
      ("slot", .u64 slot)]
  | .vaultFrozen vault owner slot =>
    [("vault", .pubkey vault), ("owner", .pubkey owner), ("slot", .u64 slot)]
  | .vaultUnfrozen vault owner slot =>
    [("vault", .pubkey vault), ("owner", .pubkey owner), ("slot", .u64 slot)]
  | .policyUpdated vault owner perTxLimitUsdc hourlyLimitUsdc lifetimeLimitUsdc allowPostPay
      whitelist slot =>
    [("vault", .pubkey vault), ("owner", .pubkey owner),
      ("per_tx_limit_usdc", .u64 perTxLimitUsdc), ("hourly_limit_usdc", .u64 hourlyLimitUsdc),
      ("lifetime_limit_usdc", .u64 lifetimeLimitUsdc), ("allow_post_pay", .bool allowPostPay),
      ("whitelist", .pubkeys whitelist), ("slot", .u64 slot)]
  | .withdrawn vault owner amountUsdc newTotalWithdrawn slot =>
    [("vault", .pubkey vault), ("owner", .pubkey owner), ("amount_usdc", .u64 amountUsdc),
      ("new_total_withdrawn", .u64 newTotalWithdrawn), ("slot", .u64 slot)]
  | .spendRequested vault agent service pendingSpend amountUsdc nonce slot =>
    [("vault", .pubkey vault), ("agent", .pubkey agent), ("service", .pubkey service),
      ("pending_spend", .pubkey pendingSpend), ("amount_usdc", .u64 amountUsdc),
      ("nonce", .u64 nonce), ("slot", .u64 slot)]
  | .spendRejected vault owner pendingSpend nonce slot =>
    [("vault", .pubkey vault), ("owner", .pubkey owner),
      ("pending_spend", .pubkey pendingSpend), ("nonce", .u64 nonce), ("slot", .u64 slot)]

/-- The structures of `reputation/src/events.rs`. -/
def reputationFields : ReputationEvent K → List (String × Field K)
  | .agentInitialized agent owner initSlot =>
    [("agent", .pubkey agent), ("owner", .pubkey owner), ("init_slot", .u64 initSlot)]
  | .serviceRegistered service sponsor name category initSlot =>
    [("service", .pubkey service), ("sponsor", .pubkey sponsor), ("name", .name name),
      ("category", .category category), ("init_slot", .u64 initSlot)]
  | .serviceActiveSet service active slot =>
    [("service", .pubkey service), ("active", .bool active), ("slot", .u64 slot)]
  | .paymentRecorded agent service amountUsdc paymentReceiptHash wasNewPair slot =>
    [("agent", .pubkey agent), ("service", .pubkey service), ("amount_usdc", .u64 amountUsdc),
      ("payment_receipt_hash", .hash paymentReceiptHash), ("was_new_pair", .bool wasNewPair),
      ("slot", .u64 slot)]
  | .feedbackGiven agent service feedback paymentReceiptHash value tags slot =>
    [("agent", .pubkey agent), ("service", .pubkey service), ("feedback", .pubkey feedback),
      ("payment_receipt_hash", .hash paymentReceiptHash), ("value", .i8 value),
      ("tags", .u32 tags), ("slot", .u64 slot)]
  | .responseAppended agent feedback responder slot =>
    [("agent", .pubkey agent), ("feedback", .pubkey feedback), ("responder", .pubkey responder),
      ("slot", .u64 slot)]
  | .feedbackRevoked agent service feedback wasNegative slot =>
    [("agent", .pubkey agent), ("service", .pubkey service), ("feedback", .pubkey feedback),
      ("was_negative", .bool wasNegative), ("slot", .u64 slot)]
  | .scoreComputed agent score slot =>
    [("agent", .pubkey agent), ("score", .u16 score), ("slot", .u64 slot)]

/-- The fields of an event, in their order. -/
def Event.fields : Event K → List (String × Field K)
  | vault event => vaultFields event
  | reputation event => reputationFields event

/-- The variant tag Borsh writes. -/
def categoryTag : ServiceCategory → Nat
  | .dataFeed => 0
  | .compute => 1
  | .swap => 2
  | .rpc => 3
  | .other => 4

/-- A value of the type the field is declared with. -/
def Field.Valid : Field K → Prop
  | u64 n => n < 2 ^ 64
  | u32 n => n < 2 ^ 32
  | u16 n => n < 2 ^ 16
  | i8 v => -128 ≤ v ∧ v ≤ 127
  | _ => True

instance Field.decidableValid (field : Field K) : Decidable field.Valid :=
  match field with
  | .u64 n => inferInstanceAs (Decidable (n < 2 ^ 64))
  | .u32 n => inferInstanceAs (Decidable (n < 2 ^ 32))
  | .u16 n => inferInstanceAs (Decidable (n < 2 ^ 16))
  | .i8 v => inferInstanceAs (Decidable (-128 ≤ v ∧ v ≤ 127))
  | .pubkey _ | .bool _ | .hash _ | .name _ | .category _ | .pubkeys _ => isTrue trivial

def Event.Valid (event : Event K) : Prop := ∀ f ∈ event.fields, f.2.Valid

instance Event.decidableValid (event : Event K) : Decidable event.Valid :=
  inferInstanceAs (Decidable (∀ f ∈ event.fields, f.2.Valid))

/-! ### The Borsh encoding on chain -/

/-- `Pubkey` -/
abbrev Pubkey := Vector UInt8 32

def Field.borsh : Field Pubkey → Binary
  | pubkey key => key.toList
  | u64 n => Format.writeNat 8 n
  | u32 n => Format.writeNat 4 n
  | u16 n => Format.writeNat 2 n
  | i8 v => [UInt8.ofNat (v % 256).toNat]
  | bool b => [if b then 1 else 0]
  | hash h => h.toList
  | name bytes => bytes.toList
  | category c => [UInt8.ofNat (categoryTag c)]
  | pubkeys keys => keys.toList.flatMap Vector.toList

def Event.borsh (event : Event Pubkey) : Binary := event.fields.flatMap fun f => f.2.borsh

/-- What `emit!` logs. The first bytes are a hash of the event's name. -/
def Event.data (discriminator : EventName → Vector UInt8 8) (event : Event Pubkey) : Binary :=
  (discriminator event.name).toList ++ event.borsh

/-! ### The structures of the backend -/

/-- The field types of `events/vault.rs` and `events/reputation.rs`. -/
inductive FieldType where
  | pubkeyBytes
  | hash32
  | nameBytes
  | u8
  | u16
  | u32
  | u64
  | i8
  | bool
  | whitelist
  deriving DecidableEq

def FieldType.Carrier (K : Type) : FieldType → Type
  | pubkeyBytes => K
  | hash32 => Hash
  | nameBytes => Bytes 32
  | u8 | u16 | u32 | u64 => Nat
  | i8 => Int
  | bool => Bool
  | whitelist => Vector K whitelistLen

/-- The structure the backend declares for an event. -/
def EventName.layout : EventName → List (String × FieldType)
  | agentInitialized =>
    [("agent", .pubkeyBytes), ("owner", .pubkeyBytes), ("init_slot", .u64)]
  | serviceRegistered =>
    [("service", .pubkeyBytes), ("sponsor", .pubkeyBytes), ("name", .nameBytes),
      ("category", .u8), ("init_slot", .u64)]
  | serviceActiveSet => [("service", .pubkeyBytes), ("active", .bool), ("slot", .u64)]
  | paymentRecorded =>
    [("agent", .pubkeyBytes), ("service", .pubkeyBytes), ("amount_usdc", .u64),
      ("payment_receipt_hash", .hash32), ("was_new_pair", .bool), ("slot", .u64)]
  | feedbackGiven =>
    [("agent", .pubkeyBytes), ("service", .pubkeyBytes), ("feedback", .pubkeyBytes),
      ("payment_receipt_hash", .hash32), ("value", .i8), ("tags", .u32), ("slot", .u64)]
  | responseAppended =>
    [("agent", .pubkeyBytes), ("feedback", .pubkeyBytes), ("responder", .pubkeyBytes),
      ("slot", .u64)]
  | feedbackRevoked =>
    [("agent", .pubkeyBytes), ("service", .pubkeyBytes), ("feedback", .pubkeyBytes),
      ("was_negative", .bool), ("slot", .u64)]
  | scoreComputed => [("agent", .pubkeyBytes), ("score", .u16), ("slot", .u64)]
  | vaultCreated =>
    [("vault", .pubkeyBytes), ("owner", .pubkeyBytes), ("agent", .pubkeyBytes),
      ("usdc_mint", .pubkeyBytes), ("vault_token_account", .pubkeyBytes), ("slot", .u64)]
  | deposited =>
    [("vault", .pubkeyBytes), ("owner", .pubkeyBytes), ("amount_usdc", .u64),
      ("new_total_deposited", .u64), ("slot", .u64)]
  | spent =>
    [("vault", .pubkeyBytes), ("agent", .pubkeyBytes), ("service", .pubkeyBytes),
      ("amount_usdc", .u64), ("new_total_spent", .u64), ("slot", .u64)]
  | claimed =>
    [("vault", .pubkeyBytes), ("service", .pubkeyBytes), ("amount_usdc", .u64),
      ("new_total_spent", .u64), ("new_total_claimed", .u64), ("slot", .u64)]
  | vaultFrozen => [("vault", .pubkeyBytes), ("owner", .pubkeyBytes), ("slot", .u64)]
  | vaultUnfrozen => [("vault", .pubkeyBytes), ("owner", .pubkeyBytes), ("slot", .u64)]
  | policyUpdated =>
    [("vault", .pubkeyBytes), ("owner", .pubkeyBytes), ("per_tx_limit_usdc", .u64),
      ("hourly_limit_usdc", .u64), ("lifetime_limit_usdc", .u64), ("allow_post_pay", .bool),
      ("whitelist", .whitelist), ("slot", .u64)]
  | withdrawn =>
    [("vault", .pubkeyBytes), ("owner", .pubkeyBytes), ("amount_usdc", .u64),
      ("new_total_withdrawn", .u64), ("slot", .u64)]
  | spendRequested =>
    [("vault", .pubkeyBytes), ("agent", .pubkeyBytes), ("service", .pubkeyBytes),
      ("pending_spend", .pubkeyBytes), ("amount_usdc", .u64), ("nonce", .u64), ("slot", .u64)]
  | spendRejected =>
    [("vault", .pubkeyBytes), ("owner", .pubkeyBytes), ("pending_spend", .pubkeyBytes),
      ("nonce", .u64), ("slot", .u64)]

/-- A value of a structure, field by field. -/
def Record (K : Type) : List (String × FieldType) → Type
  | [] => Unit
  | (_, type) :: rest => type.Carrier K × Record K rest

/-! ### JSON payloads -/

/-- How keys, hashes and names are written as JSON strings. -/
structure Rendering (K S : Type) where
  key : K → S
  hash : Hash → S
  name : Bytes 32 → S

/-- `impl Serialize for NameBytes` -/
def nameText (name : Bytes 32) : String :=
  let label := name.toList.takeWhile (· ≠ 0)
  match String.fromUTF8? ⟨label.toArray⟩ with
  | some text => text
  | none => String.ofList (hex label)

/-- Keys in base 58, hashes in hexadecimal. -/
def rendering : Rendering Pubkey String where
  key key := String.ofList (base58 key.toList)
  hash hash := String.ofList (hex hash.toList)
  name := nameText

def FieldType.json (r : Rendering K S) : (type : FieldType) → type.Carrier K → Json S
  | pubkeyBytes, key => .str (r.key key)
  | hash32, hash => .str (r.hash hash)
  | nameBytes, name => .str (r.name name)
  | u8, n => .num (Int.ofNat n)
  | u16, n => .num (Int.ofNat n)
  | u32, n => .num (Int.ofNat n)
  | u64, n => .num (Int.ofNat n)
  | i8, v => .num v
  | bool, b => .bool b
  | whitelist, keys => .arr (keys.toList.map fun key => .str (r.key key))

/-- `#[derive(Serialize)]`: an object with the names of the fields. -/
def Record.json (r : Rendering K S) : (fields : List (String × FieldType)) → Record K fields →
    List (String × Json S)
  | [], () => []
  | (field, type) :: rest, (value, values) => (field, type.json r value) :: json r rest values

def FieldType.format : (type : FieldType) → Format (type.Carrier Pubkey)
  | pubkeyBytes => .array 32 .byte
  | hash32 => .array 32 .byte
  | nameBytes => .array 32 .byte
  | u8 => .nat 1
  | u16 => .nat 2
  | u32 => .nat 4
  | u64 => .nat 8
  | i8 => .int8
  | bool => .bool
  | whitelist => .array whitelistLen (.array 32 .byte)

/-- `#[derive(BorshDeserialize)]`: the fields in their order. -/
def Record.format : (fields : List (String × FieldType)) → Format (Record Pubkey fields)
  | [] => .unit
  | (_, type) :: rest => .pair type.format (format rest)

/-! ### decode -/

inductive DecodeError where
  | tooShort
  | borsh (event : EventName)
  deriving DecidableEq, Repr

structure DecodedEvent (S : Type) where
  eventName : EventName
  payload : Json S

/-- The dispatch table of `decode`. -/
def dispatch : List EventName :=
  [.agentInitialized, .serviceRegistered, .serviceActiveSet, .paymentRecorded, .feedbackGiven,
    .responseAppended, .feedbackRevoked, .scoreComputed, .vaultCreated, .deposited, .spent,
    .claimed, .vaultFrozen, .vaultUnfrozen, .policyUpdated, .withdrawn, .spendRequested,
    .spendRejected]

/-- `events::decode`. Discriminators of other programs are no errors. -/
def decode (discriminator : EventName → Vector UInt8 8) (raw : Binary) :
    Except DecodeError (Option (DecodedEvent String)) :=
  if raw.length < 8 then .error .tooShort
  else
    match dispatch.find? fun name => decide (raw.take 8 = (discriminator name).toList) with
    | none => .ok none
    | some name =>
      match (Record.format name.layout).readAll (raw.drop 8) with
      | none => .error (.borsh name)
      | some record => .ok (some ⟨name, .obj (record.json rendering)⟩)

end AgentFuel.Backend
