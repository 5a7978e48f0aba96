import Mathlib.Data.List.Forall2
import AgentFuel.Library.Sha256
import AgentFuel.Library.Tagged
import AgentFuel.Solana.Address

/-!
# The interface of a program

An instruction travels as bytes and as a list of accounts with the privileges its sender asks for.
A program tells by eight bytes which instruction it is, reads the arguments behind them, and takes
the accounts off the list in the order of their struct. What comes after the arguments or after the
accounts is left alone.
-/
namespace AgentFuel.Solana

variable {K : Type} [AddressSpace K] {α : Type}

/-! ### Accounts of an instruction -/

/-- `AccountMeta` -/
structure AccountMeta (K : Type) where
  pubkey : K
  isSigner : Bool
  isWritable : Bool
  deriving DecidableEq

/-- `AccountInfo`: an account as it is handed to a program. A signer has signed. -/
structure AccountInfo (K : Type) [AddressSpace K] where
  key : K
  isSigner : Bool
  isWritable : Bool
  signed : isSigner = true → CanSign key

/-- The account that is asked for, with the privileges that are asked for and maybe more. -/
structure Grants (info : AccountInfo K) (asked : AccountMeta K) : Prop where
  key : info.key = asked.pubkey
  signer : asked.isSigner = true → info.isSigner = true
  writable : asked.isWritable = true → info.isWritable = true

/-! ### Structs of accounts -/

/-- The programs whose addresses the accounts and the transactions name. -/
inductive ProgramName where
  | creditVault
  | reputation
  | token
  | associatedToken
  | system
  deriving DecidableEq, Repr

/-- Where the programs are deployed, and how a key is written. -/
structure Cluster (K : Type) where
  programId : ProgramName → K
  programId_injective : Function.Injective programId
  pubkey : Format K

/-- A field of a `#[derive(Accounts)]` struct: a `Signer`, an account that need not sign, or a
`Program`. The flag is `mut`. -/
inductive AccountKind where
  | signer (writable : Bool)
  | account (writable : Bool)
  | program (name : ProgramName)
  deriving DecidableEq, Repr

namespace AccountKind

def Carrier (K : Type) [AddressSpace K] : AccountKind → Type
  | signer _ => Signer K
  | account _ => K
  | program _ => Unit

def isSigner : AccountKind → Bool
  | signer _ => true
  | account _ | program _ => false

def isWritable : AccountKind → Bool
  | signer writable | account writable => writable
  | program _ => false

def key (cluster : Cluster K) : (kind : AccountKind) → kind.Carrier K → K
  | signer _, a => a.key
  | account _, a => a
  | program name, _ => cluster.programId name

/-- The address an IDL states for a field. -/
def address : AccountKind → Option ProgramName
  | signer _ | account _ => none
  | program name => some name

/-- What a client lists for a field. -/
def ask (cluster : Cluster K) (kind : AccountKind) (a : kind.Carrier K) : AccountMeta K :=
  ⟨kind.key cluster a, kind.isSigner, kind.isWritable⟩

def accept [DecidableEq K] (cluster : Cluster K) :
    (kind : AccountKind) → AccountInfo K → Option (kind.Carrier K)
  | signer writable, info =>
    if signs : info.isSigner = true then
      if writable = true → info.isWritable = true then some ⟨info.key, info.signed signs⟩ else none
    else none
  | account writable, info =>
    if writable = true → info.isWritable = true then some info.key else none
  | program name, info => if info.key = cluster.programId name then some () else none

/-- A field takes the account it would be listed as, with no less privileges. -/
theorem accept_eq_some [DecidableEq K] {cluster : Cluster K} {kind : AccountKind}
    {info : AccountInfo K} {a : kind.Carrier K} :
    kind.accept cluster info = some a ↔ Grants info (kind.ask cluster a) := by
  cases kind with
  | signer writable =>
    obtain ⟨key, canSign⟩ := a
    constructor
    · intro accepted
      obtain ⟨signs, accepted⟩ := Option.dite_none_right_eq_some.mp accepted
      obtain ⟨writes, same⟩ := Option.ite_none_right_eq_some.mp accepted
      have key := congrArg Signer.key (Option.some.inj same)
      -- A signer that is taken has signed, and has the privileges it is listed with.
      exact ⟨key, fun _ => signs, writes⟩
    · intro granted
      obtain rfl : info.key = key := granted.key
      have signs : info.isSigner = true := granted.signer rfl
      have writes : writable = true → info.isWritable = true := granted.writable
      simp only [accept]
      rw [dif_pos signs, if_pos writes]
  | account writable =>
    constructor
    · intro accepted
      simp only [accept, Option.ite_none_right_eq_some] at accepted
      obtain ⟨writes, same⟩ := accepted
      exact ⟨Option.some.inj same, fun signer => absurd signer Bool.false_ne_true, writes⟩
    · intro granted
      have same : info.key = a := granted.key
      have writes : writable = true → info.isWritable = true := granted.writable
      simp only [accept]
      rw [if_pos writes, same]
  | program name =>
    constructor
    · intro accepted
      simp only [accept, Option.ite_none_right_eq_some] at accepted
      exact ⟨accepted.1, fun signer => absurd signer Bool.false_ne_true,
        fun writable => absurd writable Bool.false_ne_true⟩
    · intro granted
      have same : info.key = cluster.programId name := granted.key
      simp only [accept]
      rw [if_pos same]
      rfl

end AccountKind

/-- The values of a struct with these fields. -/
def Accounts (K : Type) [AddressSpace K] : List AccountKind → Type
  | [] => Unit
  | kind :: rest => kind.Carrier K × Accounts K rest

namespace Accounts

/-- The accounts a client lists for a struct. -/
def ask (cluster : Cluster K) : (kinds : List AccountKind) → Accounts K kinds → List (AccountMeta K)
  | [], _ => []
  | kind :: rest, (a, others) => kind.ask cluster a :: ask cluster rest others

/-- The accounts of a struct are taken off the front of the list. -/
def take [DecidableEq K] (cluster : Cluster K) : (kinds : List AccountKind) →
    List (AccountInfo K) → Option (Accounts K kinds)
  | [], _ => some ()
  | _ :: _, [] => none
  | kind :: rest, info :: infos => do
    let a ← kind.accept cluster info
    let others ← take cluster rest infos
    some (a, others)

/-- A struct is taken off the lists that begin with its accounts, and off no others. -/
theorem take_eq_some [DecidableEq K] {cluster : Cluster K} {kinds : List AccountKind}
    {infos : List (AccountInfo K)} {accounts : Accounts K kinds} :
    take cluster kinds infos = some accounts ↔
      ∃ taken rest, infos = taken ++ rest ∧ List.Forall₂ Grants taken (ask cluster kinds accounts) := by
  induction kinds generalizing infos with
  | nil =>
    constructor
    · intro _
      exact ⟨[], infos, rfl, .nil⟩
    · intro _
      exact rfl
  | cons kind kinds ih =>
    obtain ⟨a, others⟩ := accounts
    constructor
    · intro taken
      cases infos with
      | nil => cases taken
      | cons info infos =>
        obtain ⟨_, accepted, tail⟩ := Option.bind_eq_some_iff.mp taken
        obtain ⟨_, later, same⟩ := Option.bind_eq_some_iff.mp tail
        obtain ⟨rfl, rfl⟩ := Prod.mk.inj (Option.some.inj same)
        obtain ⟨front, rest, rfl, granted⟩ := ih.mp later
        exact ⟨info :: front, rest, rfl, .cons (AccountKind.accept_eq_some.mp accepted) granted⟩
    · rintro ⟨_, rest, rfl, granted⟩
      obtain ⟨info, taken, first, later, rfl⟩ := List.forall₂_cons_right_iff.mp granted
      have more := ih.mpr ⟨taken, rest, rfl, later⟩
      simp only [List.cons_append, take, AccountKind.accept_eq_some.mpr first, more,
        Option.bind_eq_bind, Option.bind_some]

end Accounts

/-! ### Arguments -/

/-- The types of arguments the programs take; an enumeration by the number of its variants. -/
inductive ArgType where
  | u64
  | u32
  | i8
  | bool
  | bytes (n : ℕ)
  | enumeration (count : ℕ)
  | pubkeys (n : ℕ)
  deriving DecidableEq, Repr

namespace ArgType

def Carrier (K : Type) : ArgType → Type
  | u64 | u32 => ℕ
  | i8 => ℤ
  | bool => Bool
  | bytes n => Vector UInt8 n
  | enumeration count => Fin count
  | pubkeys n => Vector K n

def format (cluster : Cluster K) : (type : ArgType) → Format (type.Carrier K)
  | u64 => .nat 8
  | u32 => .nat 4
  | i8 => .int8
  | bool => .bool
  | bytes n => .bytes n
  | enumeration count => .enumeration count
  | pubkeys n => .array n cluster.pubkey

end ArgType

/-- The values of arguments of these types. -/
def Args (K : Type) : List ArgType → Type
  | [] => Unit
  | type :: rest => type.Carrier K × Args K rest

def Args.format (cluster : Cluster K) : (types : List ArgType) → Format (Args K types)
  | [] => .unit
  | type :: rest => .pair (type.format cluster) (Args.format cluster rest)

/-! ### Instructions as bytes -/

/-- An instruction as it travels. -/
@[ext]
structure RawInstruction (K : Type) where
  programId : K
  accounts : List (AccountMeta K)
  data : Binary
  deriving DecidableEq

/-- The discriminator Anchor gives an instruction: the first bytes of the hash of its name. -/
def discriminator (name : String) : Binary :=
  (Sha256.hash (Sha256.ascii ("global:" ++ name))).take 8

theorem discriminator_length (name : String) : (discriminator name).length = 8 := by
  rw [discriminator, List.length_take, Sha256.hash_length]
  rfl

/-- An instruction of a program: its name, the fields of its accounts, the types of its arguments,
and which one it is. -/
structure Variant (K : Type) [AddressSpace K] (α : Type) where
  name : String
  accounts : List (String × AccountKind)
  args : List (String × ArgType)
  build : Accounts K (accounts.map Prod.snd) → Args K (args.map Prod.snd) → α

namespace Variant

variable {variant : Variant K α}

abbrev kinds (variant : Variant K α) : List AccountKind := variant.accounts.map Prod.snd

abbrev types (variant : Variant K α) : List ArgType := variant.args.map Prod.snd

def raw (cluster : Cluster K) (program : ProgramName) (variant : Variant K α)
    (accounts : Accounts K variant.kinds) (args : Args K variant.types) : RawInstruction K where
  programId := cluster.programId program
  accounts := accounts.ask cluster
  data := discriminator variant.name ++ (Args.format cluster variant.types).write args

variable [DecidableEq K]

/-- The arguments are read before the accounts are looked at. -/
def receive (cluster : Cluster K) (variant : Variant K α) (infos : List (AccountInfo K))
    (data : Binary) : Option α := do
  let (args, _) ← (Args.format cluster variant.types).read data
  let accounts ← Accounts.take cluster variant.kinds infos
  some (variant.build accounts args)

theorem receive_eq_some {cluster : Cluster K} {infos : List (AccountInfo K)} {data : Binary}
    {ix : α} : variant.receive cluster infos data = some ix ↔
      ∃ accounts args, variant.build accounts args = ix ∧
        (Args.format cluster variant.types).Valid args ∧
          (Args.format cluster variant.types).write args <+: data ∧
            ∃ taken rest, infos = taken ++ rest ∧ List.Forall₂ Grants taken (accounts.ask cluster) := by
  simp only [receive, Option.bind_eq_bind, Option.bind_eq_some_iff, Prod.exists, Option.some.injEq,
    Accounts.take_eq_some]
  constructor
  · rintro ⟨args, trailing, read, accounts, granted, rfl⟩
    obtain ⟨valid, rfl⟩ := (Args.format cluster variant.types).write_read read
    exact ⟨accounts, args, rfl, valid, List.prefix_append .., granted⟩
  · rintro ⟨accounts, args, rfl, valid, ⟨trailing, rfl⟩, granted⟩
    exact ⟨args, trailing, (Args.format cluster variant.types).read_write args trailing valid,
      accounts, granted, rfl⟩

end Variant

/-- The data begin with the bytes of an instruction, and the accounts with its accounts. -/
structure Carries (infos : List (AccountInfo K)) (data : Binary) (raw : RawInstruction K) : Prop where
  data : raw.data <+: data
  accounts : ∃ taken rest, infos = taken ++ rest ∧ List.Forall₂ Grants taken raw.accounts

/-- The entry of a program: the instruction whose discriminator the data begins with, if any. -/
def entry [DecidableEq K] (cluster : Cluster K) (variants : List (Variant K α))
    (infos : List (AccountInfo K)) (data : Binary) : Option α :=
  (Tagged.select (fun v => discriminator v.name) variants data).bind fun v =>
    v.receive cluster infos (data.drop 8)

/-- A program takes what begins with the bytes and the accounts of an instruction for that
instruction, and takes nothing else. -/
theorem entry_eq_some [DecidableEq K] {cluster : Cluster K} {variants : List (Variant K α)}
    (distinct : (variants.map fun v => discriminator v.name).Nodup) (program : ProgramName)
    {infos : List (AccountInfo K)} {data : Binary} {ix : α} :
    entry cluster variants infos data = some ix ↔ ∃ v ∈ variants, ∃ accounts args,
      v.build accounts args = ix ∧ (Args.format cluster v.types).Valid args ∧
        Carries infos data (v.raw cluster program accounts args) := by
  unfold entry
  simp only [Option.bind_eq_some_iff, Variant.receive_eq_some,
    Tagged.select_eq_some (fun v _ => discriminator_length v.name) distinct]
  constructor
  · rintro ⟨v, ⟨member, tagged, rfl⟩, accounts, args, rfl, valid, ⟨more, written⟩, granted⟩
    refine ⟨v, member, accounts, args, rfl, valid, ⟨more, ?_⟩, granted⟩
    rw [← discriminator_length v.name, List.drop_left] at written
    rw [Variant.raw, List.append_assoc, written]
  · rintro ⟨v, member, accounts, args, rfl, valid, ⟨more, rfl⟩, granted⟩
    have begins : (v.raw cluster program accounts args).data ++ more = discriminator v.name ++
        ((Args.format cluster v.types).write args ++ more) := by
      rw [Variant.raw, List.append_assoc]
    refine ⟨v, ⟨member, ?_⟩, accounts, args, rfl, valid, ?_, granted⟩
    · rw [begins]
      exact List.prefix_append ..
    · rw [begins, ← discriminator_length v.name, List.drop_left]
      exact List.prefix_append ..

/-! ### Messages -/

/-- A message: who pays, and the instructions. -/
structure Message (K : Type) where
  feePayer : K
  instructions : List (RawInstruction K)

section Messages

variable [DecidableEq K]

/-- A key needs a signature when it pays or when some instruction asks for its signature. -/
def Message.signs (message : Message K) (key : K) : Bool :=
  decide (key = message.feePayer) || message.instructions.any fun raw =>
    raw.accounts.any fun asked => decide (asked.pubkey = key) && asked.isSigner

/-- A key is writable when it pays or when some instruction asks to write it. -/
def Message.writes (message : Message K) (key : K) : Bool :=
  decide (key = message.feePayer) || message.instructions.any fun raw =>
    raw.accounts.any fun asked => decide (asked.pubkey = key) && asked.isWritable

/-- A transaction: its message with all signatures. -/
structure Transaction (K : Type) [AddressSpace K] [DecidableEq K] extends Message K where
  signed : ∀ key, toMessage.signs key = true → CanSign key

/-- Privileges belong to the message, not to the instruction that asks for them. -/
def Transaction.deliver (tx : Transaction K) (raw : RawInstruction K) : List (AccountInfo K) :=
  raw.accounts.map fun asked =>
    ⟨asked.pubkey, tx.signs asked.pubkey, tx.writes asked.pubkey, tx.signed _⟩

/-- What an instruction asks for is enough for what is wanted, in a message this key pays for. -/
def Suffices (feePayer : K) (asked wanted : AccountMeta K) : Prop :=
  asked.pubkey = wanted.pubkey ∧ (asked = wanted ∨ asked.pubkey = feePayer)

/-- An instruction is granted what it asks for; the payer may sign and write in all of them. -/
theorem Transaction.deliver_grants {tx : Transaction K} {raw : RawInstruction K}
    {wanted : List (AccountMeta K)} (sent : raw ∈ tx.instructions)
    (enough : List.Forall₂ (Suffices tx.feePayer) raw.accounts wanted) :
    List.Forall₂ Grants (tx.deliver raw) wanted := by
  unfold deliver
  rw [List.forall₂_map_left_iff]
  have listed := (List.forall₂_and_left raw.accounts wanted).mpr ⟨fun _ => id, enough⟩
  refine listed.imp ?_
  rintro asked want ⟨member, same, rfl | pays⟩
  · have listed (right : AccountMeta K → Bool) (held : right asked = true) :
        (tx.instructions.any fun raw => raw.accounts.any fun other =>
          decide (other.pubkey = asked.pubkey) && right other) = true := by
      simp only [List.any_eq_true, Bool.and_eq_true, decide_eq_true_eq]
      exact ⟨raw, sent, asked, member, rfl, held⟩
    refine ⟨rfl, fun signer => ?_, fun writable => ?_⟩
    · simp only [Message.signs, listed AccountMeta.isSigner signer, Bool.or_true]
    · simp only [Message.writes, listed AccountMeta.isWritable writable, Bool.or_true]
  · refine ⟨same, fun _ => ?_, fun _ => ?_⟩
    · simp only [Message.signs, pays, decide_true, Bool.true_or]
    · simp only [Message.writes, pays, decide_true, Bool.true_or]

end Messages

end AgentFuel.Solana
