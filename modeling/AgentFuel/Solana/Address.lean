import Mathlib.Tactic.Common

/-!
# Addresses

Program-derived addresses are idealised: the address of a seed list and bump is
injective in both, has no private key and is never the all-zero key. The constructor
of `Seeds` stands for the program id and the literal prefix.
-/
namespace AgentFuel.Solana

/-- A 32-byte hash. -/
abbrev Hash := Vector UInt8 32

inductive Seeds (K : Type) where
  | vault (owner agent : K)
  | policy (vault : K)
  | pending (vault : K) (nonce : Nat)
  | associatedToken (wallet mint : K)
  | agent (authority : K)
  | service (authority : K)
  | link (agentProfile serviceRegistry : K)
  | receipt (hash : Hash)
  | feedback (hash : Hash)
  deriving DecidableEq

class AddressSpace (K : Type) where
  /-- `Pubkey::default()`, the all-zero key. -/
  default : K
  createProgramAddress : Seeds K → UInt8 → K
  /-- The bump `find_program_address` settles on. -/
  canonicalBump : Seeds K → UInt8
  /-- A key whose signature a transaction can carry. -/
  CanSign : K → Prop
  createProgramAddress_injective {s s' : Seeds K} {b b' : UInt8} :
    createProgramAddress s b = createProgramAddress s' b' → s = s' ∧ b = b'
  programAddress_cannot_sign (s : Seeds K) (b : UInt8) : ¬CanSign (createProgramAddress s b)
  programAddress_ne_default (s : Seeds K) (b : UInt8) : createProgramAddress s b ≠ default

variable {K : Type} [AddressSpace K]

/-- `Pubkey::default()`. -/
def defaultKey : K := AddressSpace.default

def createProgramAddress (seeds : Seeds K) (bump : UInt8) : K :=
  AddressSpace.createProgramAddress seeds bump

def canonicalBump (seeds : Seeds K) : UInt8 := AddressSpace.canonicalBump seeds

/-- The address `find_program_address` returns. -/
def findProgramAddress (seeds : Seeds K) : K :=
  createProgramAddress seeds (canonicalBump seeds)

def CanSign (key : K) : Prop := AddressSpace.CanSign key

@[simp] theorem createProgramAddress_inj (s s' : Seeds K) (b b' : UInt8) :
    createProgramAddress s b = createProgramAddress s' b' ↔ s = s' ∧ b = b' := by
  constructor
  · exact AddressSpace.createProgramAddress_injective
  · rintro ⟨rfl, rfl⟩; rfl

@[simp] theorem findProgramAddress_inj (s s' : Seeds K) :
    findProgramAddress s = findProgramAddress s' ↔ s = s' := by
  constructor
  · exact fun same => ((createProgramAddress_inj _ _ _ _).mp same).1
  · rintro rfl; rfl

theorem findProgramAddress_eq (seeds : Seeds K) :
    createProgramAddress seeds (canonicalBump seeds) = findProgramAddress seeds := rfl

@[simp] theorem createProgramAddress_cannot_sign (s : Seeds K) (b : UInt8) :
    ¬CanSign (createProgramAddress s b) :=
  AddressSpace.programAddress_cannot_sign s b

@[simp] theorem findProgramAddress_cannot_sign (s : Seeds K) : ¬CanSign (findProgramAddress s) :=
  createProgramAddress_cannot_sign s _

@[simp] theorem findProgramAddress_ne_default (s : Seeds K) : findProgramAddress s ≠ defaultKey :=
  AddressSpace.programAddress_ne_default s _

/-- The associated token account of a wallet and a mint. -/
def associatedTokenAddress (wallet mint : K) : K :=
  findProgramAddress (.associatedToken wallet mint)

/-- An account whose signature the transaction carries. -/
structure Signer (K : Type) [AddressSpace K] where
  key : K
  canSign : CanSign key

theorem Signer.key_ne (signer : Signer K) (s : Seeds K) (b : UInt8) :
    signer.key ≠ createProgramAddress s b := by
  intro same
  exact createProgramAddress_cannot_sign s b (same ▸ signer.canSign)

theorem Signer.key_ne_find (signer : Signer K) (s : Seeds K) :
    signer.key ≠ findProgramAddress s :=
  signer.key_ne s _

/-- Failures of Anchor's account validation and of the runtime around it. -/
inductive AnchorError where
  | accountNotInitialized
  | accountAlreadyInUse
  | constraintHasOne
  | constraintRaw
  | constraintSeeds
  | constraintAssociated
  | privilegeEscalation
  deriving DecidableEq, Repr

/-! ### A symbolic address space -/

/-- Free terms over numbered wallets; wallet 0 is the all-zero key. -/
inductive SymbolicKey where
  | wallet (n : Nat)
  | vault (owner agent : SymbolicKey) (bump : UInt8)
  | policy (vault : SymbolicKey) (bump : UInt8)
  | pending (vault : SymbolicKey) (nonce : Nat) (bump : UInt8)
  | associatedToken (wallet mint : SymbolicKey) (bump : UInt8)
  | agent (authority : SymbolicKey) (bump : UInt8)
  | service (authority : SymbolicKey) (bump : UInt8)
  | link (agentProfile serviceRegistry : SymbolicKey) (bump : UInt8)
  | receipt (hash : Hash) (bump : UInt8)
  | feedback (hash : Hash) (bump : UInt8)
  deriving DecidableEq

def SymbolicKey.derive (b : UInt8) : Seeds SymbolicKey → SymbolicKey
  | .vault o a => .vault o a b
  | .policy v => .policy v b
  | .pending v nonce => .pending v nonce b
  | .associatedToken w m => .associatedToken w m b
  | .agent a => .agent a b
  | .service a => .service a b
  | .link p r => .link p r b
  | .receipt h => .receipt h b
  | .feedback h => .feedback h b

instance : AddressSpace SymbolicKey where
  -- Free terms derive injectively; 255 is the bump the search tries first.
  default := .wallet 0
  createProgramAddress seeds bump := .derive bump seeds
  canonicalBump _ := 255
  CanSign key := ∃ n, key = .wallet (n + 1)
  createProgramAddress_injective {s s' b b'} same := by
    cases s <;> cases s' <;> simp_all [SymbolicKey.derive]
  programAddress_cannot_sign s b := by
    cases s <;> simp [SymbolicKey.derive]
  programAddress_ne_default s b := by
    cases s <;> simp [SymbolicKey.derive]

/-- The holder of the private key of a numbered wallet. -/
def SymbolicKey.signer (n : Nat) : Signer SymbolicKey := ⟨.wallet (n + 1), n, rfl⟩

end AgentFuel.Solana
