import AgentFuel.Library.Checked
import AgentFuel.Solana.Address
import Mathlib.Logic.Function.Basic

/-!
# The token programs

Token accounts and mints as the SPL token program keeps them, with the transfer the
vault program calls and the instructions anybody can send directly. A mint's supply
is a `u64` that bounds the sum of its accounts, so crediting an account cannot
overflow and amounts are natural numbers. Multisig owners, close authorities and the
freeze authority of a mint are left out.
-/
namespace AgentFuel.Solana

open Checked

structure Mint (K : Type) where
  mintAuthority : K
  deriving DecidableEq

structure TokenAccount (K : Type) where
  mint : K
  owner : K
  amount : Nat
  delegate : Option K := none
  delegatedAmount : Nat := 0
  deriving DecidableEq

structure TokenLedger (K : Type) where
  mints : K → Option (Mint K)
  accounts : K → Option (TokenAccount K)

inductive TokenError where
  | uninitializedState
  | alreadyInUse
  | insufficientFunds
  | mintMismatch
  | ownerMismatch
  | nonNativeHasBalance
  deriving DecidableEq, Repr

variable {K : Type} [DecidableEq K]

/-- Take `amount` out of an account on the authority of its delegate or its owner. -/
def TokenAccount.debit (account : TokenAccount K) (authority : K) (amount : Nat) :
    Except TokenError (TokenAccount K) := do
  -- The delegate is looked at first, and its allowance is all it can take.
  if account.delegate = some authority then
    require (amount ≤ account.delegatedAmount) .insufficientFunds
    pure { account with
      amount := account.amount - amount
      delegatedAmount := account.delegatedAmount - amount
      delegate := if account.delegatedAmount = amount then none else account.delegate }
  else
    require (account.owner = authority) .ownerMismatch
    pure { account with amount := account.amount - amount }

def TokenAccount.credit (account : TokenAccount K) (amount : Nat) : TokenAccount K :=
  { account with amount := account.amount + amount }

/-- An account nobody can take money out of with a signature of their own. -/
def TokenAccount.Locked [AddressSpace K] (account : TokenAccount K) : Prop :=
  ¬CanSign account.owner ∧ account.delegate = none

namespace TokenLedger

def setAccount (ledger : TokenLedger K) (key : K) (account : Option (TokenAccount K)) :
    TokenLedger K :=
  { ledger with accounts := Function.update ledger.accounts key account }

/-- An address that holds neither a mint nor a token account. -/
def Vacant (ledger : TokenLedger K) (key : K) : Prop :=
  ledger.mints key = none ∧ ledger.accounts key = none

instance (ledger : TokenLedger K) (key : K) : Decidable (ledger.Vacant key) :=
  inferInstanceAs (Decidable (_ ∧ _))

/-- `token::transfer`. A transfer from an account to itself is checked and moves nothing. -/
def transfer (ledger : TokenLedger K) (source destination authority : K) (amount : Nat) :
    Except TokenError (TokenLedger K) := do
  let src ← okOr (ledger.accounts source) .uninitializedState
  let dst ← okOr (ledger.accounts destination) .uninitializedState
  require (amount ≤ src.amount) .insufficientFunds
  require (src.mint = dst.mint) .mintMismatch
  let debited ← src.debit authority amount
  -- The check above ran, but one account is neither debited nor credited.
  if source = destination then pure ledger
  else pure ((ledger.setAccount source (some debited)).setAccount destination
    (some (dst.credit amount)))

end TokenLedger

/-! ### What a transfer does to one account -/

theorem TokenAccount.debit_ok {a b : TokenAccount K} {authority : K} {x : Nat}
    (h : a.debit authority x = .ok b) :
    (a.owner = authority ∨ a.delegate = some authority) ∧ b.mint = a.mint ∧ b.owner = a.owner ∧
      b.amount = a.amount - x ∧ (a.delegate = none → b.delegate = none) := by
  unfold TokenAccount.debit at h
  split at h
  next delegated =>
    simp only [bind_eq_ok, require_eq_ok, pure_eq_ok, exists_and_left, exists_const] at h
    obtain ⟨_, rfl⟩ := h
    simp [delegated]
  next owned =>
    simp only [bind_eq_ok, require_eq_ok, pure_eq_ok, exists_and_left, exists_const] at h
    obtain ⟨held, rfl⟩ := h
    simp [held]

theorem TokenAccount.debit_of_owner {a : TokenAccount K} (undelegated : a.delegate = none) (x : Nat) :
    a.debit a.owner x = .ok { a with amount := a.amount - x } := by
  simp [TokenAccount.debit, undelegated, require, bind, Except.bind, pure, Except.pure]

omit [DecidableEq K] in
@[simp] theorem TokenAccount.credit_zero (a : TokenAccount K) : a.credit 0 = a := rfl

namespace TokenLedger

@[simp] theorem setAccount_mints (ledger : TokenLedger K) (key : K) (a : Option (TokenAccount K)) :
    (ledger.setAccount key a).mints = ledger.mints := rfl

theorem setAccount_accounts (ledger : TokenLedger K) (key k : K) (a : Option (TokenAccount K)) :
    (ledger.setAccount key a).accounts k = if k = key then a else ledger.accounts k := by
  simp [setAccount, Function.update_apply]

variable {ledger after : TokenLedger K} {source destination authority k : K} {x : Nat}

theorem transfer_ok (h : ledger.transfer source destination authority x = .ok after) :
    ∃ src dst debited, ledger.accounts source = some src ∧ ledger.accounts destination = some dst ∧
      x ≤ src.amount ∧ src.mint = dst.mint ∧ src.debit authority x = .ok debited ∧
      after = if source = destination then ledger
        else (ledger.setAccount source (some debited)).setAccount destination
          (some (dst.credit x)) := by
  simp only [transfer, bind_eq_ok, okOr_eq_ok, require_eq_ok, exists_and_left, exists_const] at h
  obtain ⟨src, hsrc, dst, hdst, funds, mints, debited, hdebit, h⟩ := h
  refine ⟨src, dst, debited, hsrc, hdst, funds, mints, hdebit, ?_⟩
  split at h <;> simp_all

theorem transfer_mints (h : ledger.transfer source destination authority x = .ok after) :
    after.mints = ledger.mints := by
  obtain ⟨src, dst, debited, -, -, -, -, -, rfl⟩ := transfer_ok h
  split <;> simp

theorem transfer_absent (h : ledger.transfer source destination authority x = .ok after)
    (absent : ledger.accounts k = none) : after.accounts k = none := by
  obtain ⟨src, dst, debited, hsrc, hdst, -, -, -, rfl⟩ := transfer_ok h
  split
  · exact absent
  · have away : k ≠ source ∧ k ≠ destination := by
      constructor <;> rintro rfl <;> simp_all
    simp [setAccount_accounts, away, absent]

/-- An account the authority has no power over is at most credited. -/
theorem transfer_other {a : TokenAccount K}
    (h : ledger.transfer source destination authority x = .ok after)
    (present : ledger.accounts k = some a) (owner : a.owner ≠ authority)
    (delegate : a.delegate ≠ some authority) :
    after.accounts k = some (a.credit (if k = destination then x else 0)) := by
  obtain ⟨src, dst, debited, hsrc, hdst, -, -, hdebit, rfl⟩ := transfer_ok h
  -- The source is debited by its owner or delegate, and the authority is neither for `k`.
  have away : k ≠ source := by
    rintro rfl
    obtain rfl : src = a := Option.some.inj (hsrc.symm.trans present)
    rcases (TokenAccount.debit_ok hdebit).1 with own | del
    · exact owner own
    · exact delegate del
  split
  next same => subst same; simp [away, present]
  next =>
    by_cases credited : k = destination
    · subst credited
      obtain rfl : dst = a := Option.some.inj (hdst.symm.trans present)
      simp [setAccount_accounts]
    · simp [setAccount_accounts, away, credited, present]

/-- The source is debited on its owner's authority, unless it is the destination. -/
theorem transfer_source {a : TokenAccount K}
    (h : ledger.transfer source destination authority x = .ok after)
    (present : ledger.accounts source = some a) (undelegated : a.delegate = none) :
    a.owner = authority ∧ x ≤ a.amount ∧
      after.accounts source =
        some { a with amount := if source = destination then a.amount else a.amount - x } := by
  obtain ⟨src, dst, debited, hsrc, hdst, funds, -, hdebit, rfl⟩ := transfer_ok h
  obtain rfl : src = a := Option.some.inj (hsrc.symm.trans present)
  -- Without a delegate only the owner can be the authority.
  have owned : src.owner = authority := by
    rcases (TokenAccount.debit_ok hdebit).1 with own | del
    · exact own
    · simp [undelegated] at del
  subst owned
  rw [TokenAccount.debit_of_owner undelegated] at hdebit
  obtain rfl := Except.ok.inj hdebit
  refine ⟨rfl, funds, ?_⟩
  split
  · simpa using present
  next apart => simp [setAccount_accounts, apart]

theorem transfer_succeeds {a b : TokenAccount K} (src : ledger.accounts source = some a)
    (dst : ledger.accounts destination = some b) (owned : a.owner = authority)
    (undelegated : a.delegate = none) (mints : a.mint = b.mint) (funds : x ≤ a.amount) :
    ∃ after, ledger.transfer source destination authority x = .ok after := by
  subst owned
  simp only [transfer, src, dst, okOr, bind, Except.bind, require, funds, mints, if_true,
    TokenAccount.debit_of_owner undelegated, pure, Except.pure]
  split <;> exact ⟨_, rfl⟩

/-- Just this amount leaves one account and reaches another, and all else stays as it is. -/
structure Moved (ledger after : TokenLedger K) (source destination : K) (x : Nat) : Prop where
  debited : ∃ a a', ledger.accounts source = some a ∧ after.accounts source = some a' ∧
    a'.amount + x = a.amount
  credited : ∃ b b', ledger.accounts destination = some b ∧ after.accounts destination = some b' ∧
    b'.amount = b.amount + x
  others : ∀ k, k ≠ source → k ≠ destination → after.accounts k = ledger.accounts k

/-- A transfer of something moves it, unless it stays where it is. -/
theorem transfer_moved (h : ledger.transfer source destination authority x = .ok after)
    (positive : 0 < x) : ledger.Moved after source destination x ↔ source ≠ destination := by
  obtain ⟨src, dst, debited, hsrc, hdst, funds, -, hdebit, rfl⟩ := transfer_ok h
  constructor
  · rintro ⟨⟨a, a', held, left, amount⟩, -, -⟩ same
    rw [if_pos same, held] at left
    obtain rfl := Option.some.inj left
    omega
  · intro apart
    rw [if_neg apart]
    obtain ⟨-, -, -, amount, -⟩ := TokenAccount.debit_ok hdebit
    refine ⟨⟨src, debited, hsrc, ?_, ?_⟩, ⟨dst, dst.credit x, hdst, ?_, rfl⟩, fun k fromSource fromTarget => ?_⟩
    · simp [setAccount_accounts, apart]
    · omega
    · simp [setAccount_accounts]
    · simp [setAccount_accounts, fromSource, fromTarget]

end TokenLedger

/-! ### Instructions anybody can send -/

inductive TokenInstruction (K : Type) [AddressSpace K] where
  | initializeMint (mint : Signer K) (mintAuthority : K)
  | initializeAccount (account : Signer K) (mint owner : K)
  | createAssociatedToken (payer : Signer K) (wallet mint : K)
  | transfer (authority : Signer K) (source destination : K) (amount : Nat)
  | approve (owner : Signer K) (source delegate : K) (amount : Nat)
  | revoke (owner : Signer K) (source : K)
  | setAuthority (owner : Signer K) (account newOwner : K)
  | mintTo (authority : Signer K) (mint destination : K) (amount : Nat)
  | burn (authority : Signer K) (source : K) (amount : Nat)
  | closeAccount (owner : Signer K) (account : K)

variable [AddressSpace K]

def TokenInstruction.signer : TokenInstruction K → K
  | initializeMint mint _ => mint.key
  | initializeAccount account _ _ => account.key
  | createAssociatedToken payer _ _ => payer.key
  | transfer authority _ _ _ => authority.key
  | approve owner _ _ _ => owner.key
  | revoke owner _ => owner.key
  | setAuthority owner _ _ => owner.key
  | mintTo authority _ _ _ => authority.key
  | burn authority _ _ => authority.key
  | closeAccount owner _ => owner.key

namespace TokenLedger

/-- Load an account on the signature of its owner. -/
def owned (ledger : TokenLedger K) (owner : Signer K) (key : K) :
    Except TokenError (TokenAccount K) := do
  let account ← okOr (ledger.accounts key) .uninitializedState
  require (account.owner = owner.key) .ownerMismatch
  pure account

/-- Open an empty token account at a vacant address. -/
def openAccount (ledger : TokenLedger K) (key mint owner : K) :
    Except TokenError (TokenLedger K) := do
  let _ ← okOr (ledger.mints mint) .uninitializedState
  require (ledger.Vacant key) .alreadyInUse
  pure (ledger.setAccount key (some { mint, owner, amount := 0 }))

def process (ledger : TokenLedger K) : TokenInstruction K → Except TokenError (TokenLedger K)
  | .initializeMint mint mintAuthority => do
    require (ledger.Vacant mint.key) .alreadyInUse
    pure { ledger with mints := Function.update ledger.mints mint.key (some { mintAuthority }) }
  | .initializeAccount account mint owner => ledger.openAccount account.key mint owner
  | .createAssociatedToken _ wallet mint =>
    ledger.openAccount (associatedTokenAddress wallet mint) mint wallet
  | .transfer authority source destination amount =>
    ledger.transfer source destination authority.key amount
  | .approve owner source delegate amount => do
    let account ← ledger.owned owner source
    pure (ledger.setAccount source
      (some { account with delegate := some delegate, delegatedAmount := amount }))
  | .revoke owner source => do
    let account ← ledger.owned owner source
    pure (ledger.setAccount source (some { account with delegate := none, delegatedAmount := 0 }))
  | .setAuthority owner key newOwner => do
    -- A new owner starts without a delegate.
    let account ← ledger.owned owner key
    pure (ledger.setAccount key
      (some { account with owner := newOwner, delegate := none, delegatedAmount := 0 }))
  | .mintTo authority mint destination amount => do
    let m ← okOr (ledger.mints mint) .uninitializedState
    let account ← okOr (ledger.accounts destination) .uninitializedState
    require (account.mint = mint) .mintMismatch
    require (m.mintAuthority = authority.key) .ownerMismatch
    pure (ledger.setAccount destination (some (account.credit amount)))
  | .burn authority source amount => do
    let account ← okOr (ledger.accounts source) .uninitializedState
    require (amount ≤ account.amount) .insufficientFunds
    let debited ← account.debit authority.key amount
    pure (ledger.setAccount source (some debited))
  | .closeAccount owner key => do
    let account ← ledger.owned owner key
    require (account.amount = 0) .nonNativeHasBalance
    pure (ledger.setAccount key none)

variable {ledger after : TokenLedger K} {ix : TokenInstruction K} {key : K}

theorem owned_ok {owner : Signer K} {a : TokenAccount K} (h : ledger.owned owner key = .ok a) :
    ledger.accounts key = some a ∧ a.owner = owner.key := by
  simp only [owned, bind_eq_ok, okOr_eq_ok, require_eq_ok, pure_eq_ok, exists_and_left,
    exists_const] at h
  obtain ⟨b, present, held, rfl⟩ := h
  exact ⟨present, held⟩

omit [AddressSpace K] in
theorem openAccount_ok {mint owner : K} (h : ledger.openAccount key mint owner = .ok after) :
    (∃ m, ledger.mints mint = some m) ∧ ledger.Vacant key ∧
      after = ledger.setAccount key (some { mint, owner, amount := 0 }) := by
  simp only [openAccount, bind_eq_ok, okOr_eq_ok, require_eq_ok, pure_eq_ok, exists_and_left,
    exists_const] at h
  obtain ⟨m, hm, vacant, rfl⟩ := h
  exact ⟨⟨m, hm⟩, vacant, rfl⟩

/-- Everything a token instruction can do to a ledger. -/
inductive ProcessCase (ledger : TokenLedger K) : TokenInstruction K → TokenLedger K → Prop
  | recorded {ix : TokenInstruction K} (mint : Signer K) (m : Mint K) : ledger.Vacant mint.key →
    ProcessCase ledger ix { ledger with mints := Function.update ledger.mints mint.key (some m) }
  | opened {ix : TokenInstruction K} (key mint owner : K) : ledger.Vacant key →
    (CanSign key ∨ ∃ payer, ix = .createAssociatedToken payer owner mint ∧
      key = associatedTokenAddress owner mint) →
    ProcessCase ledger ix (ledger.setAccount key (some { mint, owner, amount := 0 }))
  | moved (authority : Signer K) (source destination : K) (x : Nat) {after : TokenLedger K} :
    ledger.transfer source destination authority.key x = .ok after →
    ProcessCase ledger (.transfer authority source destination x) after
  | rewritten {ix : TokenInstruction K} (key : K) (a : TokenAccount K)
    (a' : Option (TokenAccount K)) : ledger.accounts key = some a →
    CanSign a.owner ∨ a.delegate ≠ none → ProcessCase ledger ix (ledger.setAccount key a')
  | credited (authority : Signer K) (mint key : K) (a : TokenAccount K) (x : Nat) :
    ledger.accounts key = some a →
    ProcessCase ledger (.mintTo authority mint key x) (ledger.setAccount key (some (a.credit x)))

/-- What the owner of an account signs for may rewrite it. -/
theorem ProcessCase.of_owned {owner : Signer K} {a : TokenAccount K}
    (held : ledger.owned owner key = .ok a) (a' : Option (TokenAccount K)) :
    ProcessCase ledger ix (ledger.setAccount key a') := by
  obtain ⟨present, own⟩ := owned_ok held
  have signs : CanSign a.owner := own ▸ owner.canSign
  exact .rewritten key a a' present (.inl signs)

theorem process_cases (h : ledger.process ix = .ok after) : ProcessCase ledger ix after := by
  cases ix with
  | initializeMint mint mintAuthority =>
    simp only [process, bind_eq_ok, require_eq_ok, pure_eq_ok, exists_const] at h
    obtain ⟨vacant, rfl⟩ := h
    exact .recorded mint _ vacant
  | initializeAccount account mint owner =>
    obtain ⟨-, vacant, rfl⟩ := openAccount_ok h
    exact .opened _ _ _ vacant (.inl account.canSign)
  | createAssociatedToken payer wallet mint =>
    obtain ⟨-, vacant, rfl⟩ := openAccount_ok h
    exact .opened _ _ _ vacant (.inr ⟨payer, rfl, rfl⟩)
  | transfer authority source destination x => exact .moved authority source destination x h
  | mintTo authority mint destination x =>
    simp only [process, bind_eq_ok, okOr_eq_ok, require_eq_ok, pure_eq_ok, exists_and_left,
      exists_const] at h
    obtain ⟨m, -, a, present, -, -, rfl⟩ := h
    exact .credited authority mint destination a x present
  | burn authority source x =>
    simp only [process, bind_eq_ok, okOr_eq_ok, require_eq_ok, pure_eq_ok, exists_and_left,
      exists_const] at h
    obtain ⟨a, present, -, b, debited, rfl⟩ := h
    apply ProcessCase.rewritten source a _ present
    -- The owner or the delegate signs.
    rcases (TokenAccount.debit_ok debited).1 with owned | delegated
    · exact .inl (owned ▸ authority.canSign)
    · exact .inr (by simp [delegated])
  | approve owner source delegate x =>
    simp only [process, bind_eq_ok, pure_eq_ok] at h
    obtain ⟨a, held, rfl⟩ := h
    exact .of_owned held _
  | revoke owner source =>
    simp only [process, bind_eq_ok, pure_eq_ok] at h
    obtain ⟨a, held, rfl⟩ := h
    exact .of_owned held _
  | setAuthority owner account newOwner =>
    simp only [process, bind_eq_ok, pure_eq_ok] at h
    obtain ⟨a, held, rfl⟩ := h
    exact .of_owned held _
  | closeAccount owner account =>
    simp only [process, bind_eq_ok, require_eq_ok, pure_eq_ok, exists_and_left, exists_const] at h
    obtain ⟨a, held, -, rfl⟩ := h
    exact .of_owned held _

/-- Token instructions keep every mint. -/
theorem process_mints {m : Mint K} (h : ledger.process ix = .ok after)
    (present : ledger.mints key = some m) : after.mints key = some m := by
  cases process_cases h with
  | recorded mint m' vacant =>
    have apart : key ≠ mint.key := by
      rintro rfl
      simp [vacant.1] at present
    simpa [Function.update_apply, apart] using present
  | moved authority source destination x moved =>
    rw [transfer_mints moved]
    exact present
  | opened | rewritten | credited => exact present

/-- A locked account stays as it is, up to credits. -/
theorem process_locked {a : TokenAccount K} (h : ledger.process ix = .ok after)
    (present : ledger.accounts key = some a) (locked : a.Locked) :
    ∃ x, after.accounts key = some (a.credit x) ∧
      (x ≠ 0 → (∃ authority source, ix = .transfer authority source key x) ∨
        ∃ authority mint, ix = .mintTo authority mint key x) := by
  -- Minting and opening do not touch an account that is there; a transfer out of it or a rewrite
  -- would need a signature that a locked account's owner cannot give.
  cases process_cases h with
  | recorded => exact ⟨0, present, by simp⟩
  | opened opened _ _ vacant _ =>
    have apart : key ≠ opened := by
      rintro rfl
      simp [vacant.2] at present
    exact ⟨0, by simpa [setAccount_accounts, apart] using present, by simp⟩
  | moved authority source destination x moved =>
    have owner : a.owner ≠ authority.key := by
      intro same
      exact locked.1 (same ▸ authority.canSign)
    refine ⟨_, transfer_other moved present owner (by simp [locked.2]), ?_⟩
    split
    next reached =>
      subst reached
      exact fun _ => .inl ⟨authority, source, rfl⟩
    · simp
  | rewritten changed b _ held power =>
    have apart : key ≠ changed := by
      rintro rfl
      obtain rfl : b = a := Option.some.inj (held.symm.trans present)
      rcases power with signs | delegated
      · exact locked.1 signs
      · exact delegated locked.2
    exact ⟨0, by simpa [setAccount_accounts, apart] using present, by simp⟩
  | credited authority mint credited b x held =>
    by_cases reached : key = credited
    · subst reached
      obtain rfl : b = a := Option.some.inj (held.symm.trans present)
      exact ⟨x, by simp [setAccount_accounts], fun _ => .inr ⟨authority, mint, rfl⟩⟩
    · exact ⟨0, by simpa [setAccount_accounts, reached] using present, by simp⟩

/-- An address without a key stays vacant unless it is opened as an associated account. -/
theorem process_vacant (h : ledger.process ix = .ok after) (keyless : ¬CanSign key)
    (vacant : ledger.Vacant key)
    (unopened : ∀ payer wallet mint, ix = .createAssociatedToken payer wallet mint →
      key ≠ associatedTokenAddress wallet mint) : after.Vacant key := by
  -- An account is opened with the key of its own address, or at an associated address.
  cases process_cases h with
  | recorded mint =>
    have apart : key ≠ mint.key := by
      rintro rfl
      exact keyless mint.canSign
    exact ⟨by simpa [Function.update_apply, apart] using vacant.1, vacant.2⟩
  | opened opened _ _ _ reason =>
    have apart : key ≠ opened := by
      rintro rfl
      rcases reason with signed | ⟨payer, sent, derived⟩
      · exact keyless signed
      · exact unopened payer _ _ sent derived
    exact ⟨vacant.1, by simpa [setAccount_accounts, apart] using vacant.2⟩
  | moved authority source destination x moved =>
    have mints : after.mints key = none := by
      rw [transfer_mints moved]
      exact vacant.1
    exact ⟨mints, transfer_absent moved vacant.2⟩
  | rewritten changed _ _ held _ =>
    have apart : key ≠ changed := by
      rintro rfl
      simp [vacant.2] at held
    exact ⟨vacant.1, by simpa [setAccount_accounts, apart] using vacant.2⟩
  | credited _ _ credited _ _ held =>
    have apart : key ≠ credited := by
      rintro rfl
      simp [vacant.2] at held
    exact ⟨vacant.1, by simpa [setAccount_accounts, apart] using vacant.2⟩

end TokenLedger
end AgentFuel.Solana
