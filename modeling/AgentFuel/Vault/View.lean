import AgentFuel.Vault.Instructions

/-!
# One vault at a time

`VaultView` is a vault with its policy, its requests and the money in its token account.
A well-formed world shows a view for each of its vaults, and `VaultStep` says what a step
of the chain can do to one view. `step_shows` proves that the instructions do nothing
else; all later results are read off `VaultStep`.
-/
namespace AgentFuel.Vault

open Checked Solana

variable {K : Type} [AddressSpace K]

def policyAddress (v : K) : K := findProgramAddress (.policy v)

def pendingAddress (v : K) (nonce : Nat) : K := findProgramAddress (.pending v nonce)

@[simp] theorem policyAddress_inj (v u : K) : policyAddress v = policyAddress u ↔ v = u := by
  simp [policyAddress]

@[simp] theorem pendingAddress_inj (v u : K) (n m : Nat) :
    pendingAddress v n = pendingAddress u m ↔ v = u ∧ n = m := by
  simp [pendingAddress]

structure VaultView (K : Type) where
  slot : Nat
  vault : CreditVault K
  policy : SpendPolicy K
  balance : Nat
  pending : Nat → Option (PendingSpend K)

/-- What `create_vault` fixes in a vault account for good. -/
structure Identity (v : K) (vault : CreditVault K) : Prop where
  address : v = findProgramAddress (.vault vault.owner vault.agent)
  bump : vault.bump = canonicalBump (.vault vault.owner vault.agent)
  ownerSigns : CanSign vault.owner
  tokenAddress : vault.vaultTokenAccount = associatedTokenAddress v vault.usdcMint

/-- The token account of a vault: owned by the vault itself and never delegated. -/
def VaultView.account (s : VaultView K) (v : K) : TokenAccount K :=
  { mint := s.vault.usdcMint, owner := v, amount := s.balance }

/-- The world holds the view `s` at the vault address `v`. -/
structure Shows (w : World K) (v : K) (s : VaultView K) : Prop where
  identity : Identity v s.vault
  slot : w.slot = s.slot
  vault : w.vaults v = some s.vault
  policy : w.policies (policyAddress v) = some s.policy
  policyOf : s.policy.vault = v ∧ s.policy.bump = canonicalBump (.policy v)
  account : w.tokens.accounts s.vault.vaultTokenAccount = some (s.account v)
  pending : ∀ n, w.pendings (pendingAddress v n) = s.pending n
  pendingOf : ∀ n p, s.pending n = some p → p.vault = v ∧ p.nonce = n ∧ n < s.vault.pendingCount

structure WellFormed (w : World K) : Prop where
  shown : ∀ v vault, w.vaults v = some vault → ∃ s, s.vault = vault ∧ Shows w v s
  policies : ∀ k policy, w.policies k = some policy →
    k = policyAddress policy.vault ∧ w.vaults policy.vault ≠ none
  pendings : ∀ k pending, w.pendings k = some pending →
    k = pendingAddress pending.vault pending.nonce ∧ w.vaults pending.vault ≠ none

theorem Genesis.wellFormed {w : World K} (genesis : Genesis w) : WellFormed w where
  shown v vault present := by simp [genesis.vaults v] at present
  policies k policy present := by simp [genesis.policies k] at present
  pendings k pending present := by simp [genesis.pendings k] at present

/-! ### What the account lists of a well-formed world load -/

variable {w : World K} {v u : K} {s t : VaultView K}

theorem Shows.unique (first : Shows w v s) (second : Shows w v t) : s = t := by
  obtain ⟨slot, vault, policy, balance, pending⟩ := s
  obtain ⟨slot', vault', policy', balance', pending'⟩ := t
  obtain rfl : vault = vault' := Option.some.inj (first.vault.symm.trans second.vault)
  obtain rfl : policy = policy' := Option.some.inj (first.policy.symm.trans second.policy)
  obtain rfl : slot = slot' := first.slot.symm.trans second.slot
  obtain rfl : pending = pending' :=
    funext fun n => (first.pending n).symm.trans (second.pending n)
  -- The balance is read off the token account, the pending requests off their addresses.
  have accounts := first.account.symm.trans second.account
  simp only [VaultView.account, Option.some.injEq, TokenAccount.mk.injEq, true_and] at accounts
  rw [accounts.1]

theorem WellFormed.shows_vault (wf : WellFormed w) {vault : CreditVault K}
    (loaded : w.vaults v = some vault) : ∃ s, Shows w v s ∧ vault = s.vault := by
  obtain ⟨s, rfl, shows⟩ := wf.shown v vault loaded
  exact ⟨s, shows, rfl⟩

theorem WellFormed.shows_policy (wf : WellFormed w) (shows : Shows w v s) {key : K}
    {policy : SpendPolicy K} (loaded : w.policies key = some policy) (vault : policy.vault = v) :
    key = policyAddress v ∧ policy = s.policy := by
  obtain rfl : key = policyAddress v := vault ▸ (wf.policies key policy loaded).1
  exact ⟨rfl, Option.some.inj (loaded.symm.trans shows.policy)⟩

theorem WellFormed.shows_pending (wf : WellFormed w) (shows : Shows w v s) {key : K}
    {p : PendingSpend K} (loaded : w.pendings key = some p) (vault : p.vault = v) :
    key = pendingAddress v p.nonce ∧ s.pending p.nonce = some p := by
  obtain rfl : key = pendingAddress v p.nonce := vault ▸ (wf.pendings key p loaded).1
  exact ⟨rfl, (shows.pending _).symm.trans loaded⟩

theorem WellFormed.pending_iff (wf : WellFormed w) (shows : Shows w v s) {key : K}
    {p : PendingSpend K} (vault : p.vault = v) :
    w.pendings key = some p ↔ key = pendingAddress v p.nonce ∧ s.pending p.nonce = some p := by
  constructor
  · exact fun loaded => wf.shows_pending shows loaded vault
  · rintro ⟨rfl, held⟩
    rw [shows.pending, held]

/-- The money in the token account of the vault at `v`. -/
def World.balance (w : World K) (v : K) : Nat :=
  (((w.vaults v).bind fun vault => w.tokens.accounts vault.vaultTokenAccount).map
    TokenAccount.amount).getD 0

theorem Shows.balance (shows : Shows w v s) : w.balance v = s.balance := by
  simp [World.balance, shows.vault, shows.account, VaultView.account]

/-- Vaults do not sign transactions. -/
theorem Shows.signer_ne (shows : Shows w v s) (signer : Signer K) : signer.key ≠ v := by
  rw [shows.identity.address]
  exact signer.key_ne_find _

theorem Shows.locked (shows : Shows w v s) : (s.account v).Locked := by
  refine ⟨?_, rfl⟩
  simp only [VaultView.account]
  rw [shows.identity.address]
  exact findProgramAddress_cannot_sign _

/-! ### The steps of a view -/

/-- The token account an action pays into, deposits apart. -/
def Action.payee : Action K → Option K
  | .program (.spend ctx _) => some ctx.serviceTokenAccount
  | .program (.claim ctx _) => some ctx.serviceTokenAccount
  | .program (.withdraw ctx _) => some ctx.ownerTokenAccount
  | .program (.approveSpend ctx) => some ctx.serviceTokenAccount
  | .token (.transfer _ _ destination _) => some destination
  | .token (.mintTo _ _ destination _) => some destination
  | _ => none

/-- The vault an action names. -/
def Action.vault : Action K → Option K
  | .program ix => some ix.vault
  | _ => none

variable [DecidableEq K]

/-- The money left after paying `x` out of the vault; the vault may pay itself. -/
def VaultView.paid (s : VaultView K) (destination : K) (x : Nat) : Nat :=
  if s.vault.vaultTokenAccount = destination then s.balance else s.balance - x

/-- What one action of the chain can do to the view of the vault at `v`. -/
inductive VaultStep (w : World K) (v : K) (s : VaultView K) : Action K → VaultView K → Prop
  | advanced (slots : Nat) :
    VaultStep w v s (.advance slots) { s with slot := s.slot + slots }
  | other (act : Action K) (x : Nat) : act.vault ≠ some v →
    (x ≠ 0 → act.payee = some s.vault.vaultTokenAccount) →
    VaultStep w v s act { s with balance := s.balance + x }
  | deposited (ctx : Deposit K) (x : Nat) : ctx.vault = v → ctx.owner.key = s.vault.owner → 0 < x →
    s.vault.totalDeposited + x < 2 ^ 64 → ctx.vaultTokenAccount = s.vault.vaultTokenAccount →
    VaultStep w v s (.program (.deposit ctx x))
      { s with
        vault := { s.vault with
          totalDeposited := s.vault.totalDeposited + x, lastActiveSlot := s.slot }
        balance := s.balance + x }
  | spent (ctx : Spend K) (x : Nat) (dst : TokenAccount K) : ctx.vault = v →
    ctx.agent.key = s.vault.agent →
    w.tokens.accounts ctx.serviceTokenAccount = some dst →
    Allows s.vault s.policy dst.owner x s.slot → x ≤ s.balance →
    VaultStep w v s (.program (.spend ctx x))
      { s with
        vault := { s.vault with totalSpent := s.vault.totalSpent + x, lastActiveSlot := s.slot }
        policy := s.policy.charged s.slot x
        balance := s.paid ctx.serviceTokenAccount x }
  | claimed (ctx : Claim K) (x : Nat) (dst : TokenAccount K) : ctx.vault = v →
    s.policy.allowPostPay = true →
    w.tokens.accounts ctx.serviceTokenAccount = some dst → dst.owner = ctx.service.key →
    Allows s.vault s.policy ctx.service.key x s.slot → x ≤ s.balance →
    s.vault.totalClaimed + x < 2 ^ 64 →
    VaultStep w v s (.program (.claim ctx x))
      { s with
        vault := { s.vault with
          totalSpent := s.vault.totalSpent + x
          totalClaimed := s.vault.totalClaimed + x
          lastActiveSlot := s.slot }
        policy := s.policy.charged s.slot x
        balance := s.paid ctx.serviceTokenAccount x }
  | withdrawn (ctx : Withdraw K) (x : Nat) : ctx.vault = v → ctx.owner.key = s.vault.owner →
    0 < x → x ≤ s.balance → s.vault.totalWithdrawn + x < 2 ^ 64 →
    VaultStep w v s (.program (.withdraw ctx x))
      { s with
        vault := { s.vault with
          totalWithdrawn := s.vault.totalWithdrawn + x, lastActiveSlot := s.slot }
        balance := s.paid ctx.ownerTokenAccount x }
  | requested (ctx : RequestSpend K) (x : Nat) (dst : TokenAccount K) : ctx.vault = v →
    ctx.agent.key = s.vault.agent →
    ctx.pendingSpend = pendingAddress v s.vault.pendingCount →
    w.tokens.accounts ctx.serviceTokenAccount = some dst → 0 < x → s.vault.frozen = false →
    s.pending s.vault.pendingCount = none → s.vault.pendingCount + 1 < 2 ^ 64 →
    VaultStep w v s (.program (.requestSpend ctx x))
      { s with
        vault := { s.vault with
          pendingCount := s.vault.pendingCount + 1, lastActiveSlot := s.slot }
        pending := Function.update s.pending s.vault.pendingCount (some
          { vault := v
            agent := ctx.agent.key
            service := dst.owner
            amountUsdc := x
            requestedSlot := s.slot
            nonce := s.vault.pendingCount
            bump := canonicalBump (.pending v s.vault.pendingCount) }) }
  | approved (ctx : ApproveSpend K) (p : PendingSpend K) (dst : TokenAccount K) : ctx.vault = v →
    ctx.owner.key = s.vault.owner →
    ctx.pendingSpend = pendingAddress v p.nonce → s.pending p.nonce = some p →
    w.tokens.accounts ctx.serviceTokenAccount = some dst → dst.owner = p.service →
    s.vault.frozen = false → 0 < p.amountUsdc →
    Whitelisted s.policy.whitelist.toList p.service → p.amountUsdc ≤ s.balance →
    s.vault.totalSpent + p.amountUsdc < 2 ^ 64 →
    VaultStep w v s (.program (.approveSpend ctx))
      { s with
        vault := { s.vault with
          totalSpent := s.vault.totalSpent + p.amountUsdc, lastActiveSlot := s.slot }
        balance := s.paid ctx.serviceTokenAccount p.amountUsdc
        pending := Function.update s.pending p.nonce none }
  | cancelled (ctx : CancelSpend K) (p : PendingSpend K) : ctx.vault = v →
    ctx.owner.key = s.vault.owner →
    ctx.pendingSpend = pendingAddress v p.nonce → s.pending p.nonce = some p →
    VaultStep w v s (.program (.cancelSpend ctx))
      { s with pending := Function.update s.pending p.nonce none }
  | froze (ctx : FreezeVault K) : ctx.vault = v → ctx.owner.key = s.vault.owner →
    s.vault.frozen = false →
    VaultStep w v s (.program (.freezeVault ctx))
      { s with vault := { s.vault with frozen := true, lastActiveSlot := s.slot } }
  | unfroze (ctx : FreezeVault K) : ctx.vault = v → ctx.owner.key = s.vault.owner →
    s.vault.frozen = true →
    VaultStep w v s (.program (.unfreezeVault ctx))
      { s with vault := { s.vault with frozen := false, lastActiveSlot := s.slot } }
  | policyUpdated (ctx : UpdatePolicy K) (perTx hourly lifetime : Nat) (allowPostPay : Bool)
    (whitelist : Vector K whitelistLen) : ctx.vault = v → ctx.owner.key = s.vault.owner →
    VaultStep w v s (.program (.updatePolicy ctx perTx hourly lifetime allowPostPay whitelist))
      { s with
        policy := { s.policy with
          perTxLimitUsdc := perTx
          hourlyLimitUsdc := hourly
          lifetimeLimitUsdc := lifetime
          allowPostPay := allowPostPay
          whitelist := whitelist } }

/-! ### What no step changes -/

variable {act : Action K} {s' : VaultView K}

/-- The fields of a vault account that are written once. -/
theorem VaultStep.fixed (move : VaultStep w v s act s') :
    s'.vault.owner = s.vault.owner ∧ s'.vault.agent = s.vault.agent ∧
      s'.vault.usdcMint = s.vault.usdcMint ∧
      s'.vault.vaultTokenAccount = s.vault.vaultTokenAccount ∧
      s'.vault.createdSlot = s.vault.createdSlot ∧ s'.vault.bump = s.vault.bump := by
  cases move <;> exact ⟨rfl, rfl, rfl, rfl, rfl, rfl⟩

/-- No counter falls. -/
theorem VaultStep.grows (move : VaultStep w v s act s') :
    s.vault.totalDeposited ≤ s'.vault.totalDeposited ∧
      s.vault.totalWithdrawn ≤ s'.vault.totalWithdrawn ∧
      s.vault.totalSpent ≤ s'.vault.totalSpent ∧ s.vault.totalClaimed ≤ s'.vault.totalClaimed := by
  cases move <;> simp

theorem VaultStep.identity (move : VaultStep w v s act s') (identity : Identity v s.vault) :
    Identity v s'.vault := by
  obtain ⟨owner, agent, mint, account, -, bump⟩ := move.fixed
  constructor
  · rw [owner, agent]; exact identity.address
  · rw [owner, agent, bump]; exact identity.bump
  · rw [owner]; exact identity.ownerSigns
  · rw [account, mint]; exact identity.tokenAddress

theorem VaultStep.policyOf (move : VaultStep w v s act s') :
    s'.policy.vault = s.policy.vault ∧ s'.policy.bump = s.policy.bump := by
  cases move <;> simp

theorem VaultStep.pendingOf (move : VaultStep w v s act s')
    (before : ∀ n p, s.pending n = some p → p.vault = v ∧ p.nonce = n ∧ n < s.vault.pendingCount) :
    ∀ n p, s'.pending n = some p → p.vault = v ∧ p.nonce = n ∧ n < s'.vault.pendingCount := by
  intro n p held
  -- Only `request_spend` adds an entry, and it takes the number the counter stands at.
  cases move with
  | requested =>
    simp only [Function.update_apply] at held
    split at held
    next new =>
      obtain rfl := Option.some.inj held
      simp [new]
    next old =>
      obtain ⟨vault, nonce, bound⟩ := before n p held
      exact ⟨vault, nonce, Nat.lt_succ_of_lt bound⟩
  | approved | cancelled =>
    simp only [Function.update_apply] at held
    split at held
    · cases held
    · exact before n p held
  | _ => exact before n p held

end AgentFuel.Vault
