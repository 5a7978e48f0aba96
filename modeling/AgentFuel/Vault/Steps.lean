import AgentFuel.Vault.Reports

/-!
# The program refines the views

For each instruction, what its account list loads from a well-formed world, and the step
of one view that its handler writes. Every other view is at most credited.
-/
namespace AgentFuel.Vault

open Checked Solana

variable {K : Type} [DecidableEq K] [AddressSpace K] {w w' : World K} {v u : K}
  {s s' : VaultView K} {x : Nat} {ev : VaultEvent K}

/-! ### Account lists -/

theorem Deposit.tryAccounts_ok (wf : WellFormed w) {ctx : Deposit K} {vault : CreditVault K}
    (h : ctx.tryAccounts w = .ok vault) :
    ∃ s, Shows w ctx.vault s ∧ vault = s.vault ∧ ctx.owner.key = s.vault.owner ∧
      ctx.vaultTokenAccount = s.vault.vaultTokenAccount := by
  simp only [tryAccounts, bind_eq_ok, World.loadVault_eq_ok, World.loadToken_eq_ok,
    requireVaultSeeds_eq_ok, require_eq_ok, pure_eq_ok, exists_and_left, exists_const] at h
  obtain ⟨_, present, _, -, _, -, -, owner, -, account, rfl⟩ := h
  obtain ⟨s, shows, rfl⟩ := wf.shows_vault present
  exact ⟨s, shows, rfl, owner.symm, account⟩

theorem Spend.tryAccounts_ok (wf : WellFormed w) {ctx : Spend K} {vault : CreditVault K}
    {policy : SpendPolicy K} {dst : TokenAccount K}
    (h : ctx.tryAccounts w = .ok (vault, policy, dst)) :
    ∃ s, Shows w ctx.vault s ∧ vault = s.vault ∧ policy = s.policy ∧
      ctx.policy = policyAddress ctx.vault ∧ ctx.agent.key = s.vault.agent ∧
      ctx.vaultTokenAccount = s.vault.vaultTokenAccount ∧
      w.tokens.accounts ctx.serviceTokenAccount = some dst := by
  simp only [tryAccounts, bind_eq_ok, World.loadVault_eq_ok, World.loadPolicy_eq_ok,
    World.loadToken_eq_ok, requireVaultSeeds_eq_ok, requirePolicyOf_eq_ok, require_eq_ok,
    pure_eq_ok, exists_and_left, exists_const, Prod.mk.injEq] at h
  obtain ⟨_, present, _, policyPresent, _, -, _, dstPresent, -, agent, ⟨-, policyOf⟩, account, -,
    rfl, rfl, rfl⟩ := h
  obtain ⟨s, shows, rfl⟩ := wf.shows_vault present
  obtain ⟨address, rfl⟩ := wf.shows_policy shows policyPresent policyOf
  exact ⟨s, shows, rfl, rfl, address, agent.symm, account, dstPresent⟩

theorem FreezeVault.tryAccounts_ok (wf : WellFormed w) {ctx : FreezeVault K}
    {vault : CreditVault K} (h : ctx.tryAccounts w = .ok vault) :
    ∃ s, Shows w ctx.vault s ∧ vault = s.vault ∧ ctx.owner.key = s.vault.owner := by
  simp only [tryAccounts, bind_eq_ok, World.loadVault_eq_ok, requireVaultSeeds_eq_ok,
    require_eq_ok, pure_eq_ok, exists_and_left, exists_const] at h
  obtain ⟨_, present, -, owner, rfl⟩ := h
  obtain ⟨s, shows, rfl⟩ := wf.shows_vault present
  exact ⟨s, shows, rfl, owner.symm⟩

theorem UpdatePolicy.tryAccounts_ok (wf : WellFormed w) {ctx : UpdatePolicy K}
    {policy : SpendPolicy K} (h : ctx.tryAccounts w = .ok policy) :
    ∃ s, Shows w ctx.vault s ∧ policy = s.policy ∧ ctx.policy = policyAddress ctx.vault ∧
      ctx.owner.key = s.vault.owner := by
  simp only [tryAccounts, bind_eq_ok, World.loadVault_eq_ok, World.loadPolicy_eq_ok,
    requireVaultSeeds_eq_ok, requirePolicyOf_eq_ok, require_eq_ok, pure_eq_ok, exists_and_left,
    exists_const] at h
  obtain ⟨_, present, _, policyPresent, -, owner, ⟨-, policyOf⟩, rfl⟩ := h
  obtain ⟨s, shows, rfl⟩ := wf.shows_vault present
  obtain ⟨address, rfl⟩ := wf.shows_policy shows policyPresent policyOf
  exact ⟨s, shows, rfl, address, owner.symm⟩

theorem Withdraw.tryAccounts_ok (wf : WellFormed w) {ctx : Withdraw K} {vault : CreditVault K}
    (h : ctx.tryAccounts w = .ok vault) :
    ∃ s, Shows w ctx.vault s ∧ vault = s.vault ∧ ctx.owner.key = s.vault.owner ∧
      ctx.vaultTokenAccount = s.vault.vaultTokenAccount := by
  simp only [tryAccounts, bind_eq_ok, World.loadVault_eq_ok, World.loadToken_eq_ok,
    requireVaultSeeds_eq_ok, require_eq_ok, pure_eq_ok, exists_and_left, exists_const] at h
  obtain ⟨_, present, _, -, _, -, -, owner, account, -, rfl⟩ := h
  obtain ⟨s, shows, rfl⟩ := wf.shows_vault present
  exact ⟨s, shows, rfl, owner.symm, account⟩

theorem Claim.tryAccounts_ok (wf : WellFormed w) {ctx : Claim K} {vault : CreditVault K}
    {policy : SpendPolicy K} (h : ctx.tryAccounts w = .ok (vault, policy)) :
    ∃ s dst, Shows w ctx.vault s ∧ vault = s.vault ∧ policy = s.policy ∧
      ctx.policy = policyAddress ctx.vault ∧
      ctx.vaultTokenAccount = s.vault.vaultTokenAccount ∧
      w.tokens.accounts ctx.serviceTokenAccount = some dst ∧ dst.owner = ctx.service.key := by
  simp only [tryAccounts, bind_eq_ok, World.loadVault_eq_ok, World.loadPolicy_eq_ok,
    World.loadToken_eq_ok, requireVaultSeeds_eq_ok, requirePolicyOf_eq_ok, require_eq_ok,
    pure_eq_ok, exists_and_left, exists_const, Prod.mk.injEq] at h
  obtain ⟨_, present, _, policyPresent, _, -, dst, dstPresent, -, ⟨-, policyOf⟩, account, -, owner,
    rfl, rfl⟩ := h
  obtain ⟨s, shows, rfl⟩ := wf.shows_vault present
  obtain ⟨address, rfl⟩ := wf.shows_policy shows policyPresent policyOf
  exact ⟨s, dst, shows, rfl, rfl, address, account, dstPresent, owner⟩

theorem RequestSpend.tryAccounts_ok (wf : WellFormed w) {ctx : RequestSpend K}
    {vault : CreditVault K} {dst : TokenAccount K} (h : ctx.tryAccounts w = .ok (vault, dst)) :
    ∃ s, Shows w ctx.vault s ∧ vault = s.vault ∧ ctx.agent.key = s.vault.agent ∧
      ctx.pendingSpend = pendingAddress ctx.vault s.vault.pendingCount ∧
      w.Vacant ctx.pendingSpend ∧ w.tokens.accounts ctx.serviceTokenAccount = some dst := by
  simp only [tryAccounts, bind_eq_ok, World.loadVault_eq_ok, World.loadToken_eq_ok,
    requireInit_eq_ok, requireVaultSeeds_eq_ok, require_eq_ok, pure_eq_ok, exists_and_left,
    exists_const, Prod.mk.injEq] at h
  obtain ⟨_, present, _, dstPresent, ⟨address, vacant⟩, -, agent, -, rfl, rfl⟩ := h
  obtain ⟨s, shows, rfl⟩ := wf.shows_vault present
  exact ⟨s, shows, rfl, agent.symm, address, vacant, dstPresent⟩

theorem ApproveSpend.tryAccounts_ok (wf : WellFormed w) {ctx : ApproveSpend K}
    {vault : CreditVault K} {policy : SpendPolicy K} {p : PendingSpend K}
    (h : ctx.tryAccounts w = .ok (vault, policy, p)) :
    ∃ s dst, Shows w ctx.vault s ∧ vault = s.vault ∧ policy = s.policy ∧
      ctx.owner.key = s.vault.owner ∧ ctx.pendingSpend = pendingAddress ctx.vault p.nonce ∧
      s.pending p.nonce = some p ∧ ctx.vaultTokenAccount = s.vault.vaultTokenAccount ∧
      w.tokens.accounts ctx.serviceTokenAccount = some dst ∧ dst.owner = p.service := by
  simp only [tryAccounts, bind_eq_ok, World.loadVault_eq_ok, World.loadPolicy_eq_ok,
    World.loadPending_eq_ok, World.loadToken_eq_ok, requirePolicyOf_eq_ok, requirePendingOf_eq_ok,
    require_eq_ok, pure_eq_ok, exists_and_left, exists_const, Prod.mk.injEq] at h
  obtain ⟨_, present, _, policyPresent, _, pendingPresent, _, -, dst, dstPresent, -, owner,
    ⟨-, policyOf⟩, ⟨-, pendingOf⟩, account, service, -, rfl, rfl, rfl⟩ := h
  obtain ⟨s, shows, rfl⟩ := wf.shows_vault present
  obtain ⟨-, rfl⟩ := wf.shows_policy shows policyPresent policyOf
  obtain ⟨address, held⟩ := wf.shows_pending shows pendingPresent pendingOf
  exact ⟨s, dst, shows, rfl, rfl, owner.symm, address, held, account, dstPresent, service⟩

theorem CancelSpend.tryAccounts_ok (wf : WellFormed w) {ctx : CancelSpend K} {p : PendingSpend K}
    (h : ctx.tryAccounts w = .ok p) :
    ∃ s, Shows w ctx.vault s ∧ ctx.owner.key = s.vault.owner ∧
      ctx.pendingSpend = pendingAddress ctx.vault p.nonce ∧ s.pending p.nonce = some p := by
  simp only [tryAccounts, bind_eq_ok, World.loadVault_eq_ok, World.loadPending_eq_ok,
    requirePendingOf_eq_ok, require_eq_ok, pure_eq_ok, exists_and_left, exists_const] at h
  obtain ⟨_, present, _, pendingPresent, -, owner, ⟨-, pendingOf⟩, rfl⟩ := h
  obtain ⟨s, shows, rfl⟩ := wf.shows_vault present
  obtain ⟨address, held⟩ := wf.shows_pending shows pendingPresent pendingOf
  exact ⟨s, shows, owner.symm, address, held⟩

/-! ### Writing one view -/

/-- What an instruction keeps of a ledger when it acts for the vault at `v`. -/
structure LedgerKept (ledger : TokenLedger K) (v : K) (payee : Option K)
    (after : TokenLedger K) : Prop where
  mints : after.mints = ledger.mints
  locked : ∀ k a, ledger.accounts k = some a → a.Locked → a.owner ≠ v →
    ∃ y, after.accounts k = some (a.credit y) ∧ (y ≠ 0 → payee = some k)

omit [DecidableEq K] in
theorem LedgerKept.refl (ledger : TokenLedger K) (v : K) (payee : Option K) :
    LedgerKept ledger v payee ledger :=
  ⟨rfl, fun _ _ present _ _ => ⟨0, present, by simp⟩⟩

theorem LedgerKept.transfer {ledger after : TokenLedger K} {source destination authority : K}
    (moved : ledger.transfer source destination authority x = .ok after)
    (power : authority = v ∨ CanSign authority) {payee : Option K}
    (paid : payee = some destination ∨ ∃ b, ledger.accounts destination = some b ∧ b.owner = v) :
    LedgerKept ledger v payee after where
  mints := TokenLedger.transfer_mints moved
  locked k a present locked apart := by
    -- The authority is the vault itself or a wallet, and a locked account has neither for owner
    -- unless it is the vault's own.
    have owner : a.owner ≠ authority := by
      rintro rfl
      exact power.elim apart locked.1
    refine ⟨_, TokenLedger.transfer_other moved present owner (by simp [locked.2]), ?_⟩
    split
    next reached =>
      subst reached
      -- A destination that is reached is the payee, or belongs to the vault and is not meant here.
      rcases paid with rfl | ⟨b, held, own⟩
      · exact fun _ => rfl
      · obtain rfl : b = a := Option.some.inj (held.symm.trans present)
        exact absurd own apart
    · simp

/-- The world after the view at `v` became `s`; of its requests, number `n` is written. -/
def World.write (w : World K) (v : K) (s : VaultView K) (n : Nat) (tokens : TokenLedger K) :
    World K :=
  { slot := w.slot
    tokens
    vaults := Function.update w.vaults v (some s.vault)
    policies := Function.update w.policies (policyAddress v) (some s.policy)
    pendings := Function.update w.pendings (pendingAddress v n) (s.pending n) }

/-- An action takes the view at `v` from `s` to `s'`, and request `n` and the ledger with it. -/
structure Moves (w : World K) (v : K) (act : Action K) (s s' : VaultView K) (n : Nat)
    (tokens : TokenLedger K) : Prop where
  shows : Shows w v s
  move : VaultStep w v s act s'
  slot : s'.slot = s.slot
  pending : ∀ m, m ≠ n → s'.pending m = s.pending m
  account : tokens.accounts s.vault.vaultTokenAccount = some (s'.account v)
  absent : ∀ k, w.tokens.accounts k = none → tokens.accounts k = none
  ledger : LedgerKept w.tokens v act.payee tokens

section Moves

variable {act : Action K} {n : Nat} {tokens : TokenLedger K} {t : VaultView K}

theorem Moves.after (moves : Moves w v act s s' n tokens) : Shows (w.write v s' n tokens) v s' := by
  obtain ⟨shows, move, slot, pending, account, -, -⟩ := moves
  -- The addresses of the policy and of the requests are derived from `v`, so each field is read
  -- back from the address it was written to.
  exact
    { identity := move.identity shows.identity
      slot := shows.slot.trans slot.symm
      vault := by simp [World.write]
      policy := by simp [World.write]
      policyOf := by rw [move.policyOf.1, move.policyOf.2]; exact shows.policyOf
      account := by rw [move.fixed.2.2.2.1]; exact account
      pending := by
        intro m
        by_cases written : m = n
        · simp [World.write, written]
        · simp [World.write, written, pending m written, shows.pending m]
      pendingOf := move.pendingOf shows.pendingOf }

/-- The view of another vault is at most credited. -/
theorem LedgerKept.elsewhere {payee : Option K}
    (kept : LedgerKept w.tokens v payee tokens) (other : Shows w u t) (apart : u ≠ v) :
    ∃ y, Shows (w.write v s' n tokens) u { t with balance := t.balance + y } ∧
      (y ≠ 0 → payee = some t.vault.vaultTokenAccount) := by
  obtain ⟨y, account, paid⟩ := kept.locked _ _ other.account other.locked apart
  refine ⟨y, ?_, paid⟩
  exact
    { identity := other.identity
      slot := other.slot
      vault := by simp [World.write, apart, other.vault]
      policy := by simp [World.write, apart, other.policy]
      policyOf := other.policyOf
      account := account
      pending := by simp [World.write, apart, other.pending]
      pendingOf := other.pendingOf }

end Moves

/-! ### Handlers -/

section Unwritten

variable (shows : Shows w v s)
include shows

theorem Shows.update_vault : Function.update w.vaults v (some s.vault) = w.vaults := by
  rw [← shows.vault, Function.update_eq_self]

theorem Shows.update_policy :
    Function.update w.policies (policyAddress v) (some s.policy) = w.policies := by
  rw [← shows.policy, Function.update_eq_self]

theorem Shows.update_pending (n : Nat) :
    Function.update w.pendings (pendingAddress v n) (s.pending n) = w.pendings := by
  rw [← shows.pending, Function.update_eq_self]

end Unwritten

/-- A payment of the vault is covered by its balance. -/
theorem Shows.pays {tokens : TokenLedger K} {destination : K} (shows : Shows w v s)
    (moved : w.tokens.transfer s.vault.vaultTokenAccount destination v x = .ok tokens) :
    x ≤ s.balance ∧ tokens.accounts s.vault.vaultTokenAccount =
      some { s.account v with amount := s.paid destination x } := by
  obtain ⟨-, funds, account⟩ := TokenLedger.transfer_source moved shows.account rfl
  exact ⟨funds, account⟩

section Moves

variable {act : Action K} {n : Nat} (shows : Shows w v s) (move : VaultStep w v s act s')
  (slot : s'.slot = s.slot) (pending : ∀ m, m ≠ n → s'.pending m = s.pending m)
include shows move slot pending

/-- A step that pays out of the vault at `v`, on the signature of its seeds. -/
theorem Moves.paying {tokens : TokenLedger K} {destination : K}
    (moved : w.tokens.transfer s.vault.vaultTokenAccount destination v x = .ok tokens)
    (paid : s'.account v = { s.account v with amount := s.paid destination x })
    (payee : act.payee = some destination) : Moves w v act s s' n tokens where
  shows := shows
  move := move
  slot := slot
  pending := pending
  account := by rw [paid]; exact (shows.pays moved).2
  absent _ := TokenLedger.transfer_absent moved
  ledger := .transfer moved (.inl rfl) (.inl payee)

/-- A step that moves no money. -/
theorem Moves.recording (kept : s'.account v = s.account v) : Moves w v act s s' n w.tokens where
  shows := shows
  move := move
  slot := slot
  pending := pending
  account := by rw [kept]; exact shows.account
  absent _ := id
  ledger := .refl _ _ _

end Moves

theorem Deposit.handler_ok (wf : WellFormed w) {ctx : Deposit K}
    (h : ctx.handler w x = .ok (w', ev)) :
    ∃ s s' tokens, Moves w ctx.vault (.program (.deposit ctx x)) s s' 0 tokens ∧
      Reports ctx.vault s ev s' ∧ w' = w.write ctx.vault s' 0 tokens := by
  simp only [handler, bind_eq_ok, require_eq_ok, mapError_eq_ok, okOr_eq_ok, checkedAdd_eq_some,
    pure_eq_ok, exists_and_left, exists_const, Prod.mk.injEq] at h
  obtain ⟨_, accounts, positive, tokens, moved, _, ⟨fits, rfl⟩, rfl, rfl⟩ := h
  obtain ⟨s, shows, rfl, owner, account⟩ := tryAccounts_ok wf accounts
  -- The depositor signs, so the vault's account can only be the destination.
  have credited := TokenLedger.transfer_other moved (account ▸ shows.account)
    (shows.signer_ne ctx.owner).symm (by simp [VaultView.account])
  have move : VaultStep w ctx.vault s (.program (.deposit ctx x)) _ :=
    .deposited ctx x rfl owner positive fits account
  refine ⟨s, _, tokens, ⟨shows, move, rfl, fun _ _ => rfl, ?_, ?_, ?_⟩, ?_, ?_⟩
  · simpa [account, TokenAccount.credit, VaultView.account] using credited
  · exact fun _ => TokenLedger.transfer_absent moved
  · exact .transfer moved (.inr ctx.owner.canSign) (.inr ⟨_, account ▸ shows.account, rfl⟩)
  · exact ⟨rfl, shows.slot, rfl, rfl, rfl, rfl, rfl, move.grows, rfl, rfl, rfl⟩
  · simp [World.write, World.setTokens, World.setVault, shows.slot, shows.update_policy,
      shows.update_pending]

theorem Spend.handler_ok (wf : WellFormed w) {ctx : Spend K}
    (h : ctx.handler w x = .ok (w', ev)) :
    ∃ s s' tokens, Moves w ctx.vault (.program (.spend ctx x)) s s' 0 tokens ∧
      Reports ctx.vault s ev s' ∧ w' = w.write ctx.vault s' 0 tokens := by
  simp only [handler, bind_eq_ok, Prod.exists, mapError_eq_ok, checkAndRecordSpend_ok,
    transferSigned_eq_ok, pure_eq_ok, Prod.mk.injEq] at h
  obtain ⟨_, _, dst, accounts, _, _, ⟨allows, rfl, rfl⟩, tokens, ⟨-, moved⟩, rfl, rfl⟩ := h
  obtain ⟨s, shows, rfl, rfl, address, agent, account, present⟩ := tryAccounts_ok wf accounts
  rw [account] at moved
  rw [shows.slot] at allows
  have funds := (shows.pays moved).1
  have move : VaultStep w ctx.vault s (.program (.spend ctx x)) _ :=
    .spent ctx x dst rfl agent present allows funds
  refine ⟨s, _, tokens, .paying shows move rfl (fun _ _ => rfl) moved rfl rfl, ?_, ?_⟩
  · exact ⟨rfl, shows.slot, rfl, rfl, rfl, rfl, rfl, move.grows, rfl,
      s.policy.charged_terms _ _, rfl⟩
  · simp [World.write, World.setTokens, World.setVault, World.setPolicy, shows.slot, address,
      shows.update_pending]

theorem FreezeVault.freezeHandler_ok (wf : WellFormed w) {ctx : FreezeVault K}
    (h : ctx.freezeHandler w = .ok (w', ev)) :
    ∃ s s', Moves w ctx.vault (.program (.freezeVault ctx)) s s' 0 w.tokens ∧
      Reports ctx.vault s ev s' ∧ w' = w.write ctx.vault s' 0 w.tokens := by
  simp only [freezeHandler, bind_eq_ok, require_eq_ok, pure_eq_ok, exists_and_left, exists_const,
    Prod.mk.injEq] at h
  obtain ⟨_, accounts, running, rfl, rfl⟩ := h
  obtain ⟨s, shows, rfl, owner⟩ := tryAccounts_ok wf accounts
  have move : VaultStep w ctx.vault s (.program (.freezeVault ctx)) _ :=
    .froze ctx rfl owner running
  refine ⟨s, _, .recording shows move rfl (fun _ _ => rfl) rfl, ?_, ?_⟩
  · exact ⟨rfl, shows.slot, rfl, rfl, rfl, rfl, rfl, move.grows, rfl, rfl, rfl⟩
  · simp [World.write, World.setVault, shows.slot, shows.update_policy, shows.update_pending]

theorem FreezeVault.unfreezeHandler_ok (wf : WellFormed w) {ctx : FreezeVault K}
    (h : ctx.unfreezeHandler w = .ok (w', ev)) :
    ∃ s s', Moves w ctx.vault (.program (.unfreezeVault ctx)) s s' 0 w.tokens ∧
      Reports ctx.vault s ev s' ∧ w' = w.write ctx.vault s' 0 w.tokens := by
  simp only [unfreezeHandler, bind_eq_ok, require_eq_ok, pure_eq_ok, exists_and_left, exists_const,
    Prod.mk.injEq] at h
  obtain ⟨_, accounts, frozen, rfl, rfl⟩ := h
  obtain ⟨s, shows, rfl, owner⟩ := tryAccounts_ok wf accounts
  have move : VaultStep w ctx.vault s (.program (.unfreezeVault ctx)) _ :=
    .unfroze ctx rfl owner frozen
  refine ⟨s, _, .recording shows move rfl (fun _ _ => rfl) rfl, ?_, ?_⟩
  · exact ⟨rfl, shows.slot, rfl, rfl, rfl, rfl, rfl, move.grows, rfl, rfl, rfl⟩
  · simp [World.write, World.setVault, shows.slot, shows.update_policy, shows.update_pending]

theorem UpdatePolicy.handler_ok (wf : WellFormed w) {ctx : UpdatePolicy K}
    {perTx hourly lifetime : Nat} {allowPostPay : Bool} {whitelist : Vector K whitelistLen}
    (h : ctx.handler w perTx hourly lifetime allowPostPay whitelist = .ok (w', ev)) :
    ∃ s s', Moves w ctx.vault
        (.program (.updatePolicy ctx perTx hourly lifetime allowPostPay whitelist)) s s' 0 w.tokens ∧
      Reports ctx.vault s ev s' ∧ w' = w.write ctx.vault s' 0 w.tokens := by
  simp only [handler, bind_eq_ok, pure_eq_ok, Prod.mk.injEq] at h
  obtain ⟨_, accounts, rfl, rfl⟩ := h
  obtain ⟨s, shows, rfl, address, owner⟩ := tryAccounts_ok wf accounts
  have move : VaultStep w ctx.vault s
      (.program (.updatePolicy ctx perTx hourly lifetime allowPostPay whitelist)) _ :=
    .policyUpdated ctx perTx hourly lifetime allowPostPay whitelist rfl owner
  refine ⟨s, _, .recording shows move rfl (fun _ _ => rfl) rfl, ?_, ?_⟩
  · exact ⟨rfl, shows.slot, rfl, rfl, rfl, rfl, rfl, move.grows, rfl, rfl, rfl⟩
  · simp [World.write, World.setPolicy, address, shows.update_vault, shows.update_pending]

theorem Withdraw.handler_ok (wf : WellFormed w) {ctx : Withdraw K}
    (h : ctx.handler w x = .ok (w', ev)) :
    ∃ s s' tokens, Moves w ctx.vault (.program (.withdraw ctx x)) s s' 0 tokens ∧
      Reports ctx.vault s ev s' ∧ w' = w.write ctx.vault s' 0 tokens := by
  simp only [handler, bind_eq_ok, require_eq_ok, transferSigned_eq_ok, okOr_eq_ok,
    checkedAdd_eq_some, pure_eq_ok, exists_and_left, exists_const, Prod.mk.injEq] at h
  obtain ⟨_, accounts, positive, tokens, ⟨-, moved⟩, _, ⟨fits, rfl⟩, rfl, rfl⟩ := h
  obtain ⟨s, shows, rfl, owner, account⟩ := tryAccounts_ok wf accounts
  rw [account] at moved
  have funds := (shows.pays moved).1
  have move : VaultStep w ctx.vault s (.program (.withdraw ctx x)) _ :=
    .withdrawn ctx x rfl owner positive funds fits
  refine ⟨s, _, tokens, .paying shows move rfl (fun _ _ => rfl) moved rfl rfl, ?_, ?_⟩
  · exact ⟨rfl, shows.slot, rfl, rfl, rfl, rfl, rfl, move.grows, rfl, rfl, rfl⟩
  · simp [World.write, World.setTokens, World.setVault, shows.slot, shows.update_policy,
      shows.update_pending]

theorem Claim.handler_ok (wf : WellFormed w) {ctx : Claim K}
    (h : ctx.handler w x = .ok (w', ev)) :
    ∃ s s' tokens, Moves w ctx.vault (.program (.claim ctx x)) s s' 0 tokens ∧
      Reports ctx.vault s ev s' ∧ w' = w.write ctx.vault s' 0 tokens := by
  simp only [handler, bind_eq_ok, Prod.exists, require_eq_ok, mapError_eq_ok,
    checkAndRecordSpend_ok, transferSigned_eq_ok, okOr_eq_ok, checkedAdd_eq_some, pure_eq_ok,
    exists_and_left, exists_const, Prod.mk.injEq] at h
  obtain ⟨_, _, accounts, postPay, _, _, ⟨allows, rfl, rfl⟩, tokens, ⟨-, moved⟩, _, ⟨fits, rfl⟩,
    rfl, rfl⟩ := h
  obtain ⟨s, dst, shows, rfl, rfl, address, account, present, service⟩ :=
    tryAccounts_ok wf accounts
  rw [account] at moved
  rw [shows.slot] at allows
  have funds := (shows.pays moved).1
  have move : VaultStep w ctx.vault s (.program (.claim ctx x)) _ :=
    .claimed ctx x dst rfl postPay present service allows funds fits
  refine ⟨s, _, tokens, .paying shows move rfl (fun _ _ => rfl) moved rfl rfl, ?_, ?_⟩
  · exact ⟨rfl, shows.slot, rfl, rfl, rfl, rfl, rfl, move.grows, rfl,
      s.policy.charged_terms _ _, rfl⟩
  · simp [World.write, World.setTokens, World.setVault, World.setPolicy, shows.slot, address,
      shows.update_pending]

theorem RequestSpend.handler_ok (wf : WellFormed w) {ctx : RequestSpend K}
    (h : ctx.handler w x = .ok (w', ev)) :
    ∃ s s' n, Moves w ctx.vault (.program (.requestSpend ctx x)) s s' n w.tokens ∧
      Reports ctx.vault s ev s' ∧ w' = w.write ctx.vault s' n w.tokens := by
  simp only [handler, bind_eq_ok, Prod.exists, require_eq_ok, okOr_eq_ok, checkedAdd_eq_some,
    pure_eq_ok, exists_and_left, exists_const, Prod.mk.injEq] at h
  obtain ⟨_, dst, accounts, positive, running, _, ⟨fits, rfl⟩, rfl, rfl⟩ := h
  obtain ⟨s, shows, rfl, agent, address, vacant, present⟩ := tryAccounts_ok wf accounts
  -- `init` found the address vacant, so the slot of the counter is empty.
  have free : s.pending s.vault.pendingCount = none := by
    rw [← shows.pending, ← address]
    exact vacant.2.2.1
  have move : VaultStep w ctx.vault s (.program (.requestSpend ctx x)) _ :=
    .requested ctx x dst rfl agent address present positive running free fits
  refine ⟨s, _, s.vault.pendingCount,
    .recording shows move rfl (fun m apart => Function.update_of_ne apart _ _) rfl, ?_, ?_⟩
  · exact ⟨rfl, shows.slot, rfl, rfl, rfl, rfl, rfl, move.grows, rfl, rfl, rfl⟩
  · simp [World.write, World.setVault, World.setPending, shows.slot, address,
      shows.update_policy]

theorem ApproveSpend.handler_ok (wf : WellFormed w) {ctx : ApproveSpend K}
    (h : ctx.handler w = .ok (w', ev)) :
    ∃ s s' n tokens, Moves w ctx.vault (.program (.approveSpend ctx)) s s' n tokens ∧
      Reports ctx.vault s ev s' ∧ w' = w.write ctx.vault s' n tokens := by
  simp only [handler, bind_eq_ok, Prod.exists, require_eq_ok, mapError_eq_ok, checkWhitelist_ok,
    transferSigned_eq_ok, okOr_eq_ok, checkedAdd_eq_some, pure_eq_ok, exists_and_left,
    exists_const, Prod.mk.injEq] at h
  obtain ⟨_, _, p, accounts, running, positive, whitelisted, tokens, ⟨-, moved⟩, _, ⟨fits, rfl⟩,
    rfl, rfl⟩ := h
  obtain ⟨s, dst, shows, rfl, rfl, owner, address, held, account, present, service⟩ :=
    tryAccounts_ok wf accounts
  rw [account] at moved
  have funds := (shows.pays moved).1
  have move : VaultStep w ctx.vault s (.program (.approveSpend ctx)) _ :=
    .approved ctx p dst rfl owner address held present service running positive whitelisted funds
      fits
  have others : ∀ m, m ≠ p.nonce → Function.update s.pending p.nonce none m = s.pending m :=
    fun m apart => Function.update_of_ne apart _ _
  refine ⟨s, _, p.nonce, tokens, .paying shows move rfl others moved rfl rfl, ?_, ?_⟩
  · exact ⟨rfl, shows.slot, rfl, rfl, rfl, rfl, rfl, move.grows, rfl, rfl, rfl⟩
  · simp [World.write, World.setTokens, World.setVault, World.closePending, shows.slot, address,
      shows.update_policy]

theorem CancelSpend.handler_ok (wf : WellFormed w) {ctx : CancelSpend K}
    (h : ctx.handler w = .ok (w', ev)) :
    ∃ s s' n, Moves w ctx.vault (.program (.cancelSpend ctx)) s s' n w.tokens ∧
      Reports ctx.vault s ev s' ∧ w' = w.write ctx.vault s' n w.tokens := by
  simp only [handler, bind_eq_ok, pure_eq_ok, Prod.mk.injEq] at h
  obtain ⟨p, accounts, rfl, rfl⟩ := h
  obtain ⟨s, shows, owner, address, held⟩ := tryAccounts_ok wf accounts
  have move : VaultStep w ctx.vault s (.program (.cancelSpend ctx)) _ :=
    .cancelled ctx p rfl owner address held
  have others : ∀ m, m ≠ p.nonce → Function.update s.pending p.nonce none m = s.pending m :=
    fun m apart => Function.update_of_ne apart _ _
  refine ⟨s, _, p.nonce, .recording shows move rfl others rfl, ?_, ?_⟩
  · exact ⟨rfl, shows.slot, rfl, rfl, rfl, rfl, rfl, move.grows, rfl, rfl, rfl⟩
  · simp [World.write, World.closePending, address, shows.update_vault, shows.update_policy]

/-- The view of a vault right after its creation. -/
def CreateVault.view (ctx : CreateVault K) (slot perTxLimitUsdc hourlyLimitUsdc
    lifetimeLimitUsdc : Nat) (allowPostPay : Bool) : VaultView K :=
  { slot
    vault :=
      { owner := ctx.owner.key
        agent := ctx.agent
        usdcMint := ctx.usdcMint
        vaultTokenAccount := ctx.vaultTokenAccount
        createdSlot := slot
        lastActiveSlot := slot
        bump := canonicalBump (.vault ctx.owner.key ctx.agent) }
    policy :=
      { vault := ctx.vault
        whitelist := Vector.replicate whitelistLen defaultKey
        perTxLimitUsdc, hourlyLimitUsdc, lifetimeLimitUsdc, allowPostPay
        bump := canonicalBump (.policy ctx.vault) }
    balance := 0
    pending := fun _ => none }

/-- The account list of `create_vault` derives every address, and all three are vacant. -/
structure CreateVault.Fresh (ctx : CreateVault K) (w : World K) : Prop where
  vault : ctx.vault = findProgramAddress (.vault ctx.owner.key ctx.agent)
  policy : ctx.policy = policyAddress ctx.vault
  account : ctx.vaultTokenAccount = associatedTokenAddress ctx.vault ctx.usdcMint
  mint : w.tokens.mints ctx.usdcMint ≠ none
  vaultVacant : w.Vacant ctx.vault
  policyVacant : w.Vacant ctx.policy
  accountVacant : w.Vacant ctx.vaultTokenAccount

theorem CreateVault.handler_ok (ctx : CreateVault K) (perTx hourly lifetime : Nat)
    (allowPostPay : Bool) :
    ctx.handler w perTx hourly lifetime allowPostPay = .ok (w', ev) ↔
      ctx.Fresh w ∧ w' = (((w.setTokens (w.tokens.setAccount ctx.vaultTokenAccount
        (some ((ctx.view w.slot perTx hourly lifetime allowPostPay).account ctx.vault)))).setVault
          ctx.vault (ctx.view w.slot perTx hourly lifetime allowPostPay).vault).setPolicy
          ctx.policy (ctx.view w.slot perTx hourly lifetime allowPostPay).policy) ∧
      ev = .vaultCreated ctx.vault ctx.owner.key ctx.agent ctx.usdcMint ctx.vaultTokenAccount
        w.slot := by
  simp only [handler, tryAccounts, bind_eq_ok, World.loadMint_eq_ok, requireInit_eq_ok,
    require_eq_ok, mapError_eq_ok, pure_eq_ok, exists_and_left, exists_const, Prod.mk.injEq]
  constructor
  · rintro ⟨tokens, ⟨mint, present, ⟨vault, vaultVacant⟩, ⟨policy, policyVacant⟩, account,
      accountVacant, opened⟩, rfl, rfl⟩
    obtain ⟨-, -, rfl⟩ := TokenLedger.openAccount_ok opened
    exact ⟨⟨vault, policy, account, by simp [present], vaultVacant, policyVacant, accountVacant⟩,
      rfl, rfl⟩
  · rintro ⟨fresh, rfl, rfl⟩
    obtain ⟨mint, present⟩ := Option.ne_none_iff_exists'.mp fresh.mint
    refine ⟨_, ⟨mint, present, ⟨fresh.vault, fresh.vaultVacant⟩,
      ⟨fresh.policy, fresh.policyVacant⟩, fresh.account, fresh.accountVacant, ?_⟩, rfl, rfl⟩
    simp only [TokenLedger.openAccount, bind_eq_ok, okOr_eq_ok, require_eq_ok, pure_eq_ok]
    exact ⟨mint, present, (), fresh.accountVacant.2.2.2, rfl⟩

/-- `create_vault` at work: the new view, and the world that differs from `w` in it alone. -/
structure Creates (w : World K) (ctx : CreateVault K) (s : VaultView K) (tokens : TokenLedger K)
    (w' : World K) : Prop where
  fresh : ctx.Fresh w
  shows : Shows w' ctx.vault s
  ledger : tokens = w.tokens.setAccount ctx.vaultTokenAccount (some (s.account ctx.vault))
  world : w' = w.write ctx.vault s 0 tokens

omit [DecidableEq K] in
theorem WellFormed.no_pending (wf : WellFormed w) (absent : w.vaults v = none) (n : Nat) :
    w.pendings (pendingAddress v n) = none := by
  by_contra held
  obtain ⟨p, held⟩ := Option.ne_none_iff_exists'.mp held
  obtain ⟨address, present⟩ := wf.pendings _ _ held
  rw [pendingAddress_inj] at address
  exact present (address.1 ▸ absent)

theorem CreateVault.creates (wf : WellFormed w) {ctx : CreateVault K}
    {perTx hourly lifetime : Nat} {allowPostPay : Bool}
    (h : ctx.handler w perTx hourly lifetime allowPostPay = .ok (w', ev)) :
    ∃ tokens, Creates w ctx (ctx.view w.slot perTx hourly lifetime allowPostPay) tokens w' := by
  obtain ⟨fresh, rfl, -⟩ := (handler_ok ..).mp h
  -- The view starts without requests because a request needs its vault to be there.
  have noPending := wf.no_pending fresh.vaultVacant.1
  refine ⟨_, fresh, ?_, rfl, ?_⟩
  · exact
      { identity := ⟨fresh.vault, rfl, ctx.owner.canSign, fresh.account⟩
        slot := rfl
        vault := by simp
        policy := by simp [fresh.policy]
        policyOf := ⟨rfl, rfl⟩
        account := by simp [view, TokenLedger.setAccount_accounts]
        pending := by simp [noPending, view]
        pendingOf := by simp [view] }
  · ext1
    · rfl
    · rfl
    · rfl
    · simp [World.write, World.setPolicy, World.setVault, World.setTokens, fresh.policy]
    · have unwritten := Function.update_eq_self (pendingAddress ctx.vault 0) w.pendings
      rw [noPending 0] at unwritten
      exact unwritten.symm

theorem Creates.kept {ctx : CreateVault K} {tokens : TokenLedger K} (creates : Creates w ctx s tokens w')
    (v : K) (payee : Option K) : LedgerKept w.tokens v payee tokens := by
  rw [creates.ledger]
  refine ⟨rfl, fun k a present _ _ => ⟨0, ?_, by simp⟩⟩
  have apart : k ≠ ctx.vaultTokenAccount := by
    rintro rfl
    simp [creates.fresh.accountVacant.2.2.2.2] at present
  simpa [TokenLedger.setAccount_accounts, apart] using present

/-! ### Steps of the chain -/

/-- An instruction creates a vault or moves one view, and its event says how. -/
inductive Handled (w : World K) : Instruction K → World K → VaultEvent K → Prop
  | create {ctx : CreateVault K} {perTx hourly lifetime : Nat} {allowPostPay : Bool}
    {tokens : TokenLedger K} {w' : World K} :
    Creates w ctx (ctx.view w.slot perTx hourly lifetime allowPostPay) tokens w' →
    Handled w (.createVault ctx perTx hourly lifetime allowPostPay) w'
      (.vaultCreated ctx.vault ctx.owner.key ctx.agent ctx.usdcMint ctx.vaultTokenAccount w.slot)
  | move {ix : Instruction K} {s s' : VaultView K} {n : Nat} {tokens : TokenLedger K}
    {ev : VaultEvent K} : Moves w ix.vault (.program ix) s s' n tokens →
    Reports ix.vault s ev s' → Handled w ix (w.write ix.vault s' n tokens) ev

theorem handler_cases {ix : Instruction K} (wf : WellFormed w)
    (handled : ix.handler w = .ok (w', ev)) : Handled w ix w' ev := by
  cases ix with
  | createVault ctx perTx hourly lifetime allowPostPay =>
    obtain ⟨_, creates⟩ := ctx.creates wf handled
    obtain ⟨-, -, rfl⟩ := (CreateVault.handler_ok ..).mp handled
    exact .create creates
  | deposit ctx x =>
    obtain ⟨_, _, _, moves, reports, rfl⟩ := ctx.handler_ok wf handled
    exact .move moves reports
  | spend ctx x =>
    obtain ⟨_, _, _, moves, reports, rfl⟩ := ctx.handler_ok wf handled
    exact .move moves reports
  | freezeVault ctx =>
    obtain ⟨_, _, moves, reports, rfl⟩ := ctx.freezeHandler_ok wf handled
    exact .move moves reports
  | unfreezeVault ctx =>
    obtain ⟨_, _, moves, reports, rfl⟩ := ctx.unfreezeHandler_ok wf handled
    exact .move moves reports
  | updatePolicy ctx perTx hourly lifetime allowPostPay whitelist =>
    obtain ⟨_, _, moves, reports, rfl⟩ := ctx.handler_ok wf handled
    exact .move moves reports
  | withdraw ctx x =>
    obtain ⟨_, _, _, moves, reports, rfl⟩ := ctx.handler_ok wf handled
    exact .move moves reports
  | claim ctx x =>
    obtain ⟨_, _, _, moves, reports, rfl⟩ := ctx.handler_ok wf handled
    exact .move moves reports
  | requestSpend ctx x =>
    obtain ⟨_, _, _, moves, reports, rfl⟩ := ctx.handler_ok wf handled
    exact .move moves reports
  | approveSpend ctx =>
    obtain ⟨_, _, _, _, moves, reports, rfl⟩ := ctx.handler_ok wf handled
    exact .move moves reports
  | cancelSpend ctx =>
    obtain ⟨_, _, _, moves, reports, rfl⟩ := ctx.handler_ok wf handled
    exact .move moves reports

/-- Every step moves the clock, runs a token instruction, creates a vault or moves one view. -/
inductive StepCase (w : World K) : Action K → World K → Prop
  | advance (slots : Nat) : StepCase w (.advance slots) { w with slot := w.slot + slots }
  | token {ix : TokenInstruction K} {tokens : TokenLedger K} : w.tokens.process ix = .ok tokens →
    StepCase w (.token ix) (w.setTokens tokens)
  | create {ctx : CreateVault K} {perTx hourly lifetime : Nat} {allowPostPay : Bool}
    {tokens : TokenLedger K} {w' : World K} :
    Creates w ctx (ctx.view w.slot perTx hourly lifetime allowPostPay) tokens w' →
    StepCase w (.program (.createVault ctx perTx hourly lifetime allowPostPay)) w'
  | move {ix : Instruction K} {s s' : VaultView K} {n : Nat} {tokens : TokenLedger K} :
    Moves w ix.vault (.program ix) s s' n tokens →
    StepCase w (.program ix) (w.write ix.vault s' n tokens)

theorem step_cases {act : Action K} (wf : WellFormed w) (h : step w act = .ok w') :
    StepCase w act w' := by
  cases act with
  | advance slots =>
    obtain rfl := Except.ok.inj h
    exact .advance slots
  | token ix =>
    simp only [step, map_eq_ok, mapError_eq_ok] at h
    obtain ⟨tokens, processed, rfl⟩ := h
    exact .token processed
  | program ix =>
    simp only [step, map_eq_ok] at h
    obtain ⟨⟨_, ev⟩, handled, rfl⟩ := h
    cases handler_cases wf handled with
    | create creates => exact .create creates
    | move moves => exact .move moves

/-- The refinement: a step of the program is a step of every view it finds. -/
theorem step_shows {act : Action K} (wf : WellFormed w) (h : step w act = .ok w')
    (shows : Shows w v s) : ∃ s', Shows w' v s' ∧ VaultStep w v s act s' := by
  cases step_cases wf h with
  | advance slots =>
    refine ⟨_, ?_, .advanced slots⟩
    exact { shows with slot := by simp [shows.slot] }
  | @token ix tokens processed =>
    obtain ⟨y, account, credited⟩ := TokenLedger.process_locked processed shows.account shows.locked
    refine ⟨_, ?_, .other _ y (by simp [Action.vault]) fun paid => ?_⟩
    · exact { shows with account := account }
    · rcases credited paid with ⟨_, _, rfl⟩ | ⟨_, _, rfl⟩ <;> rfl
  | @create ctx _ _ _ _ tokens _ creates =>
    -- The new vault is at a vacant address, so it is not the one shown.
    have apart : v ≠ ctx.vault := by
      rintro rfl
      simpa [creates.fresh.vaultVacant.1] using shows.vault
    obtain ⟨y, after, paid⟩ := (creates.kept ctx.vault none).elsewhere shows apart
    rw [creates.world]
    refine ⟨_, after, .other _ y ?_ fun credited => absurd (paid credited) (by simp)⟩
    simpa [Action.vault, Instruction.vault] using apart.symm
  | @move ix t t' n tokens moves =>
    -- The view at the named vault makes the step; every other one is credited at most.
    by_cases same : v = ix.vault
    · subst same
      obtain rfl := shows.unique moves.shows
      exact ⟨t', moves.after, moves.move⟩
    · obtain ⟨y, after, paid⟩ := moves.ledger.elsewhere shows same
      refine ⟨_, after, .other _ y ?_ paid⟩
      simpa [Action.vault] using fun named => same named.symm

/-- A vault that was not there was created by the step, and looks as `create_vault` left it. -/
theorem step_creates {act : Action K} {vault : CreditVault K} (wf : WellFormed w)
    (h : step w act = .ok w') (absent : w.vaults v = none) (present : w'.vaults v = some vault) :
    ∃ ctx perTx hourly lifetime allowPostPay,
      act = .program (.createVault ctx perTx hourly lifetime allowPostPay) ∧ ctx.vault = v ∧
      Shows w' v (ctx.view w.slot perTx hourly lifetime allowPostPay) := by
  cases step_cases wf h with
  | advance slots => simp [absent] at present
  | token => simp [absent] at present
  | @create ctx perTx hourly lifetime allowPostPay tokens _ creates =>
    obtain rfl : v = ctx.vault := by
      by_contra apart
      rw [creates.world] at present
      simp [World.write, apart, absent] at present
    exact ⟨ctx, perTx, hourly, lifetime, allowPostPay, rfl, rfl, creates.shows⟩
  | @move ix t t' n tokens moves =>
    have apart : v ≠ ix.vault := by
      rintro rfl
      simpa [absent] using moves.shows.vault
    simp [World.write, apart, absent] at present

theorem step_vaults_grow {act : Action K} (wf : WellFormed w) (h : step w act = .ok w')
    (present : w.vaults v ≠ none) : w'.vaults v ≠ none := by
  obtain ⟨vault, present⟩ := Option.ne_none_iff_exists'.mp present
  obtain ⟨s, shows, -⟩ := wf.shows_vault present
  obtain ⟨s', after, -⟩ := step_shows wf h shows
  simp [after.vault]

theorem write_policies {n : Nat} {tokens : TokenLedger K} {key : K} {policy : SpendPolicy K}
    (present : (w.write v s n tokens).policies key = some policy) :
    key = policyAddress v ∧ policy = s.policy ∨ w.policies key = some policy := by
  simp only [World.write, Function.update_apply] at present
  split at present
  next written => exact .inl ⟨written, (Option.some.inj present).symm⟩
  · exact .inr present

theorem write_pendings {n : Nat} {tokens : TokenLedger K} {key : K} {p : PendingSpend K}
    (present : (w.write v s n tokens).pendings key = some p) :
    key = pendingAddress v n ∧ s.pending n = some p ∨ w.pendings key = some p := by
  simp only [World.write, Function.update_apply] at present
  split at present
  next written => exact .inl ⟨written, present⟩
  · exact .inr present

private theorem write_wellFormed {n : Nat} {tokens : TokenLedger K} (wf : WellFormed w)
    (shown : ∀ u vault, (w.write v s n tokens).vaults u = some vault →
      ∃ t, t.vault = vault ∧ Shows (w.write v s n tokens) u t)
    (grow : ∀ u, w.vaults u ≠ none → (w.write v s n tokens).vaults u ≠ none)
    (after : Shows (w.write v s n tokens) v s) : WellFormed (w.write v s n tokens) where
  shown := shown
  policies key policy present := by
    rcases write_policies present with ⟨address, rfl⟩ | old
    · rw [after.policyOf.1]
      exact ⟨address, by simp [after.vault]⟩
    · exact ⟨(wf.policies key policy old).1, grow _ (wf.policies key policy old).2⟩
  pendings key p present := by
    rcases write_pendings present with ⟨address, held⟩ | old
    · obtain ⟨vault, nonce, -⟩ := after.pendingOf n p held
      rw [vault, nonce]
      exact ⟨address, by simp [after.vault]⟩
    · exact ⟨(wf.pendings key p old).1, grow _ (wf.pendings key p old).2⟩

/-- Every step keeps the world well formed. -/
theorem step_wellFormed {act : Action K} (wf : WellFormed w) (h : step w act = .ok w') :
    WellFormed w' := by
  -- A vault of the new world was there before or has just been created.
  have shown : ∀ u vault, w'.vaults u = some vault → ∃ t, t.vault = vault ∧ Shows w' u t := by
    intro u vault present
    have shows : ∃ t, Shows w' u t := by
      cases before : w.vaults u with
      | none =>
        obtain ⟨_, _, _, _, _, -, -, shows⟩ := step_creates wf h before present
        exact ⟨_, shows⟩
      | some old =>
        obtain ⟨s, shows, -⟩ := wf.shows_vault before
        obtain ⟨s', after, -⟩ := step_shows wf h shows
        exact ⟨s', after⟩
    obtain ⟨t, shows⟩ := shows
    exact ⟨t, Option.some.inj (shows.vault.symm.trans present), shows⟩
  have grow : ∀ u, w.vaults u ≠ none → w'.vaults u ≠ none := fun u => step_vaults_grow wf h
  cases step_cases wf h with
  | advance slots => exact ⟨shown, wf.policies, wf.pendings⟩
  | token => exact ⟨shown, wf.policies, wf.pendings⟩
  | create creates =>
    have after := creates.shows
    rw [creates.world] at shown grow after ⊢
    exact write_wellFormed wf shown grow after
  | move moves => exact write_wellFormed wf shown grow moves.after

end AgentFuel.Vault
