import AgentFuel.Vault.Runs

/-!
# Frozen vaults

`spend`, `claim`, `request_spend` and `approve_spend` each refuse a frozen vault, in four
different places; `withdraw` and `cancel_spend` do not look at the flag.
-/
namespace AgentFuel.Vault

open Checked Solana

variable {K : Type} [DecidableEq K] [AddressSpace K] {w w' : World K} {v : K}
  {s s' : VaultView K} {log : List (Step K)}

omit [DecidableEq K] in
/-- The vault an `unfreeze_vault` names. -/
def Action.unfreezes : Action K → Option K
  | .program (.unfreezeVault ctx) => some ctx.vault
  | _ => none

/-- What an action can do to the view of a frozen vault that it leaves frozen. -/
structure Inert (v : K) (act : Action K) (s s' : VaultView K) : Prop where
  owner : s'.vault.owner = s.vault.owner
  totalSpent : s'.vault.totalSpent = s.vault.totalSpent
  totalClaimed : s'.vault.totalClaimed = s.vault.totalClaimed
  pendingCount : s'.vault.pendingCount = s.vault.pendingCount
  created : ∀ n p, s'.pending n = some p → s.pending n = some p
  settled : ∀ n p, s.pending n = some p → s'.pending n = some p ∨
    s'.pending n = none ∧ ∃ ctx, act = .program (.cancelSpend ctx) ∧ ctx.vault = v ∧
      ctx.pendingSpend = pendingAddress v n ∧ ctx.owner.key = s.vault.owner
  lowered : s'.balance < s.balance → ∃ ctx x, act = .program (.withdraw ctx x) ∧ ctx.vault = v ∧
    ctx.owner.key = s.vault.owner

/-- A frozen vault is unfrozen by its owner, or stays frozen and inert. -/
theorem VaultStep.frozen {act : Action K} (move : VaultStep w v s act s')
    (frozen : s.vault.frozen = true) :
    (s'.vault.frozen = true ∧ Inert v act s s') ∨
      ∃ ctx, act = .program (.unfreezeVault ctx) ∧ ctx.vault = v ∧
        ctx.owner.key = s.vault.owner := by
  have same : ∀ n p, s.pending n = some p → s.pending n = some p ∨
    s.pending n = none ∧ ∃ ctx, act = .program (.cancelSpend ctx) ∧ ctx.vault = v ∧
      ctx.pendingSpend = pendingAddress v n ∧ ctx.owner.key = s.vault.owner :=
    fun _ _ held => .inl held
  -- What requires a running vault contradicts the flag, `unfreeze_vault` ends it, and of the rest
  -- only `withdraw` and `cancel_spend` take something away.
  cases move with
  | spent ctx x dst _ _ _ allows => simp [allows.notFrozen] at frozen
  | claimed ctx x dst _ _ _ _ allows => simp [allows.notFrozen] at frozen
  | requested ctx x dst _ _ _ _ _ running => simp [running] at frozen
  | approved ctx p dst _ _ _ _ _ _ running => simp [running] at frozen
  | froze ctx _ _ running => simp [running] at frozen
  | unfroze ctx named owner _ => exact .inr ⟨ctx, rfl, named, owner⟩
  | withdrawn ctx x named owner =>
    exact .inl ⟨frozen, rfl, rfl, rfl, rfl, fun _ _ => id, same,
      fun _ => ⟨ctx, x, rfl, named, owner⟩⟩
  | cancelled ctx p named owner address held =>
    refine .inl ⟨frozen, rfl, rfl, rfl, rfl, ?_, ?_, fun lowered => absurd lowered (lt_irrefl _)⟩
    · intro n q present
      simp only [Function.update_apply] at present
      split at present
      · cases present
      · exact present
    · intro n q present
      by_cases closed : n = p.nonce
      · subst closed
        exact .inr ⟨by simp, ctx, rfl, named, address, owner⟩
      · exact .inl (by simpa [closed] using present)
  | _ =>
    exact .inl ⟨frozen, rfl, rfl, rfl, rfl, fun _ _ => id, same,
      fun lowered => absurd lowered (by simp)⟩

/-! ### Steps and runs of a frozen vault -/

/-- A step pays no request of the vault at `v` and takes no money out but for its owner. -/
structure InertStep (v owner : K) (e : Step K) : Prop where
  created : ∀ k p, p.vault = v → e.post.pendings k = some p → e.pre.pendings k = some p
  settled : ∀ k p, p.vault = v → e.pre.pendings k = some p → e.post.pendings k = some p ∨
    e.post.pendings k = none ∧ ∃ ctx, e.act = .program (.cancelSpend ctx) ∧ ctx.vault = v ∧
      ctx.pendingSpend = k ∧ ctx.owner.key = owner
  lowered : e.post.balance v < e.pre.balance v → ∃ ctx x, e.act = .program (.withdraw ctx x) ∧
    ctx.vault = v ∧ ctx.owner.key = owner

omit [DecidableEq K] in
theorem Inert.step {e : Step K} (inert : Inert v e.act s s') (wf : WellFormed e.pre)
    (wf' : WellFormed e.post) (before : Shows e.pre v s) (after : Shows e.post v s') :
    InertStep v s.vault.owner e := by
  constructor
  · intro k p vault held
    rw [wf'.pending_iff after vault] at held
    rw [wf.pending_iff before vault]
    exact ⟨held.1, inert.created _ _ held.2⟩
  · intro k p vault held
    obtain ⟨rfl, stored⟩ := (wf.pending_iff before vault).mp held
    rw [after.pending]
    exact inert.settled _ _ stored
  · rw [before.balance, after.balance]
    exact inert.lowered

/-- What stays of a frozen vault over a run. -/
structure StillFrozen (s : VaultView K) (s' : VaultView K) : Prop where
  frozen : s'.vault.frozen = true
  owner : s'.vault.owner = s.vault.owner
  totalSpent : s'.vault.totalSpent = s.vault.totalSpent
  totalClaimed : s'.vault.totalClaimed = s.vault.totalClaimed
  pendingCount : s'.vault.pendingCount = s.vault.pendingCount

theorem Run.stillFrozen (wf : WellFormed w) (shows : Shows w v s)
    (frozen : s.vault.frozen = true) (run : Run w log w')
    (kept : ∀ e ∈ log, e.act.unfreezes ≠ some v) :
    ∃ s', Shows w' v s' ∧ StillFrozen s s' ∧ ∀ e ∈ log, InertStep v s.vault.owner e := by
  refine Run.view_induction (P := fun log s' => StillFrozen s s' ∧
    ∀ e ∈ log, InertStep v s.vault.owner e) wf shows ⟨⟨frozen, rfl, rfl, rfl, rfl⟩, by simp⟩ ?_
    run kept
  rintro log e t t' _ wf before move wf' after kept ⟨still, steps⟩
  -- An unfreezing step names this vault, and the run has none.
  rcases move.frozen still.frozen with ⟨frozen', inert⟩ | ⟨ctx, unfreeze, rfl, -⟩
  · refine ⟨⟨frozen', inert.owner.trans still.owner, inert.totalSpent.trans still.totalSpent,
      inert.totalClaimed.trans still.totalClaimed, inert.pendingCount.trans still.pendingCount⟩, ?_⟩
    rw [List.forall_mem_append, List.forall_mem_singleton]
    exact ⟨steps, still.owner ▸ inert.step wf wf' before after⟩
  · rw [unfreeze] at kept
    exact absurd rfl kept

/-! ### The owner's exit -/

/-- The owner of the vault at `v` can take out any covered amount. -/
def OwnerExits (w : World K) (v : K) : Prop :=
  ∀ vault, w.vaults v = some vault → ∃ owner : Signer K, owner.key = vault.owner ∧
    ∀ destination account x, w.tokens.accounts destination = some account →
      account.mint = vault.usdcMint → 0 < x → x ≤ w.balance v →
      vault.totalWithdrawn + x < 2 ^ 64 →
      ∃ w', step w (.program (.withdraw ⟨owner, v, vault.vaultTokenAccount, destination⟩ x)) =
        .ok w' ∧ (destination ≠ vault.vaultTokenAccount → w'.balance v + x = w.balance v)

theorem Shows.withdraw_succeeds (shows : Shows w v s) {owner : Signer K} {destination : K}
    {account : TokenAccount K} {x : Nat} (own : owner.key = s.vault.owner)
    (present : w.tokens.accounts destination = some account)
    (mint : account.mint = s.vault.usdcMint) (positive : 0 < x) (funds : x ≤ s.balance)
    (fits : s.vault.totalWithdrawn + x < 2 ^ 64) :
    ∃ w', step w (.program (.withdraw ⟨owner, v, s.vault.vaultTokenAccount, destination⟩ x)) =
      .ok w' := by
  have seeds : createProgramAddress (.vault s.vault.owner s.vault.agent) s.vault.bump = v := by
    rw [shows.identity.bump, findProgramAddress_eq, ← shows.identity.address]
  -- The transfer goes through because the vault owns its account and nobody else may draw on it.
  obtain ⟨tokens, moved⟩ := TokenLedger.transfer_succeeds shows.account present rfl rfl mint.symm
    (show x ≤ s.balance from funds)
  simp only [Vault.step, Instruction.handler, Withdraw.handler, Withdraw.tryAccounts, map_eq_ok,
    bind_eq_ok, World.loadVault_eq_ok, World.loadToken_eq_ok, requireVaultSeeds_eq_ok,
    require_eq_ok, transferSigned_eq_ok, okOr_eq_ok, checkedAdd_eq_some, pure_eq_ok,
    exists_and_left, exists_const]
  have accounts := shows.account
  exact ⟨_, _, ⟨s.vault, ⟨s.vault, shows.vault, _, accounts, account, present, seeds.symm,
    own.symm, rfl, mint, rfl⟩, positive, tokens, ⟨seeds, moved⟩, _, ⟨fits, rfl⟩, rfl⟩, rfl⟩

theorem Shows.ownerExits (shows : Shows w v s) (wf : WellFormed w) : OwnerExits w v := by
  intro vault present
  obtain rfl : s.vault = vault := Option.some.inj (shows.vault.symm.trans present)
  let owner : Signer K := ⟨s.vault.owner, shows.identity.ownerSigns⟩
  refine ⟨owner, rfl, fun destination account x held mint positive funds fits => ?_⟩
  rw [shows.balance] at funds ⊢
  have own : owner.key = s.vault.owner := rfl
  obtain ⟨w', fired⟩ := shows.withdraw_succeeds own held mint positive funds fits
  refine ⟨w', fired, fun apart => ?_⟩
  -- What the withdrawal took is read off the step of the view.
  obtain ⟨s', after, move⟩ := step_shows wf fired shows
  rw [after.balance]
  cases move with
  | other _ _ elsewhere => exact absurd rfl elsewhere
  | withdrawn => simp [VaultView.paid, apart.symm, funds]

/-- A frozen vault is inert: over a run that does not unfreeze it no counter moves, no request
is created or paid and only the owner's withdrawals lower the balance. The owner alone can end
the frozen state, and can take out the money in it. -/
theorem frozen_inert {vault : CreditVault K} (reachable : Reachable w)
    (present : w.vaults v = some vault) (frozen : vault.frozen = true) (run : Run w log w')
    (kept : ∀ e ∈ log, e.act.unfreezes ≠ some v) :
    (∃ vault', w'.vaults v = some vault' ∧ vault'.frozen = true ∧ vault'.owner = vault.owner ∧
      vault'.totalSpent = vault.totalSpent ∧ vault'.totalClaimed = vault.totalClaimed ∧
      vault'.pendingCount = vault.pendingCount) ∧
    (∀ e ∈ log, InertStep v vault.owner e) ∧
    (∀ act w'' vault'', step w' act = .ok w'' → w''.vaults v = some vault'' →
      vault''.frozen = false → ∃ ctx, act = .program (.unfreezeVault ctx) ∧ ctx.vault = v ∧
        ctx.owner.key = vault.owner) ∧
    OwnerExits w' v := by
  obtain ⟨s, shows, rfl⟩ := reachable.wellFormed.shows_vault present
  have wf := Run.wellFormed run reachable.wellFormed
  obtain ⟨s', shows', still, steps⟩ := Run.stillFrozen reachable.wellFormed shows frozen run kept
  refine ⟨⟨s'.vault, shows'.vault, still.frozen, still.owner, still.totalSpent,
    still.totalClaimed, still.pendingCount⟩, steps, ?_, shows'.ownerExits wf⟩
  intro act w'' vault'' fired present' thawed
  obtain ⟨s'', shows'', move⟩ := step_shows wf fired shows'
  obtain rfl : s''.vault = vault'' := Option.some.inj (shows''.vault.symm.trans present')
  rcases move.frozen still.frozen with ⟨frozen', -⟩ | ⟨ctx, unfreeze, named, owner⟩
  · simp [frozen'] at thawed
  · exact ⟨ctx, unfreeze, named, owner.trans still.owner⟩

theorem frozen_inert_market :
    ∃ vault, (Market.after [Market.create 0 0 0 true, Market.deposit 50, Market.request 20 0,
        Market.freeze]).vaults Market.vault = some vault ∧
      ∀ e ∈ Transition.trace step (Market.after [Market.create 0 0 0 true, Market.deposit 50,
          Market.request 20 0, Market.freeze]) [Market.deposit 10, Market.cancel 0,
          Market.withdraw 60], InertStep Market.vault vault.owner e := by
  obtain ⟨vault, present⟩ : ∃ vault, (Market.after [Market.create 0 0 0 true, Market.deposit 50,
      Market.request 20 0, Market.freeze]).vaults Market.vault = some vault := ⟨_, rfl⟩
  have frozen : ((Market.after [Market.create 0 0 0 true, Market.deposit 50,
      Market.request 20 0, Market.freeze]).vaults Market.vault).map CreditVault.frozen =
        some true := by decide
  rw [present] at frozen
  exact ⟨vault, present, (frozen_inert (Market.reachable _) present (Option.some.inj frozen)
    (.of_trace _ _ _) (by decide)).2.1⟩

end AgentFuel.Vault
