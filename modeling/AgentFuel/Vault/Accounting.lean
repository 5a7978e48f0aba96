import AgentFuel.Vault.Runs

/-!
# Money in, money out

The counters of a vault account for its token balance as long as nothing but deposits pays
into its own token account. A payment of the vault to itself is counted and moves nothing.
-/
namespace AgentFuel.Vault

open Checked Solana

variable {K : Type} [DecidableEq K] [AddressSpace K] {w w₀ w₁ : World K} {v : K}
  {s s' : VaultView K} {log : List (Step K)}

/-- The counters and the token balance agree. -/
def VaultView.Balanced (s : VaultView K) : Prop :=
  s.balance + s.vault.totalWithdrawn + s.vault.totalSpent = s.vault.totalDeposited

omit [AddressSpace K] in
theorem VaultView.paid_of_ne {destination : K} (x : Nat)
    (apart : destination ≠ s.vault.vaultTokenAccount) : s.paid destination x = s.balance - x :=
  if_neg fun same => apart same.symm

/-- Payments out of the vault lower the balance by what they add to a counter. -/
theorem VaultStep.balanced {act : Action K} (move : VaultStep w v s act s')
    (apart : act.payee ≠ some s.vault.vaultTokenAccount) (balanced : s.Balanced) :
    s'.Balanced := by
  unfold VaultView.Balanced at *
  -- Every payment adds the amount to one counter. It lowers the balance by as much unless it
  -- comes back, which `apart` excludes.
  cases move with
  | other act x _ credited =>
    obtain rfl : x = 0 := by
      by_contra moved
      exact apart (credited moved)
    exact balanced
  | deposited ctx x _ _ _ _ _ =>
    dsimp only
    omega
  | spent ctx x dst _ _ _ _ funds =>
    rw [VaultView.paid_of_ne x fun same => apart (congrArg some same)]
    dsimp only
    omega
  | claimed ctx x dst _ _ _ _ _ funds _ =>
    rw [VaultView.paid_of_ne x fun same => apart (congrArg some same)]
    dsimp only
    omega
  | withdrawn ctx x _ _ _ funds _ =>
    rw [VaultView.paid_of_ne x fun same => apart (congrArg some same)]
    dsimp only
    omega
  | approved ctx p dst _ _ _ _ _ _ _ _ _ funds _ =>
    rw [VaultView.paid_of_ne _ fun same => apart (congrArg some same)]
    dsimp only
    omega
  | _ => exact balanced

/-- From its creation on, a vault that only deposits pay into stays balanced. -/
theorem Run.balanced {ctx : CreateVault K} {perTx hourly lifetime : Nat} {allowPostPay : Bool}
    (reachable : Reachable w₀)
    (created : step w₀ (.program (.createVault ctx perTx hourly lifetime allowPostPay)) = .ok w₁)
    (run : Run w₁ log w) (apart : ∀ e ∈ log, e.act.payee ≠ some ctx.vaultTokenAccount) :
    ∃ s, Shows w ctx.vault s ∧ s.vault.vaultTokenAccount = ctx.vaultTokenAccount ∧ s.Balanced := by
  have start := created_shows reachable.wellFormed created
  refine Run.view_induction (P := fun _ s => s.vault.vaultTokenAccount = ctx.vaultTokenAccount ∧
    s.Balanced) (reachable.step created).wellFormed start ⟨rfl, rfl⟩ ?_ run apart
  rintro _ e t t' _ _ _ move _ _ allowed ⟨account, balanced⟩
  exact ⟨move.fixed.2.2.2.1.trans account, move.balanced (account ▸ allowed) balanced⟩

/-- A token instruction from outside the program pays into the account. -/
def Action.OutsiderPays : Action K → K → Prop
  | .token ix, account => (Action.token ix).payee = some account
  | _, _ => False

/-- An instruction of the program other than a deposit pays into the account. -/
def Action.ProgramPays : Action K → K → Prop
  | .program ix, account => (Action.program ix).payee = some account
  | _, _ => False

instance : (act : Action K) → (account : K) → Decidable (act.OutsiderPays account)
  | .token ix, account => inferInstanceAs (Decidable ((Action.token ix).payee = some account))
  | .program _, _ | .advance _, _ => inferInstanceAs (Decidable False)

instance : (act : Action K) → (account : K) → Decidable (act.ProgramPays account)
  | .program ix, account => inferInstanceAs (Decidable ((Action.program ix).payee = some account))
  | .token _, _ | .advance _, _ => inferInstanceAs (Decidable False)

omit [DecidableEq K] in
/-- Money comes to an account from a program or from an outsider. -/
theorem Action.payee_ne (act : Action K) {account : K} (outsider : ¬act.OutsiderPays account)
    (program : ¬act.ProgramPays account) : act.payee ≠ some account := by
  cases act with
  | program ix => exact program
  | token ix => exact outsider
  | advance slots => simp [Action.payee]

/-- The token balance of a vault is what was deposited less what was withdrawn and spent, in
every state of a run in which nothing but its deposits pays into its token account. -/
theorem balance_conserved {ctx : CreateVault K} {perTx hourly lifetime : Nat}
    {allowPostPay : Bool} (reachable : Reachable w₀)
    (created : step w₀ (.program (.createVault ctx perTx hourly lifetime allowPostPay)) = .ok w₁)
    (run : Run w₁ log w)
    (outsiders : ∀ e ∈ log, ¬e.act.OutsiderPays ctx.vaultTokenAccount)
    (program : ∀ e ∈ log, ¬e.act.ProgramPays ctx.vaultTokenAccount) :
    ∃ vault account, w.vaults ctx.vault = some vault ∧
      w.tokens.accounts vault.vaultTokenAccount = some account ∧
      (account.amount : ℤ) = vault.totalDeposited - vault.totalWithdrawn - vault.totalSpent := by
  have apart : ∀ e ∈ log, e.act.payee ≠ some ctx.vaultTokenAccount := fun e member =>
    e.act.payee_ne (outsiders e member) (program e member)
  obtain ⟨s, shows, -, balanced⟩ := Run.balanced reachable created run apart
  refine ⟨s.vault, _, shows.vault, shows.account, ?_⟩
  unfold VaultView.Balanced at balanced
  simp only [VaultView.account]
  omega

theorem balance_conserved_market :
    ∃ vault account,
      (Market.after ([Market.create 0 0 0 true] ++ [Market.deposit 50, Market.spend 10])).vaults
        Market.accounts.vault = some vault ∧
      (Market.after ([Market.create 0 0 0 true] ++ [Market.deposit 50,
        Market.spend 10])).tokens.accounts vault.vaultTokenAccount = some account ∧
      (account.amount : ℤ) = vault.totalDeposited - vault.totalWithdrawn - vault.totalSpent :=
  balance_conserved (Market.reachable []) (Market.step_after (by decide))
    (Market.run_after [Market.create 0 0 0 true] [Market.deposit 50, Market.spend 10])
    (by decide) (by decide)

/-- An agent that spends into the vault's own token account has its vault count money as
spent that is still there. -/
theorem balance_not_conserved :
    ¬∀ (ctx : CreateVault SymbolicKey) (perTx hourly lifetime : Nat) (allowPostPay : Bool)
      (w₀ w₁ w : World SymbolicKey) (log : List (Step SymbolicKey)), Reachable w₀ →
      step w₀ (.program (.createVault ctx perTx hourly lifetime allowPostPay)) = .ok w₁ →
      Run w₁ log w → (∀ e ∈ log, ¬e.act.OutsiderPays ctx.vaultTokenAccount) →
      ∃ vault account, w.vaults ctx.vault = some vault ∧
        w.tokens.accounts vault.vaultTokenAccount = some account ∧
        (account.amount : ℤ) = vault.totalDeposited - vault.totalWithdrawn - vault.totalSpent := by
  intro claim
  obtain ⟨vault, account, present, held, balance⟩ :=
    claim Market.accounts 0 0 0 true _ _ _ _ (Market.reachable []) (Market.step_after (by decide))
      (Market.run_after [Market.create 0 0 0 true]
        [Market.deposit 50, Market.spendTo Market.vaultPurse 10]) (by decide)
  -- Spent is 10 and the balance still 50.
  have counters : ((Market.after ([Market.create 0 0 0 true] ++ [Market.deposit 50,
      Market.spendTo Market.vaultPurse 10])).vaults Market.accounts.vault).map (fun vault =>
        (vault.vaultTokenAccount, vault.totalDeposited, vault.totalWithdrawn, vault.totalSpent)) =
      some (Market.vaultPurse, 50, 0, 10) := by decide
  have purse : ((Market.after ([Market.create 0 0 0 true] ++ [Market.deposit 50,
      Market.spendTo Market.vaultPurse 10])).tokens.accounts Market.vaultPurse).map
        TokenAccount.amount = some 50 := by decide
  rw [present] at counters
  simp only [Option.map_some, Option.some.injEq, Prod.mk.injEq] at counters
  obtain ⟨address, deposited, withdrawn, spent⟩ := counters
  rw [address] at held
  rw [held] at purse
  simp only [Option.map_some, Option.some.injEq] at purse
  omega

end AgentFuel.Vault
