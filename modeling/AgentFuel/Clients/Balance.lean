import AgentFuel.Clients.Accounts
import AgentFuel.Vault.Accounting
import AgentFuel.Vault.Lifetime

/-!
# The balance that the clients show

Both clients add `total_claimed` to what the other counters leave. A claim is counted in
`total_spent` as well, so that the sum is the balance of the token account until the first claim
and never again.
-/
namespace AgentFuel.Clients

open Checked Numbers Solana Vault

variable {K : Type} [DecidableEq K] [AddressSpace K] {w w₀ w₁ : World K} {log : List (Step K)}

/-- What a run keeps: the counters account for the balance, and `total_claimed` is the sum of the
claims. -/
structure Counted (v : K) (account : K) (log : List (Step K)) (s : VaultView K) : Prop where
  address : s.vault.vaultTokenAccount = account
  balanced : s.Balanced
  claimed : s.vault.totalClaimed = totalOf (claims v) log

theorem Counted.step {v account : K} {e : Step K} {s s' : VaultView K} (counted : Counted v account log s)
    (before : Shows e.pre v s) (move : VaultStep e.pre v s e.act s')
    (apart : e.act.payee ≠ some account) : Counted v account (log ++ [e]) s' := by
  obtain ⟨address, balanced, claimed⟩ := counted
  refine ⟨move.fixed.2.2.2.1.trans address, move.balanced (address ▸ apart) balanced, ?_⟩
  rw [totalOf_snoc, ← claimed]
  exact (move.counts before).2

/-- A balance is between zero and what was deposited, so that rounding the sum of the client in
TypeScript does not hide a claim. -/
theorem rounded_balance_iff {deposited withdrawn spent claimed balance : Nat}
    (balanced : balance + withdrawn + spent = deposited) (safe : (deposited : Int) ≤ maxSafe) :
    double (double (double ((deposited : Int) - withdrawn) - spent) + claimed) = balance ↔
      claimed = 0 := by
  unfold maxSafe at safe
  rw [double_eq (n := (deposited : Int) - withdrawn) (by omega) (by omega),
    double_eq (n := (deposited : Int) - withdrawn - spent) (by omega) (by omega)]
  by_cases small : (deposited : Int) - withdrawn - spent + claimed < 2 ^ 53
  · rw [double_eq (by omega) small]
    omega
  · have large := le_double (not_lt.mp small)
    constructor <;> intro same <;> omega

/-- In a run in which nothing but its deposits pays into its token account, the clients show the
balance of a vault exactly if nothing has been claimed. -/
theorem shown_balance_iff {ctx : CreateVault K} {perTx hourly lifetime : Nat} {allowPostPay : Bool}
    (key : K) (reachable : Reachable w₀)
    (created : step w₀ (.program (.createVault ctx perTx hourly lifetime allowPostPay)) = .ok w₁)
    (run : Run w₁ log w)
    (outsiders : ∀ e ∈ log, ¬e.act.OutsiderPays ctx.vaultTokenAccount)
    (program : ∀ e ∈ log, ¬e.act.ProgramPays ctx.vaultTokenAccount) :
    ∃ vault account, w.vaults ctx.vault = some vault ∧
      w.tokens.accounts vault.vaultTokenAccount = some account ∧
      ((Python.decodeCreditVault key vault).balance = account.amount ↔
        ∀ e ∈ log, claims ctx.vault e = 0) ∧
      ∀ decoded, TypeScript.decodeCreditVault key vault = .ok decoded →
        (decoded.balance = account.amount ↔ ∀ e ∈ log, claims ctx.vault e = 0) := by
  have apart : ∀ e ∈ log, e.act.payee ≠ some ctx.vaultTokenAccount := fun e member =>
    e.act.payee_ne (outsiders e member) (program e member)
  have start := created_shows reachable.wellFormed created
  have init : Counted ctx.vault ctx.vaultTokenAccount []
      (ctx.view w₀.slot perTx hourly lifetime allowPostPay) := ⟨rfl, rfl, rfl⟩
  obtain ⟨s, shows, counted⟩ := Run.view_induction (reachable.step created).wellFormed start init
    (fun _ _ _ _ _ _ before move _ _ allowed counted => counted.step before move allowed) run apart
  -- A sum of amounts is zero exactly if all of them are.
  have none_iff : (∀ e ∈ log, claims ctx.vault e = 0) ↔ s.vault.totalClaimed = 0 := by
    rw [counted.claimed, totalOf, List.sum_eq_zero_iff, List.forall_mem_map]
  have balanced := counted.balanced
  unfold VaultView.Balanced at balanced
  refine ⟨s.vault, _, shows.vault, shows.account, ?_, ?_⟩
  · -- Shown and held differ by what was claimed.
    rw [none_iff]
    simp only [Python.decodeCreditVault, VaultView.account]
    omega
  · intro decoded read
    have safe := (decodeCreditVault_ok key s.vault).mp ⟨decoded, read⟩
    rw [none_iff, decodeCreditVault_eq read]
    exact rounded_balance_iff balanced safe.totalDeposited

theorem shown_balance_iff_market :
    ∃ vault account,
      (Market.after ([Market.create 0 0 0 true] ++ [Market.deposit 50, Market.spend 10])).vaults
        Market.accounts.vault = some vault ∧
      (Market.after ([Market.create 0 0 0 true] ++ [Market.deposit 50,
        Market.spend 10])).tokens.accounts vault.vaultTokenAccount = some account ∧
      (Python.decodeCreditVault Market.vault vault).balance = account.amount := by
  obtain ⟨vault, account, present, held, shown, -⟩ := shown_balance_iff Market.vault
    (Market.reachable []) (Market.step_after (by decide)) (Market.run_after
      [Market.create 0 0 0 true] [Market.deposit 50, Market.spend 10]) (by decide) (by decide)
  exact ⟨vault, account, present, held, shown.mpr (by decide)⟩

/-- After a claim of 10 of the 50 that were deposited 40 are left, and the clients show 50. -/
theorem shown_balance_wrong :
    ¬∀ (ctx : CreateVault SymbolicKey) (perTx hourly lifetime : Nat) (allowPostPay : Bool)
      (key : SymbolicKey) (w₀ w₁ w : World SymbolicKey) (log : List (Step SymbolicKey)), Reachable w₀ →
      step w₀ (.program (.createVault ctx perTx hourly lifetime allowPostPay)) = .ok w₁ →
      Run w₁ log w → (∀ e ∈ log, ¬e.act.OutsiderPays ctx.vaultTokenAccount) →
      (∀ e ∈ log, ¬e.act.ProgramPays ctx.vaultTokenAccount) →
      ∃ vault account, w.vaults ctx.vault = some vault ∧
        w.tokens.accounts vault.vaultTokenAccount = some account ∧
        (Python.decodeCreditVault key vault).balance = account.amount := by
  intro claim
  obtain ⟨vault, account, present, held, shown⟩ := claim Market.accounts 0 0 0 true Market.vault _ _ _ _
    (Market.reachable []) (Market.step_after (by decide)) (Market.run_after
      [Market.create 0 0 0 true] [Market.deposit 50, Market.claim 10]) (by decide) (by decide)
  have balance : ((Market.after ([Market.create 0 0 0 true] ++ [Market.deposit 50,
      Market.claim 10])).vaults Market.accounts.vault).map (fun vault =>
        (vault.vaultTokenAccount, (Python.decodeCreditVault Market.vault vault).balance)) =
      some (Market.vaultPurse, 50) := by decide +kernel
  have purse : ((Market.after ([Market.create 0 0 0 true] ++ [Market.deposit 50,
      Market.claim 10])).tokens.accounts Market.vaultPurse).map TokenAccount.amount = some 40 := by
    decide +kernel
  rw [present] at balance
  simp only [Option.map_some, Option.some.injEq, Prod.mk.injEq] at balance
  obtain ⟨address, fifty⟩ := balance
  rw [address] at held
  rw [held] at purse
  simp only [Option.map_some, Option.some.injEq] at purse
  rw [fifty, purse] at shown
  exact absurd shown (by decide)

end AgentFuel.Clients
