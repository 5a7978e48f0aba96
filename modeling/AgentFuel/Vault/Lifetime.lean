import AgentFuel.Vault.Runs

/-!
# The payments of a run and the lifetime limit

`spend`, `claim` and `approve_spend` feed one counter, and only the first two are limited
by it. The counters of a vault are sums over the steps since its creation.
-/
namespace AgentFuel.Vault

open Checked Solana

variable {K : Type} [DecidableEq K] [AddressSpace K] {w w₀ w₁ : World K} {v : K}
  {s s' : VaultView K} {log : List (Step K)}

/-! ### Amounts of a step -/

/-- The amount of a `spend` from the vault at `v`. -/
def spends (v : K) (e : Step K) : Nat :=
  match e.act with
  | .program (.spend ctx amountUsdc) => if ctx.vault = v then amountUsdc else 0
  | _ => 0

/-- The amount of a `claim` on the vault at `v`. -/
def claims (v : K) (e : Step K) : Nat :=
  match e.act with
  | .program (.claim ctx amountUsdc) => if ctx.vault = v then amountUsdc else 0
  | _ => 0

/-- The requested amount an `approve_spend` pays out of the vault at `v`. -/
def approves (v : K) (e : Step K) : Nat :=
  match e.act with
  | .program (.approveSpend ctx) =>
    if ctx.vault = v then ((e.pre.pendings ctx.pendingSpend).map PendingSpend.amountUsdc).getD 0
    else 0
  | _ => 0

/-- The sum of an amount over the steps of a run. -/
def totalOf (amount : Step K → Nat) (log : List (Step K)) : Nat := (log.map amount).sum

omit [DecidableEq K] in
@[simp] theorem totalOf_snoc (amount : Step K → Nat) (log : List (Step K)) (e : Step K) :
    totalOf amount (log ++ [e]) = totalOf amount log + amount e := by
  simp [totalOf]

/-- The amount an action charges to the spend policy of the vault at `v`. -/
def Action.metered (v : K) : Action K → Option Nat
  | .program (.spend ctx amountUsdc) => if ctx.vault = v then some amountUsdc else none
  | .program (.claim ctx amountUsdc) => if ctx.vault = v then some amountUsdc else none
  | _ => none

/-- Actions on other vaults have no amounts on this one. -/
theorem amounts_elsewhere {e : Step K} (elsewhere : e.act.vault ≠ some v) :
    spends v e = 0 ∧ claims v e = 0 ∧ approves v e = 0 ∧ e.act.metered v = none := by
  obtain ⟨pre, act, post⟩ := e
  cases act with
  | program ix => cases ix <;> simp_all [Action.vault, Instruction.vault, spends, claims,
      approves, Action.metered]
  | token ix => exact ⟨rfl, rfl, rfl, rfl⟩
  | advance slots => exact ⟨rfl, rfl, rfl, rfl⟩

/-- What one step adds to the counters of a vault. -/
theorem VaultStep.counts {e : Step K} (shows : Shows e.pre v s)
    (move : VaultStep e.pre v s e.act s') :
    s'.vault.totalSpent = s.vault.totalSpent + spends v e + claims v e + approves v e ∧
      s'.vault.totalClaimed = s.vault.totalClaimed + claims v e := by
  obtain ⟨pre, act, post⟩ := e
  cases move with
  | other act x elsewhere _ =>
    obtain ⟨none, unclaimed, unapproved, -⟩ := amounts_elsewhere (e := ⟨pre, act, post⟩) elsewhere
    simp [none, unclaimed, unapproved]
  | approved ctx p dst named _ address held =>
    -- The amount paid is the one stored at the address the step names.
    have stored : pre.pendings ctx.pendingSpend = some p := by
      rw [address, shows.pending, held]
    simp [spends, claims, approves, named, stored]
  | _ => simp_all [spends, claims, approves]

/-- A metered step leaves the counter within a lifetime limit in force. -/
theorem VaultStep.ceiling {e : Step K} (move : VaultStep e.pre v s e.act s')
    (limited : 0 < s.policy.lifetimeLimitUsdc) :
    (e.act.metered v ≠ none → s'.vault.totalSpent ≤ s.policy.lifetimeLimitUsdc) ∧
      (e.act.metered v = none → spends v e = 0 ∧ claims v e = 0) := by
  obtain ⟨pre, act, post⟩ := e
  cases move with
  | other act x elsewhere _ =>
    obtain ⟨none, unclaimed, -, unmetered⟩ := amounts_elsewhere (e := ⟨pre, act, post⟩) elsewhere
    exact ⟨fun metered => absurd unmetered metered, fun _ => ⟨none, unclaimed⟩⟩
  | spent ctx x dst named _ _ allows =>
    exact ⟨fun _ => allows.lifetime limited, by simp [Action.metered, named]⟩
  | claimed ctx x dst named _ _ _ allows =>
    exact ⟨fun _ => allows.lifetime limited, by simp [Action.metered, named]⟩
  | _ => exact ⟨fun metered => absurd rfl metered, fun _ => ⟨rfl, rfl⟩⟩

/-! ### Runs -/

/-- The lifetime limit in the policy of the vault at `v` is `limit`. -/
def LifetimeLimit (v : K) (limit : Nat) (w : World K) : Prop :=
  ∀ policy ∈ w.policies (policyAddress v), policy.lifetimeLimitUsdc = limit

instance (v : K) (limit : Nat) (w : World K) : Decidable (LifetimeLimit v limit w) :=
  inferInstanceAs (Decidable (∀ policy ∈ w.policies (policyAddress v), _))

/-- The counters of a vault against the steps since its creation, under a lifetime limit. -/
structure Metered (v : K) (limit : Nat) (log : List (Step K)) (s : VaultView K) : Prop where
  inForce : s.policy.lifetimeLimitUsdc = limit
  spent : s.vault.totalSpent =
    totalOf (spends v) log + totalOf (claims v) log + totalOf (approves v) log
  claimed : s.vault.totalClaimed = totalOf (claims v) log
  ceiling : ∀ e ∈ log, e.act.metered v ≠ none →
    ∃ vault, e.post.vaults v = some vault ∧ vault.totalSpent ≤ limit
  within : totalOf (spends v) log + totalOf (claims v) log ≤ limit

theorem Metered.step {limit : Nat} {e : Step K} (metered : Metered v limit log s)
    (positive : 0 < limit) (before : Shows e.pre v s) (move : VaultStep e.pre v s e.act s')
    (after : Shows e.post v s') (constant : LifetimeLimit v limit e.post) :
    Metered v limit (log ++ [e]) s' := by
  obtain ⟨inForce, spent, claimed, ceiling, within⟩ := metered
  obtain ⟨spent', claimed'⟩ := move.counts before
  obtain ⟨bound, unmetered⟩ := move.ceiling (inForce ▸ positive)
  rw [inForce] at bound
  constructor
  · exact constant _ after.policy
  · simp only [totalOf_snoc]
    omega
  · simp only [totalOf_snoc]
    omega
  · rw [List.forall_mem_append, List.forall_mem_singleton]
    exact ⟨ceiling, fun charged => ⟨s'.vault, after.vault, bound charged⟩⟩
  · simp only [totalOf_snoc]
    -- An approval may lift the counter above the limit, but then the next charge fails; so the
    -- bound on the sum is kept by the check on the counter, which is never below the sum.
    by_cases charged : e.act.metered v = none
    · obtain ⟨noSpend, noClaim⟩ := unmetered charged
      omega
    · have room := bound charged
      omega

/-- The counters of a vault are the sums of its payments, and under a constant lifetime limit
what the agent and the services take stays within it, whatever the owner approves besides. -/
theorem lifetime_ceiling {ctx : CreateVault K} {perTx hourly lifetime : Nat}
    {allowPostPay : Bool} (reachable : Reachable w₀)
    (created : step w₀ (.program (.createVault ctx perTx hourly lifetime allowPostPay)) = .ok w₁)
    (run : Run w₁ log w) (positive : 0 < lifetime)
    (constant : ∀ e ∈ log, LifetimeLimit ctx.vault lifetime e.post) :
    (∃ vault, w.vaults ctx.vault = some vault ∧
      vault.totalSpent = totalOf (spends ctx.vault) log + totalOf (claims ctx.vault) log +
        totalOf (approves ctx.vault) log ∧
      vault.totalClaimed = totalOf (claims ctx.vault) log ∧
      vault.totalClaimed ≤ vault.totalSpent) ∧
    (∀ e ∈ log, e.act.metered ctx.vault ≠ none →
      ∃ vault, e.post.vaults ctx.vault = some vault ∧ vault.totalSpent ≤ lifetime) ∧
    totalOf (spends ctx.vault) log + totalOf (claims ctx.vault) log ≤ lifetime := by
  have start := created_shows reachable.wellFormed created
  have init : Metered ctx.vault lifetime []
      (ctx.view w₀.slot perTx hourly lifetime allowPostPay) := ⟨rfl, rfl, rfl, by simp, Nat.zero_le _⟩
  obtain ⟨s, shows, metered⟩ := Run.view_induction (reachable.step created).wellFormed start init
    (fun _ _ _ _ _ _ before move _ after limit metered =>
      metered.step positive before move after limit) run constant
  have spent := metered.spent
  have claimed := metered.claimed
  exact ⟨⟨s.vault, shows.vault, spent, claimed, by omega⟩, metered.ceiling, metered.within⟩

theorem lifetime_ceiling_market :
    totalOf (spends Market.accounts.vault)
        (Transition.trace step (Market.after [Market.create 0 0 30 true])
          [Market.deposit 50, Market.spend 10, Market.request 25 0, Market.claim 15,
            Market.approve 0, Market.spend 10]) +
      totalOf (claims Market.accounts.vault)
        (Transition.trace step (Market.after [Market.create 0 0 30 true])
          [Market.deposit 50, Market.spend 10, Market.request 25 0, Market.claim 15,
            Market.approve 0, Market.spend 10]) ≤ 30 :=
  (lifetime_ceiling (Market.reachable []) (Market.step_after (by decide))
    (Market.run_after [Market.create 0 0 30 true] _) (by decide) (by decide)).2.2

end AgentFuel.Vault
