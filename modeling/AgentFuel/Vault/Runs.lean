import AgentFuel.Vault.Steps

/-!
# Runs as a vault sees them

Invariants of a vault are proved by induction over the steps of its view, from any view or
from the one `create_vault` leaves.
-/
namespace AgentFuel.Vault

open Checked Solana

variable {K : Type} [DecidableEq K] [AddressSpace K] {w w₀ w₁ : World K} {v : K}
  {s : VaultView K} {log : List (Step K)}

theorem Run.wellFormed (run : Run w₀ log w) (wf : WellFormed w₀) : WellFormed w :=
  Transition.Run.invariant (I := WellFormed) (fun _ _ _ fired wf => step_wellFormed wf fired) run wf

theorem Reachable.wellFormed (reachable : Reachable w) : WellFormed w := by
  obtain ⟨w₀, log, genesis, run⟩ := reachable
  exact run.wellFormed genesis.wellFormed

theorem Reachable.step {act : Action K} (reachable : Reachable w₀) (h : step w₀ act = .ok w) :
    Reachable w := by
  obtain ⟨start, log, genesis, run⟩ := reachable
  exact ⟨start, _, genesis, run.snoc h⟩

theorem Reachable.run (reachable : Reachable w₀) (run : Run w₀ log w) : Reachable w := by
  obtain ⟨start, earlier, genesis, first⟩ := reachable
  exact ⟨start, _, genesis, first.append run⟩

/-- What the steps of a view keep under a condition, a run of such steps keeps. -/
theorem Run.view_induction {P : List (Step K) → VaultView K → Prop} {allowed : Step K → Prop}
    (wf : WellFormed w₀) (shows : Shows w₀ v s) (init : P [] s)
    (keep : ∀ log (e : Step K) t t', Run w₀ (log ++ [e]) e.post → WellFormed e.pre →
      Shows e.pre v t → VaultStep e.pre v t e.act t' → WellFormed e.post → Shows e.post v t' →
      allowed e → P log t → P (log ++ [e]) t')
    (run : Run w₀ log w) (all : ∀ e ∈ log, allowed e) : ∃ s', Shows w v s' ∧ P log s' := by
  -- Each step of the run is a step of the view by `step_shows`, in a world that is still well
  -- formed.
  induction run with
  | nil => exact ⟨s, shows, init⟩
  | @snoc log u act u' shorter fired ih =>
    rw [List.forall_mem_append, List.forall_mem_singleton] at all
    obtain ⟨t, before, held⟩ := ih all.1
    have wf' := Run.wellFormed shorter wf
    obtain ⟨t', after, move⟩ := step_shows wf' fired before
    exact ⟨t', after, keep log ⟨u, act, u'⟩ t t' (shorter.snoc fired) wf' before move
      (step_wellFormed wf' fired) after all.2 held⟩

theorem created_shows {ctx : CreateVault K} {perTx hourly lifetime : Nat} {allowPostPay : Bool}
    (wf : WellFormed w₀)
    (created : step w₀ (.program (.createVault ctx perTx hourly lifetime allowPostPay)) = .ok w₁) :
    Shows w₁ ctx.vault (ctx.view w₀.slot perTx hourly lifetime allowPostPay) := by
  simp only [Vault.step, map_eq_ok] at created
  obtain ⟨⟨_, _⟩, handled, rfl⟩ := created
  obtain ⟨_, creates⟩ := ctx.creates wf handled
  exact creates.shows

/-- A policy update stores the owner's terms and leaves the window as it is. -/
theorem updatePolicy_stores (wf : WellFormed w₀) {ctx : UpdatePolicy K} {perTx hourly lifetime : Nat}
    {allowPostPay : Bool} {whitelist : Vector K whitelistLen}
    (updated : step w₀ (.program (.updatePolicy ctx perTx hourly lifetime allowPostPay whitelist)) =
      .ok w) :
    ∃ policy, w₀.policies (policyAddress ctx.vault) = some policy ∧
      w.policies (policyAddress ctx.vault) = some { policy with
        perTxLimitUsdc := perTx
        hourlyLimitUsdc := hourly
        lifetimeLimitUsdc := lifetime
        allowPostPay := allowPostPay
        whitelist := whitelist } := by
  obtain ⟨⟨w', ev⟩, handled, rfl⟩ := (map_eq_ok ..).mp updated
  obtain ⟨policy, accounts, stored⟩ := (bind_eq_ok ..).mp handled
  obtain ⟨rfl, -⟩ := Prod.mk.inj (Except.ok.inj stored)
  obtain ⟨s, shows, rfl, address, -⟩ := UpdatePolicy.tryAccounts_ok wf accounts
  refine ⟨s.policy, shows.policy, ?_⟩
  rw [address]
  exact Function.update_self ..

/-- Every vault that is reached has been created, and has run since. -/
theorem Reachable.created {vault : CreditVault K} (reachable : Reachable w)
    (present : w.vaults v = some vault) :
    ∃ w₀ ctx perTx hourly lifetime allowPostPay w₁ log, Reachable w₀ ∧ ctx.vault = v ∧
      Vault.step w₀ (.program (.createVault ctx perTx hourly lifetime allowPostPay)) = .ok w₁ ∧
      Run w₁ log w := by
  obtain ⟨start, log, genesis, run⟩ := reachable
  induction run generalizing vault with
  | nil => simp [genesis.vaults] at present
  | @snoc log t act u earlier fired ih =>
    have before : Reachable t := ⟨start, log, genesis, earlier⟩
    -- The vault was created by the last step, or was there before it.
    cases held : t.vaults v with
    | none =>
      obtain ⟨ctx, perTx, hourly, lifetime, allowPostPay, rfl, named, -⟩ :=
        step_creates before.wellFormed fired held present
      exact ⟨t, ctx, perTx, hourly, lifetime, allowPostPay, u, [], before, named, fired, .nil⟩
    | some old =>
      obtain ⟨w₀, ctx, perTx, hourly, lifetime, allowPostPay, w₁, since, reached, named, created,
        run⟩ := ih held
      exact ⟨w₀, ctx, perTx, hourly, lifetime, allowPostPay, w₁, _, reached, named, created,
        run.snoc fired⟩

/-! ### A market on symbolic keys -/

namespace Market

open SymbolicKey

def usdc : SymbolicKey := (signer 0).key
def owner : Signer SymbolicKey := signer 1
def agent : Signer SymbolicKey := signer 2
def service : Signer SymbolicKey := signer 3
def ownerPurse : SymbolicKey := (signer 4).key
def servicePurse : SymbolicKey := (signer 5).key
def vault : SymbolicKey := findProgramAddress (.vault owner.key agent.key)
def policy : SymbolicKey := policyAddress vault
def vaultPurse : SymbolicKey := associatedTokenAddress vault usdc

/-- No accounts at all. -/
def empty : World SymbolicKey :=
  { slot := 0
    tokens := { mints := fun _ => none, accounts := fun _ => none }
    vaults := fun _ => none
    policies := fun _ => none
    pendings := fun _ => none }

/-- A mint, and token accounts of the owner, who holds 100, and of the service. -/
def opening : List (Action SymbolicKey) :=
  [.token (.initializeMint (signer 0) (signer 0).key),
    .token (.initializeAccount (signer 4) usdc owner.key),
    .token (.initializeAccount (signer 5) usdc service.key),
    .token (.mintTo (signer 0) usdc ownerPurse 100)]

def start : World SymbolicKey := opening.foldl (Transition.settle step) empty

def after (acts : List (Action SymbolicKey)) : World SymbolicKey :=
  acts.foldl (Transition.settle step) start

theorem reachable (acts : List (Action SymbolicKey)) : Reachable (after acts) := by
  have opened : Reachable start :=
    ⟨empty, _, ⟨fun _ => rfl, fun _ => rfl, fun _ => rfl⟩, .of_trace _ _ opening⟩
  exact opened.run (.of_trace _ _ acts)

/-- The state a further successful action leads to. -/
theorem step_after {acts : List (Action SymbolicKey)} {act : Action SymbolicKey}
    (succeeds : (step (after acts) act).isOk = true) :
    step (after acts) act = .ok (after (acts ++ [act])) := by
  rw [Transition.settle_eq_ok succeeds, after, after, List.foldl_append]
  rfl

theorem run_after (acts more : List (Action SymbolicKey)) :
    Run (after acts) (Transition.trace step (after acts) more) (after (acts ++ more)) := by
  rw [after, after, List.foldl_append]
  exact .of_trace _ _ more

def accounts : CreateVault SymbolicKey := ⟨owner, agent.key, usdc, vault, policy, vaultPurse⟩

def create (perTx hourly lifetime : Nat) (allowPostPay : Bool) : Action SymbolicKey :=
  .program (.createVault accounts perTx hourly lifetime allowPostPay)

/-- The service opens the associated token account of a wallet. -/
def openPurse (wallet : SymbolicKey) : Action SymbolicKey :=
  .token (.createAssociatedToken service wallet usdc)

def deposit (amount : Nat) : Action SymbolicKey :=
  .program (.deposit ⟨owner, vault, ownerPurse, vaultPurse⟩ amount)

def spendTo (destination : SymbolicKey) (amount : Nat) : Action SymbolicKey :=
  .program (.spend ⟨agent, vault, policy, vaultPurse, destination⟩ amount)

def payment : Spend SymbolicKey := ⟨agent, vault, policy, vaultPurse, servicePurse⟩

def spend (amount : Nat) : Action SymbolicKey := .program (.spend payment amount)

def claim (amount : Nat) : Action SymbolicKey :=
  .program (.claim ⟨service, vault, policy, vaultPurse, servicePurse⟩ amount)

def request (amount : Nat) (nonce : Nat) : Action SymbolicKey :=
  .program (.requestSpend ⟨agent, vault, servicePurse, pendingAddress vault nonce⟩ amount)

def approval (nonce : Nat) : ApproveSpend SymbolicKey :=
  ⟨owner, vault, policy, pendingAddress vault nonce, vaultPurse, servicePurse⟩

def approve (nonce : Nat) : Action SymbolicKey := .program (.approveSpend (approval nonce))

def cancel (nonce : Nat) : Action SymbolicKey :=
  .program (.cancelSpend ⟨owner, vault, pendingAddress vault nonce⟩)

def withdraw (amount : Nat) : Action SymbolicKey :=
  .program (.withdraw ⟨owner, vault, vaultPurse, ownerPurse⟩ amount)

/-- Lift all limits and put one key on the whitelist. -/
def allow (key : SymbolicKey) : Action SymbolicKey :=
  .program (.updatePolicy ⟨owner, vault, policy⟩ 0 0 0 true
    (Vector.set (Vector.replicate whitelistLen defaultKey) 0 key (by decide)))

/-- The owner's limits, for any recipient. -/
def setLimits (perTx hourly lifetime : Nat) : Action SymbolicKey :=
  .program (.updatePolicy ⟨owner, vault, policy⟩ perTx hourly lifetime true
    (Vector.replicate whitelistLen defaultKey))

/-- A funded vault whose whitelist holds the service, and a token account that the all-zero
key owns. -/
def listed : List (Action SymbolicKey) :=
  [create 0 0 0 true, deposit 50, allow service.key,
    .token (.initializeAccount (signer 6) usdc defaultKey)]

def unownedPurse : SymbolicKey := (signer 6).key

def freeze : Action SymbolicKey := .program (.freezeVault ⟨owner, vault⟩)

end Market
end AgentFuel.Vault
