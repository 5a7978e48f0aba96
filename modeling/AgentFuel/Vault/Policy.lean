import AgentFuel.Library.RateWindow
import AgentFuel.Vault.State

/-!
# The spend-policy ladder

`checkAndRecordSpend` is shared by `spend` and `claim`. Its specification separates the
conditions on the call (`Allows`) from the two records it leaves behind.
-/
namespace AgentFuel.Vault

open Checked Solana

variable {K : Type} [DecidableEq K] [AddressSpace K]

/-- All-zero whitelist means no enforcement. -/
def checkWhitelist (whitelist : List K) (recipient : K) : Except VaultError Unit :=
  let anySet := whitelist.any fun p => decide (p ≠ defaultKey)
  if !anySet then .ok ()
  else
    let allowed := whitelist.any fun p => decide (p = recipient)
    require (allowed = true) .notWhitelisted

/-- The hourly block of the ladder. `saturating_sub` is subtraction of natural numbers. -/
def recordHourly (policy : SpendPolicy K) (amountUsdc currentSlot : Nat) :
    Except VaultError (SpendPolicy K) := do
  if 0 < policy.hourlyLimitUsdc then
    -- The source writes the reset into the account before the limit is checked; a failed check
    -- undoes it with the whole instruction.
    let windowElapsed := slotsPerHour ≤ currentSlot - policy.hourlyWindowStartSlot
    let policy := if windowElapsed then
        { policy with hourlyWindowStartSlot := currentSlot, hourlyWindowSpentUsdc := 0 }
      else policy
    let newWindowTotal ← okOr (checkedAdd 64 policy.hourlyWindowSpentUsdc amountUsdc) .overflow
    require (newWindowTotal ≤ policy.hourlyLimitUsdc) .hourlyLimitExceeded
    pure { policy with hourlyWindowSpentUsdc := newWindowTotal }
  else pure policy

def checkAndRecordSpend (vault : CreditVault K) (policy : SpendPolicy K) (recipientService : K)
    (amountUsdc currentSlot : Nat) : Except VaultError (CreditVault K × SpendPolicy K) := do
  require (vault.frozen = false) .frozen
  require (0 < amountUsdc) .zeroAmount
  checkWhitelist policy.whitelist.toList recipientService
  requireWhen (0 < policy.perTxLimitUsdc) (amountUsdc ≤ policy.perTxLimitUsdc)
    .perTxLimitExceeded
  let policy ← recordHourly policy amountUsdc currentSlot
  let newTotalSpent ← okOr (checkedAdd 64 vault.totalSpent amountUsdc) .overflow
  requireWhen (0 < policy.lifetimeLimitUsdc) (newTotalSpent ≤ policy.lifetimeLimitUsdc)
    .lifetimeLimitExceeded
  pure ({ vault with totalSpent := newTotalSpent }, policy)

/-! ### Specification -/

/-- The recipients a whitelist lets through. -/
def Whitelisted (whitelist : List K) (recipient : K) : Prop :=
  (∀ p ∈ whitelist, p = defaultKey) ∨ recipient ∈ whitelist

theorem checkWhitelist_ok (whitelist : List K) (recipient : K) (u : Unit) :
    checkWhitelist whitelist recipient = .ok u ↔ Whitelisted whitelist recipient := by
  unfold checkWhitelist Whitelisted
  -- `anySet` decides whether the list is enforced at all.
  by_cases empty : ∀ p ∈ whitelist, p = defaultKey
  · have noneSet : (whitelist.any fun p => decide (p ≠ defaultKey)) = false := by simpa using empty
    simp only [noneSet, Bool.not_false, if_true, true_iff]
    exact .inl empty
  · simp [empty]

/-- The window of a policy, as the counting-window library sees it. -/
def SpendPolicy.window (policy : SpendPolicy K) : RateWindow.Window Nat :=
  ⟨policy.hourlyWindowStartSlot, policy.hourlyWindowSpentUsdc⟩

/-- What an enforced hourly limit counts after a charge at a slot. -/
def SpendPolicy.windowAfter (policy : SpendPolicy K) (slot amount : Nat) : RateWindow.Window Nat :=
  policy.window.advance slotsPerHour ⟨slot, amount⟩

/-- The policy after a charge: the window moves only under an hourly limit. -/
def SpendPolicy.charged (policy : SpendPolicy K) (slot amount : Nat) : SpendPolicy K :=
  if 0 < policy.hourlyLimitUsdc then
    { policy with
      hourlyWindowStartSlot := (policy.windowAfter slot amount).start
      hourlyWindowSpentUsdc := (policy.windowAfter slot amount).total }
  else policy

omit [DecidableEq K] [AddressSpace K] in
theorem windowAfter_eq (policy : SpendPolicy K) (slot amount : Nat) :
    policy.windowAfter slot amount =
      if slotsPerHour ≤ slot - policy.hourlyWindowStartSlot then ⟨slot, amount⟩
      else ⟨policy.hourlyWindowStartSlot, policy.hourlyWindowSpentUsdc + amount⟩ := rfl

/-- The conditions of the ladder on a payment of `amount` to `service` at `slot`. -/
structure Allows (vault : CreditVault K) (policy : SpendPolicy K) (service : K)
    (amount slot : Nat) : Prop where
  notFrozen : vault.frozen = false
  positive : 0 < amount
  whitelisted : Whitelisted policy.whitelist.toList service
  perTx : 0 < policy.perTxLimitUsdc → amount ≤ policy.perTxLimitUsdc
  hourly : 0 < policy.hourlyLimitUsdc →
    (policy.windowAfter slot amount).total ≤ policy.hourlyLimitUsdc
  lifetime : 0 < policy.lifetimeLimitUsdc →
    vault.totalSpent + amount ≤ policy.lifetimeLimitUsdc
  hourlyFits : 0 < policy.hourlyLimitUsdc → (policy.windowAfter slot amount).total < 2 ^ 64
  lifetimeFits : vault.totalSpent + amount < 2 ^ 64

omit [DecidableEq K] [AddressSpace K] in
theorem recordHourly_ok (policy policy' : SpendPolicy K) (amount slot : Nat) :
    recordHourly policy amount slot = .ok policy' ↔
      (0 < policy.hourlyLimitUsdc →
        (policy.windowAfter slot amount).total < 2 ^ 64 ∧
        (policy.windowAfter slot amount).total ≤ policy.hourlyLimitUsdc) ∧
      policy' = policy.charged slot amount := by
  unfold recordHourly SpendPolicy.charged
  rw [windowAfter_eq]
  -- Without a limit the window is left alone, so the two cases differ in what is written.
  by_cases limited : 0 < policy.hourlyLimitUsdc
  · by_cases elapsed : slotsPerHour ≤ slot - policy.hourlyWindowStartSlot
    · simp [limited, elapsed, eq_comm (b := policy'), and_assoc]
    · simp [limited, elapsed, eq_comm (b := policy'), and_assoc]
  · simp [limited, eq_comm (b := policy')]

section Charged

omit [DecidableEq K] [AddressSpace K]

variable (policy : SpendPolicy K) (slot amount : Nat)

@[simp] theorem charged_vault : (policy.charged slot amount).vault = policy.vault := by
  unfold SpendPolicy.charged
  split <;> rfl

@[simp] theorem charged_bump : (policy.charged slot amount).bump = policy.bump := by
  unfold SpendPolicy.charged
  split <;> rfl

@[simp] theorem charged_whitelist : (policy.charged slot amount).whitelist = policy.whitelist := by
  unfold SpendPolicy.charged
  split <;> rfl

@[simp] theorem charged_hourly :
    (policy.charged slot amount).hourlyLimitUsdc = policy.hourlyLimitUsdc := by
  unfold SpendPolicy.charged
  split <;> rfl

@[simp] theorem charged_lifetime :
    (policy.charged slot amount).lifetimeLimitUsdc = policy.lifetimeLimitUsdc := by
  unfold SpendPolicy.charged
  split <;> rfl

@[simp] theorem charged_allowPostPay :
    (policy.charged slot amount).allowPostPay = policy.allowPostPay := by
  unfold SpendPolicy.charged
  split <;> rfl

theorem charged_window (limited : 0 < policy.hourlyLimitUsdc) :
    (policy.charged slot amount).window = policy.windowAfter slot amount := by
  simp [SpendPolicy.charged, limited, SpendPolicy.window]

end Charged

omit [DecidableEq K] in
/-- A permitted charge leaves the counted total within the limit. -/
theorem Allows.charged_le {vault : CreditVault K} {policy : SpendPolicy K} {service : K}
    {amount slot : Nat} (allows : Allows vault policy service amount slot)
    (limited : 0 < policy.hourlyLimitUsdc) :
    (policy.charged slot amount).hourlyWindowSpentUsdc ≤ policy.hourlyLimitUsdc := by
  have counted := congrArg RateWindow.Window.total (charged_window policy slot amount limited)
  exact counted.trans_le (allows.hourly limited)

/-- The ladder lets a payment through exactly when `Allows` holds, and then it raises
`total_spent` and moves the window. -/
theorem checkAndRecordSpend_ok (vault vault' : CreditVault K) (policy policy' : SpendPolicy K)
    (service : K) (amount slot : Nat) :
    checkAndRecordSpend vault policy service amount slot = .ok (vault', policy') ↔
      Allows vault policy service amount slot ∧
      vault' = { vault with totalSpent := vault.totalSpent + amount } ∧
      policy' = policy.charged slot amount := by
  simp only [checkAndRecordSpend, bind_eq_ok, require_eq_ok, checkWhitelist_ok,
    requireWhen_eq_ok, recordHourly_ok, okOr_eq_ok, checkedAdd_eq_some, pure_eq_ok,
    exists_and_left, exists_const, Prod.mk.injEq]
  constructor
  · rintro ⟨notFrozen, positive, whitelisted, perTx, _, ⟨hourly, rfl⟩, _, ⟨fits, rfl⟩, lifetime,
      rfl, rfl⟩
    refine ⟨⟨notFrozen, positive, whitelisted, perTx, fun limited => (hourly limited).2, ?_,
      fun limited => (hourly limited).1, fits⟩, rfl, rfl⟩
    simpa using lifetime
  · rintro ⟨allows, rfl, rfl⟩
    exact ⟨allows.notFrozen, allows.positive, allows.whitelisted, allows.perTx, _,
      ⟨fun limited => ⟨allows.hourlyFits limited, allows.hourly limited⟩, rfl⟩, _,
      ⟨allows.lifetimeFits, rfl⟩, by simpa using allows.lifetime, rfl, rfl⟩

end AgentFuel.Vault
