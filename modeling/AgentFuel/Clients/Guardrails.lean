import AgentFuel.Clients.Accounts
import AgentFuel.Library.Ladder
import AgentFuel.Vault.Policy

/-!
# The guardrails of the clients

`guardSpend` and `guard_spend` run the checks of the program on decoded accounts, before a
transaction is sent. All three are ladders with the same six rungs, and each client differs from
the program in one of them.
-/
namespace AgentFuel.Clients

open Checked Ladder Numbers Solana Vault

variable {K : Type} [DecidableEq K]

inductive SpendPolicyError (K : Type) where
  | vaultFrozen
  | zeroAmount
  | notWhitelisted (service : K)
  | perTxLimitExceeded (amount limit : Int)
  | hourlyLimitExceeded (amount windowSpent limit : Int)
  | lifetimeLimitExceeded (amount totalSpent limit : Int)
  deriving DecidableEq

/-- The variant of the program that a class mirrors. -/
def SpendPolicyError.variant : SpendPolicyError K → VaultError
  | .vaultFrozen => .frozen
  | .zeroAmount => .zeroAmount
  | .notWhitelisted _ => .notWhitelisted
  | .perTxLimitExceeded _ _ => .perTxLimitExceeded
  | .hourlyLimitExceeded _ _ _ => .hourlyLimitExceeded
  | .lifetimeLimitExceeded _ _ _ => .lifetimeLimitExceeded

section Guards

variable (vault : CreditVaultAccount K) (policy : SpendPolicyAccount K) (service : K)
  (amountUsdc currentSlot : Int)

namespace TypeScript

/-- `SLOTS_PER_HOUR` -/
def slotsPerHour : Int := 9000

def windowSpent : Int :=
  let windowElapsed := slotsPerHour ≤ double (currentSlot - policy.hourlyWindowStartSlot)
  if windowElapsed then 0 else policy.hourlyWindowSpentUsdc

def guardSpend : Except (SpendPolicyError K) Unit := do
  require (vault.frozen = false) .vaultFrozen
  require (0 < amountUsdc) .zeroAmount
  requireWhen (0 < policy.whitelist.length) (service ∈ policy.whitelist) (.notWhitelisted service)
  requireWhen (0 < policy.perTxLimitUsdc) (amountUsdc ≤ policy.perTxLimitUsdc)
    (.perTxLimitExceeded amountUsdc policy.perTxLimitUsdc)
  requireWhen (0 < policy.hourlyLimitUsdc)
    (double (windowSpent policy currentSlot + amountUsdc) ≤ policy.hourlyLimitUsdc)
    (.hourlyLimitExceeded amountUsdc (windowSpent policy currentSlot) policy.hourlyLimitUsdc)
  requireWhen (0 < policy.lifetimeLimitUsdc)
    (double (vault.totalSpent + amountUsdc) ≤ policy.lifetimeLimitUsdc)
    (.lifetimeLimitExceeded amountUsdc vault.totalSpent policy.lifetimeLimitUsdc)

end TypeScript

namespace Python

/-- `SLOTS_PER_HOUR` of this client. -/
def slotsPerHour : Int := 8 * 60 * 60

def windowSpent : Int :=
  if slotsPerHour ≤ currentSlot - policy.hourlyWindowStartSlot then 0
  else policy.hourlyWindowSpentUsdc

def guardSpend : Except (SpendPolicyError K) Unit := do
  require (vault.frozen = false) .vaultFrozen
  require (0 < amountUsdc) .zeroAmount
  requireWhen (policy.whitelist ≠ []) (service ∈ policy.whitelist) (.notWhitelisted service)
  requireWhen (0 < policy.perTxLimitUsdc) (amountUsdc ≤ policy.perTxLimitUsdc)
    (.perTxLimitExceeded amountUsdc policy.perTxLimitUsdc)
  requireWhen (0 < policy.hourlyLimitUsdc)
    (amountUsdc + windowSpent policy currentSlot ≤ policy.hourlyLimitUsdc)
    (.hourlyLimitExceeded amountUsdc (windowSpent policy currentSlot) policy.hourlyLimitUsdc)
  requireWhen (0 < policy.lifetimeLimitUsdc)
    (amountUsdc + vault.totalSpent ≤ policy.lifetimeLimitUsdc)
    (.lifetimeLimitExceeded amountUsdc vault.totalSpent policy.lifetimeLimitUsdc)

end Python

end Guards

/-! ### The ladders -/

/-- The six rungs, by what holds of each. -/
def spendLadder (notFrozen positive whitelisted perTx hourly lifetime : Bool) : List (Bool × VaultError) :=
  [(notFrozen, .frozen), (positive, .zeroAmount), (whitelisted, .notWhitelisted),
    (perTx, .perTxLimitExceeded), (hourly, .hourlyLimitExceeded), (lifetime, .lifetimeLimitExceeded)]

section Rungs

variable {notFrozen positive whitelisted whitelisted' perTx hourly hourly' lifetime : Bool}

theorem climb_whitelisted_iff :
    climb (spendLadder notFrozen positive whitelisted perTx hourly lifetime) =
        climb (spendLadder notFrozen positive whitelisted' perTx hourly lifetime) ↔
      notFrozen = false ∨ positive = false ∨ whitelisted = whitelisted' := by
  have differ := @climb_eq_iff _ VaultError.notWhitelisted
    [(notFrozen, .frozen), (positive, .zeroAmount)]
    [(perTx, .perTxLimitExceeded), (hourly, .hourlyLimitExceeded), (lifetime, .lifetimeLimitExceeded)]
    whitelisted whitelisted' (by simp)
  refine differ.trans ?_
  simp [or_assoc]

theorem climb_hourly_iff :
    climb (spendLadder notFrozen positive whitelisted perTx hourly lifetime) =
        climb (spendLadder notFrozen positive whitelisted perTx hourly' lifetime) ↔
      notFrozen = false ∨ positive = false ∨ whitelisted = false ∨ perTx = false ∨ hourly = hourly' := by
  have differ := @climb_eq_iff _ VaultError.hourlyLimitExceeded
    [(notFrozen, .frozen), (positive, .zeroAmount), (whitelisted, .notWhitelisted),
      (perTx, .perTxLimitExceeded)]
    [(lifetime, .lifetimeLimitExceeded)] hourly hourly' (by simp)
  refine differ.trans ?_
  simp [or_assoc]

end Rungs

theorem mapError_require_bind {ε ε' : Type} (g : ε → ε') (c : Prop) [Decidable c] (e : ε)
    (f : Unit → Except ε Unit) : (require c e >>= f).mapError g =
      if c then (f ()).mapError g else .error (g e) := by
  unfold require
  split <;> rfl

theorem mapError_require {ε ε' : Type} (g : ε → ε') (c : Prop) [Decidable c] (e : ε) :
    (require c e).mapError g = if c then .ok () else .error (g e) := by
  unfold require
  split <;> rfl

theorem TypeScript.guardSpend_eq (vault : CreditVaultAccount K) (policy : SpendPolicyAccount K)
    (service : K) (amount slot : Int) :
    (TypeScript.guardSpend vault policy service amount slot).mapError SpendPolicyError.variant =
      climb (spendLadder (decide (vault.frozen = false)) (decide (0 < amount))
        (decide (0 < policy.whitelist.length → service ∈ policy.whitelist))
        (decide (0 < policy.perTxLimitUsdc → amount ≤ policy.perTxLimitUsdc))
        (decide (0 < policy.hourlyLimitUsdc →
          double (TypeScript.windowSpent policy slot + amount) ≤ policy.hourlyLimitUsdc))
        (decide (0 < policy.lifetimeLimitUsdc →
          double (vault.totalSpent + amount) ≤ policy.lifetimeLimitUsdc))) := by
  simp only [TypeScript.guardSpend, spendLadder, requireWhen_eq, mapError_require_bind,
    mapError_require, climb_cons]
  rfl

theorem Python.guardSpend_eq (vault : CreditVaultAccount K) (policy : SpendPolicyAccount K)
    (service : K) (amount slot : Int) :
    (Python.guardSpend vault policy service amount slot).mapError SpendPolicyError.variant =
      climb (spendLadder (decide (vault.frozen = false)) (decide (0 < amount))
        (decide (policy.whitelist ≠ [] → service ∈ policy.whitelist))
        (decide (0 < policy.perTxLimitUsdc → amount ≤ policy.perTxLimitUsdc))
        (decide (0 < policy.hourlyLimitUsdc →
          amount + Python.windowSpent policy slot ≤ policy.hourlyLimitUsdc))
        (decide (0 < policy.lifetimeLimitUsdc →
          amount + vault.totalSpent ≤ policy.lifetimeLimitUsdc))) := by
  simp only [Python.guardSpend, spendLadder, requireWhen_eq, mapError_require_bind,
    mapError_require, climb_cons]
  rfl

variable [AddressSpace K]

instance (whitelist : List K) (recipient : K) : Decidable (Whitelisted whitelist recipient) :=
  inferInstanceAs (Decidable (_ ∨ _))

/-- What the program answers to a payment. -/
def answer (vault : CreditVault K) (policy : SpendPolicy K) (service : K) (amount slot : Nat) :
    Except VaultError Unit :=
  (fun _ => ()) <$> checkAndRecordSpend vault policy service amount slot

theorem map_require_bind {ε α β : Type} (g : α → β) (c : Prop) [Decidable c] (e : ε)
    (f : Unit → Except ε α) : (g <$> (require c e >>= f)) = if c then g <$> f () else .error e := by
  unfold require
  split <;> rfl

theorem checkWhitelist_eq (whitelist : List K) (recipient : K) : checkWhitelist whitelist recipient =
    require (Whitelisted whitelist recipient) .notWhitelisted := by
  cases outcome : checkWhitelist whitelist recipient with
  | ok u =>
    have listed := (checkWhitelist_ok whitelist recipient u).mp outcome
    rw [require, if_pos listed]
  | error e =>
    have unlisted : ¬Whitelisted whitelist recipient := by
      intro listed
      rw [(checkWhitelist_ok whitelist recipient ()).mpr listed] at outcome
      cases outcome
    rw [require, if_neg unlisted]
    -- The only error of the check.
    unfold checkWhitelist at outcome
    dsimp only at outcome
    split at outcome
    · cases outcome
    · rw [((require_eq_error _ _ _).mp outcome).2]

/-- An addition that has to fit is a rung of its own. -/
theorem checkedAdd_bind {β : Type} (a b : Nat) (e : VaultError) (f : Nat → Except VaultError β) :
    (okOr (checkedAdd 64 a b) e >>= f) = (do
      require (a + b < 2 ^ 64) e
      f (a + b)) := by
  rw [okOr_bind, require_bind, checkedAdd]
  split <;> rfl

omit [DecidableEq K] [AddressSpace K] in
/-- The hourly block stops at an overflow, then at the limit, or moves the window. -/
theorem recordHourly_eq (policy : SpendPolicy K) (amount slot : Nat) :
    recordHourly policy amount slot = (do
      require (0 < policy.hourlyLimitUsdc → (policy.windowAfter slot amount).total < 2 ^ 64) .overflow
      require (0 < policy.hourlyLimitUsdc →
        (policy.windowAfter slot amount).total ≤ policy.hourlyLimitUsdc) .hourlyLimitExceeded
      pure (policy.charged slot amount)) := by
  unfold recordHourly SpendPolicy.charged
  rw [windowAfter_eq]
  by_cases limited : 0 < policy.hourlyLimitUsdc
  · by_cases elapsed : slotsPerHour ≤ slot - policy.hourlyWindowStartSlot
    · simp [limited, elapsed, checkedAdd_bind]
    · simp [limited, elapsed, checkedAdd_bind]
  · -- Without a limit the block does nothing.
    rw [if_neg limited, require_bind, if_pos fun held => absurd held limited, require_bind,
      if_pos fun held => absurd held limited, if_neg limited]

/-- The ladder of the program has two more rungs, for sums that do not fit. -/
theorem answer_ladder (vault : CreditVault K) (policy : SpendPolicy K) (service : K)
    (amount slot : Nat) : answer vault policy service amount slot = climb
      [(decide (vault.frozen = false), .frozen), (decide (0 < amount), .zeroAmount),
        (decide (Whitelisted policy.whitelist.toList service), .notWhitelisted),
        (decide (0 < policy.perTxLimitUsdc → amount ≤ policy.perTxLimitUsdc), .perTxLimitExceeded),
        (decide (0 < policy.hourlyLimitUsdc → (policy.windowAfter slot amount).total < 2 ^ 64),
          .overflow),
        (decide (0 < policy.hourlyLimitUsdc →
          (policy.windowAfter slot amount).total ≤ policy.hourlyLimitUsdc), .hourlyLimitExceeded),
        (decide (vault.totalSpent + amount < 2 ^ 64), .overflow),
        (decide (0 < policy.lifetimeLimitUsdc → vault.totalSpent + amount ≤ policy.lifetimeLimitUsdc),
          .lifetimeLimitExceeded)] := by
  have sum : okOr (checkedAdd 64 vault.totalSpent amount) VaultError.overflow = (do
      require (vault.totalSpent + amount < 2 ^ 64) .overflow
      pure (vault.totalSpent + amount)) := by
    rw [checkedAdd, require_bind]
    split <;> rfl
  simp only [answer, checkAndRecordSpend, checkWhitelist_eq, recordHourly_eq, requireWhen_eq,
    climb_cons, map_require_bind, bind_assoc, pure_bind, sum, charged_lifetime]
  rfl

theorem answer_eq {vault : CreditVault K} {policy : SpendPolicy K} {service : K} {amount slot : Nat}
    (fits : answer vault policy service amount slot ≠ .error .overflow) :
    answer vault policy service amount slot =
      climb (spendLadder (decide (vault.frozen = false)) (decide (0 < amount))
        (decide (Whitelisted policy.whitelist.toList service))
        (decide (0 < policy.perTxLimitUsdc → amount ≤ policy.perTxLimitUsdc))
        (decide (0 < policy.hourlyLimitUsdc →
          (policy.windowAfter slot amount).total ≤ policy.hourlyLimitUsdc))
        (decide (0 < policy.lifetimeLimitUsdc →
          vault.totalSpent + amount ≤ policy.lifetimeLimitUsdc))) := by
  rw [answer_ladder] at fits ⊢
  exact (climb_filter fits).symm

/-! ### TypeScript -/

/-- The decoded list lets through whom the program lets through, but for the all-zero key. -/
theorem listed_iff (whitelist : List K) (service : K) :
    (whitelist.filter (fun pk => decide (pk ≠ defaultKey)) ≠ [] →
        service ∈ whitelist.filter fun pk => decide (pk ≠ defaultKey)) ↔
      (∀ p ∈ whitelist, p = defaultKey) ∨ service ∈ whitelist ∧ service ≠ defaultKey := by
  rw [ne_eq, List.filter_eq_nil_iff, List.mem_filter]
  simp only [decide_eq_true_eq, ne_eq, not_not]
  tauto

/-- The sum that the client compares is rounded, which moves it over no limit. -/
theorem TypeScript.window_le_iff {policy : SpendPolicy K} (safe : SafePolicy policy) (key : K)
    (amount slot : Nat) :
    double (TypeScript.windowSpent (Python.decodeSpendPolicy key policy) slot + amount) ≤
        (Python.decodeSpendPolicy key policy).hourlyLimitUsdc ↔
      (policy.windowAfter slot amount).total ≤ policy.hourlyLimitUsdc := by
  have start := safe.hourlyWindowStartSlot
  have elapsed_iff : TypeScript.slotsPerHour ≤ double (slot - policy.hourlyWindowStartSlot) ↔
      Vault.slotsPerHour ≤ slot - policy.hourlyWindowStartSlot := by
    unfold maxSafe at start
    rw [le_double_iff (by omega) (by decide)]
    unfold TypeScript.slotsPerHour Vault.slotsPerHour
    omega
  rw [windowAfter_eq]
  unfold TypeScript.windowSpent Python.decodeSpendPolicy
  dsimp only
  by_cases elapsed : Vault.slotsPerHour ≤ slot - policy.hourlyWindowStartSlot
  · rw [if_pos (elapsed_iff.mpr elapsed), if_pos elapsed, zero_add,
      double_le_iff (by omega) safe.hourlyLimitUsdc, Nat.cast_le]
  · rw [if_neg fun passed => elapsed (elapsed_iff.mp passed), if_neg elapsed,
      double_le_iff (by omega) safe.hourlyLimitUsdc]
    dsimp only
    omega

/-- The all-zero key gets past a list with an entry and an empty slot, and nothing before the list
stops the payment. -/
def ZeroKeyListed (vault : CreditVault K) (policy : SpendPolicy K) (service : K) (amount : Nat) : Prop :=
  vault.frozen = false ∧ 0 < amount ∧ service = defaultKey ∧ defaultKey ∈ policy.whitelist.toList ∧
    ∃ p ∈ policy.whitelist.toList, p ≠ defaultKey

/-! The rungs that the clients and the program have in common. -/

section Shared

variable (policy : SpendPolicy K) (key : K) (amount total : Nat)

omit [DecidableEq K] [AddressSpace K] in
theorem positive_eq : decide (0 < (amount : Int)) = decide (0 < amount) := by
  rw [decide_eq_decide, Int.natCast_pos]

theorem perTx_eq : decide (0 < (Python.decodeSpendPolicy key policy).perTxLimitUsdc →
      (amount : Int) ≤ (Python.decodeSpendPolicy key policy).perTxLimitUsdc) =
    decide (0 < policy.perTxLimitUsdc → amount ≤ policy.perTxLimitUsdc) := by
  rw [decide_eq_decide, Python.decodeSpendPolicy, Int.natCast_pos, Nat.cast_le]

theorem limited_iff :
    0 < (Python.decodeSpendPolicy key policy).hourlyLimitUsdc ↔ 0 < policy.hourlyLimitUsdc := by
  rw [Python.decodeSpendPolicy, Int.natCast_pos]

theorem lifetime_eq : decide (0 < (Python.decodeSpendPolicy key policy).lifetimeLimitUsdc →
      (total : Int) ≤ (Python.decodeSpendPolicy key policy).lifetimeLimitUsdc) =
    decide (0 < policy.lifetimeLimitUsdc → total ≤ policy.lifetimeLimitUsdc) := by
  rw [decide_eq_decide, Python.decodeSpendPolicy, Int.natCast_pos, Nat.cast_le]

end Shared

/-- The guardrail in TypeScript answers as the program does, except for a payment to the all-zero
key where the whitelist has an entry and an empty slot. -/
theorem typescript_guard_iff (vault : CreditVault K) (policy : SpendPolicy K)
    (vaultKey policyKey service : K) (amount slot : Nat) (safeVault : SafeVault vault)
    (safePolicy : SafePolicy policy)
    (fits : answer vault policy service amount slot ≠ .error .overflow) :
    ∃ account decoded, TypeScript.decodeCreditVault vaultKey vault = .ok account ∧
      TypeScript.decodeSpendPolicy policyKey policy = .ok decoded ∧
      ((TypeScript.guardSpend account decoded service amount slot).mapError
          SpendPolicyError.variant = answer vault policy service amount slot ↔
        ¬ZeroKeyListed vault policy service amount) := by
  obtain ⟨account, read⟩ := (decodeCreditVault_ok vaultKey vault).mpr safeVault
  refine ⟨account, _, read, decodeSpendPolicy_ok policyKey safePolicy, ?_⟩
  have frozen : account.frozen = vault.frozen := by rw [decodeCreditVault_eq read]; rfl
  have spent : account.totalSpent = vault.totalSpent := by rw [decodeCreditVault_eq read]; rfl
  have hourly := TypeScript.window_le_iff safePolicy policyKey amount slot
  have lifetime : double (account.totalSpent + amount) ≤
      (Python.decodeSpendPolicy policyKey policy).lifetimeLimitUsdc ↔
        ((vault.totalSpent + amount : Nat) : Int) ≤
          (Python.decodeSpendPolicy policyKey policy).lifetimeLimitUsdc := by
    rw [spent]
    exact double_le_iff (by omega) safePolicy.lifetimeLimitUsdc
  -- Both are ladders of the same checks in one order, so they can only differ at the whitelist.
  rw [TypeScript.guardSpend_eq, answer_eq fits, frozen]
  simp only [hourly, lifetime, limited_iff]
  rw [positive_eq, perTx_eq, lifetime_eq, climb_whitelisted_iff, decide_eq_false_iff_not,
    decide_eq_false_iff_not, decide_eq_decide, List.length_pos_iff, ZeroKeyListed]
  have decoded := listed_iff policy.whitelist.toList service
  refine Iff.trans (or_congr_right (or_congr_right (iff_congr decoded Iff.rfl))) ?_
  unfold Whitelisted
  constructor
  · -- An empty slot admits the all-zero key on chain, and the client has dropped the slot.
    rintro agree ⟨notFrozen, positive, rfl, slot, entry, listed, set⟩
    rcases agree with stopped | stopped | same
    · exact stopped notFrozen
    · exact stopped positive
    · rcases same.mpr (.inr slot) with unset | listed
      · exact set (unset entry listed)
      · exact listed.2 rfl
  · intro clear
    by_cases notFrozen : vault.frozen = false
    · by_cases positive : 0 < amount
      · refine .inr (.inr ?_)
        constructor
        · exact Or.imp_right And.left
        · rintro (unset | member)
          · exact .inl unset
          · by_cases zero : service = defaultKey
            · left
              intro p listed
              by_contra set
              exact clear ⟨notFrozen, positive, zero, zero ▸ member, p, listed, set⟩
            · exact .inr ⟨member, zero⟩
      · exact .inr (.inl positive)
    · exact .inl notFrozen

/-- A vault whose whitelist has one entry. -/
def sampleVault : CreditVault SymbolicKey where
  owner := .wallet 1
  agent := .wallet 2
  usdcMint := .wallet 3
  vaultTokenAccount := .wallet 4
  totalDeposited := 1000
  totalSpent := 300
  createdSlot := 1
  lastActiveSlot := 90000
  bump := 255

def samplePolicy : SpendPolicy SymbolicKey where
  vault := .wallet 5
  whitelist := #v[.wallet 6, .wallet 0, .wallet 0, .wallet 0, .wallet 0, .wallet 0, .wallet 0, .wallet 0]
  perTxLimitUsdc := 200
  hourlyLimitUsdc := 350
  lifetimeLimitUsdc := 0
  hourlyWindowStartSlot := 80000
  hourlyWindowSpentUsdc := 300
  allowPostPay := false
  bump := 255

/-- Client and program refuse a payment for the same limit, and differ about the all-zero key. -/
theorem typescript_guard_iff_sample :
    ∃ account decoded, TypeScript.decodeCreditVault (.wallet 5) sampleVault = .ok account ∧
      TypeScript.decodeSpendPolicy (.wallet 7) samplePolicy = .ok decoded ∧
      (TypeScript.guardSpend account decoded (.wallet 6) 100 (85000 : Nat)).mapError
          SpendPolicyError.variant = answer sampleVault samplePolicy (.wallet 6) 100 85000 ∧
      answer sampleVault samplePolicy (.wallet 6) 100 85000 = .error .hourlyLimitExceeded ∧
      (TypeScript.guardSpend account decoded (.wallet 0) 10 (85000 : Nat)).mapError
          SpendPolicyError.variant ≠ answer sampleVault samplePolicy (.wallet 0) 10 85000 := by
  have safeVault : SafeVault sampleVault :=
    ⟨by decide, by decide, by decide, by decide, by decide, by decide, by decide⟩
  have safePolicy : SafePolicy samplePolicy := ⟨by decide, by decide, by decide, by decide, by decide⟩
  obtain ⟨account, decoded, vaultRead, policyRead, agree⟩ :=
    typescript_guard_iff sampleVault samplePolicy (.wallet 5) (.wallet 7) (.wallet 6) 100 85000
      safeVault safePolicy (by decide +kernel)
  obtain ⟨account', decoded', vaultRead', policyRead', differ⟩ :=
    typescript_guard_iff sampleVault samplePolicy (.wallet 5) (.wallet 7) (.wallet 0) 10 85000
      safeVault safePolicy (by decide +kernel)
  obtain rfl : account = account' := Except.ok.inj (vaultRead.symm.trans vaultRead')
  obtain rfl : decoded = decoded' := Except.ok.inj (policyRead.symm.trans policyRead')
  have unlisted : ¬ZeroKeyListed sampleVault samplePolicy (.wallet 6) 100 := by
    rintro ⟨-, -, zero, -⟩
    cases zero
  have zeroListed : ZeroKeyListed sampleVault samplePolicy (.wallet 0) 10 :=
    ⟨rfl, by decide, rfl, by decide, .wallet 6, by decide, by decide⟩
  exact ⟨account, decoded, vaultRead, policyRead, agree.mpr unlisted, by decide +kernel,
    fun same => differ.mp same zeroListed⟩

/-- The client refuses the payment and the program takes it. -/
theorem typescript_guard_refuses :
    ∃ account decoded, TypeScript.decodeCreditVault (.wallet 5) sampleVault = .ok account ∧
      TypeScript.decodeSpendPolicy (.wallet 7) samplePolicy = .ok decoded ∧
      TypeScript.guardSpend account decoded (.wallet 0) 10 (85000 : Nat) =
        .error (.notWhitelisted (.wallet 0)) ∧
      answer sampleVault samplePolicy (.wallet 0) 10 85000 = .ok () := by
  refine ⟨_, _, rfl, rfl, ?_, ?_⟩
  · decide +kernel
  · decide +kernel

/-! ### Python -/

/-- The window is over for the program and not yet for the client, and what was spent in it makes
the difference. -/
structure StaleWindow (vault : CreditVault K) (policy : SpendPolicy K) (service : K)
    (amount slot : Nat) : Prop where
  notFrozen : vault.frozen = false
  positive : 0 < amount
  whitelisted : Whitelisted policy.whitelist.toList service
  perTx : 0 < policy.perTxLimitUsdc → amount ≤ policy.perTxLimitUsdc
  limited : 0 < policy.hourlyLimitUsdc
  elapsed : policy.hourlyWindowStartSlot + 9000 ≤ slot
  lasting : slot < policy.hourlyWindowStartSlot + 28800
  within : amount ≤ policy.hourlyLimitUsdc
  exceeds : policy.hourlyLimitUsdc < policy.hourlyWindowSpentUsdc + amount

/-- The hourly rungs agree except in a stale window. -/
theorem Python.hourly_iff (policy : SpendPolicy K) (key : K) (amount slot : Nat) :
    ((0 < (Python.decodeSpendPolicy key policy).hourlyLimitUsdc →
        (amount : Int) + Python.windowSpent (Python.decodeSpendPolicy key policy) slot ≤
          (Python.decodeSpendPolicy key policy).hourlyLimitUsdc) ↔
      (0 < policy.hourlyLimitUsdc →
        (policy.windowAfter slot amount).total ≤ policy.hourlyLimitUsdc)) ↔
    ¬(0 < policy.hourlyLimitUsdc ∧ policy.hourlyWindowStartSlot + 9000 ≤ slot ∧
      slot < policy.hourlyWindowStartSlot + 28800 ∧ amount ≤ policy.hourlyLimitUsdc ∧
        policy.hourlyLimitUsdc < policy.hourlyWindowSpentUsdc + amount) := by
  rw [windowAfter_eq]
  unfold Python.windowSpent Python.slotsPerHour Vault.slotsPerHour Python.decodeSpendPolicy
  dsimp only
  by_cases reset : 9000 ≤ slot - policy.hourlyWindowStartSlot
  · rw [if_pos reset]
    dsimp only
    split <;> omega
  · rw [if_neg reset]
    dsimp only
    split <;> omega

/-- The guardrail in Python answers as the program does, except in a stale window. -/
theorem python_guard_iff (vault : CreditVault K) (policy : SpendPolicy K)
    (vaultKey policyKey service : K) (amount slot : Nat) (set : service ≠ defaultKey)
    (fits : answer vault policy service amount slot ≠ .error .overflow) :
    (Python.guardSpend (Python.decodeCreditVault vaultKey vault)
        (Python.decodeSpendPolicy policyKey policy) service amount slot).mapError
          SpendPolicyError.variant = answer vault policy service amount slot ↔
      ¬StaleWindow vault policy service amount slot := by
  have listed : ((Python.decodeSpendPolicy policyKey policy).whitelist ≠ [] →
      service ∈ (Python.decodeSpendPolicy policyKey policy).whitelist) ↔
        Whitelisted policy.whitelist.toList service := by
    refine (listed_iff policy.whitelist.toList service).trans ?_
    exact or_congr_right (and_iff_left set)
  have lifetime : (amount : Int) + (Python.decodeCreditVault vaultKey vault).totalSpent =
      ((vault.totalSpent + amount : Nat) : Int) := by
    rw [Nat.cast_add, add_comm]
    rfl
  rw [Python.guardSpend_eq, answer_eq fits]
  simp only [listed, lifetime]
  rw [positive_eq, perTx_eq, lifetime_eq, Python.decodeCreditVault, climb_hourly_iff,
    decide_eq_false_iff_not, decide_eq_false_iff_not, decide_eq_false_iff_not,
    decide_eq_false_iff_not, decide_eq_decide, Python.hourly_iff]
  constructor
  · -- The ladders differ only past all earlier checks, at the hourly limit.
    rintro agree ⟨notFrozen, positive, whitelisted, perTx, stale⟩
    rcases agree with stopped | stopped | stopped | stopped | fresh
    · exact stopped notFrozen
    · exact stopped positive
    · exact stopped whitelisted
    · exact stopped perTx
    · exact fresh ⟨stale, ‹_›, ‹_›, ‹_›, ‹_›⟩
  · intro fresh
    by_contra differ
    simp only [not_or, not_not] at differ
    obtain ⟨notFrozen, positive, whitelisted, perTx, limited, elapsed, lasting, within, exceeds⟩ := differ
    exact fresh ⟨notFrozen, positive, whitelisted, perTx, limited, elapsed, lasting, within, exceeds⟩

/-- The limit stops a payment on both sides; later in the window it stops it in the client alone. -/
theorem python_guard_iff_sample :
    (Python.guardSpend (Python.decodeCreditVault (.wallet 5) sampleVault)
        (Python.decodeSpendPolicy (.wallet 7) samplePolicy) (.wallet 6) 100 (85000 : Nat)).mapError
          SpendPolicyError.variant = answer sampleVault samplePolicy (.wallet 6) 100 85000 ∧
      answer sampleVault samplePolicy (.wallet 6) 100 85000 = .error .hourlyLimitExceeded ∧
      (Python.guardSpend (Python.decodeCreditVault (.wallet 5) sampleVault)
        (Python.decodeSpendPolicy (.wallet 7) samplePolicy) (.wallet 6) 100 (90000 : Nat)).mapError
          SpendPolicyError.variant ≠ answer sampleVault samplePolicy (.wallet 6) 100 90000 := by
  have early := python_guard_iff sampleVault samplePolicy (.wallet 5) (.wallet 7) (.wallet 6) 100 85000
    (by decide) (by decide +kernel)
  have late := python_guard_iff sampleVault samplePolicy (.wallet 5) (.wallet 7) (.wallet 6) 100 90000
    (by decide) (by decide +kernel)
  have fresh : ¬StaleWindow sampleVault samplePolicy (.wallet 6) 100 85000 :=
    fun stale => absurd stale.elapsed (by decide)
  have stale : StaleWindow sampleVault samplePolicy (.wallet 6) 100 90000 :=
    ⟨rfl, by decide, .inr (by decide), by decide, by decide, by decide, by decide, by decide, by decide⟩
  exact ⟨early.mpr fresh, by decide +kernel, fun same => late.mp same stale⟩

/-- Ten thousand slots after the start of the window the program has forgotten what was spent in
it, and the client has not. -/
theorem python_guard_refuses :
    Python.guardSpend (Python.decodeCreditVault (.wallet 5) sampleVault)
        (Python.decodeSpendPolicy (.wallet 7) samplePolicy) (.wallet 6) 100 (90000 : Nat) =
          .error (.hourlyLimitExceeded 100 300 350) ∧
      answer sampleVault samplePolicy (.wallet 6) 100 90000 = .ok () := by
  constructor
  · decide +kernel
  · decide +kernel

end AgentFuel.Clients
