import AgentFuel.Vault.Policy

/-!
# Several payments at one slot

A list of payments that run through the ladder one after another at the same slot counts as
one payment of their sum: only the first can start a new window, and every limit that is
checked on the way is implied by the check after the last.
-/
namespace AgentFuel.Vault

open Checked Solana

variable {K : Type}

structure Payment (K : Type) where
  recipientService : K
  amountUsdc : Nat

/-- The sum of the amounts. -/
def amounts (payments : List (Payment K)) : Nat :=
  (payments.map Payment.amountUsdc).sum

@[simp] theorem amounts_nil : amounts ([] : List (Payment K)) = 0 := by simp [amounts]

@[simp] theorem amounts_cons (payment : Payment K) (rest : List (Payment K)) :
    amounts (payment :: rest) = payment.amountUsdc + amounts rest := by simp [amounts]

theorem amounts_perm {payments reordered : List (Payment K)} (perm : payments.Perm reordered) :
    amounts payments = amounts reordered :=
  (perm.map Payment.amountUsdc).sum_eq

/-- What the hourly window has counted at a slot, before the slot's first payment. -/
def SpendPolicy.windowSpent (policy : SpendPolicy K) (slot : Nat) : Nat :=
  if policy.hourlyWindowStartSlot + slotsPerHour ≤ slot then 0 else policy.hourlyWindowSpentUsdc

theorem elapsed_iff (start slot : Nat) : slotsPerHour ≤ slot - start ↔ start + slotsPerHour ≤ slot := by
  unfold slotsPerHour
  omega

theorem windowAfter_total (policy : SpendPolicy K) (slot amount : Nat) :
    (policy.windowAfter slot amount).total = policy.windowSpent slot + amount := by
  rw [windowAfter_eq, SpendPolicy.windowSpent]
  simp only [elapsed_iff]
  split <;> simp

/-- A window that a slot has written to is not reset again at that slot. -/
theorem windowSpent_charged (policy : SpendPolicy K) (slot amount : Nat)
    (limited : 0 < policy.hourlyLimitUsdc) :
    (policy.charged slot amount).windowSpent slot = policy.windowSpent slot + amount := by
  have positive : 0 < slotsPerHour := by decide
  have once := RateWindow.advance_advance positive policy.window slot amount 0
  have again := windowAfter_total (policy.charged slot amount) slot 0
  have total := windowAfter_total policy slot amount
  rw [SpendPolicy.windowAfter, charged_window policy slot amount limited, SpendPolicy.windowAfter,
    once] at again
  exact again.symm.trans total

/-- Two charges at one slot are one charge. -/
theorem charged_charged (policy : SpendPolicy K) (slot first second : Nat) :
    (policy.charged slot first).charged slot second = policy.charged slot (first + second) := by
  by_cases limited : 0 < policy.hourlyLimitUsdc
  · have positive : 0 < slotsPerHour := by decide
    have once := RateWindow.advance_advance positive policy.window slot first second
    have window := charged_window policy slot first limited
    have after : (policy.charged slot first).windowAfter slot second =
        policy.windowAfter slot (first + second) := by
      rw [SpendPolicy.windowAfter, window, SpendPolicy.windowAfter, once, SpendPolicy.windowAfter]
    rw [SpendPolicy.charged, charged_hourly, if_pos limited, after]
    simp [SpendPolicy.charged, limited]
  · simp [SpendPolicy.charged, limited]

@[simp] theorem charged_perTx (policy : SpendPolicy K) (slot amount : Nat) :
    (policy.charged slot amount).perTxLimitUsdc = policy.perTxLimitUsdc := by
  unfold SpendPolicy.charged
  split <;> rfl

variable [DecidableEq K] [AddressSpace K]

/-- The payments through the ladder one after another; the first that fails ends them. -/
def checkAndRecordSpends (slot : Nat) (accounts : CreditVault K × SpendPolicy K)
    (payments : List (Payment K)) : Except VaultError (CreditVault K × SpendPolicy K) :=
  payments.foldlM (fun (vault, policy) payment =>
    checkAndRecordSpend vault policy payment.recipientService payment.amountUsdc slot) accounts

/-- What a list of payments needs of vault and policy, in terms of its sum. -/
structure AllowsAll (vault : CreditVault K) (policy : SpendPolicy K) (payments : List (Payment K))
    (slot : Nat) : Prop where
  notFrozen : vault.frozen = false
  positive : ∀ p ∈ payments, 0 < p.amountUsdc
  perTx : policy.perTxLimitUsdc ≠ 0 → ∀ p ∈ payments, p.amountUsdc ≤ policy.perTxLimitUsdc
  whitelisted : ∀ p ∈ payments, checkWhitelist policy.whitelist.toList p.recipientService = .ok ()
  hourly : policy.hourlyLimitUsdc ≠ 0 →
    policy.windowSpent slot + amounts payments ≤ policy.hourlyLimitUsdc
  lifetime : policy.lifetimeLimitUsdc ≠ 0 →
    vault.totalSpent + amounts payments ≤ policy.lifetimeLimitUsdc
  fits : vault.totalSpent + amounts payments < 2 ^ 64

/-- Vault and policy after payments of a sum. -/
def spent (vault : CreditVault K) (policy : SpendPolicy K) (slot sum : Nat) :
    CreditVault K × SpendPolicy K :=
  ({ vault with totalSpent := vault.totalSpent + sum }, policy.charged slot sum)

section Ladder

variable {vault : CreditVault K} {policy : SpendPolicy K} {payment : Payment K}
  {payments rest : List (Payment K)} {slot : Nat} {result : CreditVault K × SpendPolicy K}

theorem checkAndRecordSpends_cons :
    checkAndRecordSpends slot (vault, policy) (payment :: rest) = .ok result ↔
      Allows vault policy payment.recipientService payment.amountUsdc slot ∧
        checkAndRecordSpends slot (spent vault policy slot payment.amountUsdc) rest = .ok result := by
  simp only [checkAndRecordSpends, List.foldlM_cons, bind_eq_ok, Prod.exists, checkAndRecordSpend_ok]
  constructor
  · rintro ⟨_, _, ⟨allows, rfl, rfl⟩, others⟩
    exact ⟨allows, others⟩
  · rintro ⟨allows, others⟩
    exact ⟨_, _, ⟨allows, rfl, rfl⟩, others⟩

omit [DecidableEq K] [AddressSpace K] in
theorem spent_spent (first second : Nat) :
    spent (spent vault policy slot first).1 (spent vault policy slot first).2 slot second =
      spent vault policy slot (first + second) := by
  simp [spent, charged_charged, Nat.add_assoc]

/-- One payment and then the rest of a list, in terms of the sum: what the ladder asks of the first
payment alone follows from what it asks of the whole. -/
theorem allowsAll_cons (word : policy.hourlyLimitUsdc < 2 ^ 64) :
    AllowsAll vault policy (payment :: rest) slot ↔
      Allows vault policy payment.recipientService payment.amountUsdc slot ∧
        AllowsAll (spent vault policy slot payment.amountUsdc).1
          (spent vault policy slot payment.amountUsdc).2 rest slot := by
  unfold spent
  constructor
  · intro all
    have hourly : 0 < policy.hourlyLimitUsdc →
        policy.windowSpent slot + (payment.amountUsdc + amounts rest) ≤ policy.hourlyLimitUsdc :=
      fun limited => all.hourly limited.ne'
    have lifetime : 0 < policy.lifetimeLimitUsdc →
        vault.totalSpent + (payment.amountUsdc + amounts rest) ≤ policy.lifetimeLimitUsdc :=
      fun limited => all.lifetime limited.ne'
    have fits : vault.totalSpent + (payment.amountUsdc + amounts rest) < 2 ^ 64 := all.fits
    constructor
    · -- The first payment alone is within what is left of the sum.
      constructor
      · exact all.notFrozen
      · exact all.positive payment List.mem_cons_self
      · exact (checkWhitelist_ok _ _ ()).mp (all.whitelisted payment List.mem_cons_self)
      · exact fun limited => all.perTx limited.ne' payment List.mem_cons_self
      · intro limited
        rw [windowAfter_total]
        have bound := hourly limited
        omega
      · intro limited
        have bound := lifetime limited
        omega
      · intro limited
        rw [windowAfter_total]
        have bound := hourly limited
        omega
      · omega
    · -- The others are checked after it is charged, against the same sums.
      constructor
      · exact all.notFrozen
      · exact fun p member => all.positive p (List.mem_cons_of_mem _ member)
      · rw [charged_perTx]
        exact fun limited p member => all.perTx limited p (List.mem_cons_of_mem _ member)
      · rw [charged_whitelist]
        exact fun p member => all.whitelisted p (List.mem_cons_of_mem _ member)
      · intro limited
        rw [charged_hourly] at limited ⊢
        rw [windowSpent_charged policy slot _ (Nat.pos_of_ne_zero limited), Nat.add_assoc]
        exact hourly (Nat.pos_of_ne_zero limited)
      · intro limited
        rw [charged_lifetime] at limited ⊢
        rw [Nat.add_assoc]
        exact lifetime (Nat.pos_of_ne_zero limited)
      · rw [Nat.add_assoc]
        exact fits
  · rintro ⟨first, others⟩
    constructor
    · exact first.notFrozen
    · exact List.forall_mem_cons.mpr ⟨first.positive, others.positive⟩
    · intro limited
      rw [List.forall_mem_cons]
      exact ⟨first.perTx (Nat.pos_of_ne_zero limited), by simpa using others.perTx (by simpa using limited)⟩
    · have later := others.whitelisted
      rw [charged_whitelist] at later
      exact List.forall_mem_cons.mpr ⟨(checkWhitelist_ok _ _ ()).mpr first.whitelisted, later⟩
    · intro limited
      have bound := others.hourly (by simpa using limited)
      rw [charged_hourly, windowSpent_charged policy slot _ (Nat.pos_of_ne_zero limited),
        Nat.add_assoc] at bound
      exact bound
    · intro limited
      have bound := others.lifetime (by simpa using limited)
      rw [charged_lifetime, Nat.add_assoc] at bound
      exact bound
    · have bound := others.fits
      rw [Nat.add_assoc] at bound
      exact bound

/-- An accepted payment leaves nothing to ask for when no other follows. -/
theorem Allows.none_left {service : K} {amount : Nat} (allows : Allows vault policy service amount slot) :
    AllowsAll (spent vault policy slot amount).1 (spent vault policy slot amount).2 [] slot := by
  unfold spent
  constructor
  · exact allows.notFrozen
  · simp
  · simp
  · simp
  · intro limited
    rw [charged_hourly] at limited ⊢
    have bound := allows.hourly (Nat.pos_of_ne_zero limited)
    rw [windowAfter_total] at bound
    rw [windowSpent_charged policy slot _ (Nat.pos_of_ne_zero limited)]
    exact bound
  · intro limited
    rw [charged_lifetime] at limited ⊢
    exact allows.lifetime (Nat.pos_of_ne_zero limited)
  · exact allows.lifetimeFits

/-- Acceptance and outcome of a list of payments are those of its sum. -/
theorem checkAndRecordSpends_ok (word : policy.hourlyLimitUsdc < 2 ^ 64) (some : payments ≠ []) :
    checkAndRecordSpends slot (vault, policy) payments = .ok result ↔
      AllowsAll vault policy payments slot ∧ result = spent vault policy slot (amounts payments) := by
  induction payments generalizing vault policy with
  | nil => exact absurd rfl some
  | cons payment rest ih =>
    rw [checkAndRecordSpends_cons, allowsAll_cons word, and_assoc, amounts_cons]
    apply and_congr_right
    intro allows
    cases rest with
    | nil =>
      -- The last payment: the accounts it leaves are the outcome.
      have done : checkAndRecordSpends slot (spent vault policy slot payment.amountUsdc) [] =
          .ok (spent vault policy slot payment.amountUsdc) := rfl
      rw [done, Except.ok.injEq]
      simp [allows.none_left, eq_comm]
    | cons next others =>
      have later : (spent vault policy slot payment.amountUsdc).2.hourlyLimitUsdc < 2 ^ 64 := by
        simpa [spent] using word
      rw [← spent_spent]
      exact ih later (List.cons_ne_nil _ _)

theorem AllowsAll.perm {reordered : List (Payment K)} (all : AllowsAll vault policy payments slot)
    (perm : payments.Perm reordered) : AllowsAll vault policy reordered slot where
  notFrozen := all.notFrozen
  positive p member := all.positive p (perm.mem_iff.mpr member)
  perTx limited p member := all.perTx limited p (perm.mem_iff.mpr member)
  whitelisted p member := all.whitelisted p (perm.mem_iff.mpr member)
  hourly := amounts_perm perm ▸ all.hourly
  lifetime := amounts_perm perm ▸ all.lifetime
  fits := amounts_perm perm ▸ all.fits

end Ladder

/-- Splitting and reordering payments of one slot changes neither whether they are accepted nor
what they leave. -/
theorem splitting_gains_nothing (vault : CreditVault K) (policy : SpendPolicy K) (slot : Nat)
    (payments : List (Payment K)) (some : payments ≠ []) (word : policy.hourlyLimitUsdc < 2 ^ 64) :
    ((∃ result, checkAndRecordSpends slot (vault, policy) payments = .ok result) ↔
      AllowsAll vault policy payments slot) ∧
    (∀ result, checkAndRecordSpends slot (vault, policy) payments = .ok result →
      result = spent vault policy slot (amounts payments)) ∧
    ∀ reordered result, payments.Perm reordered →
      checkAndRecordSpends slot (vault, policy) payments = .ok result →
        checkAndRecordSpends slot (vault, policy) reordered = .ok result := by
  have outcome : ∀ result, checkAndRecordSpends slot (vault, policy) payments = .ok result ↔
      AllowsAll vault policy payments slot ∧ result = spent vault policy slot (amounts payments) :=
    fun _ => checkAndRecordSpends_ok word some
  refine ⟨?_, fun result accepted => ((outcome result).mp accepted).2, ?_⟩
  · constructor
    · rintro ⟨result, accepted⟩
      exact ((outcome result).mp accepted).1
    · exact fun all => ⟨_, (outcome _).mpr ⟨all, rfl⟩⟩
  · intro reordered result perm accepted
    obtain ⟨all, rfl⟩ := (outcome result).mp accepted
    -- A reordering of a non-empty list is not empty.
    have others : reordered ≠ [] := by
      rintro rfl
      exact some perm.eq_nil
    rw [checkAndRecordSpends_ok word others]
    exact ⟨all.perm perm, by rw [amounts_perm perm]⟩

namespace Till

open SymbolicKey

def vault : CreditVault SymbolicKey where
  owner := wallet 1
  agent := wallet 2
  usdcMint := wallet 3
  vaultTokenAccount := wallet 4
  totalSpent := 40
  createdSlot := 0
  lastActiveSlot := 100
  bump := 255

/-- A window of an hour ago, and limits the two payments below just meet. -/
def policy : SpendPolicy SymbolicKey where
  vault := wallet 5
  whitelist := Vector.replicate whitelistLen defaultKey
  perTxLimitUsdc := 30
  hourlyLimitUsdc := 50
  lifetimeLimitUsdc := 90
  hourlyWindowStartSlot := 100
  hourlyWindowSpentUsdc := 40
  allowPostPay := false
  bump := 255

def payments : List (Payment SymbolicKey) := [⟨wallet 6, 30⟩, ⟨wallet 7, 20⟩]

end Till

theorem splitting_gains_nothing_till :
    checkAndRecordSpends 9100 (Till.vault, Till.policy) Till.payments.reverse =
      .ok (spent Till.vault Till.policy 9100 50) := by
  have accepted : checkAndRecordSpends 9100 (Till.vault, Till.policy) Till.payments =
      .ok (spent Till.vault Till.policy 9100 50) := by decide
  obtain ⟨-, -, reordered⟩ := splitting_gains_nothing Till.vault Till.policy 9100 Till.payments
    (by decide) (by decide)
  exact reordered _ _ (List.reverse_perm _).symm accepted

end AgentFuel.Vault
