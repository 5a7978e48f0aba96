import AgentFuel.Backend.Alerts

/-!
# Budget thresholds

`budget_alert` narrows a share of the limit to 16 bits before it looks for the threshold. The
threshold is the right one as long as the low bits of a large share still read as one.
-/
namespace AgentFuel.Backend

/-- The threshold that `budget_alert` derives from the two columns. -/
def derivedThreshold (totalSpent lifetimeLimit : Int) : Int :=
  thresholdFor (Int.bmod ((totalSpent * 100).tdiv lifetimeLimit) (2 ^ 16))

/-- The largest threshold that the share of the limit reaches, and 0 if it reaches none. -/
structure Reaches (totalSpent lifetimeLimit t : Int) : Prop where
  listed : t ∈ budgetThresholds ∨ t = 0
  reached : t * lifetimeLimit ≤ 100 * totalSpent
  largest : ∀ u ∈ budgetThresholds, u * lifetimeLimit ≤ 100 * totalSpent → u ≤ t

/-- `budget_alert` announces the threshold it derives unless it has announced one as high. -/
theorem budgetCrossing_threshold (vault : AlertedVault) (limited : 0 < vault.row.lifetimeLimitUsdc) :
    (budgetCrossing vault).map Crossing.newThreshold =
      if derivedThreshold vault.row.totalSpent vault.row.lifetimeLimitUsdc ≤ vault.lastBudgetAlertPct
        then none
      else some (derivedThreshold vault.row.totalSpent vault.row.lifetimeLimitUsdc) := by
  unfold budgetCrossing derivedThreshold
  rw [if_neg (Int.not_le.mpr limited)]
  dsimp only
  split <;> simp

theorem thresholdFor_eq (pct : Int) :
    thresholdFor pct = if 90 ≤ pct then 90 else if 80 ≤ pct then 80 else if 70 ≤ pct then 70 else 0 := by
  unfold thresholdFor budgetThresholds
  by_cases ninety : 90 ≤ pct
  · simp [ninety]
  by_cases eighty : 80 ≤ pct
  · simp [ninety, eighty]
  by_cases seventy : 70 ≤ pct
  · simp [ninety, eighty, seventy]
  · simp [ninety, eighty, seventy]

variable {totalSpent lifetimeLimit : Int}

/-- The share of the limit in whole percent decides. -/
theorem reaches_iff (spent : 0 ≤ totalSpent) (limited : 0 < lifetimeLimit) (t : Int) :
    Reaches totalSpent lifetimeLimit t ↔ t = thresholdFor (100 * totalSpent / lifetimeLimit) := by
  have share : ∀ u : Int, u * lifetimeLimit ≤ 100 * totalSpent ↔ u ≤ 100 * totalSpent / lifetimeLimit :=
    fun u => (Int.le_ediv_iff_mul_le limited).symm
  have nonneg : 0 ≤ 100 * totalSpent / lifetimeLimit := by
    rw [← share]
    omega
  rw [thresholdFor_eq]
  -- Only the share matters, and there are three thresholds to compare it with.
  generalize 100 * totalSpent / lifetimeLimit = pct at share nonneg ⊢
  constructor
  · rintro ⟨listed, reached, largest⟩
    rw [share] at reached
    have each := fun u member => fun below => largest u member ((share u).mpr below)
    simp only [budgetThresholds, List.mem_cons, List.not_mem_nil, or_false] at listed each
    have ninety := each 90 (by simp)
    have eighty := each 80 (by simp)
    have seventy := each 70 (by simp)
    split_ifs <;> omega
  · rintro rfl
    constructor
    · simp only [budgetThresholds, List.mem_cons, List.not_mem_nil, or_false]
      split_ifs <;> simp
    · rw [share]
      split_ifs <;> omega
    · intro u member below
      rw [share] at below
      simp only [budgetThresholds, List.mem_cons, List.not_mem_nil, or_false] at member
      split_ifs <;> omega

/-- The derived threshold is the right one exactly while the share is below the highest threshold
or its low 16 bits still read as a number that reaches it. -/
theorem budget_threshold_exact_iff (spent : 0 ≤ totalSpent) (limited : 0 < lifetimeLimit) :
    Reaches totalSpent lifetimeLimit (derivedThreshold totalSpent lifetimeLimit) ↔
      100 * totalSpent < 90 * lifetimeLimit ∨
        90 ≤ 100 * totalSpent / lifetimeLimit % 2 ^ 16 ∧
          100 * totalSpent / lifetimeLimit % 2 ^ 16 < 2 ^ 15 := by
  have below : 100 * totalSpent < 90 * lifetimeLimit ↔ 100 * totalSpent / lifetimeLimit < 90 :=
    (Int.ediv_lt_iff_lt_mul limited).symm
  have quotient : (totalSpent * 100).tdiv lifetimeLimit = 100 * totalSpent / lifetimeLimit := by
    rw [Int.tdiv_eq_ediv_of_nonneg (by omega), Int.mul_comm]
  have nonneg : 0 ≤ 100 * totalSpent / lifetimeLimit := Int.ediv_nonneg (by omega) limited.le
  rw [reaches_iff spent limited, derivedThreshold, quotient, below, thresholdFor_eq, thresholdFor_eq]
  generalize 100 * totalSpent / lifetimeLimit = pct at nonneg ⊢
  rw [Int.bmod_def]
  split_ifs <;> omega

theorem budget_threshold_exact_most :
    Reaches 75000000 100000000 (derivedThreshold 75000000 100000000) := by
  rw [budget_threshold_exact_iff (by decide) (by decide)]
  decide

/-- Five hundred units spent under a limit that was lowered to one are fifty thousand percent, which
16 bits read as a negative number. -/
theorem budget_threshold_wraps :
    ¬Reaches 500000000 1000000 (derivedThreshold 500000000 1000000) := by
  intro reaches
  have derived : derivedThreshold 500000000 1000000 = 0 := by decide
  have ninety := reaches.largest 90 (by decide) (by decide)
  rw [derived] at ninety
  exact absurd ninety (by decide)

end AgentFuel.Backend
