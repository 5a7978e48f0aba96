import AgentFuel.Reputation.State

/-!
# The reputation score

`compute` of `compute_score`: five bracketed components, added up and capped. Casts to a
narrower width keep the low bits, as in the source.
-/
namespace AgentFuel.Reputation

def volumeWeight : Nat := 250
def tenureWeight : Nat := 150
def feedbackWeight : Nat := 250
def maxScore : Nat := 1000
def neutralFeedbackBonus : Nat := 100
def diversityCap : Nat := 4
def diversityPerService : Nat := 50
def streakCap : Nat := 15
def streakPerSuccess : Nat := 10
def slotsPerDay : Nat := 216000

/-- `u32::saturating_mul` -/
def saturatingMul (a b : Nat) : Nat := min (a * b) (2 ^ 32 - 1)

/-- `u32::saturating_add` -/
def saturatingAdd (a b : Nat) : Nat := min (a + b) (2 ^ 32 - 1)

def volumePoints (totalTransactions : Nat) : Nat :=
  if totalTransactions = 0 then 0
  else if totalTransactions ≤ 9 then 50
  else if totalTransactions ≤ 99 then 125
  else volumeWeight

def diversityPoints (servicesUsed : Nat) : Nat :=
  saturatingMul diversityPerService (min servicesUsed diversityCap)

def streakPoints (consecutiveSuccess : Nat) : Nat :=
  saturatingMul streakPerSuccess (min consecutiveSuccess streakCap)

def tenurePoints (firstSlot currentSlot : Nat) : Nat :=
  let tenure := currentSlot - firstSlot
  if tenure < slotsPerDay then 0
  else if tenure < 7 * slotsPerDay then 50
  else if tenure < 30 * slotsPerDay then 100
  else tenureWeight

def feedbackPoints (total activeNegative : Nat) : Nat :=
  if total = 0 then neutralFeedbackBonus
  else
    let neg := min activeNegative total
    let penalty := (feedbackWeight * neg / total) % 2 ^ 32
    feedbackWeight - penalty

def compute {K : Type} (profile : AgentProfile K) (currentSlot : Nat) : Nat :=
  let v := volumePoints profile.totalTransactions
  let d := diversityPoints profile.servicesUsed
  let s := streakPoints profile.consecutiveSuccess
  let t := tenurePoints profile.firstActiveSlot currentSlot
  let f := feedbackPoints profile.totalFeedbackCount profile.activeNegativeFeedbackCount
  let raw := saturatingAdd (saturatingAdd (saturatingAdd (saturatingAdd v d) s) t) f
  min raw maxScore % 2 ^ 16

/-! ### Bounds -/

/-- A share of the weight is at most the weight. -/
theorem penalty_le {total negative : Nat} (some : total ≠ 0) : 250 * min negative total / total ≤ 250 := by
  have bounded : 250 * min negative total ≤ 250 * total := Nat.mul_le_mul_left _ (Nat.min_le_right _ _)
  calc 250 * min negative total / total
      ≤ 250 * total / total := Nat.div_le_div_right bounded
    _ = 250 := Nat.mul_div_cancel _ (Nat.pos_of_ne_zero some)

theorem volumePoints_le (n : Nat) : volumePoints n ≤ 250 := by
  unfold volumePoints volumeWeight
  split_ifs <;> omega

theorem diversityPoints_le (n : Nat) : diversityPoints n ≤ 200 := by
  unfold diversityPoints saturatingMul diversityPerService diversityCap
  omega

theorem streakPoints_le (n : Nat) : streakPoints n ≤ 150 := by
  unfold streakPoints saturatingMul streakPerSuccess streakCap
  omega

theorem tenurePoints_le (first current : Nat) : tenurePoints first current ≤ 150 := by
  unfold tenurePoints tenureWeight
  dsimp only
  split_ifs <;> omega

theorem feedbackPoints_le (total negative : Nat) : feedbackPoints total negative ≤ 250 := by
  unfold feedbackPoints neutralFeedbackBonus feedbackWeight
  dsimp only
  split_ifs <;> omega

/-- The sum of the five components is what the program computes; none of its additions saturates. -/
theorem compute_eq_sum {K : Type} (profile : AgentProfile K) (slot : Nat) :
    compute profile slot = volumePoints profile.totalTransactions +
      diversityPoints profile.servicesUsed + streakPoints profile.consecutiveSuccess +
      tenurePoints profile.firstActiveSlot slot +
      feedbackPoints profile.totalFeedbackCount profile.activeNegativeFeedbackCount := by
  have volume := volumePoints_le profile.totalTransactions
  have diversity := diversityPoints_le profile.servicesUsed
  have streak := streakPoints_le profile.consecutiveSuccess
  have tenure := tenurePoints_le profile.firstActiveSlot slot
  have feedback := feedbackPoints_le profile.totalFeedbackCount profile.activeNegativeFeedbackCount
  unfold compute saturatingAdd maxScore
  dsimp only
  omega

/-- The scale of the scores. -/
theorem compute_le {K : Type} (profile : AgentProfile K) (slot : Nat) :
    compute profile slot ≤ maxScore :=
  (Nat.mod_le _ _).trans (min_le_right _ _)

end AgentFuel.Reputation
