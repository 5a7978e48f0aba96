import AgentFuel.Library.Numbers
import AgentFuel.Reputation.Score

/-!
# The score breakdown of the mobile client

`ReputationFactors` derives the components of the score once more from the counters of an agent,
and `Agent` has a second copy of them without the tenure, for agents that have no score yet.
Integers of the client are words of 64 bits.
-/
namespace AgentFuel.Clients

open Numbers

/-- The counters of `Agent` that a score is made of. -/
structure Agent where
  totalTransactions : Int
  servicesUsed : Int
  consecutiveSuccess : Int
  totalFeedbackCount : Int
  activeNegativeFeedbackCount : Int
  initSlot : Int

structure ReputationFactors where
  volume : Int
  diversity : Int
  streak : Int
  tenure : Int
  feedback : Int
  total : Int

namespace ReputationFactors

def maxVolume : Int := 250
def maxDiversity : Int := 200
def maxStreak : Int := 150
def maxTenure : Int := 150
def maxFeedback : Int := 250
def maxTotal : Int := 1000
def diversityCap : Int := 4
def diversityPerService : Int := 50
def streakCap : Int := 15
def streakPerSuccess : Int := 10
def slotsPerDay : Int := 216000
def neutralFeedbackBonus : Int := 100

def volumePoints (totalTransactions : Int) : Int :=
  if totalTransactions = 0 then 0
  else if totalTransactions ≤ 9 then 50
  else if totalTransactions ≤ 99 then 125
  else maxVolume

def diversityPoints (servicesUsed : Int) : Int :=
  int64 (diversityPerService * clamp 0 diversityCap servicesUsed)

def streakPoints (consecutiveSuccess : Int) : Int :=
  int64 (streakPerSuccess * clamp 0 streakCap consecutiveSuccess)

def tenurePoints (firstActiveSlot currentSlot : Int) : Int :=
  let age := clamp 0 (2 ^ 62) (int64 (currentSlot - firstActiveSlot))
  if age < slotsPerDay then 0
  else if age < int64 (7 * slotsPerDay) then 50
  else if age < int64 (30 * slotsPerDay) then 100
  else maxTenure

def feedbackPoints (total activeNegative : Int) : Int :=
  if total = 0 then neutralFeedbackBonus
  else
    let neg := clamp 0 total activeNegative
    let penalty := (int64 (maxFeedback * neg)).tdiv total
    clamp 0 maxFeedback (int64 (maxFeedback - penalty))

def forAgent (a : Agent) (currentSlot : Int) : ReputationFactors :=
  let v := volumePoints a.totalTransactions
  let d := diversityPoints a.servicesUsed
  let s := streakPoints a.consecutiveSuccess
  let t := tenurePoints a.initSlot currentSlot
  let f := feedbackPoints a.totalFeedbackCount a.activeNegativeFeedbackCount
  let raw := clamp 0 maxTotal (int64 (int64 (int64 (int64 (v + d) + s) + t) + f))
  { volume := v, diversity := d, streak := s, tenure := t, feedback := f, total := raw }

end ReputationFactors

/-- `Agent._approxScoreNoTenure` -/
def Agent.approxScoreNoTenure (a : Agent) : Int :=
  let volume :=
    if a.totalTransactions = 0 then 0
    else if a.totalTransactions ≤ 9 then 50
    else if a.totalTransactions ≤ 99 then 125
    else 250
  let diversity := int64 (50 * clamp 0 4 a.servicesUsed)
  let streak := int64 (10 * clamp 0 15 a.consecutiveSuccess)
  let feedback :=
    if a.totalFeedbackCount = 0 then 100
    else
      let neg := clamp 0 a.totalFeedbackCount a.activeNegativeFeedbackCount
      clamp 0 250 (int64 (250 - (int64 (250 * neg)).tdiv a.totalFeedbackCount))
  clamp 0 1000 (int64 (int64 (int64 (volume + diversity) + streak) + feedback))

/-! ### Components -/

section Components

open ReputationFactors

theorem volumePoints_eq (n : Nat) : volumePoints n = (Reputation.volumePoints n : Nat) := by
  unfold volumePoints Reputation.volumePoints maxVolume Reputation.volumeWeight
  split_ifs <;> omega

theorem diversityPoints_eq (n : Nat) : diversityPoints n = (Reputation.diversityPoints n : Nat) := by
  have capped : clamp 0 4 (n : Int) = (min n 4 : Nat) := by
    rw [clamp_eq (by omega)]
    omega
  unfold diversityPoints Reputation.diversityPoints Reputation.saturatingMul diversityPerService
    diversityCap Reputation.diversityPerService Reputation.diversityCap
  rw [capped, int64_eq (by omega) (by omega)]
  omega

theorem streakPoints_eq (n : Nat) : streakPoints n = (Reputation.streakPoints n : Nat) := by
  have capped : clamp 0 15 (n : Int) = (min n 15 : Nat) := by
    rw [clamp_eq (by omega)]
    omega
  unfold streakPoints Reputation.streakPoints Reputation.saturatingMul streakPerSuccess streakCap
    Reputation.streakPerSuccess Reputation.streakCap
  rw [capped, int64_eq (by omega) (by omega)]
  omega

/-- A bound of 2 ^ 62 slots is above every bracket. -/
theorem tenurePoints_eq {first current : Nat} (early : first < 2 ^ 63) (late : current < 2 ^ 63) :
    tenurePoints first current = (Reputation.tenurePoints first current : Nat) := by
  unfold tenurePoints Reputation.tenurePoints
  dsimp only
  rw [int64_eq (by omega) (by omega), clamp_eq (by omega)]
  have week : int64 (7 * slotsPerDay) = 7 * 216000 := int64_eq (by decide) (by decide)
  have month : int64 (30 * slotsPerDay) = 30 * 216000 := int64_eq (by decide) (by decide)
  rw [week, month]
  unfold slotsPerDay maxTenure Reputation.slotsPerDay Reputation.tenureWeight
  split_ifs <;> omega

theorem feedbackPoints_eq {total negative : Nat} (word : total < 2 ^ 32) :
    feedbackPoints total negative = (Reputation.feedbackPoints total negative : Nat) := by
  unfold feedbackPoints Reputation.feedbackPoints
  by_cases none : total = 0
  · subst none
    rfl
  · rw [if_neg (by exact_mod_cast none), if_neg none]
    have share : clamp 0 (total : Int) negative = (min negative total : Nat) := by
      rw [clamp_eq (by omega)]
      omega
    have weight : 250 * min negative total / total ≤ 250 := Reputation.penalty_le none
    unfold maxFeedback Reputation.feedbackWeight
    dsimp only
    have product : int64 (250 * ((min negative total : Nat) : Int)) =
        250 * ((min negative total : Nat) : Int) := int64_eq (by omega) (by omega)
    have quotient : (250 * ((min negative total : Nat) : Int)).tdiv total =
        ((250 * min negative total / total : Nat) : Int) := by
      rw [Int.tdiv_eq_ediv_of_nonneg (by omega), Int.natCast_ediv, Nat.cast_mul]
      rfl
    rw [share, product, quotient]
    generalize 250 * min negative total / total = penalty at weight ⊢
    rw [Nat.mod_eq_of_lt (by omega), int64_eq (by omega) (by omega), clamp_eq (by omega)]
    omega

end Components

/-! ### The breakdown -/

/-- The client holds the counters of the account. -/
structure Agent.Carries {K : Type} (a : Agent) (profile : Reputation.AgentProfile K) : Prop where
  totalTransactions : a.totalTransactions = profile.totalTransactions
  servicesUsed : a.servicesUsed = profile.servicesUsed
  consecutiveSuccess : a.consecutiveSuccess = profile.consecutiveSuccess
  totalFeedbackCount : a.totalFeedbackCount = profile.totalFeedbackCount
  activeNegativeFeedbackCount : a.activeNegativeFeedbackCount = profile.activeNegativeFeedbackCount
  initSlot : a.initSlot = profile.firstActiveSlot

/-- The counters of an account are within the widths of their fields. -/
structure CounterWidths {K : Type} (profile : Reputation.AgentProfile K) : Prop where
  totalTransactions : profile.totalTransactions < 2 ^ 64
  servicesUsed : profile.servicesUsed < 2 ^ 16
  consecutiveSuccess : profile.consecutiveSuccess < 2 ^ 32
  totalFeedbackCount : profile.totalFeedbackCount < 2 ^ 32
  activeNegativeFeedbackCount : profile.activeNegativeFeedbackCount < 2 ^ 32
  firstActiveSlot : profile.firstActiveSlot < 2 ^ 64

open ReputationFactors in
/-- The breakdown of the mobile client is the score of the program, within the declared bounds, and
the approximation leaves out the tenure and nothing else. -/
theorem breakdown_eq_score {K : Type} (profile : Reputation.AgentProfile K) (a : Agent) (slot : Nat)
    (carries : a.Carries profile) (widths : CounterWidths profile)
    (early : profile.firstActiveSlot < 2 ^ 63) (late : slot < 2 ^ 63) :
    let factors := forAgent a slot
    factors.total = Reputation.compute profile slot ∧
      (0 ≤ factors.volume ∧ factors.volume ≤ maxVolume) ∧
      (0 ≤ factors.diversity ∧ factors.diversity ≤ maxDiversity) ∧
      (0 ≤ factors.streak ∧ factors.streak ≤ maxStreak) ∧
      (0 ≤ factors.tenure ∧ factors.tenure ≤ maxTenure) ∧
      (0 ≤ factors.feedback ∧ factors.feedback ≤ maxFeedback) ∧
      factors.volume + factors.diversity + factors.streak + factors.tenure + factors.feedback =
        factors.total ∧
      a.approxScoreNoTenure = factors.total - factors.tenure := by
  have volume := Reputation.volumePoints_le profile.totalTransactions
  have diversity := Reputation.diversityPoints_le profile.servicesUsed
  have streak := Reputation.streakPoints_le profile.consecutiveSuccess
  have tenure := Reputation.tenurePoints_le profile.firstActiveSlot slot
  have feedback := Reputation.feedbackPoints_le profile.totalFeedbackCount profile.activeNegativeFeedbackCount
  have approximation : a.approxScoreNoTenure = clamp 0 maxTotal (int64 (int64 (int64
      (volumePoints a.totalTransactions + diversityPoints a.servicesUsed) +
        streakPoints a.consecutiveSuccess) +
          feedbackPoints a.totalFeedbackCount a.activeNegativeFeedbackCount)) := rfl
  rw [approximation, Reputation.compute_eq_sum]
  unfold forAgent
  dsimp only
  rw [carries.totalTransactions, carries.servicesUsed, carries.consecutiveSuccess,
    carries.totalFeedbackCount, carries.activeNegativeFeedbackCount, carries.initSlot,
    volumePoints_eq, diversityPoints_eq, streakPoints_eq, tenurePoints_eq early late,
    feedbackPoints_eq widths.totalFeedbackCount]
  unfold maxVolume maxDiversity maxStreak maxTenure maxFeedback maxTotal
  -- The components are bounded, so no sum of them wraps.
  have sum : ∀ m n : Nat, m + n < 2 ^ 63 → int64 ((m : Int) + n) = ((m + n : Nat) : Int) :=
    fun m n small => (int64_eq (by omega) (by omega)).trans (Nat.cast_add m n).symm
  rw [sum _ _ (by omega), sum _ _ (by omega), sum _ _ (by omega), sum _ _ (by omega),
    sum _ _ (by omega), clamp_eq (by omega), clamp_eq (by omega)]
  refine ⟨?_, ?_, ?_, ?_, ?_, ?_, ?_, ?_⟩ <;> omega

/-- An agent with a few payments, one of them answered by a complaint. -/
def sampleProfile : Reputation.AgentProfile Nat where
  authority := 1
  owner := 2
  agentUri := Vector.replicate 128 0
  externalAgentId := 0
  totalTransactions := 12
  servicesUsed := 3
  consecutiveSuccess := 2
  totalFeedbackCount := 7
  activeNegativeFeedbackCount := 2
  firstActiveSlot := 1000
  lastActiveSlot := 2000
  bump := 255

theorem breakdown_eq_score_sample :
    let factors := ReputationFactors.forAgent ⟨12, 3, 2, 7, 2, 1000⟩ 2000000
    factors.total = 574 ∧ factors.total = Reputation.compute sampleProfile 2000000 := by
  have equal := breakdown_eq_score sampleProfile ⟨12, 3, 2, 7, 2, 1000⟩ 2000000
    ⟨rfl, rfl, rfl, rfl, rfl, rfl⟩
    ⟨by decide, by decide, by decide, by decide, by decide, by decide⟩ (by decide) (by decide)
  exact ⟨by decide +kernel, equal.1⟩

end AgentFuel.Clients
