import AgentFuel.Reputation.FeedbackCounts
import Mathlib.Order.Monotone.Basic

/-!
# How instructions move the score

Every component of the score is monotone in its counter, and the feedback component in both of
its counters as long as no more complaints stand than feedback was given. So the score follows
from what one step does to the counters of one profile.
-/
namespace AgentFuel.Reputation

open Checked Solana

/-! ### Components -/

theorem volumePoints_mono : Monotone volumePoints := by
  intro n m less
  unfold volumePoints volumeWeight
  split_ifs <;> omega

theorem diversityPoints_mono : Monotone diversityPoints := by
  intro n m less
  unfold diversityPoints saturatingMul
  gcongr

theorem streakPoints_mono : Monotone streakPoints := by
  intro n m less
  unfold streakPoints saturatingMul
  gcongr

theorem tenurePoints_mono (first : Nat) : Monotone (tenurePoints first) := by
  intro n m less
  unfold tenurePoints tenureWeight
  dsimp only
  split_ifs <;> omega

/-- The share of the weight that standing complaints cost. -/
theorem feedbackPoints_eq_sub {total negative : Nat} (some : total ≠ 0) (within : negative ≤ total) :
    feedbackPoints total negative = 250 - 250 * negative / total := by
  have share : 250 * min negative total / total ≤ 250 := penalty_le some
  rw [min_eq_left within] at share
  rw [feedbackPoints, if_neg some]
  dsimp only
  rw [min_eq_left within, feedbackWeight, Nat.mod_eq_of_lt (by omega)]

/-- Feedback that is not a complaint. -/
theorem feedbackPoints_praised {total negative : Nat} (within : negative ≤ total) :
    feedbackPoints total negative ≤ feedbackPoints (total + 1) negative := by
  by_cases none : total = 0
  · -- The first feedback replaces the neutral bonus.
    obtain rfl : negative = 0 := by omega
    subst none
    decide
  · rw [feedbackPoints_eq_sub none within, feedbackPoints_eq_sub (by omega) (by omega)]
    have share : 250 * negative / (total + 1) ≤ 250 * negative / total :=
      Nat.div_le_div_left (Nat.le_succ total) (Nat.pos_of_ne_zero none)
    exact Nat.sub_le_sub_left share 250

theorem feedbackPoints_blamed {total negative : Nat} (within : negative ≤ total) :
    feedbackPoints (total + 1) (negative + 1) ≤ feedbackPoints total negative := by
  by_cases none : total = 0
  · obtain rfl : negative = 0 := by omega
    subst none
    decide
  · rw [feedbackPoints_eq_sub none within, feedbackPoints_eq_sub (by omega) (by omega)]
    apply Nat.sub_le_sub_left
    -- A quotient of at most 250 survives one more complaint among one more feedback.
    rw [Nat.le_div_iff_mul_le (Nat.succ_pos total)]
    have cost : 250 * negative / total ≤ 250 := by
      have share : 250 * min negative total / total ≤ 250 := penalty_le none
      rwa [min_eq_left within] at share
    calc 250 * negative / total * (total + 1)
        = 250 * negative / total * total + 250 * negative / total := by ring
      _ ≤ 250 * negative + 250 := Nat.add_le_add (Nat.div_mul_le_self _ _) cost
      _ = 250 * (negative + 1) := by ring

theorem feedbackPoints_lifted {total negative fewer : Nat} (less : fewer ≤ negative) (within : negative ≤ total) :
    feedbackPoints total negative ≤ feedbackPoints total fewer := by
  by_cases none : total = 0
  · rw [feedbackPoints, feedbackPoints, if_pos none, if_pos none]
  · rw [feedbackPoints_eq_sub none within, feedbackPoints_eq_sub none (less.trans within)]
    exact Nat.sub_le_sub_left (Nat.div_le_div_right (Nat.mul_le_mul_left _ less)) 250

variable {K : Type} {profile later : AgentProfile K}

/-- A score with no component lower than before. -/
theorem compute_le_compute {slot slot' : Nat}
    (transactions : profile.totalTransactions ≤ later.totalTransactions)
    (services : profile.servicesUsed ≤ later.servicesUsed)
    (streak : profile.consecutiveSuccess ≤ later.consecutiveSuccess)
    (first : later.firstActiveSlot = profile.firstActiveSlot) (time : slot ≤ slot')
    (feedback : feedbackPoints profile.totalFeedbackCount profile.activeNegativeFeedbackCount ≤
      feedbackPoints later.totalFeedbackCount later.activeNegativeFeedbackCount) :
    compute profile slot ≤ compute later slot' := by
  rw [compute_eq_sum, compute_eq_sum, first]
  have volume := volumePoints_mono transactions
  have diversity := diversityPoints_mono services
  have success := streakPoints_mono streak
  have tenure := tenurePoints_mono profile.firstActiveSlot time
  omega

/-! ### The score in checked arithmetic -/

/-- Multiplication of two unsigned integers of the given width, absent on overflow. -/
def checkedMul (bits a b : Nat) : Option Nat := if a * b < 2 ^ bits then some (a * b) else none

/-- Division, absent for a divisor of zero. -/
def checkedDiv (a b : Nat) : Option Nat := if b = 0 then none else some (a / b)

/-- A cast to the given width, absent when bits would be lost. -/
def narrowTo (bits n : Nat) : Option Nat := if n < 2 ^ bits then some n else none

def checkedFeedbackPoints (total activeNegative : Nat) : Option Nat :=
  if total = 0 then some neutralFeedbackBonus
  else do
    let product ← checkedMul 64 feedbackWeight (min activeNegative total)
    let quotient ← checkedDiv product total
    let penalty ← narrowTo 32 quotient
    checkedSub feedbackWeight penalty

/-- `compute` with every operation of the source absent where it would saturate, overflow, lose
bits or divide by zero. -/
def checkedCompute (profile : AgentProfile K) (currentSlot : Nat) : Option Nat := do
  let v := volumePoints profile.totalTransactions
  let d ← checkedMul 32 diversityPerService (min profile.servicesUsed diversityCap)
  let s ← checkedMul 32 streakPerSuccess (min profile.consecutiveSuccess streakCap)
  let t := tenurePoints profile.firstActiveSlot currentSlot
  let f ← checkedFeedbackPoints profile.totalFeedbackCount profile.activeNegativeFeedbackCount
  let vd ← checkedAdd 32 v d
  let vds ← checkedAdd 32 vd s
  let vdst ← checkedAdd 32 vds t
  let raw ← checkedAdd 32 vdst f
  narrowTo 16 (min raw maxScore)

section Checked

variable {bits a b : Nat}

theorem checkedMul_eq (fits : a * b < 2 ^ bits) : checkedMul bits a b = some (a * b) := if_pos fits

theorem checkedDiv_eq (nonzero : b ≠ 0) : checkedDiv a b = some (a / b) := if_neg nonzero

theorem narrowTo_eq (fits : a < 2 ^ bits) : narrowTo bits a = some a := if_pos fits

theorem checkedFeedbackPoints_eq {total negative : Nat} (word : total < 2 ^ 32) :
    checkedFeedbackPoints total negative = some (feedbackPoints total negative) := by
  unfold checkedFeedbackPoints feedbackPoints
  by_cases none : total = 0
  · rw [if_pos none, if_pos none]
  · rw [if_neg none, if_neg none]
    have share : feedbackWeight * min negative total / total ≤ feedbackWeight := penalty_le none
    have product : feedbackWeight * min negative total < 2 ^ 64 := by
      unfold feedbackWeight
      omega
    have quotient : feedbackWeight * min negative total / total < 2 ^ 32 :=
      share.trans_lt (by decide)
    rw [checkedMul_eq product, Option.bind_eq_bind, Option.bind_some, checkedDiv_eq none,
      Option.bind_some, narrowTo_eq quotient, Option.bind_some, checkedSub_eq_some]
    refine ⟨share, ?_⟩
    dsimp only
    rw [Nat.mod_eq_of_lt quotient]

/-- Nothing saturates, overflows or loses bits, and there is no division by zero. -/
theorem checkedCompute_eq (word : profile.totalFeedbackCount < 2 ^ 32) (slot : Nat) :
    checkedCompute profile slot = some (compute profile slot) := by
  have volume := volumePoints_le profile.totalTransactions
  have tenure := tenurePoints_le profile.firstActiveSlot slot
  have feedback := feedbackPoints_le profile.totalFeedbackCount profile.activeNegativeFeedbackCount
  have diversity : diversityPerService * min profile.servicesUsed diversityCap =
      diversityPoints profile.servicesUsed := by
    unfold diversityPoints saturatingMul diversityPerService diversityCap
    omega
  have streak : streakPerSuccess * min profile.consecutiveSuccess streakCap =
      streakPoints profile.consecutiveSuccess := by
    unfold streakPoints saturatingMul streakPerSuccess streakCap
    omega
  have services := diversityPoints_le profile.servicesUsed
  have successes := streakPoints_le profile.consecutiveSuccess
  unfold checkedCompute
  simp only [Option.bind_eq_bind, checkedFeedbackPoints_eq word, Option.bind_some,
    Option.bind_eq_some_iff, checkedAdd_eq_some]
  -- Each partial sum is at most the sum of the bounds.
  refine ⟨_, checkedMul_eq (by omega), _, checkedMul_eq (by omega), _, ⟨?_, rfl⟩, _, ⟨?_, rfl⟩, _,
    ⟨?_, rfl⟩, _, ⟨?_, rfl⟩, ?_⟩
  · omega
  · omega
  · omega
  · omega
  · rw [compute_eq_sum, diversity, streak, min_eq_left (by unfold maxScore; omega)]
    exact narrowTo_eq (by omega)

end Checked

/-! ### The counters of one profile -/

def AgentProfile.counters (profile : AgentProfile K) : Nat × Nat × Nat × Nat × Nat × Nat :=
  (profile.totalTransactions, profile.servicesUsed, profile.consecutiveSuccess,
    profile.totalFeedbackCount, profile.activeNegativeFeedbackCount, profile.firstActiveSlot)

variable [DecidableEq K] [AddressSpace K] {w w' w₀ : World K} {act : Action K} {key : K}

/-- The value of the feedback that a call gives the agent. -/
def Action.feedback (act : Action K) (agent : K) : Option Int :=
  match act with
  | .program (.giveFeedback ctx _ value _ _ _) => if ctx.agentProfile = agent then some value else none
  | _ => none

/-- What a step does to the profile at one address. -/
inductive ProfileCase (w : World K) (act : Action K) (key : K) (w' : World K) : Prop
  | absent (before : w.agents key = none) (still : w'.agents key = none)
  | created (later : AgentProfile K) (absent : w.agents key = none)
    (written : w'.agents key = some later) (unrated : later.totalFeedbackCount = 0)
  | touched (profile later : AgentProfile K) (silent : act.feedback key = none)
    (held : w.agents key = some profile) (written : w'.agents key = some later)
    (same : later.counters = profile.counters)
  | paid (profile : AgentProfile K) (amount : Nat) (new : Bool) (silent : act.feedback key = none)
    (held : w.agents key = some profile)
    (written : w'.agents key = some (profile.paid amount w.slot new))
  | rated (profile : AgentProfile K) (value : Int) (called : act.feedback key = some value)
    (held : w.agents key = some profile) (room : profile.totalFeedbackCount + 1 < 2 ^ 32)
    (written : w'.agents key = some (profile.rated value w.slot))
  | revoked (profile : AgentProfile K) (lifted : Nat) (silent : act.feedback key = none)
    (held : w.agents key = some profile)
    (written : w'.agents key = some { profile with
      activeNegativeFeedbackCount := profile.activeNegativeFeedbackCount - lifted
      lastActiveSlot := w.slot })

/-- Steps that leave an address alone. -/
theorem ProfileCase.kept (silent : act.feedback key = none) (same : w'.agents key = w.agents key) :
    ProfileCase w act key w' := by
  cases held : w.agents key with
  | none => exact .absent held (same.trans held)
  | some profile => exact .touched profile profile silent held (same.trans held) rfl

theorem step_profile (wf : WellFormed w) (fired : step w act = .ok w') (key : K) :
    ProfileCase w act key w' := by
  cases step_cases wf fired with
  | advance slots => exact .kept rfl rfl
  | registerService => exact .kept rfl rfl
  | setServiceActive => exact .kept rfl rfl
  | @initializeAgent ctx agentUri externalAgentId _ absent =>
    -- The profile that is loaded is the one that changes; all others stay.
    by_cases here : key = ctx.agentProfile
    · subst here
      exact .created _ absent (Function.update_self ..) rfl
    · exact .kept rfl (Function.update_of_ne here ..)
  | @recordPayment ctx amount hash profile registry accepts =>
    by_cases here : key = ctx.agentProfile
    · subst here
      exact .paid profile amount (ctx.isNewPair w) rfl accepts.agentHeld (Function.update_self ..)
    · exact .kept rfl (Function.update_of_ne here ..)
  | @giveFeedback ctx hash value tags evidenceUri evidenceHash profile registry link receipt accepts =>
    by_cases here : key = ctx.agentProfile
    · subst here
      exact .rated profile value (if_pos rfl) accepts.agentHeld accepts.room (Function.update_self ..)
    · exact .kept (if_neg (Ne.symm here)) (Function.update_of_ne here ..)
  | @appendResponse ctx hash responseUri responseHash profile feedback accepts =>
    by_cases here : key = ctx.agentProfile
    · subst here
      exact .touched profile _ rfl accepts.agentHeld (Function.update_self ..) rfl
    · exact .kept rfl (Function.update_of_ne here ..)
  | @revokeFeedback ctx hash profile registry feedback accepts =>
    by_cases here : key = ctx.agentProfile
    · subst here
      exact .revoked profile _ rfl accepts.agentHeld (Function.update_self ..)
    · exact .kept rfl (Function.update_of_ne here ..)
  | @computeScore ctx profile held =>
    by_cases here : key = ctx.agentProfile
    · subst here
      exact .touched profile _ rfl held (Function.update_self ..) rfl
    · exact .kept rfl (Function.update_of_ne here ..)

/-- The feedback counter of every profile fits its field. -/
theorem Reachable.feedback_word (reachable : Reachable w) {profile : AgentProfile K}
    (held : w.agents key = some profile) : profile.totalFeedbackCount < 2 ^ 32 := by
  obtain ⟨w₀, log, genesis, run⟩ := reachable
  -- By induction on the run: only a rating moves the counter, and it checks for room.
  induction run generalizing profile with
  | nil =>
    rw [(genesis.vacant key).1] at held
    cases held
  | @snoc log w act w' run fired ih =>
    have wf : WellFormed w := Run.wellFormed run genesis.wellFormed
    cases step_profile wf fired key with
    | absent _ still => rw [still] at held; cases held
    | created later _ written unrated =>
      obtain rfl := Option.some.inj (written.symm.trans held)
      rw [unrated]
      decide
    | touched before later _ was written same =>
      obtain rfl := Option.some.inj (written.symm.trans held)
      have total : later.totalFeedbackCount = before.totalFeedbackCount :=
        congrArg (fun c => c.2.2.2.1) same
      rw [total]
      exact ih was
    | paid before _ _ _ was written =>
      obtain rfl := Option.some.inj (written.symm.trans held)
      have fits : before.totalFeedbackCount < 2 ^ 32 := ih was
      exact fits
    | rated before _ _ _ room written =>
      obtain rfl := Option.some.inj (written.symm.trans held)
      exact room
    | revoked before _ _ was written =>
      obtain rfl := Option.some.inj (written.symm.trans held)
      have fits : before.totalFeedbackCount < 2 ^ 32 := ih was
      exact fits

omit [DecidableEq K] [AddressSpace K] in
theorem compute_congr {profile later : AgentProfile K} (same : later.counters = profile.counters)
    (slot : Nat) : compute later slot = compute profile slot := by
  simp only [AgentProfile.counters, Prod.mk.injEq] at same
  obtain ⟨transactions, services, streak, total, negative, first⟩ := same
  rw [compute_eq_sum, compute_eq_sum, transactions, services, streak, total, negative, first]

/-- A call that complains about the agent. -/
def Action.Complains (act : Action K) (agent : K) : Prop := ∃ value, act.feedback agent = some value ∧ value < 0

/-- Which way a step moves the score of a profile at any slot. -/
theorem step_score {profile : AgentProfile K} (wf : WellFormed w) (fired : step w act = .ok w')
    (held : w.agents key = some profile)
    (within : profile.activeNegativeFeedbackCount ≤ profile.totalFeedbackCount) :
    ∃ later, w'.agents key = some later ∧ ∀ slot,
      (act.Complains key → compute later slot ≤ compute profile slot) ∧
      (¬act.Complains key → compute profile slot ≤ compute later slot) := by
  have calm : act.feedback key = none → ¬act.Complains key := by
    rintro silent ⟨value, called, -⟩
    rw [silent] at called
    cases called
  cases step_profile wf fired key with
  | absent before _ => rw [before] at held; cases held
  | created _ before _ _ => rw [before] at held; cases held
  | touched profile later silent before written same =>
    obtain rfl := Option.some.inj (before.symm.trans held)
    refine ⟨later, written, fun slot => ⟨fun complains => absurd complains (calm silent), fun _ => ?_⟩⟩
    exact (compute_congr same slot).ge
  | paid profile amount new silent before written =>
    obtain rfl := Option.some.inj (before.symm.trans held)
    refine ⟨_, written, fun slot => ⟨fun complains => absurd complains (calm silent), fun _ => ?_⟩⟩
    apply compute_le_compute
    · exact Nat.le_succ _
    · exact Nat.le_add_right _ _
    · exact Nat.le_succ _
    · rfl
    · exact le_rfl
    · exact le_rfl
  | rated profile value called before _ written =>
    obtain rfl := Option.some.inj (before.symm.trans held)
    refine ⟨_, written, fun slot => ⟨?_, ?_⟩⟩
    · rintro ⟨_, again, negative⟩
      obtain rfl := Option.some.inj (called.symm.trans again)
      -- The streak ends and the share of complaints does not fall.
      have rated : profile.rated value w.slot = { profile with
          totalFeedbackCount := profile.totalFeedbackCount + 1
          activeNegativeFeedbackCount := profile.activeNegativeFeedbackCount + 1
          consecutiveSuccess := 0
          lastActiveSlot := w.slot } := by
        simp [AgentProfile.rated, negative]
      rw [rated]
      apply compute_le_compute
      · exact le_rfl
      · exact le_rfl
      · exact Nat.zero_le _
      · rfl
      · exact le_rfl
      · exact feedbackPoints_blamed within
    · intro calm
      have praise : ¬value < 0 := fun negative => calm ⟨value, called, negative⟩
      have rated : profile.rated value w.slot = { profile with
          totalFeedbackCount := profile.totalFeedbackCount + 1
          lastActiveSlot := w.slot } := by
        simp [AgentProfile.rated, praise]
      rw [rated]
      apply compute_le_compute
      · exact le_rfl
      · exact le_rfl
      · exact le_rfl
      · rfl
      · exact le_rfl
      · exact feedbackPoints_praised within
  | revoked profile lifted silent before written =>
    obtain rfl := Option.some.inj (before.symm.trans held)
    refine ⟨_, written, fun slot => ⟨fun complains => absurd complains (calm silent), fun _ => ?_⟩⟩
    apply compute_le_compute
    · exact le_rfl
    · exact le_rfl
    · exact le_rfl
    · rfl
    · exact le_rfl
    · exact feedbackPoints_lifted (Nat.sub_le _ _) within

theorem Reachable.within (reachable : Reachable w) {profile : AgentProfile K}
    (held : w.agents key = some profile) :
    profile.activeNegativeFeedbackCount ≤ profile.totalFeedbackCount :=
  (reachable.books.1.countsFeedback held).bounded

/-- The score of every profile is exact and on the scale, grows with time, and is moved by a step
of the program in one direction: down by a complaint and up by everything else. -/
theorem score_moves (reachable : Reachable w) {profile : AgentProfile K}
    (held : w.agents key = some profile) :
    (∀ slot, checkedCompute profile slot = some (compute profile slot) ∧
      compute profile slot ≤ maxScore) ∧
    (∀ slot slot', slot ≤ slot' → compute profile slot ≤ compute profile slot') ∧
    ∀ act w', step w act = .ok w' → ∃ later, w'.agents key = some later ∧ ∀ slot,
      (act.Complains key → compute later slot ≤ compute profile slot) ∧
      (¬act.Complains key → compute profile slot ≤ compute later slot) := by
  refine ⟨?_, ?_, ?_⟩
  · intro slot
    exact ⟨checkedCompute_eq (reachable.feedback_word held) slot, compute_le profile slot⟩
  · intro slot slot' time
    exact compute_le_compute le_rfl le_rfl le_rfl rfl time le_rfl
  · intro act w' fired
    exact step_score reachable.wellFormed fired held (reachable.within held)

theorem score_moves_bazaar :
    ∃ before later, (Bazaar.after [Bazaar.pay Bazaar.service 5 0]).agents Bazaar.account = some before ∧
      (Bazaar.after Bazaar.complaint).agents Bazaar.account = some later ∧
      compute later 0 ≤ compute before 0 := by
  have reachable : Reachable (Bazaar.after [Bazaar.pay Bazaar.service 5 0]) :=
    ⟨Bazaar.empty, _, Bazaar.genesis, Bazaar.run_logged _⟩
  have present : (Bazaar.after [Bazaar.pay Bazaar.service 5 0]).agents Bazaar.account ≠ none := by
    decide
  obtain ⟨before, held⟩ := Option.ne_none_iff_exists'.mp present
  obtain ⟨-, -, moves⟩ := score_moves reachable held
  obtain ⟨later, written, direction⟩ := moves (Bazaar.rate Bazaar.service (-40) 0) _
    (Transition.settle_eq_ok (by decide))
  have complains : (Bazaar.rate Bazaar.service (-40) 0).Complains Bazaar.account :=
    ⟨-40, by decide, by decide⟩
  exact ⟨before, later, held, written, (direction 0).1 complains⟩

/-! ### Complaints that are withdrawn -/

/-- A complaint about the agent is filed and, with only the clock moving in between, revoked. -/
structure Withdraws (agent : K) (w w' : World K) : Prop where
  steps : ∃ (ctx : GiveFeedback K) (hash : Hash) (value : Int) (tags : Nat) (evidenceUri : Bytes 128)
    (evidenceHash : Hash) (revocation : RevokeFeedback K) (w₁ w₂ : World K) (log : List (Step K)),
    ctx.agentProfile = agent ∧ value < 0 ∧
      step w (.program (.giveFeedback ctx hash value tags evidenceUri evidenceHash)) = .ok w₁ ∧
      Run w₁ log w₂ ∧ (∀ e ∈ log, ∃ slots, e.act = .advance slots) ∧
      step w₂ (.program (.revokeFeedback revocation hash)) = .ok w'

/-- While only the clock moves the accounts stay. -/
theorem Run.idle {log : List (Step K)} (run : Run w log w')
    (idle : ∀ e ∈ log, ∃ slots, e.act = .advance slots) :
    w'.agents = w.agents ∧ w'.feedbacks = w.feedbacks := by
  refine Transition.Run.preserves (I := fun u => u.agents = w.agents ∧ u.feedbacks = w.feedbacks) ?_
    run idle ⟨rfl, rfl⟩
  rintro e ⟨slots, waits⟩ fired kept
  rw [waits] at fired
  rw [← Except.ok.inj fired]
  exact kept

/-- What a withdrawn complaint leaves of a profile. -/
def AgentProfile.withdrawn (profile : AgentProfile K) (slot : Nat) : AgentProfile K :=
  { profile with
    totalFeedbackCount := profile.totalFeedbackCount + 1
    consecutiveSuccess := 0
    lastActiveSlot := slot }

theorem Withdraws.leaves {profile : AgentProfile K} (withdraws : Withdraws key w w')
    (wf : WellFormed w) (held : w.agents key = some profile) :
    ∃ slot, w'.agents key = some (profile.withdrawn slot) := by
  obtain ⟨ctx, hash, value, tags, evidenceUri, evidenceHash, revocation, w₁, w₂, log, rfl, negative,
    files, run, idle, revokes⟩ := withdraws.steps
  have wf₂ : WellFormed w₂ := Run.wellFormed run (step_wellFormed wf files)
  obtain ⟨agents, feedbacks⟩ := run.idle idle
  cases step_cases wf files with
  | @giveFeedback _ _ _ _ _ _ before registry link receipt filed =>
    obtain rfl := Option.some.inj (filed.agentHeld.symm.trans held)
    cases step_cases wf₂ revokes with
    | @revokeFeedback _ _ after registry' record revoked =>
      -- The hash leads the revocation to the record that has just been filed.
      have address : revocation.feedbackRecord = ctx.feedbackRecord := by
        rw [(wf₂.feedbacks _ _ revoked.feedbackHeld).1, filed.feedback, FeedbackRecord.seeds,
          revoked.ofHash]
      have stored := revoked.feedbackHeld
      rw [feedbacks, address] at stored
      have same : record = ctx.record w.slot hash value tags evidenceUri evidenceHash :=
        Option.some.inj (stored.symm.trans (Function.update_self ..))
      have party : ctx.agentProfile = revocation.agentProfile := by
        rw [← revoked.pair.1, same, GiveFeedback.record]
      have rated := revoked.agentHeld
      rw [agents, ← party] at rated
      have after_eq : after = before.rated value w.slot := by
        simpa [GiveFeedback.file, eq_comm] using rated
      refine ⟨w₂.slot, ?_⟩
      rw [party]
      have lifted : record.value < 0 := by
        rw [same]
        exact negative
      have left : (revocation.revoke w₂ after registry' record).agents revocation.agentProfile =
          some { after with
            activeNegativeFeedbackCount := after.activeNegativeFeedbackCount - if record.value < 0 then 1 else 0
            lastActiveSlot := w₂.slot } := Function.update_self ..
      rw [left, after_eq]
      simp [AgentProfile.rated, AgentProfile.withdrawn, negative, lifted]

/-- A streak of full weight is worth whatever one withdrawn complaint can bring. -/
theorem feedbackPoints_gain {total negative : Nat} (within : negative ≤ total) :
    feedbackPoints (total + 1) negative ≤ feedbackPoints total negative + 150 := by
  by_cases none : total = 0
  · obtain rfl : negative = 0 := by omega
    subst none
    decide
  · have share : 250 * min negative total / total ≤ 250 := penalty_le none
    rw [min_eq_left within] at share
    rw [feedbackPoints_eq_sub none within, feedbackPoints_eq_sub (by omega) (by omega)]
    -- With `q` the old cost, `q - 150` is at most 100 and so covered by what `total` leaves free.
    have cost : 250 * negative / total - 150 ≤ 250 * negative / (total + 1) := by
      rw [Nat.le_div_iff_mul_le (Nat.succ_pos total)]
      have covered := Nat.div_mul_le_self (250 * negative) total
      generalize 250 * negative / total = q at share covered ⊢
      rcases Nat.le_total q 150 with low | high
      · simp [Nat.sub_eq_zero_of_le low]
      · obtain ⟨d, rfl⟩ := Nat.exists_eq_add_of_le' high
        have one : 1 ≤ total := Nat.pos_of_ne_zero none
        rw [Nat.add_sub_cancel]
        calc d * (total + 1) = d * total + d := Nat.mul_succ d total
          _ ≤ d * total + 150 * total := by omega
          _ = (d + 150) * total := (Nat.add_mul d 150 total).symm
          _ ≤ 250 * negative := covered
    omega

omit [DecidableEq K] [AddressSpace K] in
/-- A withdrawn complaint costs the streak and brings one more feedback to share the rest with. -/
theorem compute_withdrawn (profile : AgentProfile K) (slot now : Nat) :
    compute (profile.withdrawn now) slot + streakPoints profile.consecutiveSuccess +
        feedbackPoints profile.totalFeedbackCount profile.activeNegativeFeedbackCount =
      compute profile slot +
        feedbackPoints (profile.totalFeedbackCount + 1) profile.activeNegativeFeedbackCount := by
  have ended : streakPoints 0 = 0 := by decide
  rw [compute_eq_sum, compute_eq_sum, AgentProfile.withdrawn]
  dsimp only
  omega

/-- A withdrawn complaint leaves the score no higher exactly if the streak it ended was worth what
the feedback component gains. -/
theorem withdrawn_complaint {profile : AgentProfile K} (reachable : Reachable w)
    (held : w.agents key = some profile) (withdraws : Withdraws key w w') :
    ∃ later, w'.agents key = some later ∧ ∀ slot,
      (compute later slot ≤ compute profile slot ↔
        feedbackPoints (profile.totalFeedbackCount + 1) profile.activeNegativeFeedbackCount ≤
          feedbackPoints profile.totalFeedbackCount profile.activeNegativeFeedbackCount +
            streakPoints profile.consecutiveSuccess) ∧
      (streakCap ≤ profile.consecutiveSuccess → compute later slot ≤ compute profile slot) ∧
      (profile.totalFeedbackCount ≠ 0 → profile.activeNegativeFeedbackCount = 0 →
        compute later slot ≤ compute profile slot) := by
  obtain ⟨now, written⟩ := withdraws.leaves reachable.wellFormed held
  refine ⟨_, written, fun slot => ?_⟩
  have balance := compute_withdrawn profile slot now
  refine ⟨by omega, ?_, ?_⟩
  · -- A streak at its cap was worth 150, and the feedback component gains no more.
    intro full
    have streak : streakPoints profile.consecutiveSuccess = 150 := by
      rw [streakPoints, min_eq_right full]
      decide
    have gain := feedbackPoints_gain (reachable.within held)
    omega
  · intro some silent
    rw [silent, feedbackPoints_eq_sub some (Nat.zero_le _),
      feedbackPoints_eq_sub (by omega) (Nat.zero_le _)] at balance
    simp only [Nat.mul_zero, Nat.zero_div] at balance
    omega

namespace Bazaar

/-- The agent after one payment. -/
def once : World SymbolicKey := after [pay service 5 0]

def withdrawal : World SymbolicKey :=
  after (complaint ++ [.program (.revokeFeedback (revocation service 0) (receiptHash 0))])

theorem reachable_once : Reachable once := ⟨empty, _, genesis, run_logged _⟩

theorem withdraws_once : Withdraws account once withdrawal := by
  have filed : step once (rate service (-40) 0) = .ok (after complaint) :=
    Transition.settle_eq_ok (by decide)
  have revoked : step (after complaint)
      (.program (.revokeFeedback (revocation service 0) (receiptHash 0))) = .ok withdrawal :=
    Transition.settle_eq_ok (by decide)
  exact ⟨_, _, _, _, _, _, _, _, _, [], rfl, by decide, filed, .nil, by simp, revoked⟩

/-- The score of the agent at slot 0. -/
def score (w : World SymbolicKey) : Option Nat := (w.agents account).map fun profile => compute profile 0

end Bazaar

/-- After one payment the feedback component gains more than the streak was worth. -/
theorem withdrawn_complaint_bazaar :
    ∃ before later, Bazaar.once.agents Bazaar.account = some before ∧
      Bazaar.withdrawal.agents Bazaar.account = some later ∧
      compute before 0 < compute later 0 := by
  have counters : (Bazaar.once.agents Bazaar.account).map (fun profile =>
      (profile.totalFeedbackCount, profile.activeNegativeFeedbackCount, profile.consecutiveSuccess)) =
      some (0, 0, 1) := by decide
  obtain ⟨before, held, counted⟩ := Option.map_eq_some_iff.mp counters
  simp only [Prod.mk.injEq] at counted
  obtain ⟨total, negative, streak⟩ := counted
  obtain ⟨later, written, scores⟩ :=
    withdrawn_complaint Bazaar.reachable_once held Bazaar.withdraws_once
  refine ⟨before, later, held, written, ?_⟩
  rw [← not_le, (scores 0).1, total, negative, streak]
  decide

/-- The first complaint about an agent with one payment, withdrawn, lifts its score from 210 to 350. -/
theorem withdrawn_complaint_pays :
    ¬∀ (w w' : World SymbolicKey) (key : SymbolicKey) (profile later : AgentProfile SymbolicKey)
      (slot : Nat), Reachable w → Withdraws key w w' → w.agents key = some profile →
        w'.agents key = some later → compute later slot ≤ compute profile slot := by
  intro claim
  have lower : Bazaar.score Bazaar.once = some 210 := by decide
  have higher : Bazaar.score Bazaar.withdrawal = some 350 := by decide
  obtain ⟨profile, held, before⟩ := Option.map_eq_some_iff.mp lower
  obtain ⟨later, written, after⟩ := Option.map_eq_some_iff.mp higher
  have bound := claim _ _ _ profile later 0 Bazaar.reachable_once Bazaar.withdraws_once held written
  rw [before, after] at bound
  omega

end AgentFuel.Reputation
