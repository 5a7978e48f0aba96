import AgentFuel.Reputation.Recorded

/-!
# Standing and listing without feedback and payments

Until feedback is given a profile has no counts of it, and is active exactly when an event names
the key that controls it. Until a payment is made a registry has served nobody, and is active when
it is switched.
-/
namespace AgentFuel.Reputation

open Checked PartialMap Solana

variable {K : Type} [DecidableEq K] [AddressSpace K] {w w' : World K} {ix : Instruction K}
  {ev : ReputationEvent K} {key : K}

/-- A score that is announced is within the scale. -/
theorem handler_score (wf : WellFormed w) (handled : ix.handler w = .ok (w', ev)) {agent : K}
    {score slot : Nat} (scored : ev = .scoreComputed agent score slot) : score ≤ maxScore := by
  subst scored
  cases ix with
  | initializeAgent ctx agentUri externalAgentId =>
    obtain ⟨-, -, -, event⟩ := (ctx.handler_ok wf).mp handled
    cases event
  | registerService ctx name category serviceUri =>
    obtain ⟨-, -, -, event⟩ := (ctx.handler_ok wf).mp handled
    cases event
  | setServiceActive ctx active =>
    obtain ⟨_, -, -, event⟩ := (ctx.handler_ok wf).mp handled
    cases event
  | recordPayment ctx amount hash =>
    obtain ⟨_, _, -, -, event⟩ := (ctx.handler_ok wf).mp handled
    cases event
  | giveFeedback ctx hash value tags evidenceUri evidenceHash =>
    obtain ⟨_, _, _, _, -, -, event⟩ := (ctx.handler_ok wf).mp handled
    cases event
  | appendResponse ctx hash responseUri responseHash =>
    obtain ⟨_, _, -, -, event⟩ := (ctx.handler_ok wf).mp handled
    cases event
  | revokeFeedback ctx hash =>
    obtain ⟨_, _, _, -, -, event⟩ := (ctx.handler_ok wf).mp handled
    cases event
  | computeScore ctx =>
    obtain ⟨profile, -, -, event⟩ := (ctx.handler_ok wf).mp handled
    obtain ⟨-, rfl, -⟩ := ReputationEvent.scoreComputed.inj event
    exact compute_le profile w.slot

/-- Switches and feedback are announced by the instructions that bring them. -/
theorem handler_source (wf : WellFormed w) (handled : ix.handler w = .ok (w', ev)) :
    (∀ service active slot, ev = .serviceActiveSet service active slot →
      ∃ ctx, ix = .setServiceActive ctx active) ∧
    ∀ agent service feedback hash value tags slot,
      ev = .feedbackGiven agent service feedback hash value tags slot →
        ∃ ctx evidenceUri evidenceHash, ix = .giveFeedback ctx hash value tags evidenceUri evidenceHash := by
  cases ix with
  | initializeAgent ctx agentUri externalAgentId =>
    obtain ⟨-, -, -, rfl⟩ := (ctx.handler_ok wf).mp handled
    exact ⟨by rintro _ _ _ ⟨⟩, by rintro _ _ _ _ _ _ _ ⟨⟩⟩
  | registerService ctx name category serviceUri =>
    obtain ⟨-, -, -, rfl⟩ := (ctx.handler_ok wf).mp handled
    exact ⟨by rintro _ _ _ ⟨⟩, by rintro _ _ _ _ _ _ _ ⟨⟩⟩
  | setServiceActive ctx active =>
    obtain ⟨_, -, -, rfl⟩ := (ctx.handler_ok wf).mp handled
    refine ⟨?_, by rintro _ _ _ _ _ _ _ ⟨⟩⟩
    rintro _ _ _ ⟨⟩
    exact ⟨ctx, rfl⟩
  | recordPayment ctx amount hash =>
    obtain ⟨_, _, -, -, rfl⟩ := (ctx.handler_ok wf).mp handled
    exact ⟨by rintro _ _ _ ⟨⟩, by rintro _ _ _ _ _ _ _ ⟨⟩⟩
  | giveFeedback ctx hash value tags evidenceUri evidenceHash =>
    obtain ⟨_, _, _, _, -, -, rfl⟩ := (ctx.handler_ok wf).mp handled
    refine ⟨by rintro _ _ _ ⟨⟩, ?_⟩
    rintro _ _ _ _ _ _ _ ⟨⟩
    exact ⟨ctx, evidenceUri, evidenceHash, rfl⟩
  | appendResponse ctx hash responseUri responseHash =>
    obtain ⟨_, _, -, -, rfl⟩ := (ctx.handler_ok wf).mp handled
    exact ⟨by rintro _ _ _ ⟨⟩, by rintro _ _ _ _ _ _ _ ⟨⟩⟩
  | revokeFeedback ctx hash =>
    obtain ⟨_, _, _, -, -, rfl⟩ := (ctx.handler_ok wf).mp handled
    exact ⟨by rintro _ _ _ ⟨⟩, by rintro _ _ _ _ _ _ _ ⟨⟩⟩
  | computeScore ctx =>
    obtain ⟨_, -, -, rfl⟩ := (ctx.handler_ok wf).mp handled
    exact ⟨by rintro _ _ _ ⟨⟩, by rintro _ _ _ _ _ _ _ ⟨⟩⟩

/-! ### Standing -/

def Instruction.isFeedback : Instruction K → Bool
  | giveFeedback .. => true
  | _ => false

/-- What an instruction other than `give_feedback` does to the standing of an agent. -/
structure StandingReports (slot : Nat) (profile : AgentProfile K) (ev : ReputationEvent K)
    (profile' : AgentProfile K) : Prop where
  authority : profile'.authority = profile.authority
  feedback : profile'.totalFeedbackCount = profile.totalFeedbackCount
  negative : profile'.activeNegativeFeedbackCount = profile.activeNegativeFeedbackCount
  active : ev.agentAuthority = some profile.authority ∧ profile'.lastActiveSlot = slot ∨
    ev.agentAuthority ≠ some profile.authority ∧ profile'.lastActiveSlot = profile.lastActiveSlot

omit [DecidableEq K] [AddressSpace K] in
theorem StandingReports.refl {slot : Nat} {profile : AgentProfile K}
    (other : ev.agentAuthority ≠ some profile.authority) : StandingReports slot profile ev profile :=
  ⟨rfl, rfl, rfl, .inr ⟨other, rfl⟩⟩

/-- While no feedback is on record only four instructions move the standing of an agent. -/
theorem handler_standing (wf : WellFormed w) (unrated : ∀ k, w.feedbacks k = none)
    (handled : ix.handler w = .ok (w', ev)) (silent : ix.isFeedback = false) :
    ev.agentProfile = none ∧ (∀ k, w'.feedbacks k = none) ∧
      ∀ key profile', w'.agents key = some profile' →
        (profile'.totalFeedbackCount = 0 ∧ profile'.activeNegativeFeedbackCount = 0 ∧
          profile'.lastActiveSlot = w.slot ∧ w.agents key = none ∧ ev = profile'.creation) ∨
        ∃ profile, w.agents key = some profile ∧ StandingReports w.slot profile ev profile' := by
  cases ix with
  | initializeAgent ctx agentUri externalAgentId =>
    obtain ⟨address, absent, rfl, rfl⟩ := (ctx.handler_ok wf).mp handled
    refine ⟨rfl, unrated, ?_⟩
    intro key profile' held
    by_cases here : key = ctx.agentProfile
    · subst here
      simp only [World.setAgent_agents, Function.update_self, Option.some.injEq] at held
      subst held
      exact .inl ⟨rfl, rfl, rfl, absent, rfl⟩
    · simp only [World.setAgent_agents, Function.update_of_ne here] at held
      refine .inr ⟨profile', held, .refl ?_⟩
      intro same
      rw [(wf.agents key profile' held).1, address] at here
      simp only [ReputationEvent.agentAuthority, Option.some.injEq] at same
      simp [same] at here
  | registerService ctx name category serviceUri =>
    obtain ⟨-, -, rfl, rfl⟩ := (ctx.handler_ok wf).mp handled
    exact ⟨rfl, unrated, fun key profile' held => .inr ⟨profile', held, .refl (by rintro ⟨⟩)⟩⟩
  | setServiceActive ctx active =>
    obtain ⟨_, -, rfl, rfl⟩ := (ctx.handler_ok wf).mp handled
    exact ⟨rfl, unrated, fun key profile' held => .inr ⟨profile', held, .refl (by rintro ⟨⟩)⟩⟩
  | recordPayment ctx amount hash =>
    obtain ⟨profile, registry, accepts, rfl, rfl⟩ := (ctx.handler_ok wf).mp handled
    refine ⟨rfl, unrated, ?_⟩
    intro key profile' held
    refine .inr (exists_of_update accepts.agentHeld ?_ ?_ held)
    · exact fun _ => ⟨rfl, rfl, rfl, .inl ⟨rfl, rfl⟩⟩
    · intro other kept apart
      refine .refl fun same => ?_
      exact wf.authority_ne kept accepts.agentHeld apart (Option.some.inj same).symm
  | giveFeedback ctx hash value tags evidenceUri evidenceHash => cases silent
  -- There is no feedback to answer or to revoke.
  | appendResponse ctx hash responseUri responseHash =>
    obtain ⟨_, _, accepts, -, -⟩ := (ctx.handler_ok wf).mp handled
    exact absurd accepts.feedbackHeld (by rw [unrated]; rintro ⟨⟩)
  | revokeFeedback ctx hash =>
    obtain ⟨_, _, _, accepts, -, -⟩ := (ctx.handler_ok wf).mp handled
    exact absurd accepts.feedbackHeld (by rw [unrated]; rintro ⟨⟩)
  | computeScore ctx =>
    obtain ⟨profile, present, rfl, rfl⟩ := (ctx.handler_ok wf).mp handled
    refine ⟨rfl, unrated, ?_⟩
    intro key profile' held
    refine .inr (exists_of_update present ?_ ?_ held)
    · exact fun _ => ⟨rfl, rfl, rfl, .inl ⟨rfl, rfl⟩⟩
    · intro other kept apart
      refine .refl fun same => ?_
      exact wf.authority_ne kept present apart (Option.some.inj same).symm

/-! ### Listing -/

def Instruction.isPayment : Instruction K → Bool
  | recordPayment .. => true
  | _ => false

def ReputationEvent.isPayment : ReputationEvent K → Bool
  | paymentRecorded .. => true
  | _ => false

/-- A registry as it was registered, or as `set_service_active` left it. -/
inductive ListingCase (w : World K) (ix : Instruction K) (key : K) (registry' : ServiceRegistry K) : Prop
  | registered (absent : w.services key = none) (active : registry'.active = true)
    (agents : registry'.totalAgentsServed = 0) (volume : registry'.totalVolumeReceivedUsdc = 0)
    (slot : registry'.lastActiveSlot = registry'.firstActiveSlot)
  | kept (held : w.services key = some registry')
  | switched (ctx : SetServiceActive K) (active : Bool) (registry : ServiceRegistry K)
    (set : ix = .setServiceActive ctx active) (address : ctx.serviceRegistry = key)
    (held : w.services key = some registry)
    (changed : registry' = { registry with active, lastActiveSlot := w.slot })

/-- While no receipt is on record a registry is only ever switched. -/
theorem handler_listing (wf : WellFormed w) (unpaid : ∀ k, w.receipts k = none)
    (unrated : ∀ k, w.feedbacks k = none) (handled : ix.handler w = .ok (w', ev))
    (free : ix.isPayment = false) :
    ev.isPayment = false ∧ (∀ k, w'.receipts k = none) ∧ (∀ k, w'.feedbacks k = none) ∧
      ∀ key registry', w'.services key = some registry' → ListingCase w ix key registry' := by
  cases ix with
  | initializeAgent ctx agentUri externalAgentId =>
    obtain ⟨-, -, rfl, rfl⟩ := (ctx.handler_ok wf).mp handled
    exact ⟨rfl, unpaid, unrated, fun key registry' held => .kept held⟩
  | registerService ctx name category serviceUri =>
    obtain ⟨-, absent, rfl, rfl⟩ := (ctx.handler_ok wf).mp handled
    refine ⟨rfl, unpaid, unrated, ?_⟩
    intro key registry' held
    by_cases here : key = ctx.serviceRegistry
    · subst here
      simp only [World.setService_services, Function.update_self, Option.some.injEq] at held
      subst held
      exact .registered absent rfl rfl rfl rfl
    · simp only [World.setService_services, Function.update_of_ne here] at held
      exact .kept held
  | setServiceActive ctx active =>
    obtain ⟨registry, accepts, rfl, rfl⟩ := (ctx.handler_ok wf).mp handled
    refine ⟨rfl, unpaid, unrated, ?_⟩
    intro key registry' held
    by_cases here : key = ctx.serviceRegistry
    · subst here
      simp only [World.setService_services, Function.update_self, Option.some.injEq] at held
      exact .switched ctx active registry rfl rfl accepts.serviceHeld held.symm
    · simp only [World.setService_services, Function.update_of_ne here] at held
      exact .kept held
  | recordPayment ctx amount hash => cases free
  -- Feedback needs a receipt, a response and a revocation need feedback.
  | giveFeedback ctx hash value tags evidenceUri evidenceHash =>
    obtain ⟨_, _, _, _, accepts, -, -⟩ := (ctx.handler_ok wf).mp handled
    exact absurd accepts.receiptHeld (by rw [unpaid]; rintro ⟨⟩)
  | appendResponse ctx hash responseUri responseHash =>
    obtain ⟨_, _, accepts, -, -⟩ := (ctx.handler_ok wf).mp handled
    exact absurd accepts.feedbackHeld (by rw [unrated]; rintro ⟨⟩)
  | revokeFeedback ctx hash =>
    obtain ⟨_, _, _, accepts, -, -⟩ := (ctx.handler_ok wf).mp handled
    exact absurd accepts.feedbackHeld (by rw [unrated]; rintro ⟨⟩)
  | computeScore ctx =>
    obtain ⟨profile, present, rfl, rfl⟩ := (ctx.handler_ok wf).mp handled
    exact ⟨rfl, unpaid, unrated, fun key registry' held => .kept held⟩

end AgentFuel.Reputation
