import AgentFuel.Library.Register
import AgentFuel.Reputation.Provenance

/-!
# What the events of a run record

Payments and scores name an agent by the key that controls it, feedback and activity name
accounts by their addresses. Counters of a profile count its payments, its score and the
activity of a service are the last ones announced.
-/
namespace AgentFuel.Reputation

open Checked PartialMap Solana Register

variable {K : Type}

def ReputationEvent.slot : ReputationEvent K → Nat
  | agentInitialized _ _ initSlot => initSlot
  | serviceRegistered _ _ _ _ initSlot => initSlot
  | serviceActiveSet _ _ slot => slot
  | paymentRecorded _ _ _ _ _ slot => slot
  | feedbackGiven _ _ _ _ _ _ slot => slot
  | responseAppended _ _ _ slot => slot
  | feedbackRevoked _ _ _ _ slot => slot
  | scoreComputed _ _ slot => slot

/-- The controlling key of an agent that an event names. -/
def ReputationEvent.agentAuthority : ReputationEvent K → Option K
  | agentInitialized agent _ _ => some agent
  | paymentRecorded agent _ _ _ _ _ => some agent
  | scoreComputed agent _ _ => some agent
  | _ => none

/-- The address of a profile that an event names. -/
def ReputationEvent.agentProfile : ReputationEvent K → Option K
  | feedbackGiven agent _ _ _ _ _ _ => some agent
  | responseAppended agent _ _ _ => some agent
  | feedbackRevoked agent _ _ _ _ => some agent
  | _ => none

def ReputationEvent.serviceAuthority : ReputationEvent K → Option K
  | serviceRegistered service _ _ _ _ => some service
  | _ => none

/-- The address of a registry that an event names. -/
def ReputationEvent.serviceRegistry : ReputationEvent K → Option K
  | serviceActiveSet service _ _ => some service
  | paymentRecorded _ service _ _ _ _ => some service
  | feedbackGiven _ service _ _ _ _ _ => some service
  | feedbackRevoked _ service _ _ _ => some service
  | _ => none

section Writes

variable [DecidableEq K]

/-- The amount paid to an agent, and whether its service was new to it. -/
def ReputationEvent.payment (authority : K) : ReputationEvent K → Option (Nat × Bool)
  | paymentRecorded agent _ amountUsdc _ wasNewPair _ =>
    if agent = authority then some (amountUsdc, wasNewPair) else none
  | _ => none

def ReputationEvent.newScore (authority : K) : ReputationEvent K → Option Nat
  | scoreComputed agent score _ => if agent = authority then some score else none
  | _ => none

def ReputationEvent.newActive (registry : K) : ReputationEvent K → Option Bool
  | serviceActiveSet service active _ => if service = registry then some active else none
  | _ => none

/-- Feedback below zero on the profile at an address. -/
def ReputationEvent.isComplaint (profile : K) : ReputationEvent K → Bool
  | feedbackGiven agent _ _ _ value _ _ => decide (agent = profile ∧ value < 0)
  | _ => false

variable {authority : K} {ev : ReputationEvent K}

theorem ReputationEvent.payment_other (other : ev.agentAuthority ≠ some authority) :
    ev.payment authority = none := by
  cases ev <;> simp_all [payment, agentAuthority]

theorem ReputationEvent.newScore_other (other : ev.agentAuthority ≠ some authority) :
    ev.newScore authority = none := by
  cases ev <;> simp_all [newScore, agentAuthority]

end Writes

def AgentProfile.creation (profile : AgentProfile K) : ReputationEvent K :=
  .agentInitialized profile.authority profile.owner profile.firstActiveSlot

def ServiceRegistry.creation (registry : ServiceRegistry K) (sponsor : K) : ReputationEvent K :=
  .serviceRegistered registry.authority sponsor registry.name registry.category
    registry.firstActiveSlot

variable [DecidableEq K]

/-! ### Profiles -/

/-- The payments to an agent. -/
def paymentsTo (authority : K) (events : List (ReputationEvent K)) : List (Nat × Bool) :=
  events.filterMap (ReputationEvent.payment authority)

structure AgentRecorded [AddressSpace K] (key : K) (profile : AgentProfile K)
    (events : List (ReputationEvent K)) : Prop where
  signs : CanSign profile.authority
  created : profile.creation ∈ events
  creation : ∀ owner slot, .agentInitialized profile.authority owner slot ∈ events →
    owner = profile.owner ∧ slot = profile.firstActiveSlot
  transactions : profile.totalTransactions = (paymentsTo profile.authority events).length
  volume : profile.totalVolumeUsdc = ((paymentsTo profile.authority events).map Prod.fst).sum
  services : profile.servicesUsed = (paymentsTo profile.authority events).countP Prod.snd
  score : profile.reputationScore =
    (last (ReputationEvent.newScore profile.authority) events).getD 0
  streak : (∀ ev ∈ events, ev.isComplaint key = false) →
    profile.consecutiveSuccess = (paymentsTo profile.authority events).length

/-- What an instruction does to the profile at an address, and what its event says of it. -/
structure AgentReports (key : K) (profile : AgentProfile K) (ev : ReputationEvent K)
    (profile' : AgentProfile K) : Prop where
  authority : profile'.authority = profile.authority
  owner : profile'.owner = profile.owner
  firstActive : profile'.firstActiveSlot = profile.firstActiveSlot
  existing : ∀ owner slot, ev ≠ .agentInitialized profile.authority owner slot
  transactions : profile'.totalTransactions =
    profile.totalTransactions + (ev.payment profile.authority).elim 0 fun _ => 1
  volume : profile'.totalVolumeUsdc =
    profile.totalVolumeUsdc + (ev.payment profile.authority).elim 0 Prod.fst
  services : profile'.servicesUsed =
    profile.servicesUsed + (ev.payment profile.authority).elim 0 fun paid => paid.2.toNat
  score : profile'.reputationScore = (ev.newScore profile.authority).getD profile.reputationScore
  streak : ev.isComplaint key = false → profile'.consecutiveSuccess =
    profile.consecutiveSuccess + (ev.payment profile.authority).elim 0 fun _ => 1

section Profiles

variable {key : K} {profile profile' : AgentProfile K} {events : List (ReputationEvent K)}
  {ev : ReputationEvent K}

theorem paymentsTo_snoc (authority : K) (events : List (ReputationEvent K))
    (ev : ReputationEvent K) :
    paymentsTo authority (events ++ [ev]) = paymentsTo authority events ++
      (ev.payment authority).toList := by
  unfold paymentsTo
  cases paid : ev.payment authority <;> simp [paid]

/-- An event that does not name the agent leaves the profile as it is. -/
theorem AgentReports.refl (other : ev.agentAuthority ≠ some profile.authority) :
    AgentReports key profile ev profile where
  authority := rfl
  owner := rfl
  firstActive := rfl
  existing owner slot := by
    rintro rfl
    exact other rfl
  transactions := by rw [ev.payment_other other, Option.elim_none, Nat.add_zero]
  volume := by rw [ev.payment_other other, Option.elim_none, Nat.add_zero]
  services := by rw [ev.payment_other other, Option.elim_none, Nat.add_zero]
  score := by rw [ev.newScore_other other, Option.getD_none]
  streak _ := by rw [ev.payment_other other, Option.elim_none, Nat.add_zero]

theorem AgentRecorded.report [AddressSpace K] (recorded : AgentRecorded key profile events)
    (reports : AgentReports key profile ev profile') :
    AgentRecorded key profile' (events ++ [ev]) := by
  have same : profile'.creation = profile.creation := by
    simp only [AgentProfile.creation, reports.authority, reports.owner, reports.firstActive]
  -- Every counter grows by what the event tells of this agent.
  refine ⟨?_, ?_, ?_, ?_, ?_, ?_, ?_, ?_⟩
  · rw [reports.authority]
    exact recorded.signs
  · rw [same]
    exact List.mem_append_left _ recorded.created
  · intro owner slot member
    rw [reports.authority] at member
    rw [reports.owner, reports.firstActive]
    rcases List.mem_append.mp member with earlier | here
    · exact recorded.creation owner slot earlier
    · exact absurd (List.mem_singleton.mp here).symm (reports.existing owner slot)
  · rw [reports.transactions, reports.authority, paymentsTo_snoc, List.length_append,
      recorded.transactions]
    cases ev.payment profile.authority <;> rfl
  · rw [reports.volume, reports.authority, paymentsTo_snoc, List.map_append, List.sum_append,
      recorded.volume]
    cases ev.payment profile.authority <;> simp
  · rw [reports.services, reports.authority, paymentsTo_snoc, List.countP_append, recorded.services]
    rcases ev.payment profile.authority with _ | ⟨amount, new⟩
    · rfl
    · cases new <;> rfl
  · rw [reports.score, reports.authority, last_snoc]
    cases ev.newScore profile.authority with
    | some score => rfl
    | none => exact recorded.score
  · intro quiet
    rw [List.forall_mem_append, List.forall_mem_singleton] at quiet
    rw [reports.streak quiet.2, reports.authority, paymentsTo_snoc, List.length_append,
      recorded.streak quiet.1]
    cases ev.payment profile.authority <;> rfl

/-- The first event that names an agent is the one that creates its profile. -/
theorem AgentRecorded.create [AddressSpace K] (signs : CanSign profile.authority)
    (fresh : ∀ ev ∈ events, ev.agentAuthority ≠ some profile.authority)
    (zero : profile.totalTransactions = 0 ∧ profile.totalVolumeUsdc = 0 ∧
      profile.servicesUsed = 0 ∧ profile.reputationScore = 0 ∧ profile.consecutiveSuccess = 0) :
    AgentRecorded key profile (events ++ [profile.creation]) := by
  have unpaid : paymentsTo profile.authority (events ++ [profile.creation]) = [] := by
    rw [paymentsTo_snoc]
    refine List.append_eq_nil_iff.mpr ⟨List.filterMap_eq_nil_iff.mpr ?_, rfl⟩
    exact fun ev member => ev.payment_other (fresh ev member)
  have unscored : last (ReputationEvent.newScore profile.authority)
      (events ++ [profile.creation]) = none := by
    rw [last_snoc, last_eq_none.mpr fun ev member => ev.newScore_other (fresh ev member)]
    rfl
  obtain ⟨transactions, volume, services, score, streak⟩ := zero
  refine ⟨signs, by simp, ?_, ?_, ?_, ?_, ?_, ?_⟩
  · intro owner slot member
    rcases List.mem_append.mp member with earlier | here
    · exact absurd rfl (fresh _ earlier)
    · obtain ⟨-, rfl, rfl⟩ := ReputationEvent.agentInitialized.inj (List.mem_singleton.mp here)
      exact ⟨rfl, rfl⟩
  · rw [transactions, unpaid, List.length_nil]
  · rw [volume, unpaid, List.map_nil, List.sum_nil]
  · rw [services, unpaid, List.countP_nil]
  · rw [score, unscored, Option.getD_none]
  · rw [streak, unpaid, List.length_nil]
    exact fun _ => rfl

end Profiles

/-! ### Registries -/

structure ServiceRecorded [AddressSpace K] (key : K) (registry : ServiceRegistry K)
    (events : List (ReputationEvent K)) : Prop where
  signs : CanSign registry.authority
  created : ∃ sponsor, registry.creation sponsor ∈ events
  creation : ∀ sponsor name category slot,
    .serviceRegistered registry.authority sponsor name category slot ∈ events →
      name = registry.name ∧ category = registry.category ∧ slot = registry.firstActiveSlot
  active : registry.active = (last (ReputationEvent.newActive key) events).getD true

/-- What an instruction does to the registry at an address, and what its event says of it. -/
structure ServiceReports (key : K) (registry : ServiceRegistry K) (ev : ReputationEvent K)
    (registry' : ServiceRegistry K) : Prop where
  authority : registry'.authority = registry.authority
  name : registry'.name = registry.name
  category : registry'.category = registry.category
  firstActive : registry'.firstActiveSlot = registry.firstActiveSlot
  existing : ev.serviceAuthority ≠ some registry.authority
  active : registry'.active = (ev.newActive key).getD registry.active

section Registries

variable {key : K} {registry registry' : ServiceRegistry K} {events : List (ReputationEvent K)}
  {ev : ReputationEvent K}

theorem ServiceRecorded.report [AddressSpace K] (recorded : ServiceRecorded key registry events)
    (reports : ServiceReports key registry ev registry') :
    ServiceRecorded key registry' (events ++ [ev]) := by
  obtain ⟨sponsor, created⟩ := recorded.created
  refine ⟨?_, ⟨sponsor, ?_⟩, ?_, ?_⟩
  · rw [reports.authority]
    exact recorded.signs
  · simp only [ServiceRegistry.creation, reports.authority, reports.name, reports.category,
      reports.firstActive]
    exact List.mem_append_left _ created
  · intro sponsor name category slot member
    rw [reports.authority] at member
    rw [reports.name, reports.category, reports.firstActive]
    rcases List.mem_append.mp member with earlier | here
    · exact recorded.creation sponsor name category slot earlier
    · have registers := reports.existing
      rw [← List.mem_singleton.mp here] at registers
      exact absurd rfl registers
  · rw [reports.active, last_snoc]
    cases ev.newActive key with
    | some active => rfl
    | none => exact recorded.active

theorem ServiceRecorded.create [AddressSpace K] (signs : CanSign registry.authority) (sponsor : K)
    (fresh : ∀ ev ∈ events, ev.serviceAuthority ≠ some registry.authority)
    (unset : ∀ ev ∈ events, ev.newActive key = none) (active : registry.active = true) :
    ServiceRecorded key registry (events ++ [registry.creation sponsor]) := by
  refine ⟨signs, ⟨sponsor, by simp⟩, ?_, ?_⟩
  · intro sponsor' name category slot member
    rcases List.mem_append.mp member with earlier | here
    · exact absurd rfl (fresh _ earlier)
    · obtain ⟨-, -, rfl, rfl, rfl⟩ :=
        ReputationEvent.serviceRegistered.inj (List.mem_singleton.mp here)
      exact ⟨rfl, rfl, rfl⟩
  · rw [last_snoc, last_eq_none.mpr unset, active]
    rfl

end Registries

/-! ### Instructions -/

section Instructions

variable [AddressSpace K] {w w' : World K} {ix : Instruction K} {ev : ReputationEvent K} {key : K}

omit [DecidableEq K] in
/-- Profiles at different addresses have different controlling keys. -/
theorem WellFormed.authority_ne (wf : WellFormed w) {u : K} {profile other : AgentProfile K}
    (held : w.agents key = some profile) (present : w.agents u = some other) (apart : key ≠ u) :
    profile.authority ≠ other.authority := by
  intro same
  rw [(wf.agents key profile held).1, (wf.agents u other present).1] at apart
  simp [same] at apart

/-- A profile was created by the instruction, or was there and is what the event says. -/
theorem handler_agents (wf : WellFormed w) (handled : ix.handler w = .ok (w', ev))
    {profile' : AgentProfile K} (held : w'.agents key = some profile') :
    (∃ ctx agentUri externalAgentId, ix = .initializeAgent ctx agentUri externalAgentId ∧
      ctx.agentProfile = key ∧ w.agents key = none ∧
      profile' = ctx.profile w.slot agentUri externalAgentId ∧ ev = profile'.creation) ∨
    ∃ profile, w.agents key = some profile ∧ AgentReports key profile ev profile' := by
  cases ix with
  | initializeAgent ctx agentUri externalAgentId =>
    obtain ⟨address, absent, rfl, rfl⟩ := (ctx.handler_ok wf).mp handled
    by_cases here : key = ctx.agentProfile
    · subst here
      simp only [World.setAgent_agents, Function.update_self, Option.some.injEq] at held
      subst held
      exact .inl ⟨ctx, agentUri, externalAgentId, rfl, rfl, absent, rfl, rfl⟩
    · simp only [World.setAgent_agents, Function.update_of_ne here] at held
      -- Another profile has another authority, since its address is derived from it.
      refine .inr ⟨profile', held, .refl ?_⟩
      intro same
      rw [(wf.agents key profile' held).1, address] at here
      simp only [ReputationEvent.agentAuthority, Option.some.injEq] at same
      simp [same] at here
  | registerService ctx name category serviceUri =>
    obtain ⟨-, -, rfl, rfl⟩ := (ctx.handler_ok wf).mp handled
    exact .inr ⟨profile', held, .refl (by rintro ⟨⟩)⟩
  | setServiceActive ctx active =>
    obtain ⟨_, -, rfl, rfl⟩ := (ctx.handler_ok wf).mp handled
    exact .inr ⟨profile', held, .refl (by rintro ⟨⟩)⟩
  | recordPayment ctx amount hash =>
    obtain ⟨profile, registry, accepts, rfl, rfl⟩ := (ctx.handler_ok wf).mp handled
    refine .inr (exists_of_update accepts.agentHeld ?_ ?_ held)
    · intro _
      refine ⟨rfl, rfl, rfl, by rintro _ _ ⟨⟩, ?_, ?_, ?_, rfl, ?_⟩
      all_goals simp [ReputationEvent.payment, AgentProfile.paid]
    · intro other kept apart
      refine .refl fun same => ?_
      exact wf.authority_ne kept accepts.agentHeld apart (Option.some.inj same).symm
  | giveFeedback ctx hash value tags evidenceUri evidenceHash =>
    obtain ⟨profile, registry, link, receipt, accepts, rfl, rfl⟩ := (ctx.handler_ok wf).mp handled
    refine .inr (exists_of_update accepts.agentHeld ?_ (fun _ _ _ => .refl (by rintro ⟨⟩)) held)
    rintro rfl
    refine ⟨rfl, rfl, rfl, by rintro _ _ ⟨⟩, rfl, rfl, rfl, rfl, ?_⟩
    intro quiet
    simp only [ReputationEvent.isComplaint, true_and, decide_eq_false_iff_not] at quiet
    simp [AgentProfile.rated, quiet, ReputationEvent.payment]
  | appendResponse ctx hash responseUri responseHash =>
    obtain ⟨profile, feedback, accepts, rfl, rfl⟩ := (ctx.handler_ok wf).mp handled
    refine .inr (exists_of_update accepts.agentHeld ?_ (fun _ _ _ => .refl (by rintro ⟨⟩)) held)
    intro _
    exact ⟨rfl, rfl, rfl, by rintro _ _ ⟨⟩, rfl, rfl, rfl, rfl, fun _ => rfl⟩
  | revokeFeedback ctx hash =>
    obtain ⟨profile, registry, feedback, accepts, rfl, rfl⟩ := (ctx.handler_ok wf).mp handled
    refine .inr (exists_of_update accepts.agentHeld ?_ (fun _ _ _ => .refl (by rintro ⟨⟩)) held)
    intro _
    exact ⟨rfl, rfl, rfl, by rintro _ _ ⟨⟩, rfl, rfl, rfl, rfl, fun _ => rfl⟩
  | computeScore ctx =>
    obtain ⟨profile, present, rfl, rfl⟩ := (ctx.handler_ok wf).mp handled
    refine .inr (exists_of_update present ?_ ?_ held)
    · intro _
      refine ⟨rfl, rfl, rfl, by rintro _ _ ⟨⟩, rfl, rfl, rfl, ?_, fun _ => rfl⟩
      simp [ReputationEvent.newScore]
    · intro other kept apart
      refine .refl fun same => ?_
      exact wf.authority_ne kept present apart (Option.some.inj same).symm

omit [AddressSpace K] in
theorem ServiceReports.refl {registry : ServiceRegistry K}
    (registered : ev.serviceAuthority ≠ some registry.authority) (unset : ev.newActive key = none) :
    ServiceReports key registry ev registry :=
  ⟨rfl, rfl, rfl, rfl, registered, by rw [unset, Option.getD_none]⟩

/-- A registry was created by the instruction, or was there and is what the event says. -/
theorem handler_services (wf : WellFormed w) (handled : ix.handler w = .ok (w', ev))
    {registry' : ServiceRegistry K} (held : w'.services key = some registry') :
    (∃ ctx name category serviceUri, ix = .registerService ctx name category serviceUri ∧
      ctx.serviceRegistry = key ∧ w.services key = none ∧
      registry' = ctx.registry w.slot name category serviceUri ∧
      ev = registry'.creation ctx.sponsor.key) ∨
    ∃ registry, w.services key = some registry ∧ ServiceReports key registry ev registry' := by
  cases ix with
  | initializeAgent ctx agentUri externalAgentId =>
    obtain ⟨-, -, rfl, rfl⟩ := (ctx.handler_ok wf).mp handled
    exact .inr ⟨registry', held, .refl (by rintro ⟨⟩) rfl⟩
  | registerService ctx name category serviceUri =>
    obtain ⟨address, absent, rfl, rfl⟩ := (ctx.handler_ok wf).mp handled
    by_cases here : key = ctx.serviceRegistry
    · subst here
      simp only [World.setService_services, Function.update_self, Option.some.injEq] at held
      subst held
      exact .inl ⟨ctx, name, category, serviceUri, rfl, rfl, absent, rfl, rfl⟩
    · simp only [World.setService_services, Function.update_of_ne here] at held
      refine .inr ⟨registry', held, .refl ?_ rfl⟩
      intro same
      rw [(wf.services key registry' held).1, address] at here
      simp only [ReputationEvent.serviceAuthority, Option.some.injEq] at same
      simp [same] at here
  | setServiceActive ctx active =>
    obtain ⟨registry, accepts, rfl, rfl⟩ := (ctx.handler_ok wf).mp handled
    refine .inr (exists_of_update accepts.serviceHeld ?_ ?_ held)
    · rintro rfl
      refine ⟨rfl, rfl, rfl, rfl, by rintro ⟨⟩, ?_⟩
      simp [ReputationEvent.newActive]
    · exact fun _ _ apart => .refl (by rintro ⟨⟩) (if_neg apart.symm)
  | recordPayment ctx amount hash =>
    obtain ⟨profile, registry, accepts, rfl, rfl⟩ := (ctx.handler_ok wf).mp handled
    refine .inr (exists_of_update accepts.serviceHeld ?_
      (fun _ _ _ => .refl (by rintro ⟨⟩) rfl) held)
    exact fun _ => ⟨rfl, rfl, rfl, rfl, by rintro ⟨⟩, rfl⟩
  | giveFeedback ctx hash value tags evidenceUri evidenceHash =>
    obtain ⟨profile, registry, link, receipt, accepts, rfl, rfl⟩ := (ctx.handler_ok wf).mp handled
    refine .inr (exists_of_update accepts.serviceHeld ?_
      (fun _ _ _ => .refl (by rintro ⟨⟩) rfl) held)
    exact fun _ => ⟨rfl, rfl, rfl, rfl, by rintro ⟨⟩, rfl⟩
  | appendResponse ctx hash responseUri responseHash =>
    obtain ⟨profile, feedback, accepts, rfl, rfl⟩ := (ctx.handler_ok wf).mp handled
    have kept : w.services key = some registry' := by
      simpa [AppendResponse.attach] using held
    exact .inr ⟨registry', kept, .refl (by rintro ⟨⟩) rfl⟩
  | revokeFeedback ctx hash =>
    obtain ⟨profile, registry, feedback, accepts, rfl, rfl⟩ := (ctx.handler_ok wf).mp handled
    refine .inr (exists_of_update accepts.serviceHeld ?_
      (fun _ _ _ => .refl (by rintro ⟨⟩) rfl) held)
    exact fun _ => ⟨rfl, rfl, rfl, rfl, by rintro ⟨⟩, rfl⟩
  | computeScore ctx =>
    obtain ⟨profile, present, rfl, rfl⟩ := (ctx.handler_ok wf).mp handled
    exact .inr ⟨registry', held, .refl (by rintro ⟨⟩) rfl⟩

/-- The keys an event names belong to accounts that are there after the instruction. -/
structure Names (w : World K) (ev : ReputationEvent K) : Prop where
  agentAuthority : ∀ authority, ev.agentAuthority = some authority →
    ∃ key profile, w.agents key = some profile ∧ profile.authority = authority
  agentProfile : ∀ key, ev.agentProfile = some key → w.agents key ≠ none
  serviceAuthority : ∀ authority, ev.serviceAuthority = some authority →
    ∃ key registry, w.services key = some registry ∧ registry.authority = authority
  serviceRegistry : ∀ key, ev.serviceRegistry = some key → w.services key ≠ none

theorem handler_names (wf : WellFormed w) (handled : ix.handler w = .ok (w', ev)) : Names w' ev := by
  cases ix with
  | initializeAgent ctx agentUri externalAgentId =>
    obtain ⟨-, -, rfl, rfl⟩ := (ctx.handler_ok wf).mp handled
    refine ⟨?_, by rintro _ ⟨⟩, by rintro _ ⟨⟩, by rintro _ ⟨⟩⟩
    rintro _ ⟨⟩
    exact ⟨ctx.agentProfile, _, Function.update_self .., rfl⟩
  | registerService ctx name category serviceUri =>
    obtain ⟨-, -, rfl, rfl⟩ := (ctx.handler_ok wf).mp handled
    refine ⟨by rintro _ ⟨⟩, by rintro _ ⟨⟩, ?_, by rintro _ ⟨⟩⟩
    rintro _ ⟨⟩
    exact ⟨ctx.serviceRegistry, _, Function.update_self .., rfl⟩
  | setServiceActive ctx active =>
    obtain ⟨_, -, rfl, rfl⟩ := (ctx.handler_ok wf).mp handled
    refine ⟨by rintro _ ⟨⟩, by rintro _ ⟨⟩, by rintro _ ⟨⟩, ?_⟩
    rintro _ ⟨⟩
    simp
  | recordPayment ctx amount hash =>
    obtain ⟨profile, registry, accepts, rfl, rfl⟩ := (ctx.handler_ok wf).mp handled
    refine ⟨?_, by rintro _ ⟨⟩, by rintro _ ⟨⟩, ?_⟩
    · rintro _ ⟨⟩
      exact ⟨ctx.agentProfile, _, Function.update_self .., rfl⟩
    · rintro _ ⟨⟩
      simp [RecordPayment.record]
  | giveFeedback ctx hash value tags evidenceUri evidenceHash =>
    obtain ⟨profile, registry, link, receipt, accepts, rfl, rfl⟩ := (ctx.handler_ok wf).mp handled
    refine ⟨by rintro _ ⟨⟩, ?_, by rintro _ ⟨⟩, ?_⟩
    · rintro _ ⟨⟩
      simp [GiveFeedback.file]
    · rintro _ ⟨⟩
      simp [GiveFeedback.file]
  | appendResponse ctx hash responseUri responseHash =>
    obtain ⟨profile, feedback, accepts, rfl, rfl⟩ := (ctx.handler_ok wf).mp handled
    refine ⟨by rintro _ ⟨⟩, ?_, by rintro _ ⟨⟩, by rintro _ ⟨⟩⟩
    rintro _ ⟨⟩
    simp [AppendResponse.attach]
  | revokeFeedback ctx hash =>
    obtain ⟨profile, registry, feedback, accepts, rfl, rfl⟩ := (ctx.handler_ok wf).mp handled
    refine ⟨by rintro _ ⟨⟩, ?_, by rintro _ ⟨⟩, ?_⟩
    · rintro _ ⟨⟩
      simp [RevokeFeedback.revoke]
    · rintro _ ⟨⟩
      simp [RevokeFeedback.revoke]
  | computeScore ctx =>
    obtain ⟨profile, present, rfl, rfl⟩ := (ctx.handler_ok wf).mp handled
    refine ⟨?_, by rintro _ ⟨⟩, by rintro _ ⟨⟩, by rintro _ ⟨⟩⟩
    rintro _ ⟨⟩
    exact ⟨ctx.agentProfile, _, Function.update_self .., rfl⟩

theorem handler_slot (wf : WellFormed w) (handled : ix.handler w = .ok (w', ev)) :
    ev.slot = w.slot ∧ w'.slot = w.slot := by
  cases ix with
  | initializeAgent ctx agentUri externalAgentId =>
    obtain ⟨-, -, rfl, rfl⟩ := (ctx.handler_ok wf).mp handled
    exact ⟨rfl, rfl⟩
  | registerService ctx name category serviceUri =>
    obtain ⟨-, -, rfl, rfl⟩ := (ctx.handler_ok wf).mp handled
    exact ⟨rfl, rfl⟩
  | setServiceActive ctx active =>
    obtain ⟨_, -, rfl, rfl⟩ := (ctx.handler_ok wf).mp handled
    exact ⟨rfl, rfl⟩
  | recordPayment ctx amount hash =>
    obtain ⟨_, _, -, rfl, rfl⟩ := (ctx.handler_ok wf).mp handled
    exact ⟨rfl, rfl⟩
  | giveFeedback ctx hash value tags evidenceUri evidenceHash =>
    obtain ⟨_, _, _, _, -, rfl, rfl⟩ := (ctx.handler_ok wf).mp handled
    exact ⟨rfl, rfl⟩
  | appendResponse ctx hash responseUri responseHash =>
    obtain ⟨_, _, -, rfl, rfl⟩ := (ctx.handler_ok wf).mp handled
    exact ⟨rfl, rfl⟩
  | revokeFeedback ctx hash =>
    obtain ⟨_, _, _, -, rfl, rfl⟩ := (ctx.handler_ok wf).mp handled
    exact ⟨rfl, rfl⟩
  | computeScore ctx =>
    obtain ⟨_, -, rfl, rfl⟩ := (ctx.handler_ok wf).mp handled
    exact ⟨rfl, rfl⟩

omit [DecidableEq K] [AddressSpace K] in
theorem Names.persists (names : Names w ev) (kept : Persists w w') : Names w' ev where
  agentAuthority authority named := by
    obtain ⟨key, profile, held, rfl⟩ := names.agentAuthority authority named
    obtain ⟨profile', held', same⟩ := kept.agents key profile held
    exact ⟨key, profile', held', (Prod.mk.inj same).2⟩
  agentProfile key named := by
    obtain ⟨profile, held⟩ := Option.ne_none_iff_exists'.mp (names.agentProfile key named)
    obtain ⟨profile', held', -⟩ := kept.agents key profile held
    simp [held']
  serviceAuthority authority named := by
    obtain ⟨key, registry, held, rfl⟩ := names.serviceAuthority authority named
    obtain ⟨registry', held', same⟩ := kept.services key registry held
    exact ⟨key, registry', held', same⟩
  serviceRegistry key named := by
    obtain ⟨registry, held⟩ := Option.ne_none_iff_exists'.mp (names.serviceRegistry key named)
    obtain ⟨registry', held', -⟩ := kept.services key registry held
    simp [held']

end Instructions

/-! ### All accounts of a world -/

variable [AddressSpace K] {w w' : World K} {events : List (ReputationEvent K)}
  {ev : ReputationEvent K}

structure EventBooks (w : World K) (events : List (ReputationEvent K)) : Prop where
  agents : ∀ key profile, w.agents key = some profile → AgentRecorded key profile events
  services : ∀ key registry, w.services key = some registry → ServiceRecorded key registry events
  names : ∀ ev ∈ events, Names w ev

theorem Genesis.eventBooks (genesis : Genesis w) : EventBooks w [] where
  agents key profile present := by
    rw [(genesis.vacant key).1] at present
    cases present
  services key registry present := by
    rw [(genesis.vacant key).2.1] at present
    cases present
  names := by simp

theorem EventBooks.handled {ix : Instruction K} (books : EventBooks w events) (wf : WellFormed w)
    (handled : ix.handler w = .ok (w', ev)) : EventBooks w' (events ++ [ev]) where
  agents key profile' held := by
    rcases handler_agents wf handled held with
      ⟨ctx, agentUri, externalAgentId, rfl, rfl, absent, rfl, rfl⟩ | ⟨profile, before, reports⟩
    · refine .create ctx.agent.canSign ?_ ⟨rfl, rfl, rfl, rfl, rfl⟩
      -- A profile with the same key would be at the address that was vacant.
      intro e member named
      obtain ⟨u, other, present, same⟩ := (books.names e member).agentAuthority _ named
      have address := (wf.agents u other present).1
      have created := ((ctx.handler_ok wf).mp handled).1
      rw [AgentProfile.seeds, same] at address
      rw [address] at present
      rw [created] at absent
      exact absurd (absent.symm.trans present) (by simp)
    · exact (books.agents key profile before).report reports
  services key registry' held := by
    rcases handler_services wf handled held with
      ⟨ctx, name, category, serviceUri, rfl, rfl, absent, rfl, rfl⟩ | ⟨registry, before, reports⟩
    · refine .create ctx.service.canSign ctx.sponsor.key ?_ ?_ rfl
      · intro e member named
        obtain ⟨u, other, present, same⟩ := (books.names e member).serviceAuthority _ named
        have address := (wf.services u other present).1
        have created := ((ctx.handler_ok wf).mp handled).1
        rw [ServiceRegistry.seeds, same] at address
        rw [address] at present
        rw [created] at absent
        exact absurd (absent.symm.trans present) (by simp)
      · intro e member
        have unnamed : e.serviceRegistry ≠ some ctx.serviceRegistry :=
          fun named => (books.names e member).serviceRegistry _ named absent
        cases e <;> simp_all [ReputationEvent.newActive, ReputationEvent.serviceRegistry]
    · exact (books.services key registry before).report reports
  names e member := by
    have fired : step w (.program ix) = .ok w' := by
      rw [step, handled]
      rfl
    rcases List.mem_append.mp member with earlier | here
    · exact (books.names e earlier).persists (step_persists wf fired)
    · rw [List.mem_singleton.mp here]
      exact handler_names wf handled

end AgentFuel.Reputation
