import AgentFuel.Library.Transition
import AgentFuel.Reputation.Score

/-!
# The instructions of the reputation program

As for the vault program, each instruction has its account list, the validation Anchor
generates for it (`tryAccounts`) and its `handler`. A failed instruction leaves no trace.
-/
namespace AgentFuel.Reputation

open Checked Solana

variable {K : Type} [DecidableEq K] [AddressSpace K]

/-! ### Constraints several instructions share -/

/-- `seeds = [b"agent", agent_profile.authority], bump = agent_profile.bump` -/
def requireAgentSeeds (key : K) (profile : AgentProfile K) : Except ProgramError Unit :=
  require (key = createProgramAddress (.agent profile.authority) profile.bump)
    (.anchor .constraintSeeds)

/-- `seeds = [b"service", service.key()], bump = service_registry.bump` -/
def requireServiceSeeds (service key : K) (registry : ServiceRegistry K) :
    Except ProgramError Unit :=
  require (key = createProgramAddress (.service service) registry.bump) (.anchor .constraintSeeds)

/-- `seeds = [b"feedback", payment_receipt_hash], bump = feedback_record.bump` -/
def requireFeedbackSeeds (hash : Hash) (key : K) (feedback : FeedbackRecord K) :
    Except ProgramError Unit :=
  require (key = createProgramAddress (.feedback hash) feedback.bump) (.anchor .constraintSeeds)

/-- `init` with seeds: the derived address, not yet in use. -/
def requireInit (w : World K) (key : K) (seeds : Seeds K) : Except ProgramError Unit := do
  require (key = findProgramAddress seeds) (.anchor .constraintSeeds)
  require (w.Vacant key) (.anchor .accountAlreadyInUse)

/-- A link account as `init_if_needed` creates it: all bytes zero. -/
def zeroLink : AgentServiceLink K := { agent := defaultKey, service := defaultKey }

/-- `init_if_needed`: the stored link, or a new one. -/
def initIfNeeded (w : World K) (key : K) (seeds : Seeds K) :
    Except ProgramError (AgentServiceLink K) :=
  match w.links key with
  | some link => do
    require (key = findProgramAddress seeds) (.anchor .constraintSeeds)
    pure link
  | none => do
    requireInit w key seeds
    pure zeroLink

def overflow : ProgramError := .reputation .overflow

section Specification

variable (w : World K) (service key : K) (hash : Hash) (seeds : Seeds K) (profile : AgentProfile K)
  (registry : ServiceRegistry K) (feedback : FeedbackRecord K) (link : AgentServiceLink K)
  (u : Unit)

@[simp] theorem requireAgentSeeds_eq_ok :
    requireAgentSeeds key profile = .ok u ↔
      key = createProgramAddress (.agent profile.authority) profile.bump := by
  simp [requireAgentSeeds]

@[simp] theorem requireServiceSeeds_eq_ok :
    requireServiceSeeds service key registry = .ok u ↔
      key = createProgramAddress (.service service) registry.bump := by
  simp [requireServiceSeeds]

@[simp] theorem requireFeedbackSeeds_eq_ok :
    requireFeedbackSeeds hash key feedback = .ok u ↔
      key = createProgramAddress (.feedback hash) feedback.bump := by
  simp [requireFeedbackSeeds]

@[simp] theorem requireInit_eq_ok :
    requireInit w key seeds = .ok u ↔ key = findProgramAddress seeds ∧ w.Vacant key := by
  simp [requireInit]

@[simp] theorem initIfNeeded_eq_ok :
    initIfNeeded w key seeds = .ok link ↔
      key = findProgramAddress seeds ∧ (w.links key = none → w.Vacant key) ∧
        (w.links key).getD zeroLink = link := by
  unfold initIfNeeded
  split
  next stored held => simp [held]
  next absent => simp [absent, and_assoc]

end Specification

/-! ### initialize_agent -/

structure InitializeAgent (K : Type) [AddressSpace K] where
  owner : Signer K
  agent : Signer K
  agentProfile : K

def InitializeAgent.tryAccounts (ctx : InitializeAgent K) (w : World K) :
    Except ProgramError Unit :=
  requireInit w ctx.agentProfile (.agent ctx.agent.key)

def InitializeAgent.handler (ctx : InitializeAgent K) (w : World K) (agentUri : Bytes 128)
    (externalAgentId : Nat) : Except ProgramError (World K × ReputationEvent K) := do
  ctx.tryAccounts w
  let profile : AgentProfile K :=
    { authority := ctx.agent.key
      owner := ctx.owner.key
      agentUri, externalAgentId
      firstActiveSlot := w.slot
      lastActiveSlot := w.slot
      bump := canonicalBump (.agent ctx.agent.key) }
  pure (w.setAgent ctx.agentProfile profile,
    .agentInitialized ctx.agent.key ctx.owner.key w.slot)

/-! ### register_service -/

structure RegisterService (K : Type) [AddressSpace K] where
  sponsor : Signer K
  service : Signer K
  serviceRegistry : K

def RegisterService.tryAccounts (ctx : RegisterService K) (w : World K) :
    Except ProgramError Unit :=
  requireInit w ctx.serviceRegistry (.service ctx.service.key)

def RegisterService.handler (ctx : RegisterService K) (w : World K) (name : Bytes 32)
    (category : ServiceCategory) (serviceUri : Bytes 128) :
    Except ProgramError (World K × ReputationEvent K) := do
  ctx.tryAccounts w
  let registry : ServiceRegistry K :=
    { authority := ctx.service.key
      name, serviceUri, category
      active := true
      firstActiveSlot := w.slot
      lastActiveSlot := w.slot
      bump := canonicalBump (.service ctx.service.key) }
  pure (w.setService ctx.serviceRegistry registry,
    .serviceRegistered ctx.service.key ctx.sponsor.key name category w.slot)

/-! ### set_service_active -/

structure SetServiceActive (K : Type) [AddressSpace K] where
  service : Signer K
  serviceRegistry : K
  authority : K

def SetServiceActive.tryAccounts (ctx : SetServiceActive K) (w : World K) :
    Except ProgramError (ServiceRegistry K) := do
  let registry ← w.loadService ctx.serviceRegistry
  requireServiceSeeds ctx.service.key ctx.serviceRegistry registry
  require (registry.authority = ctx.authority) (.reputation .unauthorizedService)
  pure registry

def SetServiceActive.handler (ctx : SetServiceActive K) (w : World K) (active : Bool) :
    Except ProgramError (World K × ReputationEvent K) := do
  let registry ← ctx.tryAccounts w
  pure (w.setService ctx.serviceRegistry { registry with active, lastActiveSlot := w.slot },
    .serviceActiveSet ctx.serviceRegistry active w.slot)

/-! ### record_payment -/

structure RecordPayment (K : Type) [AddressSpace K] where
  service : Signer K
  agentProfile : K
  serviceRegistry : K
  agentServiceLink : K
  receiptUsed : K

def RecordPayment.tryAccounts (ctx : RecordPayment K) (w : World K) (paymentReceiptHash : Hash) :
    Except ProgramError (AgentProfile K × ServiceRegistry K × AgentServiceLink K) := do
  let profile ← w.loadAgent ctx.agentProfile
  let registry ← w.loadService ctx.serviceRegistry
  let link ← initIfNeeded w ctx.agentServiceLink (.link ctx.agentProfile ctx.serviceRegistry)
  requireInit w ctx.receiptUsed (.receipt paymentReceiptHash)
  requireAgentSeeds ctx.agentProfile profile
  requireServiceSeeds ctx.service.key ctx.serviceRegistry registry
  pure (profile, registry, link)

/-- The names a new link is given. -/
def RecordPayment.nameLink (ctx : RecordPayment K) (slot : Nat) (link : AgentServiceLink K)
    (isNewPair : Bool) : AgentServiceLink K :=
  if isNewPair then
    { link with
      agent := ctx.agentProfile
      service := ctx.serviceRegistry
      firstPaymentSlot := slot
      bump := canonicalBump (.link ctx.agentProfile ctx.serviceRegistry) }
  else link

/-- What a first payment between an agent and a service adds. -/
def recordNewPair (profile : AgentProfile K) (registry : ServiceRegistry K) (isNewPair : Bool) :
    Except ProgramError (AgentProfile K × ServiceRegistry K) :=
  if isNewPair then do
    let servicesUsed ← okOr (checkedAdd 16 profile.servicesUsed 1) overflow
    let totalAgentsServed ← okOr (checkedAdd 64 registry.totalAgentsServed 1) overflow
    pure ({ profile with servicesUsed }, { registry with totalAgentsServed })
  else pure (profile, registry)

omit [DecidableEq K] [AddressSpace K] in
@[simp] theorem recordNewPair_eq_ok (profile profile' : AgentProfile K)
    (registry registry' : ServiceRegistry K) (isNewPair : Bool) :
    recordNewPair profile registry isNewPair = .ok (profile', registry') ↔
      (isNewPair = true →
        profile.servicesUsed + 1 < 2 ^ 16 ∧ registry.totalAgentsServed + 1 < 2 ^ 64) ∧
      { profile with servicesUsed := profile.servicesUsed + isNewPair.toNat } = profile' ∧
      { registry with totalAgentsServed := registry.totalAgentsServed + isNewPair.toNat } =
        registry' := by
  cases isNewPair <;> simp [recordNewPair, and_assoc]

def RecordPayment.handler (ctx : RecordPayment K) (w : World K) (amountUsdc : Nat)
    (paymentReceiptHash : Hash) : Except ProgramError (World K × ReputationEvent K) := do
  let (profile, registry, link) ← ctx.tryAccounts w paymentReceiptHash
  require (0 < amountUsdc) (.reputation .zeroAmount)
  require (registry.active = true) (.reputation .serviceInactive)
  -- `init_if_needed` leaves a new link zeroed, so the zero key marks a first payment.
  let isNewPair := decide (link.agent = defaultKey)
  let link := ctx.nameLink w.slot link isNewPair
  let (profile, registry) ← recordNewPair profile registry isNewPair
  -- The counters of the profile are shared by all services.
  let totalTransactions ← okOr (checkedAdd 64 profile.totalTransactions 1) overflow
  let totalVolumeUsdc ← okOr (checkedAdd 64 profile.totalVolumeUsdc amountUsdc) overflow
  let consecutiveSuccess ← okOr (checkedAdd 32 profile.consecutiveSuccess 1) overflow
  let profile := { profile with
    totalTransactions, totalVolumeUsdc, consecutiveSuccess, lastActiveSlot := w.slot }
  let totalVolumeReceivedUsdc ←
    okOr (checkedAdd 64 registry.totalVolumeReceivedUsdc amountUsdc) overflow
  let registry := { registry with totalVolumeReceivedUsdc, lastActiveSlot := w.slot }
  let linkTransactions ← okOr (checkedAdd 64 link.totalTransactions 1) overflow
  let linkVolumeUsdc ← okOr (checkedAdd 64 link.totalVolumeUsdc amountUsdc) overflow
  let link := { link with
    totalTransactions := linkTransactions
    totalVolumeUsdc := linkVolumeUsdc
    lastPaymentSlot := w.slot }
  let receipt : ReceiptUsed K :=
    { receiptHash := paymentReceiptHash
      agentServiceLink := ctx.agentServiceLink
      recordedSlot := w.slot
      bump := canonicalBump (K := K) (.receipt paymentReceiptHash) }
  pure ((((w.setAgent ctx.agentProfile profile).setService ctx.serviceRegistry registry).setLink
      ctx.agentServiceLink link).setReceipt ctx.receiptUsed receipt,
    .paymentRecorded profile.authority ctx.serviceRegistry amountUsdc paymentReceiptHash isNewPair
      w.slot)

/-! ### give_feedback -/

structure GiveFeedback (K : Type) [AddressSpace K] where
  service : Signer K
  agentProfile : K
  serviceRegistry : K
  agentServiceLink : K
  receiptUsed : K
  feedbackRecord : K

def GiveFeedback.tryAccounts (ctx : GiveFeedback K) (w : World K) (paymentReceiptHash : Hash) :
    Except ProgramError (AgentProfile K × ServiceRegistry K × AgentServiceLink K × ReceiptUsed K) := do
  let profile ← w.loadAgent ctx.agentProfile
  let registry ← w.loadService ctx.serviceRegistry
  let link ← w.loadLink ctx.agentServiceLink
  let receipt ← w.loadReceipt ctx.receiptUsed
  requireInit w ctx.feedbackRecord (.feedback paymentReceiptHash)
  requireAgentSeeds ctx.agentProfile profile
  require (ctx.service.key ≠ profile.owner) (.reputation .selfRating)
  require (ctx.service.key ≠ profile.authority) (.reputation .selfRating)
  requireServiceSeeds ctx.service.key ctx.serviceRegistry registry
  require (ctx.agentServiceLink =
    createProgramAddress (.link ctx.agentProfile ctx.serviceRegistry) link.bump)
    (.anchor .constraintSeeds)
  require (ctx.receiptUsed = createProgramAddress (.receipt paymentReceiptHash) receipt.bump)
    (.anchor .constraintSeeds)
  pure (profile, registry, link, receipt)

/-- What a negative value adds to a profile. -/
def recordNegative (profile : AgentProfile K) (value : Int) :
    Except ProgramError (AgentProfile K) :=
  if value < 0 then do
    -- A complaint also ends the streak.
    let activeNegativeFeedbackCount ←
      okOr (checkedAdd 32 profile.activeNegativeFeedbackCount 1) overflow
    pure { profile with activeNegativeFeedbackCount, consecutiveSuccess := 0 }
  else pure profile

omit [DecidableEq K] [AddressSpace K] in
@[simp] theorem recordNegative_eq_ok (profile profile' : AgentProfile K) (value : Int) :
    recordNegative profile value = .ok profile' ↔
      (value < 0 → profile.activeNegativeFeedbackCount + 1 < 2 ^ 32) ∧
      (if value < 0 then
          { profile with
            activeNegativeFeedbackCount := profile.activeNegativeFeedbackCount + 1
            consecutiveSuccess := 0 }
        else profile) = profile' := by
  unfold recordNegative
  split <;> simp [*]

def GiveFeedback.handler (ctx : GiveFeedback K) (w : World K) (paymentReceiptHash : Hash)
    (value : Int) (tags : Nat) (evidenceUri : Bytes 128) (evidenceHash : Hash) :
    Except ProgramError (World K × ReputationEvent K) := do
  let (profile, registry, link, receipt) ← ctx.tryAccounts w paymentReceiptHash
  require (valueMin ≤ value ∧ value ≤ valueMax) (.reputation .invalidFeedbackValue)
  require (receipt.agentServiceLink = ctx.agentServiceLink) (.reputation .receiptMismatch)
  -- The flag tells "never" from "at slot 0".
  requireWhen (link.hasReceivedFeedback = true)
    (feedbackRateLimitSlots ≤ w.slot - link.lastFeedbackSlot) (.reputation .feedbackRateLimited)
  let link := { link with lastFeedbackSlot := w.slot, hasReceivedFeedback := true }
  let feedback : FeedbackRecord K :=
    { agentProfile := ctx.agentProfile
      serviceRegistry := ctx.serviceRegistry
      paymentReceiptHash, value, tags, evidenceUri, evidenceHash
      createdSlot := w.slot
      lastModifiedSlot := w.slot
      bump := canonicalBump (K := K) (.feedback paymentReceiptHash) }
  let totalFeedbackCount ← okOr (checkedAdd 32 profile.totalFeedbackCount 1) overflow
  let profile ← recordNegative { profile with totalFeedbackCount } value
  let profile := { profile with lastActiveSlot := w.slot }
  let registry := { registry with lastActiveSlot := w.slot }
  pure ((((w.setAgent ctx.agentProfile profile).setService ctx.serviceRegistry registry).setLink
      ctx.agentServiceLink link).setFeedback ctx.feedbackRecord feedback,
    .feedbackGiven ctx.agentProfile ctx.serviceRegistry ctx.feedbackRecord paymentReceiptHash value
      tags w.slot)

/-! ### append_response -/

structure AppendResponse (K : Type) [AddressSpace K] where
  responder : Signer K
  agentProfile : K
  feedbackRecord : K

def AppendResponse.tryAccounts (ctx : AppendResponse K) (w : World K)
    (paymentReceiptHash : Hash) :
    Except ProgramError (AgentProfile K × FeedbackRecord K) := do
  let profile ← w.loadAgent ctx.agentProfile
  let feedback ← w.loadFeedback ctx.feedbackRecord
  requireAgentSeeds ctx.agentProfile profile
  require (ctx.responder.key = profile.owner ∨ ctx.responder.key = profile.authority)
    (.reputation .unauthorizedResponder)
  requireFeedbackSeeds paymentReceiptHash ctx.feedbackRecord feedback
  require (feedback.agentProfile = ctx.agentProfile) (.anchor .constraintHasOne)
  pure (profile, feedback)

def AppendResponse.handler (ctx : AppendResponse K) (w : World K) (paymentReceiptHash : Hash)
    (responseUri : Bytes 128) (responseHash : Hash) :
    Except ProgramError (World K × ReputationEvent K) := do
  let (profile, feedback) ← ctx.tryAccounts w paymentReceiptHash
  require (feedback.hasResponse = false) (.reputation .alreadyHasResponse)
  let feedback := { feedback with
    responseUri, responseHash, hasResponse := true, lastModifiedSlot := w.slot }
  let profile := { profile with lastActiveSlot := w.slot }
  pure ((w.setAgent ctx.agentProfile profile).setFeedback ctx.feedbackRecord feedback,
    .responseAppended ctx.agentProfile ctx.feedbackRecord ctx.responder.key w.slot)

/-! ### revoke_feedback -/

structure RevokeFeedback (K : Type) [AddressSpace K] where
  service : Signer K
  agentProfile : K
  serviceRegistry : K
  feedbackRecord : K

def RevokeFeedback.tryAccounts (ctx : RevokeFeedback K) (w : World K)
    (paymentReceiptHash : Hash) :
    Except ProgramError (AgentProfile K × ServiceRegistry K × FeedbackRecord K) := do
  let profile ← w.loadAgent ctx.agentProfile
  let registry ← w.loadService ctx.serviceRegistry
  let feedback ← w.loadFeedback ctx.feedbackRecord
  requireAgentSeeds ctx.agentProfile profile
  requireServiceSeeds ctx.service.key ctx.serviceRegistry registry
  requireFeedbackSeeds paymentReceiptHash ctx.feedbackRecord feedback
  require (feedback.agentProfile = ctx.agentProfile) (.anchor .constraintHasOne)
  require (feedback.serviceRegistry = ctx.serviceRegistry) (.anchor .constraintHasOne)
  pure (profile, registry, feedback)

/-- What the revocation of a negative value takes off a profile. -/
def revokeNegative (profile : AgentProfile K) (wasNegative : Bool) :
    Except ProgramError (AgentProfile K) :=
  if wasNegative then do
    let activeNegativeFeedbackCount ←
      okOr (checkedSub profile.activeNegativeFeedbackCount 1) overflow
    pure { profile with activeNegativeFeedbackCount }
  else pure profile

omit [DecidableEq K] [AddressSpace K] in
@[simp] theorem revokeNegative_eq_ok (profile profile' : AgentProfile K) (wasNegative : Bool) :
    revokeNegative profile wasNegative = .ok profile' ↔
      (wasNegative = true → 1 ≤ profile.activeNegativeFeedbackCount) ∧
      { profile with
        activeNegativeFeedbackCount := profile.activeNegativeFeedbackCount - wasNegative.toNat } =
        profile' := by
  cases wasNegative <;> simp [revokeNegative]

def RevokeFeedback.handler (ctx : RevokeFeedback K) (w : World K) (paymentReceiptHash : Hash) :
    Except ProgramError (World K × ReputationEvent K) := do
  let (profile, registry, feedback) ← ctx.tryAccounts w paymentReceiptHash
  require (feedback.revoked = false) (.reputation .alreadyRevoked)
  let wasNegative := decide (feedback.value < 0)
  let feedback := { feedback with revoked := true, lastModifiedSlot := w.slot }
  let profile ← revokeNegative profile wasNegative
  let profile := { profile with lastActiveSlot := w.slot }
  let registry := { registry with lastActiveSlot := w.slot }
  pure (((w.setAgent ctx.agentProfile profile).setService ctx.serviceRegistry registry).setFeedback
      ctx.feedbackRecord feedback,
    .feedbackRevoked ctx.agentProfile ctx.serviceRegistry ctx.feedbackRecord wasNegative w.slot)

/-! ### compute_score -/

structure ComputeScore (K : Type) [AddressSpace K] where
  caller : Signer K
  agentProfile : K

def ComputeScore.tryAccounts (ctx : ComputeScore K) (w : World K) :
    Except ProgramError (AgentProfile K) := do
  let profile ← w.loadAgent ctx.agentProfile
  requireAgentSeeds ctx.agentProfile profile
  pure profile

def ComputeScore.handler (ctx : ComputeScore K) (w : World K) :
    Except ProgramError (World K × ReputationEvent K) := do
  let profile ← ctx.tryAccounts w
  let score := compute profile w.slot
  let profile := { profile with reputationScore := score, lastActiveSlot := w.slot }
  pure (w.setAgent ctx.agentProfile profile, .scoreComputed profile.authority score w.slot)

/-! ### The program -/

inductive Instruction (K : Type) [AddressSpace K] where
  | initializeAgent (ctx : InitializeAgent K) (agentUri : Bytes 128) (externalAgentId : Nat)
  | registerService (ctx : RegisterService K) (name : Bytes 32) (category : ServiceCategory)
      (serviceUri : Bytes 128)
  | setServiceActive (ctx : SetServiceActive K) (active : Bool)
  | recordPayment (ctx : RecordPayment K) (amountUsdc : Nat) (paymentReceiptHash : Hash)
  | giveFeedback (ctx : GiveFeedback K) (paymentReceiptHash : Hash) (value : Int) (tags : Nat)
      (evidenceUri : Bytes 128) (evidenceHash : Hash)
  | appendResponse (ctx : AppendResponse K) (paymentReceiptHash : Hash) (responseUri : Bytes 128)
      (responseHash : Hash)
  | revokeFeedback (ctx : RevokeFeedback K) (paymentReceiptHash : Hash)
  | computeScore (ctx : ComputeScore K)

def Instruction.handler (w : World K) :
    Instruction K → Except ProgramError (World K × ReputationEvent K)
  | initializeAgent ctx agentUri externalAgentId => ctx.handler w agentUri externalAgentId
  | registerService ctx name category serviceUri => ctx.handler w name category serviceUri
  | setServiceActive ctx active => ctx.handler w active
  | recordPayment ctx amountUsdc hash => ctx.handler w amountUsdc hash
  | giveFeedback ctx hash value tags evidenceUri evidenceHash =>
    ctx.handler w hash value tags evidenceUri evidenceHash
  | appendResponse ctx hash responseUri responseHash => ctx.handler w hash responseUri responseHash
  | revokeFeedback ctx hash => ctx.handler w hash
  | computeScore ctx => ctx.handler w

/-- An instruction of the program, or the clock moving on. -/
inductive Action (K : Type) [AddressSpace K] where
  | program (ix : Instruction K)
  | advance (slots : Nat)

def step (w : World K) : Action K → Except ProgramError (World K)
  | .program ix => Prod.fst <$> ix.handler w
  | .advance slots => .ok { w with slot := w.slot + slots }

/-- Before the program has run it owns no account. -/
structure Genesis (w : World K) : Prop where
  vacant : ∀ k, w.Vacant k

abbrev Step (K : Type) [AddressSpace K] := Transition.Fired (World K) (Action K)

abbrev Run (w : World K) (log : List (Step K)) (w' : World K) : Prop :=
  Transition.Run step w log w'

/-- The states some run reaches from a world without accounts. -/
def Reachable (w : World K) : Prop := ∃ w₀ log, Genesis w₀ ∧ Run w₀ log w

end AgentFuel.Reputation
