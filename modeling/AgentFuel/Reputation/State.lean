import AgentFuel.Library.Checked
import AgentFuel.Solana.Address
import Mathlib.Logic.Function.Basic

/-!
# Accounts, errors and events of the reputation program

Account records hold every field of the source but the padding. Counters are natural numbers,
and every addition the program checks is a `checkedAdd` of the field's width.
-/
namespace AgentFuel.Reputation

open Checked Solana

/-- A padded string field of an account. -/
abbrev Bytes (n : Nat) := Vector UInt8 n

inductive ServiceCategory where
  | dataFeed
  | compute
  | swap
  | rpc
  | other
  deriving DecidableEq, Repr

structure ServiceRegistry (K : Type) where
  authority : K
  name : Bytes 32
  serviceUri : Bytes 128
  category : ServiceCategory
  totalAgentsServed : Nat := 0
  totalVolumeReceivedUsdc : Nat := 0
  active : Bool
  firstActiveSlot : Nat
  lastActiveSlot : Nat
  bump : UInt8
  deriving DecidableEq

structure AgentProfile (K : Type) where
  authority : K
  owner : K
  agentUri : Bytes 128
  externalAgentId : Nat
  totalTransactions : Nat := 0
  totalVolumeUsdc : Nat := 0
  consecutiveSuccess : Nat := 0
  totalFeedbackCount : Nat := 0
  activeNegativeFeedbackCount : Nat := 0
  servicesUsed : Nat := 0
  firstActiveSlot : Nat
  lastActiveSlot : Nat
  reputationScore : Nat := 0
  bump : UInt8
  deriving DecidableEq

structure AgentServiceLink (K : Type) where
  agent : K
  service : K
  totalTransactions : Nat := 0
  totalVolumeUsdc : Nat := 0
  firstPaymentSlot : Nat := 0
  lastPaymentSlot : Nat := 0
  lastFeedbackSlot : Nat := 0
  hasReceivedFeedback : Bool := false
  bump : UInt8 := 0
  deriving DecidableEq

structure ReceiptUsed (K : Type) where
  receiptHash : Hash
  agentServiceLink : K
  recordedSlot : Nat
  bump : UInt8
  deriving DecidableEq

structure FeedbackRecord (K : Type) where
  agentProfile : K
  serviceRegistry : K
  paymentReceiptHash : Hash
  value : Int
  tags : Nat
  evidenceUri : Bytes 128
  evidenceHash : Hash
  responseUri : Bytes 128 := Vector.replicate 128 0
  responseHash : Hash := Vector.replicate 32 0
  hasResponse : Bool := false
  revoked : Bool := false
  createdSlot : Nat
  lastModifiedSlot : Nat
  bump : UInt8
  deriving DecidableEq

/-- `FeedbackRecord::VALUE_MIN` -/
def valueMin : Int := -100

/-- `FeedbackRecord::VALUE_MAX` -/
def valueMax : Int := 100

/-- `FeedbackRecord::FEEDBACK_RATE_LIMIT_SLOTS` -/
def feedbackRateLimitSlots : Nat := 216000

inductive ReputationError where
  | overflow
  | serviceInactive
  | zeroAmount
  | selfRating
  | receiptMismatch
  | invalidFeedbackValue
  | unauthorizedResponder
  | alreadyHasResponse
  | alreadyRevoked
  | feedbackRateLimited
  | unauthorizedService
  deriving DecidableEq, Repr

inductive ProgramError where
  | reputation (e : ReputationError)
  | anchor (e : AnchorError)
  deriving DecidableEq, Repr

inductive ReputationEvent (K : Type) where
  | agentInitialized (agent owner : K) (initSlot : Nat)
  | serviceRegistered (service sponsor : K) (name : Bytes 32) (category : ServiceCategory)
      (initSlot : Nat)
  | serviceActiveSet (service : K) (active : Bool) (slot : Nat)
  | paymentRecorded (agent service : K) (amountUsdc : Nat) (paymentReceiptHash : Hash)
      (wasNewPair : Bool) (slot : Nat)
  | feedbackGiven (agent service feedback : K) (paymentReceiptHash : Hash) (value : Int)
      (tags slot : Nat)
  | responseAppended (agent feedback responder : K) (slot : Nat)
  | feedbackRevoked (agent service feedback : K) (wasNegative : Bool) (slot : Nat)
  | scoreComputed (agent : K) (score slot : Nat)
  deriving DecidableEq

/-- The clock and the accounts of the program, by type and address. -/
@[ext] structure World (K : Type) where
  slot : Nat
  agents : K → Option (AgentProfile K)
  services : K → Option (ServiceRegistry K)
  links : K → Option (AgentServiceLink K)
  receipts : K → Option (ReceiptUsed K)
  feedbacks : K → Option (FeedbackRecord K)

namespace World

variable {K : Type} (w : World K) (key : K)

def loadAgent : Except ProgramError (AgentProfile K) :=
  okOr (w.agents key) (.anchor .accountNotInitialized)

def loadService : Except ProgramError (ServiceRegistry K) :=
  okOr (w.services key) (.anchor .accountNotInitialized)

def loadLink : Except ProgramError (AgentServiceLink K) :=
  okOr (w.links key) (.anchor .accountNotInitialized)

def loadReceipt : Except ProgramError (ReceiptUsed K) :=
  okOr (w.receipts key) (.anchor .accountNotInitialized)

def loadFeedback : Except ProgramError (FeedbackRecord K) :=
  okOr (w.feedbacks key) (.anchor .accountNotInitialized)

@[simp] theorem loadAgent_eq_ok (profile : AgentProfile K) :
    w.loadAgent key = .ok profile ↔ w.agents key = some profile :=
  okOr_eq_ok _ _ _

@[simp] theorem loadService_eq_ok (registry : ServiceRegistry K) :
    w.loadService key = .ok registry ↔ w.services key = some registry :=
  okOr_eq_ok _ _ _

@[simp] theorem loadLink_eq_ok (link : AgentServiceLink K) :
    w.loadLink key = .ok link ↔ w.links key = some link :=
  okOr_eq_ok _ _ _

@[simp] theorem loadReceipt_eq_ok (receipt : ReceiptUsed K) :
    w.loadReceipt key = .ok receipt ↔ w.receipts key = some receipt :=
  okOr_eq_ok _ _ _

@[simp] theorem loadFeedback_eq_ok (feedback : FeedbackRecord K) :
    w.loadFeedback key = .ok feedback ↔ w.feedbacks key = some feedback :=
  okOr_eq_ok _ _ _

/-- An address at which `init` can create an account. -/
def Vacant : Prop :=
  w.agents key = none ∧ w.services key = none ∧ w.links key = none ∧ w.receipts key = none ∧
    w.feedbacks key = none

instance : Decidable (w.Vacant key) :=
  inferInstanceAs (Decidable (_ ∧ _ ∧ _ ∧ _ ∧ _))

variable [DecidableEq K]

@[simps -fullyApplied] def setAgent (profile : AgentProfile K) : World K :=
  { w with agents := Function.update w.agents key (some profile) }

@[simps -fullyApplied] def setService (registry : ServiceRegistry K) : World K :=
  { w with services := Function.update w.services key (some registry) }

@[simps -fullyApplied] def setLink (link : AgentServiceLink K) : World K :=
  { w with links := Function.update w.links key (some link) }

@[simps -fullyApplied] def setReceipt (receipt : ReceiptUsed K) : World K :=
  { w with receipts := Function.update w.receipts key (some receipt) }

@[simps -fullyApplied] def setFeedback (feedback : FeedbackRecord K) : World K :=
  { w with feedbacks := Function.update w.feedbacks key (some feedback) }

end World
end AgentFuel.Reputation
