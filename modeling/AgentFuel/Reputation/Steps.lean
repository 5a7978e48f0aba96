import AgentFuel.Reputation.Instructions

/-!
# What an instruction does to a well-formed world

Every account sits at the address its own fields derive, with the canonical bump. For each
instruction, exactly when it succeeds there and what it writes.
-/
namespace AgentFuel.Reputation

open Checked Solana

variable {K : Type} [AddressSpace K]

/-! ### Where accounts are -/

/-- Accounts of one type, each at the address of its own seeds and with the canonical bump. -/
def Placed {A : Type} (accounts : K → Option A) (seeds : A → Seeds K) (bump : A → UInt8) : Prop :=
  ∀ key a, accounts key = some a → key = findProgramAddress (seeds a) ∧
    bump a = canonicalBump (seeds a)

section Placed

variable {A : Type} {accounts : K → Option A} {seeds : A → Seeds K} {bump : A → UInt8} {key : K}
  {a : A} {s : Seeds K}

theorem Placed.seeds_iff (placed : Placed accounts seeds bump) (held : accounts key = some a) :
    key = createProgramAddress s (bump a) ↔ s = seeds a := by
  obtain ⟨address, canonical⟩ := placed key a held
  rw [address, canonical, findProgramAddress, createProgramAddress_inj]
  exact ⟨fun same => same.1.symm, by rintro rfl; exact ⟨rfl, rfl⟩⟩

theorem Placed.absent (placed : Placed accounts seeds bump) (other : ∀ a, seeds a ≠ s) :
    accounts (findProgramAddress s) = none := by
  by_contra held
  obtain ⟨a, held⟩ := Option.ne_none_iff_exists'.mp held
  exact other a ((findProgramAddress_inj _ _).mp (placed _ a held).1).symm

theorem Placed.update [DecidableEq K] (placed : Placed accounts seeds bump)
    (address : key = findProgramAddress (seeds a)) (canonical : bump a = canonicalBump (seeds a)) :
    Placed (Function.update accounts key (some a)) seeds bump := by
  intro k b present
  rw [Function.update_apply] at present
  split at present
  next written =>
    obtain rfl := Option.some.inj present
    exact ⟨written.trans address, canonical⟩
  · exact placed k b present

end Placed

@[simp] def AgentProfile.seeds (profile : AgentProfile K) : Seeds K := .agent profile.authority

@[simp] def ServiceRegistry.seeds (registry : ServiceRegistry K) : Seeds K := .service registry.authority

@[simp] def AgentServiceLink.seeds (link : AgentServiceLink K) : Seeds K := .link link.agent link.service

@[simp] def ReceiptUsed.seeds (receipt : ReceiptUsed K) : Seeds K := .receipt receipt.receiptHash

@[simp] def FeedbackRecord.seeds (feedback : FeedbackRecord K) : Seeds K :=
  .feedback feedback.paymentReceiptHash

structure WellFormed (w : World K) : Prop where
  agents : Placed w.agents AgentProfile.seeds AgentProfile.bump
  services : Placed w.services ServiceRegistry.seeds ServiceRegistry.bump
  links : Placed w.links AgentServiceLink.seeds AgentServiceLink.bump
  receipts : Placed w.receipts ReceiptUsed.seeds ReceiptUsed.bump
  feedbacks : Placed w.feedbacks FeedbackRecord.seeds FeedbackRecord.bump
  linked : ∀ key link, w.links key = some link →
    w.agents link.agent ≠ none ∧ w.services link.service ≠ none

/-- The address holds no account of the kind the seeds name. -/
def World.Unheld (w : World K) (key : K) : Seeds K → Prop
  | .agent _ => w.agents key = none
  | .service _ => w.services key = none
  | .link _ _ => w.links key = none
  | .receipt _ => w.receipts key = none
  | .feedback _ => w.feedbacks key = none
  | .vault .. | .policy .. | .pending .. | .associatedToken .. => True

variable {w w' : World K}

theorem Genesis.wellFormed (genesis : Genesis w) : WellFormed w where
  agents key _ present := by simp [(genesis.vacant key).1] at present
  services key _ present := by simp [(genesis.vacant key).2.1] at present
  links key _ present := by simp [(genesis.vacant key).2.2.1] at present
  receipts key _ present := by simp [(genesis.vacant key).2.2.2.1] at present
  feedbacks key _ present := by simp [(genesis.vacant key).2.2.2.2] at present
  linked key _ present := by simp [(genesis.vacant key).2.2.1] at present

section WellFormed

variable {key : K} {link : AgentServiceLink K} (wf : WellFormed w)
include wf

/-- At a derived address only an account of the kind its seeds name can be in the way. -/
theorem WellFormed.vacant_iff {seeds : Seeds K} (address : key = findProgramAddress seeds) :
    w.Vacant key ↔ w.Unheld key seeds := by
  subst address
  have agents := fun other => wf.agents.absent (s := seeds) other
  have services := fun other => wf.services.absent (s := seeds) other
  have links := fun other => wf.links.absent (s := seeds) other
  have receipts := fun other => wf.receipts.absent (s := seeds) other
  have feedbacks := fun other => wf.feedbacks.absent (s := seeds) other
  unfold World.Vacant
  cases seeds <;> simp_all [World.Unheld]

/-- The all-zero agent of a link marks a new one. -/
theorem WellFormed.link_agent (held : w.links key = some link) : link.agent ≠ defaultKey := by
  -- A link names a profile, and profiles sit at derived addresses.
  obtain ⟨profile, present⟩ := Option.ne_none_iff_exists'.mp (wf.linked key link held).1
  rw [(wf.agents _ profile present).1]
  exact findProgramAddress_ne_default _

end WellFormed

variable [DecidableEq K] {ev : ReputationEvent K} {amount slot : Nat} {hash : Hash}

/-! ### Registration -/

/-- The profile `initialize_agent` leaves. -/
def InitializeAgent.profile (ctx : InitializeAgent K) (slot : Nat) (agentUri : Bytes 128)
    (externalAgentId : Nat) : AgentProfile K :=
  { authority := ctx.agent.key
    owner := ctx.owner.key
    agentUri, externalAgentId
    firstActiveSlot := slot
    lastActiveSlot := slot
    bump := canonicalBump (.agent ctx.agent.key) }

theorem InitializeAgent.handler_ok (wf : WellFormed w) (ctx : InitializeAgent K)
    {agentUri : Bytes 128} {externalAgentId : Nat} :
    ctx.handler w agentUri externalAgentId = .ok (w', ev) ↔
      ctx.agentProfile = findProgramAddress (.agent ctx.agent.key) ∧
        w.agents ctx.agentProfile = none ∧
        w' = w.setAgent ctx.agentProfile (ctx.profile w.slot agentUri externalAgentId) ∧
        ev = .agentInitialized ctx.agent.key ctx.owner.key w.slot := by
  simp only [handler, tryAccounts, bind_eq_ok, requireInit_eq_ok, pure_eq_ok, exists_and_left,
    exists_const, Prod.mk.injEq, and_assoc, eq_comm (b := w'), eq_comm (b := ev)]
  refine and_congr_right fun address => and_congr_left fun _ => ?_
  exact wf.vacant_iff address

/-- The registry `register_service` leaves. -/
def RegisterService.registry (ctx : RegisterService K) (slot : Nat) (name : Bytes 32)
    (category : ServiceCategory) (serviceUri : Bytes 128) : ServiceRegistry K :=
  { authority := ctx.service.key
    name, serviceUri, category
    active := true
    firstActiveSlot := slot
    lastActiveSlot := slot
    bump := canonicalBump (.service ctx.service.key) }

theorem RegisterService.handler_ok (wf : WellFormed w) (ctx : RegisterService K) {name : Bytes 32}
    {category : ServiceCategory} {serviceUri : Bytes 128} :
    ctx.handler w name category serviceUri = .ok (w', ev) ↔
      ctx.serviceRegistry = findProgramAddress (.service ctx.service.key) ∧
        w.services ctx.serviceRegistry = none ∧
        w' = w.setService ctx.serviceRegistry (ctx.registry w.slot name category serviceUri) ∧
        ev = .serviceRegistered ctx.service.key ctx.sponsor.key name category w.slot := by
  simp only [handler, tryAccounts, bind_eq_ok, requireInit_eq_ok, pure_eq_ok, exists_and_left,
    exists_const, Prod.mk.injEq, and_assoc, eq_comm (b := w'), eq_comm (b := ev)]
  refine and_congr_right fun address => and_congr_left fun _ => ?_
  exact wf.vacant_iff address

structure SetServiceActive.Accepts (ctx : SetServiceActive K) (w : World K)
    (registry : ServiceRegistry K) : Prop where
  serviceHeld : w.services ctx.serviceRegistry = some registry
  service : ctx.service.key = registry.authority
  authority : ctx.authority = registry.authority

theorem SetServiceActive.handler_ok (wf : WellFormed w) (ctx : SetServiceActive K) {active : Bool} :
    ctx.handler w active = .ok (w', ev) ↔
      ∃ registry, ctx.Accepts w registry ∧
        w' = w.setService ctx.serviceRegistry { registry with active, lastActiveSlot := w.slot } ∧
        ev = .serviceActiveSet ctx.serviceRegistry active w.slot := by
  simp only [handler, tryAccounts, bind_eq_ok, World.loadService_eq_ok, requireServiceSeeds_eq_ok,
    require_eq_ok, pure_eq_ok, exists_and_left, exists_const, Prod.mk.injEq]
  constructor
  · rintro ⟨registry, ⟨_, held, service, authority, rfl⟩, rfl, rfl⟩
    rw [wf.services.seeds_iff held] at service
    exact ⟨_, ⟨held, by simpa using service, authority.symm⟩, rfl, rfl⟩
  · rintro ⟨registry, accepts, rfl, rfl⟩
    refine ⟨_, ⟨_, accepts.serviceHeld, (wf.services.seeds_iff accepts.serviceHeld).mpr ?_,
      accepts.authority.symm, rfl⟩, rfl, rfl⟩
    simp [accepts.service]

/-! ### record_payment -/

def AgentProfile.paid (profile : AgentProfile K) (amount slot : Nat) (isNewPair : Bool) :
    AgentProfile K :=
  { profile with
    totalTransactions := profile.totalTransactions + 1
    totalVolumeUsdc := profile.totalVolumeUsdc + amount
    consecutiveSuccess := profile.consecutiveSuccess + 1
    servicesUsed := profile.servicesUsed + isNewPair.toNat
    lastActiveSlot := slot }

def ServiceRegistry.paid (registry : ServiceRegistry K) (amount slot : Nat) (isNewPair : Bool) :
    ServiceRegistry K :=
  { registry with
    totalAgentsServed := registry.totalAgentsServed + isNewPair.toNat
    totalVolumeReceivedUsdc := registry.totalVolumeReceivedUsdc + amount
    lastActiveSlot := slot }

def AgentServiceLink.paid (link : AgentServiceLink K) (amount slot : Nat) : AgentServiceLink K :=
  { link with
    totalTransactions := link.totalTransactions + 1
    totalVolumeUsdc := link.totalVolumeUsdc + amount
    lastPaymentSlot := slot }

/-- The counters of an agent that all its services share take one more payment. -/
structure AgentProfile.HasRoom (profile : AgentProfile K) (amount : Nat) (isNewPair : Bool) :
    Prop where
  transactions : profile.totalTransactions + 1 < 2 ^ 64
  volume : profile.totalVolumeUsdc + amount < 2 ^ 64
  streak : profile.consecutiveSuccess + 1 < 2 ^ 32
  services : isNewPair = true → profile.servicesUsed + 1 < 2 ^ 16

def RecordPayment.isNewPair (ctx : RecordPayment K) (w : World K) : Bool :=
  (w.links ctx.agentServiceLink).isNone

/-- The link a payment is added to. -/
def RecordPayment.link (ctx : RecordPayment K) (w : World K) : AgentServiceLink K :=
  (w.links ctx.agentServiceLink).getD
    { agent := ctx.agentProfile
      service := ctx.serviceRegistry
      firstPaymentSlot := w.slot
      bump := canonicalBump (.link ctx.agentProfile ctx.serviceRegistry) }

/-- The account list of `record_payment` in a well-formed world. -/
structure RecordPayment.Loads (ctx : RecordPayment K) (w : World K) (hash : Hash)
    (profile : AgentProfile K) (registry : ServiceRegistry K) : Prop where
  agentHeld : w.agents ctx.agentProfile = some profile
  serviceHeld : w.services ctx.serviceRegistry = some registry
  service : ctx.service.key = registry.authority
  link : ctx.agentServiceLink = findProgramAddress (.link ctx.agentProfile ctx.serviceRegistry)
  receipt : ctx.receiptUsed = findProgramAddress (.receipt hash)
  unused : w.receipts ctx.receiptUsed = none

structure RecordPayment.Accepts (ctx : RecordPayment K) (w : World K) (amount : Nat) (hash : Hash)
    (profile : AgentProfile K) (registry : ServiceRegistry K) : Prop
    extends RecordPayment.Loads ctx w hash profile registry where
  positive : 0 < amount
  active : registry.active = true
  room : profile.HasRoom amount (ctx.isNewPair w)
  agents : ctx.isNewPair w = true → registry.totalAgentsServed + 1 < 2 ^ 64
  received : registry.totalVolumeReceivedUsdc + amount < 2 ^ 64
  linkTransactions : (ctx.link w).totalTransactions + 1 < 2 ^ 64
  linkVolume : (ctx.link w).totalVolumeUsdc + amount < 2 ^ 64

/-- The world with a payment recorded. -/
def RecordPayment.record (ctx : RecordPayment K) (w : World K) (amount : Nat) (hash : Hash)
    (profile : AgentProfile K) (registry : ServiceRegistry K) : World K :=
  (((w.setAgent ctx.agentProfile (profile.paid amount w.slot (ctx.isNewPair w))).setService
      ctx.serviceRegistry (registry.paid amount w.slot (ctx.isNewPair w))).setLink
      ctx.agentServiceLink ((ctx.link w).paid amount w.slot)).setReceipt ctx.receiptUsed
    { receiptHash := hash
      agentServiceLink := ctx.agentServiceLink
      recordedSlot := w.slot
      bump := canonicalBump (K := K) (.receipt hash) }

section RecordPayment

variable (wf : WellFormed w) (ctx : RecordPayment K)
include wf

theorem RecordPayment.tryAccounts_ok {profile : AgentProfile K} {registry : ServiceRegistry K}
    {link : AgentServiceLink K} :
    ctx.tryAccounts w hash = .ok (profile, registry, link) ↔
      ctx.Loads w hash profile registry ∧
        (w.links ctx.agentServiceLink).getD zeroLink = link := by
  simp only [tryAccounts, bind_eq_ok, World.loadAgent_eq_ok, World.loadService_eq_ok,
    initIfNeeded_eq_ok, requireInit_eq_ok, requireAgentSeeds_eq_ok, requireServiceSeeds_eq_ok,
    pure_eq_ok, exists_and_left, exists_const, Prod.mk.injEq]
  constructor
  · rintro ⟨_, agentHeld, _, serviceHeld, _, ⟨link, -, rfl⟩, ⟨receipt, unused⟩, -, service, rfl,
      rfl, rfl⟩
    rw [wf.services.seeds_iff serviceHeld] at service
    rw [wf.vacant_iff receipt] at unused
    exact ⟨⟨agentHeld, serviceHeld, by simpa using service, link, receipt, unused⟩, rfl⟩
  · rintro ⟨loads, rfl⟩
    refine ⟨_, loads.agentHeld, _, loads.serviceHeld, _, ⟨loads.link, ?_, rfl⟩,
      ⟨loads.receipt, ?_⟩, (wf.agents.seeds_iff loads.agentHeld).mpr rfl,
      (wf.services.seeds_iff loads.serviceHeld).mpr ?_, rfl, rfl, rfl⟩
    · exact (wf.vacant_iff loads.link).mpr
    · exact (wf.vacant_iff loads.receipt).mpr loads.unused
    · simp [loads.service]

theorem RecordPayment.isNewPair_eq :
    decide (((w.links ctx.agentServiceLink).getD zeroLink).agent = defaultKey) =
      ctx.isNewPair w := by
  unfold isNewPair
  cases held : w.links ctx.agentServiceLink with
  | none => simp [zeroLink]
  | some link => simp [wf.link_agent held]

omit [DecidableEq K] wf in
theorem RecordPayment.nameLink_eq :
    ctx.nameLink w.slot ((w.links ctx.agentServiceLink).getD zeroLink) (ctx.isNewPair w) =
      ctx.link w := by
  unfold isNewPair nameLink link
  cases w.links ctx.agentServiceLink <;> rfl

theorem RecordPayment.handler_ok :
    ctx.handler w amount hash = .ok (w', ev) ↔
      ∃ profile registry, ctx.Accepts w amount hash profile registry ∧
        w' = ctx.record w amount hash profile registry ∧
        ev = .paymentRecorded profile.authority ctx.serviceRegistry amount hash (ctx.isNewPair w)
          w.slot := by
  simp only [handler, bind_eq_ok, Prod.exists, tryAccounts_ok wf, require_eq_ok,
    recordNewPair_eq_ok, okOr_eq_ok, checkedAdd_eq_some, pure_eq_ok, exists_and_left, exists_const,
    Prod.mk.injEq]
  -- The stored link decides whether the pair is new; both directions name its counters `link`.
  constructor
  · rintro ⟨profile, registry, _, ⟨loads, rfl⟩, positive, active, _, _, ⟨counted, rfl, rfl⟩, _,
      ⟨transactions, rfl⟩, _, ⟨volume, rfl⟩, _, ⟨streak, rfl⟩, _, ⟨received, rfl⟩, _,
      ⟨linkTransactions, rfl⟩, _, ⟨linkVolume, rfl⟩, rfl, rfl⟩
    rw [ctx.isNewPair_eq wf] at counted linkTransactions linkVolume ⊢
    rw [ctx.nameLink_eq] at linkTransactions linkVolume ⊢
    exact ⟨profile, registry,
      ⟨loads, positive, active, ⟨transactions, volume, streak, fun new => (counted new).1⟩,
        fun new => (counted new).2, received, linkTransactions, linkVolume⟩, rfl, rfl⟩
  · rintro ⟨profile, registry, accepts, rfl, rfl⟩
    refine ⟨profile, registry, _, ⟨accepts.toLoads, rfl⟩, accepts.positive, accepts.active, ?_⟩
    rw [ctx.isNewPair_eq wf, ctx.nameLink_eq]
    exact ⟨_, _, ⟨fun new => ⟨accepts.room.services new, accepts.agents new⟩, rfl, rfl⟩, _,
      ⟨accepts.room.transactions, rfl⟩, _, ⟨accepts.room.volume, rfl⟩, _,
      ⟨accepts.room.streak, rfl⟩, _, ⟨accepts.received, rfl⟩, _,
      ⟨accepts.linkTransactions, rfl⟩, _, ⟨accepts.linkVolume, rfl⟩, rfl, rfl⟩

end RecordPayment

/-! ### give_feedback -/

def AgentProfile.rated (profile : AgentProfile K) (value : Int) (slot : Nat) : AgentProfile K :=
  { profile with
    totalFeedbackCount := profile.totalFeedbackCount + 1
    activeNegativeFeedbackCount :=
      profile.activeNegativeFeedbackCount + if value < 0 then 1 else 0
    consecutiveSuccess := if value < 0 then 0 else profile.consecutiveSuccess
    lastActiveSlot := slot }

structure GiveFeedback.Loads (ctx : GiveFeedback K) (w : World K) (hash : Hash)
    (profile : AgentProfile K) (registry : ServiceRegistry K) (link : AgentServiceLink K)
    (receipt : ReceiptUsed K) : Prop where
  agentHeld : w.agents ctx.agentProfile = some profile
  serviceHeld : w.services ctx.serviceRegistry = some registry
  linkHeld : w.links ctx.agentServiceLink = some link
  receiptHeld : w.receipts ctx.receiptUsed = some receipt
  owner : ctx.service.key ≠ profile.owner
  authority : ctx.service.key ≠ profile.authority
  service : ctx.service.key = registry.authority
  pair : link.agent = ctx.agentProfile ∧ link.service = ctx.serviceRegistry
  ofHash : receipt.receiptHash = hash
  feedback : ctx.feedbackRecord = findProgramAddress (.feedback hash)
  unrated : w.feedbacks ctx.feedbackRecord = none

structure GiveFeedback.Accepts (ctx : GiveFeedback K) (w : World K) (hash : Hash) (value : Int)
    (profile : AgentProfile K) (registry : ServiceRegistry K) (link : AgentServiceLink K)
    (receipt : ReceiptUsed K) : Prop
    extends GiveFeedback.Loads ctx w hash profile registry link receipt where
  inRange : valueMin ≤ value ∧ value ≤ valueMax
  paid : receipt.agentServiceLink = ctx.agentServiceLink
  spaced : link.hasReceivedFeedback = true →
    feedbackRateLimitSlots ≤ w.slot - link.lastFeedbackSlot
  room : profile.totalFeedbackCount + 1 < 2 ^ 32
  negativeRoom : value < 0 → profile.activeNegativeFeedbackCount + 1 < 2 ^ 32

/-- The world with the feedback filed. -/
def GiveFeedback.file (ctx : GiveFeedback K) (w : World K) (paymentReceiptHash : Hash)
    (value : Int) (tags : Nat) (evidenceUri : Bytes 128) (evidenceHash : Hash)
    (profile : AgentProfile K) (registry : ServiceRegistry K) (link : AgentServiceLink K) :
    World K :=
  (((w.setAgent ctx.agentProfile (profile.rated value w.slot)).setService ctx.serviceRegistry
      { registry with lastActiveSlot := w.slot }).setLink ctx.agentServiceLink
      { link with lastFeedbackSlot := w.slot, hasReceivedFeedback := true }).setFeedback
      ctx.feedbackRecord
    { agentProfile := ctx.agentProfile
      serviceRegistry := ctx.serviceRegistry
      paymentReceiptHash, value, tags, evidenceUri, evidenceHash
      createdSlot := w.slot
      lastModifiedSlot := w.slot
      bump := canonicalBump (K := K) (.feedback paymentReceiptHash) }

theorem GiveFeedback.tryAccounts_ok (wf : WellFormed w) (ctx : GiveFeedback K)
    {profile : AgentProfile K} {registry : ServiceRegistry K} {link : AgentServiceLink K}
    {receipt : ReceiptUsed K} :
    ctx.tryAccounts w hash = .ok (profile, registry, link, receipt) ↔
      ctx.Loads w hash profile registry link receipt := by
  simp only [tryAccounts, bind_eq_ok, World.loadAgent_eq_ok, World.loadService_eq_ok,
    World.loadLink_eq_ok, World.loadReceipt_eq_ok, requireInit_eq_ok, requireAgentSeeds_eq_ok,
    requireServiceSeeds_eq_ok, require_eq_ok, pure_eq_ok, exists_and_left, exists_const,
    Prod.mk.injEq]
  constructor
  · rintro ⟨_, agentHeld, _, serviceHeld, _, linkHeld, _, receiptHeld, ⟨feedback, unrated⟩, -,
      owner, authority, service, pair, paid, rfl, rfl, rfl, rfl⟩
    rw [wf.services.seeds_iff serviceHeld] at service
    rw [wf.links.seeds_iff linkHeld] at pair
    rw [wf.receipts.seeds_iff receiptHeld] at paid
    rw [wf.vacant_iff feedback] at unrated
    simp only [ServiceRegistry.seeds, Seeds.service.injEq, AgentServiceLink.seeds,
      Seeds.link.injEq, ReceiptUsed.seeds, Seeds.receipt.injEq] at service pair paid
    exact ⟨agentHeld, serviceHeld, linkHeld, receiptHeld, owner, authority, service,
      ⟨pair.1.symm, pair.2.symm⟩, paid.symm, feedback, unrated⟩
  · intro loads
    refine ⟨_, loads.agentHeld, _, loads.serviceHeld, _, loads.linkHeld, _, loads.receiptHeld,
      ⟨loads.feedback, ?_⟩, (wf.agents.seeds_iff loads.agentHeld).mpr rfl, loads.owner,
      loads.authority, (wf.services.seeds_iff loads.serviceHeld).mpr ?_,
      (wf.links.seeds_iff loads.linkHeld).mpr ?_,
      (wf.receipts.seeds_iff loads.receiptHeld).mpr ?_, rfl, rfl, rfl, rfl⟩
    · exact (wf.vacant_iff loads.feedback).mpr loads.unrated
    · simp [loads.service]
    · simp [loads.pair]
    · simp [loads.ofHash]

theorem GiveFeedback.handler_ok (wf : WellFormed w) (ctx : GiveFeedback K) {value : Int}
    {tags : Nat} {evidenceUri : Bytes 128} {evidenceHash : Hash} :
    ctx.handler w hash value tags evidenceUri evidenceHash = .ok (w', ev) ↔
      ∃ profile registry link receipt, ctx.Accepts w hash value profile registry link receipt ∧
        w' = ctx.file w hash value tags evidenceUri evidenceHash profile registry link ∧
        ev = .feedbackGiven ctx.agentProfile ctx.serviceRegistry ctx.feedbackRecord hash value tags
          w.slot := by
  simp only [handler, bind_eq_ok, Prod.exists, tryAccounts_ok wf, require_eq_ok,
    requireWhen_eq_ok, recordNegative_eq_ok, okOr_eq_ok, checkedAdd_eq_some, pure_eq_ok,
    exists_and_left, exists_const, Prod.mk.injEq]
  constructor
  · rintro ⟨profile, registry, link, receipt, loads, inRange, paid, spaced, _, ⟨room, rfl⟩, _,
      ⟨negativeRoom, rfl⟩, rfl, rfl⟩
    refine ⟨profile, registry, link, receipt, ⟨loads, inRange, paid, spaced, room, negativeRoom⟩,
      ?_, rfl⟩
    by_cases negative : value < 0 <;> simp [file, AgentProfile.rated, negative]
  · rintro ⟨profile, registry, link, receipt, accepts, rfl, rfl⟩
    refine ⟨profile, registry, link, receipt, accepts.toLoads, accepts.inRange, accepts.paid,
      accepts.spaced, _, ⟨accepts.room, rfl⟩, _, ⟨accepts.negativeRoom, rfl⟩, ?_, rfl⟩
    by_cases negative : value < 0 <;> simp [file, AgentProfile.rated, negative]

/-! ### append_response -/

structure AppendResponse.Accepts (ctx : AppendResponse K) (w : World K) (hash : Hash)
    (profile : AgentProfile K) (feedback : FeedbackRecord K) : Prop where
  agentHeld : w.agents ctx.agentProfile = some profile
  feedbackHeld : w.feedbacks ctx.feedbackRecord = some feedback
  responder : ctx.responder.key = profile.owner ∨ ctx.responder.key = profile.authority
  ofHash : feedback.paymentReceiptHash = hash
  agent : feedback.agentProfile = ctx.agentProfile
  unanswered : feedback.hasResponse = false

/-- The world with the response attached. -/
def AppendResponse.attach (ctx : AppendResponse K) (w : World K) (responseUri : Bytes 128)
    (responseHash : Hash) (profile : AgentProfile K) (feedback : FeedbackRecord K) : World K :=
  (w.setAgent ctx.agentProfile { profile with lastActiveSlot := w.slot }).setFeedback
    ctx.feedbackRecord { feedback with
      responseUri, responseHash, hasResponse := true, lastModifiedSlot := w.slot }

theorem AppendResponse.handler_ok (wf : WellFormed w) (ctx : AppendResponse K)
    {responseUri : Bytes 128} {responseHash : Hash} :
    ctx.handler w hash responseUri responseHash = .ok (w', ev) ↔
      ∃ profile feedback, ctx.Accepts w hash profile feedback ∧
        w' = ctx.attach w responseUri responseHash profile feedback ∧
        ev = .responseAppended ctx.agentProfile ctx.feedbackRecord ctx.responder.key w.slot := by
  simp only [handler, tryAccounts, bind_eq_ok, Prod.exists, World.loadAgent_eq_ok,
    World.loadFeedback_eq_ok, requireAgentSeeds_eq_ok, requireFeedbackSeeds_eq_ok, require_eq_ok,
    pure_eq_ok, exists_and_left, exists_const, Prod.mk.injEq]
  constructor
  · rintro ⟨_, _, ⟨profile, agentHeld, feedback, feedbackHeld, -, responder, address, agent, rfl,
      rfl⟩, unanswered, rfl, rfl⟩
    rw [wf.feedbacks.seeds_iff feedbackHeld] at address
    simp only [FeedbackRecord.seeds, Seeds.feedback.injEq] at address
    exact ⟨profile, feedback,
      ⟨agentHeld, feedbackHeld, responder, address.symm, agent, unanswered⟩, rfl, rfl⟩
  · rintro ⟨profile, feedback, accepts, rfl, rfl⟩
    refine ⟨_, _, ⟨profile, accepts.agentHeld, feedback, accepts.feedbackHeld,
      (wf.agents.seeds_iff accepts.agentHeld).mpr rfl, accepts.responder,
      (wf.feedbacks.seeds_iff accepts.feedbackHeld).mpr ?_, accepts.agent, rfl, rfl⟩,
      accepts.unanswered, rfl, rfl⟩
    simp [accepts.ofHash]

/-! ### revoke_feedback -/

structure RevokeFeedback.Accepts (ctx : RevokeFeedback K) (w : World K) (hash : Hash)
    (profile : AgentProfile K) (registry : ServiceRegistry K) (feedback : FeedbackRecord K) :
    Prop where
  agentHeld : w.agents ctx.agentProfile = some profile
  serviceHeld : w.services ctx.serviceRegistry = some registry
  feedbackHeld : w.feedbacks ctx.feedbackRecord = some feedback
  service : ctx.service.key = registry.authority
  ofHash : feedback.paymentReceiptHash = hash
  pair : feedback.agentProfile = ctx.agentProfile ∧ feedback.serviceRegistry = ctx.serviceRegistry
  unrevoked : feedback.revoked = false
  counted : feedback.value < 0 → 1 ≤ profile.activeNegativeFeedbackCount

/-- The world with the feedback revoked. -/
def RevokeFeedback.revoke (ctx : RevokeFeedback K) (w : World K) (profile : AgentProfile K)
    (registry : ServiceRegistry K) (feedback : FeedbackRecord K) : World K :=
  ((w.setAgent ctx.agentProfile
      { profile with
        activeNegativeFeedbackCount :=
          profile.activeNegativeFeedbackCount - if feedback.value < 0 then 1 else 0
        lastActiveSlot := w.slot }).setService ctx.serviceRegistry
      { registry with lastActiveSlot := w.slot }).setFeedback ctx.feedbackRecord
    { feedback with revoked := true, lastModifiedSlot := w.slot }

theorem RevokeFeedback.handler_ok (wf : WellFormed w) (ctx : RevokeFeedback K) :
    ctx.handler w hash = .ok (w', ev) ↔
      ∃ profile registry feedback, ctx.Accepts w hash profile registry feedback ∧
        w' = ctx.revoke w profile registry feedback ∧
        ev = .feedbackRevoked ctx.agentProfile ctx.serviceRegistry ctx.feedbackRecord
          (decide (feedback.value < 0)) w.slot := by
  simp only [handler, tryAccounts, bind_eq_ok, Prod.exists, World.loadAgent_eq_ok,
    World.loadService_eq_ok, World.loadFeedback_eq_ok, requireAgentSeeds_eq_ok,
    requireServiceSeeds_eq_ok, requireFeedbackSeeds_eq_ok, require_eq_ok, revokeNegative_eq_ok,
    pure_eq_ok, exists_and_left, exists_const, Prod.mk.injEq]
  constructor
  · rintro ⟨_, _, _, ⟨profile, agentHeld, registry, serviceHeld, feedback, feedbackHeld, -, service,
      address, agent, registered, rfl, rfl, rfl⟩, unrevoked, _, ⟨counted, rfl⟩, rfl, rfl⟩
    rw [wf.services.seeds_iff serviceHeld] at service
    rw [wf.feedbacks.seeds_iff feedbackHeld] at address
    simp only [ServiceRegistry.seeds, Seeds.service.injEq, FeedbackRecord.seeds,
      Seeds.feedback.injEq] at service address
    refine ⟨profile, registry, feedback, ⟨agentHeld, serviceHeld, feedbackHeld, service,
      address.symm, ⟨agent, registered⟩, unrevoked, by simpa using counted⟩, ?_, rfl⟩
    by_cases negative : feedback.value < 0 <;> simp [revoke, negative]
  · rintro ⟨profile, registry, feedback, accepts, rfl, rfl⟩
    refine ⟨_, _, _, ⟨profile, accepts.agentHeld, registry, accepts.serviceHeld, feedback,
      accepts.feedbackHeld, (wf.agents.seeds_iff accepts.agentHeld).mpr rfl,
      (wf.services.seeds_iff accepts.serviceHeld).mpr ?_,
      (wf.feedbacks.seeds_iff accepts.feedbackHeld).mpr ?_, accepts.pair.1, accepts.pair.2, rfl,
      rfl, rfl⟩, accepts.unrevoked, _, ⟨by simpa using accepts.counted, rfl⟩, ?_, rfl⟩
    · simp [accepts.service]
    · simp [accepts.ofHash]
    · by_cases negative : feedback.value < 0 <;> simp [revoke, negative]

/-! ### compute_score -/

theorem ComputeScore.handler_ok (wf : WellFormed w) (ctx : ComputeScore K) :
    ctx.handler w = .ok (w', ev) ↔
      ∃ profile, w.agents ctx.agentProfile = some profile ∧
        w' = w.setAgent ctx.agentProfile
          { profile with reputationScore := compute profile w.slot, lastActiveSlot := w.slot } ∧
        ev = .scoreComputed profile.authority (compute profile w.slot) w.slot := by
  simp only [handler, tryAccounts, bind_eq_ok, World.loadAgent_eq_ok, requireAgentSeeds_eq_ok,
    pure_eq_ok, exists_and_left, exists_const, Prod.mk.injEq]
  constructor
  · rintro ⟨_, ⟨profile, held, -, rfl⟩, rfl, rfl⟩
    exact ⟨profile, held, rfl, rfl⟩
  · rintro ⟨profile, held, rfl, rfl⟩
    exact ⟨profile, ⟨profile, held, (wf.agents.seeds_iff held).mpr rfl, rfl⟩, rfl, rfl⟩

/-! ### Steps of the program -/

/-- Every step moves the clock or is one of the eight instructions at work. -/
inductive StepCase (w : World K) : Action K → World K → Prop
  | advance (slots : Nat) : StepCase w (.advance slots) { w with slot := w.slot + slots }
  | initializeAgent {ctx : InitializeAgent K} {agentUri : Bytes 128} {externalAgentId : Nat}
    (address : ctx.agentProfile = findProgramAddress (.agent ctx.agent.key))
    (absent : w.agents ctx.agentProfile = none) :
    StepCase w (.program (.initializeAgent ctx agentUri externalAgentId))
      (w.setAgent ctx.agentProfile (ctx.profile w.slot agentUri externalAgentId))
  | registerService {ctx : RegisterService K} {name : Bytes 32} {category : ServiceCategory}
    {serviceUri : Bytes 128}
    (address : ctx.serviceRegistry = findProgramAddress (.service ctx.service.key))
    (absent : w.services ctx.serviceRegistry = none) :
    StepCase w (.program (.registerService ctx name category serviceUri))
      (w.setService ctx.serviceRegistry (ctx.registry w.slot name category serviceUri))
  | setServiceActive {ctx : SetServiceActive K} {active : Bool} {registry : ServiceRegistry K}
    (accepts : ctx.Accepts w registry) :
    StepCase w (.program (.setServiceActive ctx active))
      (w.setService ctx.serviceRegistry { registry with active, lastActiveSlot := w.slot })
  | recordPayment {ctx : RecordPayment K} {amount : Nat} {hash : Hash} {profile : AgentProfile K}
    {registry : ServiceRegistry K} (accepts : ctx.Accepts w amount hash profile registry) :
    StepCase w (.program (.recordPayment ctx amount hash))
      (ctx.record w amount hash profile registry)
  | giveFeedback {ctx : GiveFeedback K} {hash : Hash} {value : Int} {tags : Nat}
    {evidenceUri : Bytes 128} {evidenceHash : Hash} {profile : AgentProfile K}
    {registry : ServiceRegistry K} {link : AgentServiceLink K} {receipt : ReceiptUsed K}
    (accepts : ctx.Accepts w hash value profile registry link receipt) :
    StepCase w (.program (.giveFeedback ctx hash value tags evidenceUri evidenceHash))
      (ctx.file w hash value tags evidenceUri evidenceHash profile registry link)
  | appendResponse {ctx : AppendResponse K} {hash : Hash} {responseUri : Bytes 128}
    {responseHash : Hash} {profile : AgentProfile K} {feedback : FeedbackRecord K}
    (accepts : ctx.Accepts w hash profile feedback) :
    StepCase w (.program (.appendResponse ctx hash responseUri responseHash))
      (ctx.attach w responseUri responseHash profile feedback)
  | revokeFeedback {ctx : RevokeFeedback K} {hash : Hash} {profile : AgentProfile K}
    {registry : ServiceRegistry K} {feedback : FeedbackRecord K}
    (accepts : ctx.Accepts w hash profile registry feedback) :
    StepCase w (.program (.revokeFeedback ctx hash)) (ctx.revoke w profile registry feedback)
  | computeScore {ctx : ComputeScore K} {profile : AgentProfile K}
    (held : w.agents ctx.agentProfile = some profile) :
    StepCase w (.program (.computeScore ctx)) (w.setAgent ctx.agentProfile
      { profile with reputationScore := compute profile w.slot, lastActiveSlot := w.slot })

theorem step_cases {act : Action K} (wf : WellFormed w) (fired : step w act = .ok w') :
    StepCase w act w' := by
  cases act with
  | advance slots =>
    obtain rfl := Except.ok.inj fired
    exact .advance slots
  | program ix =>
    simp only [step, map_eq_ok] at fired
    obtain ⟨⟨_, ev⟩, handled, rfl⟩ := fired
    cases ix with
    | initializeAgent ctx agentUri externalAgentId =>
      obtain ⟨address, absent, rfl, -⟩ := (ctx.handler_ok wf).mp handled
      exact .initializeAgent address absent
    | registerService ctx name category serviceUri =>
      obtain ⟨address, absent, rfl, -⟩ := (ctx.handler_ok wf).mp handled
      exact .registerService address absent
    | setServiceActive ctx active =>
      obtain ⟨_, accepts, rfl, -⟩ := (ctx.handler_ok wf).mp handled
      exact .setServiceActive accepts
    | recordPayment ctx amountUsdc hash =>
      obtain ⟨_, _, accepts, rfl, -⟩ := (ctx.handler_ok wf).mp handled
      exact .recordPayment accepts
    | giveFeedback ctx hash value tags evidenceUri evidenceHash =>
      obtain ⟨_, _, _, _, accepts, rfl, -⟩ := (ctx.handler_ok wf).mp handled
      exact .giveFeedback accepts
    | appendResponse ctx hash responseUri responseHash =>
      obtain ⟨_, _, accepts, rfl, -⟩ := (ctx.handler_ok wf).mp handled
      exact .appendResponse accepts
    | revokeFeedback ctx hash =>
      obtain ⟨_, _, _, accepts, rfl, -⟩ := (ctx.handler_ok wf).mp handled
      exact .revokeFeedback accepts
    | computeScore ctx =>
      obtain ⟨_, held, rfl, -⟩ := (ctx.handler_ok wf).mp handled
      exact .computeScore held

section Updates

variable {key : K} (wf : WellFormed w)
include wf

theorem WellFormed.setAgent {profile : AgentProfile K}
    (placed : key = findProgramAddress profile.seeds ∧ profile.bump = canonicalBump profile.seeds) :
    WellFormed (w.setAgent key profile) :=
  { wf with
    agents := wf.agents.update placed.1 placed.2
    linked := by
      intro k link held
      refine ⟨?_, (wf.linked k link held).2⟩
      rw [World.setAgent_agents, Function.update_apply]
      split
      · simp
      · exact (wf.linked k link held).1 }

theorem WellFormed.setService {registry : ServiceRegistry K}
    (placed : key = findProgramAddress registry.seeds ∧
      registry.bump = canonicalBump registry.seeds) :
    WellFormed (w.setService key registry) :=
  { wf with
    services := wf.services.update placed.1 placed.2
    linked := by
      intro k link held
      refine ⟨(wf.linked k link held).1, ?_⟩
      rw [World.setService_services, Function.update_apply]
      split
      · simp
      · exact (wf.linked k link held).2 }

theorem WellFormed.setLink {link : AgentServiceLink K}
    (placed : key = findProgramAddress link.seeds ∧ link.bump = canonicalBump link.seeds)
    (linked : w.agents link.agent ≠ none ∧ w.services link.service ≠ none) :
    WellFormed (w.setLink key link) :=
  { wf with
    links := wf.links.update placed.1 placed.2
    linked := by
      intro k other held
      rw [World.setLink_links, Function.update_apply] at held
      split at held
      · obtain rfl := Option.some.inj held
        exact linked
      · exact wf.linked k other held }

theorem WellFormed.setReceipt {receipt : ReceiptUsed K}
    (placed : key = findProgramAddress receipt.seeds ∧
      receipt.bump = canonicalBump receipt.seeds) :
    WellFormed (w.setReceipt key receipt) :=
  { wf with receipts := wf.receipts.update placed.1 placed.2 }

theorem WellFormed.setFeedback {feedback : FeedbackRecord K}
    (placed : key = findProgramAddress feedback.seeds ∧
      feedback.bump = canonicalBump feedback.seeds) :
    WellFormed (w.setFeedback key feedback) :=
  { wf with feedbacks := wf.feedbacks.update placed.1 placed.2 }

omit [DecidableEq K] in
theorem RecordPayment.link_placed {ctx : RecordPayment K}
    (address : ctx.agentServiceLink =
      findProgramAddress (.link ctx.agentProfile ctx.serviceRegistry)) :
    (ctx.link w).agent = ctx.agentProfile ∧ (ctx.link w).service = ctx.serviceRegistry ∧
      (ctx.link w).bump = canonicalBump (.link ctx.agentProfile ctx.serviceRegistry) := by
  unfold link
  -- A stored link names its own address, a new one is given these names.
  cases held : w.links ctx.agentServiceLink with
  | none => exact ⟨rfl, rfl, rfl⟩
  | some link =>
    obtain ⟨own, canonical⟩ := wf.links _ link held
    rw [address, findProgramAddress_inj] at own
    obtain ⟨agent, service⟩ : ctx.agentProfile = link.agent ∧ ctx.serviceRegistry = link.service := by
      simpa using own
    exact ⟨agent.symm, service.symm, by simpa [agent, service] using canonical⟩

end Updates

/-- Every step keeps the world well formed. -/
theorem step_wellFormed {act : Action K} (wf : WellFormed w) (fired : step w act = .ok w') :
    WellFormed w' := by
  -- Every write goes to the address of the record written: loaded records keep their seeds and
  -- bump, new ones are opened at the address they derive.
  cases step_cases wf fired with
  | advance slots => exact { wf with }
  | initializeAgent address _ => exact wf.setAgent ⟨address, rfl⟩
  | registerService address _ => exact wf.setService ⟨address, rfl⟩
  | setServiceActive accepts =>
    have service := wf.services _ _ accepts.serviceHeld
    exact wf.setService service
  | @recordPayment ctx amount hash profile registry accepts =>
    have agent := wf.agents _ _ accepts.agentHeld
    have service := wf.services _ _ accepts.serviceHeld
    obtain ⟨ofAgent, ofService, canonical⟩ := RecordPayment.link_placed wf accepts.link
    unfold RecordPayment.record
    refine (((wf.setAgent ?_).setService ?_).setLink ⟨?_, ?_⟩ ?_).setReceipt ⟨accepts.receipt, rfl⟩
    · exact agent
    · exact service
    · simp [AgentServiceLink.paid, ofAgent, ofService, accepts.link]
    · simp [AgentServiceLink.paid, ofAgent, ofService, canonical]
    · simp [AgentServiceLink.paid, ofAgent, ofService]
  | giveFeedback accepts =>
    have agent := wf.agents _ _ accepts.agentHeld
    have service := wf.services _ _ accepts.serviceHeld
    have link := wf.links _ _ accepts.linkHeld
    unfold GiveFeedback.file
    refine (((wf.setAgent ?_).setService ?_).setLink ?_ ?_).setFeedback ⟨accepts.feedback, rfl⟩
    · exact agent
    · exact service
    · exact link
    · simp [accepts.pair]
  | appendResponse accepts =>
    have agent := wf.agents _ _ accepts.agentHeld
    have feedback := wf.feedbacks _ _ accepts.feedbackHeld
    unfold AppendResponse.attach
    refine (wf.setAgent ?_).setFeedback ?_
    · exact agent
    · exact feedback
  | revokeFeedback accepts =>
    have agent := wf.agents _ _ accepts.agentHeld
    have service := wf.services _ _ accepts.serviceHeld
    have feedback := wf.feedbacks _ _ accepts.feedbackHeld
    unfold RevokeFeedback.revoke
    refine ((wf.setAgent ?_).setService ?_).setFeedback ?_
    · exact agent
    · exact service
    · exact feedback
  | computeScore held =>
    have agent := wf.agents _ _ held
    exact wf.setAgent agent

theorem Run.wellFormed {log : List (Step K)} (run : Run w log w') (wf : WellFormed w) :
    WellFormed w' :=
  Transition.Run.invariant (I := WellFormed) (fun _ _ _ fired wf => step_wellFormed wf fired) run wf

theorem Reachable.wellFormed (reachable : Reachable w) : WellFormed w := by
  obtain ⟨w₀, log, genesis, run⟩ := reachable
  exact run.wellFormed genesis.wellFormed

end AgentFuel.Reputation
