import AgentFuel.Reputation.Steps

/-!
# What other services can do to a payment

All services add to the counters of an agent's profile, and every addition is checked. Apart
from these counters nothing that `record_payment` reads or creates for one service is in
reach of another.
-/
namespace AgentFuel.Reputation

open Checked Solana

variable {K : Type} [DecidableEq K] [AddressSpace K] {w w' : World K} {log : List (Step K)}
  {ctx : RecordPayment K} {amount : Nat} {hash : Hash} {profile : AgentProfile K}
  {registry : ServiceRegistry K}

/-- What other services sign about other receipts, score computations and the clock. -/
def Action.Foreign (service : K) (hash : Hash) : Action K → Prop
  | .program (.recordPayment ctx _ h) => ctx.service.key ≠ service ∧ h ≠ hash
  | .program (.giveFeedback ctx h _ _ _ _) => ctx.service.key ≠ service ∧ h ≠ hash
  | .program (.revokeFeedback ctx h) => ctx.service.key ≠ service ∧ h ≠ hash
  | .program (.setServiceActive ctx _) => ctx.service.key ≠ service
  | .program (.registerService ctx _ _ _) => ctx.service.key ≠ service
  | .program (.computeScore _) => True
  | .program (.initializeAgent ..) => False
  | .program (.appendResponse ..) => False
  | .advance _ => True

instance (service : K) (hash : Hash) : DecidablePred (Action.Foreign service hash)
  | .program (.recordPayment ..) => inferInstanceAs (Decidable (_ ∧ _))
  | .program (.giveFeedback ..) => inferInstanceAs (Decidable (_ ∧ _))
  | .program (.revokeFeedback ..) => inferInstanceAs (Decidable (_ ∧ _))
  | .program (.setServiceActive ..) => inferInstanceAs (Decidable (_ ≠ _))
  | .program (.registerService ..) => inferInstanceAs (Decidable (_ ≠ _))
  | .program (.computeScore _) => .isTrue trivial
  | .program (.initializeAgent ..) => .isFalse id
  | .program (.appendResponse ..) => .isFalse id
  | .advance _ => .isTrue trivial

theorem record_succeeds_iff (wf : WellFormed w) :
    (∃ w', step w (.program (.recordPayment ctx amount hash)) = .ok w') ↔
      ∃ profile registry, ctx.Accepts w amount hash profile registry := by
  simp only [step, Instruction.handler, map_eq_ok, Prod.exists, ctx.handler_ok wf]
  constructor
  · rintro ⟨_, _, _, ⟨profile, registry, accepts, -⟩, -⟩
    exact ⟨profile, registry, accepts⟩
  · rintro ⟨profile, registry, accepts⟩
    exact ⟨_, _, _, ⟨profile, registry, accepts, rfl, rfl⟩, rfl⟩

/-- The addresses a payment under `hash` takes from its signer and its agent. -/
structure RecordPayment.Addressed (ctx : RecordPayment K) (hash : Hash) : Prop where
  registry : ctx.serviceRegistry = findProgramAddress (.service ctx.service.key)
  link : ctx.agentServiceLink = findProgramAddress (.link ctx.agentProfile ctx.serviceRegistry)
  receipt : ctx.receiptUsed = findProgramAddress (.receipt hash)

section Addressed

omit [DecidableEq K]

theorem RecordPayment.Loads.addressed (loads : ctx.Loads w hash profile registry)
    (wf : WellFormed w) : ctx.Addressed hash where
  registry := by
    obtain ⟨address, -⟩ := wf.services _ _ loads.serviceHeld
    rw [address, loads.service, ServiceRegistry.seeds]
  link := loads.link
  receipt := loads.receipt

variable (addressed : ctx.Addressed hash)
include addressed

/-- The registry of another signer is elsewhere. -/
theorem RecordPayment.Addressed.registry_ne {other : K} {key : K} (wf : WellFormed w)
    (held : w.services key = some registry) (signed : other = registry.authority)
    (apart : other ≠ ctx.service.key) : ctx.serviceRegistry ≠ key := by
  intro same
  obtain ⟨address, -⟩ := wf.services _ _ held
  rw [addressed.registry, address, findProgramAddress_inj] at same
  have own : ctx.service.key = registry.authority := by simpa using same
  exact apart (signed.trans own.symm)

/-- A link to another service is elsewhere. -/
theorem RecordPayment.Addressed.link_ne {agent service : K} (apart : ctx.serviceRegistry ≠ service) :
    ctx.agentServiceLink ≠ findProgramAddress (.link agent service) := by
  intro same
  rw [addressed.link, findProgramAddress_inj] at same
  have pair : ctx.agentProfile = agent ∧ ctx.serviceRegistry = service := by simpa using same
  exact apart pair.2

end Addressed

/-- The accounts of one service and one receipt are as they were. -/
structure Undisturbed (ctx : RecordPayment K) (w w' : World K) : Prop where
  agent : w.agents ctx.agentProfile ≠ none → w'.agents ctx.agentProfile ≠ none
  service : w'.services ctx.serviceRegistry = w.services ctx.serviceRegistry
  link : w'.links ctx.agentServiceLink = w.links ctx.agentServiceLink
  receipt : w'.receipts ctx.receiptUsed = w.receipts ctx.receiptUsed

omit [DecidableEq K] in
theorem Undisturbed.trans {u : World K} (first : Undisturbed ctx w u) (second : Undisturbed ctx u w') :
    Undisturbed ctx w w' where
  agent := second.agent ∘ first.agent
  service := second.service.trans first.service
  link := second.link.trans first.link
  receipt := second.receipt.trans first.receipt

omit [AddressSpace K] in
theorem agents_kept {key other : K} {p : AgentProfile K} (present : w.agents key ≠ none) :
    (w.setAgent other p).agents key ≠ none := by
  rw [World.setAgent_agents, Function.update_apply]
  split
  · simp
  · exact present

/-- A foreign step leaves the accounts of the service and of the receipt alone. -/
theorem step_undisturbed {act : Action K} (wf : WellFormed w) (addressed : ctx.Addressed hash)
    (fired : step w act = .ok w') (foreign : act.Foreign ctx.service.key hash) :
    Undisturbed ctx w w' := by
  -- One case for each instruction: registry, link and receipt of the payment are none of the
  -- addresses it writes.
  cases step_cases wf fired with
  | advance slots => exact ⟨id, rfl, rfl, rfl⟩
  | initializeAgent => exact foreign.elim
  | @registerService other _ _ _ address absent =>
    have apart : ctx.serviceRegistry ≠ other.serviceRegistry := by
      rw [addressed.registry, address, Ne, findProgramAddress_inj]
      simpa using fun same => foreign same.symm
    exact ⟨id, by simp [apart], rfl, rfl⟩
  | setServiceActive accepts =>
    have apart := addressed.registry_ne wf accepts.serviceHeld accepts.service foreign
    exact ⟨id, by simp [apart], rfl, rfl⟩
  | @recordPayment other _ h _ _ accepts =>
    have apart := addressed.registry_ne wf accepts.serviceHeld accepts.service foreign.1
    have linked : ctx.agentServiceLink ≠ other.agentServiceLink := by
      rw [accepts.link]
      exact addressed.link_ne apart
    have unused : ctx.receiptUsed ≠ other.receiptUsed := by
      rw [addressed.receipt, accepts.receipt, Ne, findProgramAddress_inj]
      simpa using foreign.2.symm
    exact ⟨agents_kept, by simp [RecordPayment.record, apart],
      by simp [RecordPayment.record, linked], by simp [RecordPayment.record, unused]⟩
  | @giveFeedback other _ _ _ _ _ _ _ l _ accepts =>
    have apart := addressed.registry_ne wf accepts.serviceHeld accepts.service foreign.1
    have linked : ctx.agentServiceLink ≠ other.agentServiceLink := by
      rw [(wf.links _ _ accepts.linkHeld).1]
      apply addressed.link_ne
      rw [accepts.pair.2]
      exact apart
    exact ⟨agents_kept, by simp [GiveFeedback.file, apart], by simp [GiveFeedback.file, linked],
      by simp [GiveFeedback.file]⟩
  | appendResponse => exact foreign.elim
  | revokeFeedback accepts =>
    have apart := addressed.registry_ne wf accepts.serviceHeld accepts.service foreign.1
    exact ⟨agents_kept, by simp [RevokeFeedback.revoke, apart], by simp [RevokeFeedback.revoke],
      by simp [RevokeFeedback.revoke]⟩
  | computeScore => exact ⟨agents_kept, rfl, rfl, rfl⟩

theorem Run.undisturbed (wf : WellFormed w) (run : Run w log w') (addressed : ctx.Addressed hash)
    (foreign : ∀ e ∈ log, e.act.Foreign ctx.service.key hash) : Undisturbed ctx w w' := by
  have kept : WellFormed w' ∧ Undisturbed ctx w w' := by
    apply run.preserves (I := fun u => WellFormed u ∧ Undisturbed ctx w u) ?_ foreign
    · exact ⟨wf, id, rfl, rfl, rfl⟩
    · rintro e apart fired ⟨wf, before⟩
      have after := step_undisturbed wf addressed fired apart
      exact ⟨step_wellFormed wf fired, before.trans after⟩
  exact kept.2

omit [DecidableEq K] in
/-- An undisturbed payment is accepted as soon as the counters of the agent have room. -/
theorem RecordPayment.Accepts.again {later : AgentProfile K}
    (accepts : ctx.Accepts w amount hash profile registry) (kept : Undisturbed ctx w w')
    (held : w'.agents ctx.agentProfile = some later)
    (room : later.HasRoom amount (ctx.isNewPair w')) :
    ctx.Accepts w' amount hash later registry := by
  have new : ctx.isNewPair w' = ctx.isNewPair w := by rw [isNewPair, isNewPair, kept.link]
  -- A new link counts from zero, whatever the slot.
  have counters : (ctx.link w').totalTransactions = (ctx.link w).totalTransactions ∧
      (ctx.link w').totalVolumeUsdc = (ctx.link w).totalVolumeUsdc := by
    unfold RecordPayment.link
    rw [kept.link]
    cases w.links ctx.agentServiceLink <;> exact ⟨rfl, rfl⟩
  exact
    { agentHeld := held
      serviceHeld := kept.service.trans accepts.serviceHeld
      service := accepts.service
      link := accepts.link
      receipt := accepts.receipt
      unused := kept.receipt.trans accepts.unused
      positive := accepts.positive
      active := accepts.active
      room
      agents := new ▸ accepts.agents
      received := accepts.received
      linkTransactions := counters.1 ▸ accepts.linkTransactions
      linkVolume := counters.2 ▸ accepts.linkVolume }

/-- A payment that would be recorded now is recorded after any run of other services, exactly if
the counters of the agent still have room for it. -/
theorem payment_recorded_iff_room (reachable : Reachable w)
    (succeeds : ∃ w₁, step w (.program (.recordPayment ctx amount hash)) = .ok w₁)
    (run : Run w log w') (foreign : ∀ e ∈ log, e.act.Foreign ctx.service.key hash) :
    (∃ w₂, step w' (.program (.recordPayment ctx amount hash)) = .ok w₂) ↔
      ∃ later, w'.agents ctx.agentProfile = some later ∧
        later.HasRoom amount (ctx.isNewPair w') := by
  have wf := reachable.wellFormed
  rw [record_succeeds_iff wf] at succeeds
  rw [record_succeeds_iff (run.wellFormed wf)]
  obtain ⟨profile, registry, accepts⟩ := succeeds
  have kept := run.undisturbed wf (accepts.addressed wf) foreign
  constructor
  · rintro ⟨later, _, again⟩
    exact ⟨later, again.agentHeld, again.room⟩
  · rintro ⟨later, held, room⟩
    exact ⟨later, registry, accepts.again kept held room⟩

/-! ### Two services on symbolic keys -/

namespace Bazaar

open SymbolicKey

def owner : Signer SymbolicKey := signer 0
def agent : Signer SymbolicKey := signer 1
def service : Signer SymbolicKey := signer 2
def rival : Signer SymbolicKey := signer 3
def account : SymbolicKey := findProgramAddress (.agent agent.key)

/-- No accounts at all. -/
def empty : World SymbolicKey :=
  { slot := 0
    agents := fun _ => none
    services := fun _ => none
    links := fun _ => none
    receipts := fun _ => none
    feedbacks := fun _ => none }

def register (service : Signer SymbolicKey) : Action SymbolicKey :=
  .program (.registerService ⟨owner, service, findProgramAddress (.service service.key)⟩
    (Vector.replicate 32 0) .compute (Vector.replicate 128 0))

/-- An agent and two services. -/
def opening : List (Action SymbolicKey) :=
  [.program (.initializeAgent ⟨owner, agent, account⟩ (Vector.replicate 128 0) 0),
    register service, register rival]

def start : World SymbolicKey := opening.foldl (Transition.settle step) empty

def after (acts : List (Action SymbolicKey)) : World SymbolicKey :=
  acts.foldl (Transition.settle step) start

theorem reachable : Reachable start :=
  ⟨empty, _, ⟨fun _ => ⟨rfl, rfl, rfl, rfl, rfl⟩⟩, .of_trace _ _ opening⟩

def receiptHash (n : UInt8) : Hash := Vector.replicate 32 n

def payment (service : Signer SymbolicKey) (n : UInt8) : RecordPayment SymbolicKey :=
  { service
    agentProfile := account
    serviceRegistry := findProgramAddress (.service service.key)
    agentServiceLink :=
      findProgramAddress (.link account (findProgramAddress (.service service.key)))
    receiptUsed := findProgramAddress (.receipt (receiptHash n)) }

def pay (service : Signer SymbolicKey) (amount : Nat) (n : UInt8) : Action SymbolicKey :=
  .program (.recordPayment (payment service n) amount (receiptHash n))

end Bazaar

/-- A small payment of a rival leaves room for one of the service; one of the largest amount does not. -/
theorem payment_recorded_bazaar :
    (∃ w₂, step (Bazaar.after [Bazaar.pay Bazaar.rival 5 1])
        (.program (.recordPayment (Bazaar.payment Bazaar.service 0) 1 (Bazaar.receiptHash 0))) = .ok w₂) ∧
      ¬∃ w₂, step (Bazaar.after [Bazaar.pay Bazaar.rival (2 ^ 64 - 1) 1])
        (.program (.recordPayment (Bazaar.payment Bazaar.service 0) 1 (Bazaar.receiptHash 0))) = .ok w₂ := by
  have succeeds : ∃ w₁, step Bazaar.start (.program
      (.recordPayment (Bazaar.payment Bazaar.service 0) 1 (Bazaar.receiptHash 0))) = .ok w₁ :=
    ⟨_, Transition.settle_eq_ok (by decide)⟩
  have run : ∀ amount, Run Bazaar.start _ (Bazaar.after [Bazaar.pay Bazaar.rival amount 1]) :=
    fun amount => .of_trace _ _ [Bazaar.pay Bazaar.rival amount 1]
  constructor
  · -- After a payment of 5 every counter has room.
    apply (payment_recorded_iff_room Bazaar.reachable succeeds (run 5) (by decide)).mpr
    have counters : ((Bazaar.after [Bazaar.pay Bazaar.rival 5 1]).agents Bazaar.account).map
        (fun later => (later.totalTransactions, later.totalVolumeUsdc, later.consecutiveSuccess,
          later.servicesUsed)) = some (1, 5, 1, 1) := by decide
    obtain ⟨later, held, counted⟩ := Option.map_eq_some_iff.mp counters
    simp only [Prod.mk.injEq] at counted
    obtain ⟨transactions, volume, streak, services⟩ := counted
    exact ⟨later, held, by omega, by omega, by omega, fun _ => by omega⟩
  · intro recorded
    obtain ⟨later, held, room⟩ := (payment_recorded_iff_room Bazaar.reachable succeeds
      (run (2 ^ 64 - 1)) (by decide)).mp recorded
    -- After one of the largest amount the volume is full.
    have full : ((Bazaar.after [Bazaar.pay Bazaar.rival (2 ^ 64 - 1) 1]).agents Bazaar.account).map
        AgentProfile.totalVolumeUsdc = some (2 ^ 64 - 1) := by decide
    rw [show Bazaar.account = (Bazaar.payment Bazaar.service 0).agentProfile from rfl, held] at full
    have volume := room.volume
    rw [Option.some.inj full] at volume
    exact absurd volume (by decide)

/-- One recorded payment of another service can fill the volume counter of the agent. -/
theorem payment_blocked :
    ¬∀ (ctx : RecordPayment SymbolicKey) (amount : Nat) (hash : Hash) (w w' : World SymbolicKey)
      (log : List (Step SymbolicKey)), Reachable w →
      (∃ w₁, step w (.program (.recordPayment ctx amount hash)) = .ok w₁) →
      Run w log w' → (∀ e ∈ log, e.act.Foreign ctx.service.key hash) →
      ∃ w₂, step w' (.program (.recordPayment ctx amount hash)) = .ok w₂ := by
  intro claim
  obtain ⟨w₂, fired⟩ := claim (Bazaar.payment Bazaar.service 0) 1 (Bazaar.receiptHash 0) _
    (Bazaar.after [Bazaar.pay Bazaar.rival (2 ^ 64 - 1) 1]) _ Bazaar.reachable
    ⟨_, Transition.settle_eq_ok (by decide)⟩ (.of_trace _ _ _) (by decide)
  -- The volume of the agent stands at the largest `u64`.
  have fails : (step (Bazaar.after [Bazaar.pay Bazaar.rival (2 ^ 64 - 1) 1]) (.program
      (.recordPayment (Bazaar.payment Bazaar.service 0) 1 (Bazaar.receiptHash 0)))).isOk = false :=
    by decide
  rw [fired] at fails
  cases fails

end AgentFuel.Reputation
