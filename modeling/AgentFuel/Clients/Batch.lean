import AgentFuel.Backend.Chain
import AgentFuel.Library.Absorb
import AgentFuel.Reputation.Interference
import AgentFuel.Vault.Runs

/-!
# Payments in a batch

`Spender::pay` sends one transaction for a payment: the vault pays, the service records, and the
score is computed. `Spender::pay_batch` does so for many payments in one transaction, and computes
the score once. The score is read by nothing that pays or records.
-/
namespace AgentFuel.Reputation

open Checked Solana

variable {K : Type} [DecidableEq K] [AddressSpace K]

/-- A profile with what `compute_score` writes. -/
def AgentProfile.scored (profile : AgentProfile K) (score slot : Nat) : AgentProfile K :=
  { profile with reputationScore := score, lastActiveSlot := slot }

def World.scored (w : World K) (key : K) (score slot : Nat) : World K :=
  { w with agents := Function.update w.agents key ((w.agents key).map (·.scored score slot)) }

section Scored

omit [AddressSpace K]

variable (w : World K) (key : K) (score slot score' slot' : Nat)

theorem World.scored_agent :
    (w.scored key score slot).agents key = (w.agents key).map (·.scored score slot) :=
  Function.update_self ..

theorem World.scored_scored :
    (w.scored key score slot).scored key score' slot' = w.scored key score' slot' := by
  unfold scored
  dsimp only
  rw [Function.update_self, Function.update_idem, Option.map_map]
  rfl

theorem World.exists_scored : ∃ score slot, w.scored key score slot = w := by
  cases held : w.agents key with
  | none =>
    refine ⟨0, 0, ?_⟩
    unfold scored
    rw [held, Option.map_none, ← held, Function.update_eq_self]
  | some profile =>
    refine ⟨profile.reputationScore, profile.lastActiveSlot, ?_⟩
    unfold scored
    rw [held, Option.map_some, show some (profile.scored _ _) = w.agents key from held.symm,
      Function.update_eq_self]

theorem World.scored_vacant (other : K) : (w.scored key score slot).Vacant other ↔ w.Vacant other := by
  unfold Vacant scored
  dsimp only
  by_cases same : other = key
  · subst same
    rw [Function.update_self, Option.map_eq_none_iff]
  · rw [Function.update_of_ne same]

end Scored

variable {w w' : World K} {ev : ReputationEvent K} {key : K} {amount score slot : Nat} {hash : Hash}

theorem RecordPayment.tryAccounts_scored {ctx : RecordPayment K} {profile : AgentProfile K}
    {registry : ServiceRegistry K} {link : AgentServiceLink K}
    (loaded : ctx.tryAccounts w hash = .ok (profile, registry, link)) :
    ctx.tryAccounts (w.scored ctx.agentProfile score slot) hash =
      .ok (profile.scored score slot, registry, link) := by
  simp only [tryAccounts, bind_eq_ok, World.loadAgent_eq_ok, World.loadService_eq_ok,
    initIfNeeded_eq_ok, requireInit_eq_ok, requireAgentSeeds_eq_ok, requireServiceSeeds_eq_ok,
    pure_eq_ok, exists_const, World.scored_vacant] at loaded ⊢
  obtain ⟨_, held, _, service, _, pair, receipt, agentSeeds, serviceSeeds, same⟩ := loaded
  cases same
  refine ⟨profile.scored score slot, ?_, registry, service, link, pair, receipt, agentSeeds,
    serviceSeeds, rfl⟩
  rw [World.scored_agent, held, Option.map_some]

/-- A payment is recorded alike whatever the score is, and leaves the score as it is. -/
theorem RecordPayment.handler_scored {ctx : RecordPayment K} (score slot : Nat)
    (done : ctx.handler w amount hash = .ok (w', ev)) :
    ctx.handler (w.scored ctx.agentProfile score slot) amount hash =
      .ok (w'.scored ctx.agentProfile score w.slot, ev) := by
  simp only [handler, bind_eq_ok, Prod.exists, require_eq_ok, recordNewPair_eq_ok, okOr_eq_ok,
    checkedAdd_eq_some, pure_eq_ok, exists_and_left, exists_const, Prod.mk.injEq] at done ⊢
  obtain ⟨profile, registry, link, loaded, positive, active, _, _, ⟨counted, rfl, rfl⟩, _,
    ⟨transactions, rfl⟩, _, ⟨volume, rfl⟩, _, ⟨streak, rfl⟩, _, ⟨received, rfl⟩, _,
    ⟨linkTransactions, rfl⟩, _, ⟨linkVolume, rfl⟩, rfl, rfl⟩ := done
  refine ⟨_, registry, link, tryAccounts_scored loaded, positive, active, _, _, ⟨counted, rfl, rfl⟩, _,
    ⟨transactions, rfl⟩, _, ⟨volume, rfl⟩, _, ⟨streak, rfl⟩, _, ⟨received, rfl⟩, _,
    ⟨linkTransactions, rfl⟩, _, ⟨linkVolume, rfl⟩, ?_, rfl⟩
  -- Only the profiles differ before, and both are written over.
  refine World.ext rfl ?_ rfl rfl rfl rfl
  simp [World.scored, AgentProfile.scored]

theorem ComputeScore.handler_none {ctx : ComputeScore K} (absent : w.agents ctx.agentProfile = none) :
    ctx.handler w = .error (.anchor .accountNotInitialized) := by
  unfold handler tryAccounts World.loadAgent
  rw [absent]
  rfl

theorem ComputeScore.handler_some {ctx : ComputeScore K} {profile : AgentProfile K}
    (held : w.agents ctx.agentProfile = some profile) :
    ctx.handler w = requireAgentSeeds ctx.agentProfile profile >>= fun _ =>
      .ok (w.scored ctx.agentProfile (compute profile w.slot) w.slot,
        .scoreComputed profile.authority (compute profile w.slot) w.slot) := by
  unfold handler tryAccounts World.loadAgent World.scored
  rw [held]
  cases seeds : requireAgentSeeds ctx.agentProfile profile <;>
    simp [okOr, bind, Except.bind, pure, Except.pure, seeds, World.setAgent, AgentProfile.scored]

/-- The score is computed from what it does not change. -/
theorem ComputeScore.handler_scored (ctx : ComputeScore K) (w : World K) (score slot : Nat) :
    ctx.handler (w.scored ctx.agentProfile score slot) = ctx.handler w := by
  cases held : w.agents ctx.agentProfile with
  | none =>
    rw [handler_none held, handler_none]
    rw [World.scored_agent, held, Option.map_none]
  | some profile =>
    have scored : (w.scored ctx.agentProfile score slot).agents ctx.agentProfile =
        some (profile.scored score slot) := by
      rw [World.scored_agent, held, Option.map_some]
    rw [handler_some held, handler_some scored, World.scored_scored]
    rfl

theorem ComputeScore.handler_writes {ctx : ComputeScore K} (done : ctx.handler w = .ok (w', ev)) :
    ∃ score, w' = w.scored ctx.agentProfile score w.slot := by
  cases held : w.agents ctx.agentProfile with
  | none =>
    rw [handler_none held] at done
    cases done
  | some profile =>
    rw [handler_some held] at done
    obtain ⟨_, _, same⟩ := (bind_eq_ok _ _ _).mp done
    cases same
    exact ⟨_, rfl⟩

theorem RecordPayment.handler_profile {ctx : RecordPayment K}
    (done : ctx.handler w amount hash = .ok (w', ev)) :
    ∃ profile, w'.agents ctx.agentProfile = some profile ∧
      requireAgentSeeds ctx.agentProfile profile = .ok () := by
  simp only [handler, bind_eq_ok, Prod.exists, require_eq_ok, recordNewPair_eq_ok, okOr_eq_ok,
    checkedAdd_eq_some, pure_eq_ok, exists_and_left, exists_const, Prod.mk.injEq] at done
  obtain ⟨profile, registry, link, loaded, _, _, _, _, ⟨_, rfl, rfl⟩, _, _, _, _, _, _, _, _, _, _,
    _, _, rfl, _⟩ := done
  simp only [tryAccounts, bind_eq_ok, initIfNeeded_eq_ok, requireInit_eq_ok, requireAgentSeeds_eq_ok,
    requireServiceSeeds_eq_ok, pure_eq_ok, exists_const] at loaded
  obtain ⟨_, _, _, _, _, _, _, seeds, _, same⟩ := loaded
  cases same
  -- The address is derived from fields that no payment changes.
  exact ⟨_, Function.update_self .., (requireAgentSeeds_eq_ok _ _ ()).mpr seeds⟩

/-- Whoever was paid has a score to compute. -/
theorem RecordPayment.handler_scores {ctx : RecordPayment K} (caller : Signer K)
    (done : ctx.handler w amount hash = .ok (w', ev)) :
    ∃ w'' ev', (ComputeScore.mk caller ctx.agentProfile).handler w' = .ok (w'', ev') := by
  obtain ⟨profile, held, seeds⟩ := handler_profile done
  refine ⟨w'.scored ctx.agentProfile (compute profile w'.slot) w'.slot,
    .scoreComputed profile.authority (compute profile w'.slot) w'.slot, ?_⟩
  rw [ComputeScore.handler_some held, seeds]
  rfl

end AgentFuel.Reputation

namespace AgentFuel.Clients

open Backend Checked Solana

variable {K : Type} [DecidableEq K] [AddressSpace K]

/-- `Spender`, without its connection. -/
structure Spender (K : Type) [AddressSpace K] where
  agent : Signer K
  owner : K
  usdcMint : K

inductive SpenderError where
  /-- "pay_batch called with no items" -/
  | noItems
  | transaction (e : ChainError)
  deriving DecidableEq, Repr

namespace Spender

variable (spender : Spender K)

def vault : K := findProgramAddress (.vault spender.owner spender.agent.key)

def agentProfile : K := findProgramAddress (.agent spender.agent.key)

/-- The accounts of `build_spend_ix`. -/
def spend (service : K) : Vault.Spend K where
  agent := spender.agent
  vault := spender.vault
  policy := findProgramAddress (.policy spender.vault)
  vaultTokenAccount := associatedTokenAddress spender.vault spender.usdcMint
  serviceTokenAccount := associatedTokenAddress service spender.usdcMint

def buildSpendIx (service : K) (amountMicro : Nat) : Backend.Instruction K :=
  .vault (.spend (spender.spend service) amountMicro)

/-- The accounts of `record_payment_ix`, with the addresses `pay` and `pay_batch` derive. -/
def record (service : Signer K) (receiptHash : Hash) : Reputation.RecordPayment K where
  service
  agentProfile := spender.agentProfile
  serviceRegistry := findProgramAddress (.service service.key)
  agentServiceLink :=
    findProgramAddress (.link spender.agentProfile (findProgramAddress (.service service.key)))
  receiptUsed := findProgramAddress (.receipt receiptHash)

def recordPaymentIx (service : Signer K) (amountUsdc : Nat) (receiptHash : Hash) :
    Backend.Instruction K :=
  .reputation (.recordPayment (spender.record service receiptHash) amountUsdc receiptHash)

/-- `compute_score_ix` -/
def computeScoreIx : Backend.Instruction K :=
  .reputation (.computeScore ⟨spender.agent, spender.agentProfile⟩)

/-- `submit`: the accounts after a transaction, or its first error. -/
def submit (p : Programs K) (ixs : List (Backend.Instruction K)) : Except SpenderError (Programs K) :=
  (Prod.fst <$> p.executeAll ixs).mapError .transaction

def pay (service : Signer K) (item : Nat × Hash) (p : Programs K) :
    Except SpenderError (Programs K) :=
  submit p [spender.buildSpendIx service.key item.1, spender.recordPaymentIx service item.1 item.2,
    spender.computeScoreIx]

def payBatch (service : Signer K) (items : List (Nat × Hash)) (p : Programs K) :
    Except SpenderError (Programs K) :=
  if items = [] then .error .noItems
  else
    let ixs := items.flatMap fun item =>
      [spender.buildSpendIx service.key item.1, spender.recordPaymentIx service item.1 item.2]
    submit p (ixs ++ [spender.computeScoreIx])

/-! ### A transaction is its instructions -/

variable {spender : Spender K} {service : Signer K} {item : Nat × Hash} {items : List (Nat × Hash)}
  {p q r : Programs K} {ix : Backend.Instruction K} {ixs rest : List (Backend.Instruction K)}

theorem submit_eq_ok : submit p ixs = .ok q ↔ ∃ events, p.executeAll ixs = .ok (q, events) := by
  simp [submit, mapError_eq_ok, Prod.exists]

theorem submit_cons : submit p (ix :: rest) = .ok q ↔
    ∃ next new, p.execute ix = .ok (next, new) ∧ submit next rest = .ok q := by
  simp only [submit_eq_ok, Programs.executeAll, bind_eq_ok, pure_eq_ok, Prod.exists, Prod.mk.injEq]
  constructor
  · rintro ⟨_, next, new, executed, _, later, others, rfl, rfl⟩
    exact ⟨next, new, executed, later, others⟩
  · rintro ⟨next, new, executed, later, others⟩
    exact ⟨_, next, new, executed, q, later, others, rfl, rfl⟩

theorem submit_nil : submit p [] = .ok q ↔ p = q := by
  simp [submit_eq_ok, Programs.executeAll]

theorem submit_append : submit p (ixs ++ rest) = .ok q ↔
    ∃ next, submit p ixs = .ok next ∧ submit next rest = .ok q := by
  induction ixs generalizing p with
  | nil => simp [submit_nil]
  | cons ix others ih =>
    rw [List.cons_append, submit_cons]
    constructor
    · rintro ⟨middle, new, executed, more⟩
      obtain ⟨next, later, last⟩ := ih.mp more
      exact ⟨next, submit_cons.mpr ⟨middle, new, executed, later⟩, last⟩
    · rintro ⟨next, whole, last⟩
      obtain ⟨middle, new, executed, later⟩ := submit_cons.mp whole
      exact ⟨middle, new, executed, ih.mpr ⟨next, later, last⟩⟩

/-! ### The score is computed once or after every payment -/

/-- The vault pays and the service records. -/
def payItem (spender : Spender K) (service : Signer K) (item : Nat × Hash) (p : Programs K) :
    Except SpenderError (Programs K) :=
  submit p [spender.buildSpendIx service.key item.1, spender.recordPaymentIx service item.1 item.2]

/-- States that differ in the score of the agent only. -/
def SameButScore (spender : Spender K) (p q : Programs K) : Prop :=
  p.vault = q.vault ∧ ∃ score slot, q.reputation = p.reputation.scored spender.agentProfile score slot

theorem computeScore_eq_ok : submit p [spender.computeScoreIx] = .ok q ↔
    ∃ reputation ev, (Reputation.ComputeScore.mk spender.agent spender.agentProfile).handler
      p.reputation = .ok (reputation, ev) ∧ { p with reputation } = q := by
  simp only [submit_cons, submit_nil, computeScoreIx, Programs.execute, Reputation.Instruction.handler,
    bind_eq_ok, mapError_eq_ok, pure_eq_ok, Prod.exists, Prod.mk.injEq]
  constructor
  · rintro ⟨_, _, ⟨reputation, ev, handled, rfl, rfl⟩, rfl⟩
    exact ⟨reputation, ev, handled, rfl⟩
  · rintro ⟨reputation, ev, handled, rfl⟩
    exact ⟨_, _, ⟨reputation, ev, handled, rfl, rfl⟩, rfl⟩

theorem payItem_eq_ok : payItem spender service item p = .ok q ↔
    ∃ vault ev reputation ev', (spender.spend service.key).handler p.vault item.1 = .ok (vault, ev) ∧
      (spender.record service item.2).handler p.reputation item.1 item.2 = .ok (reputation, ev') ∧
        ⟨vault, reputation⟩ = q := by
  simp only [payItem, submit_cons, submit_nil, buildSpendIx, recordPaymentIx, Programs.execute,
    Vault.Instruction.handler, Reputation.Instruction.handler, bind_eq_ok, mapError_eq_ok, pure_eq_ok,
    Prod.exists, Prod.mk.injEq]
  constructor
  · rintro ⟨_, _, ⟨vault, ev, paid, rfl, rfl⟩, _, _, ⟨reputation, ev', recorded, rfl, rfl⟩, rfl⟩
    exact ⟨vault, ev, reputation, ev', paid, recorded, rfl⟩
  · rintro ⟨vault, ev, reputation, ev', paid, recorded, rfl⟩
    exact ⟨_, _, ⟨vault, ev, paid, rfl, rfl⟩, _, _, ⟨reputation, ev', recorded, rfl, rfl⟩, rfl⟩

/-- The score is absorbed by the next one. -/
theorem absorbs (spender : Spender K) (service : Signer K) :
    Absorb.Absorbs (payItem spender service) (fun p => submit p [spender.computeScoreIx])
      (SameButScore spender) where
  symm := by
    rintro p q ⟨vault, score, slot, reputation⟩
    -- Two states that differ by a score are taken to one another by scoring again.
    obtain ⟨score', slot', back⟩ := p.reputation.exists_scored spender.agentProfile
    refine ⟨vault.symm, score', slot', ?_⟩
    rw [reputation, Reputation.World.scored_scored, back]
  writes := by
    intro p q computed
    obtain ⟨_, _, handled, rfl⟩ := computeScore_eq_ok.mp computed
    obtain ⟨score, same⟩ := Reputation.ComputeScore.handler_writes handled
    exact ⟨rfl, score, _, same⟩
  rewrites := by
    rintro ⟨vault, reputation⟩ ⟨_, _⟩ ⟨rfl, score, slot, rfl⟩
    have alike := (Reputation.ComputeScore.mk spender.agent spender.agentProfile).handler_scored
      reputation score slot
    simp only [submit, Programs.executeAll, Programs.execute, computeScoreIx,
      Reputation.Instruction.handler]
    rw [alike]
  unread := by
    rintro item p p' q ⟨vault, score, slot, reputation⟩ paid
    -- A payment reads neither the score nor its slot.
    obtain ⟨vault', ev, reputation', ev', spent, recorded, rfl⟩ := payItem_eq_ok.mp paid
    rw [vault] at spent
    refine ⟨⟨vault', reputation'.scored spender.agentProfile score p.reputation.slot⟩,
      payItem_eq_ok.mpr ⟨vault', ev, _, ev', spent, ?_, rfl⟩, rfl, score, p.reputation.slot, rfl⟩
    rw [reputation]
    exact Reputation.RecordPayment.handler_scored score slot recorded
  closes := by
    intro item p q paid
    obtain ⟨_, _, _, _, _, recorded, rfl⟩ := payItem_eq_ok.mp paid
    obtain ⟨reputation, ev, handled⟩ :=
      Reputation.RecordPayment.handler_scores spender.agent recorded
    exact ⟨_, computeScore_eq_ok.mpr ⟨reputation, ev, handled, rfl⟩⟩

/-- The payments one by one, each in a transaction of its own. -/
def payEach (spender : Spender K) (service : Signer K) (items : List (Nat × Hash))
    (p : Programs K) : Except SpenderError (Programs K) :=
  Absorb.each (spender.pay service) items p

/-- The accounts after a transaction was sent: one that fails changes nothing. -/
def settled (p : Programs K) : Except SpenderError (Programs K) → Programs K
  | .ok q => q
  | .error _ => p

theorem pay_eq : spender.pay service item p = .ok q ↔
    (payItem spender service item p >>= fun p => submit p [spender.computeScoreIx]) = .ok q := by
  rw [bind_eq_ok, payItem, ← submit_append]
  rfl

theorem payItems_eq : submit p (items.flatMap fun item => [spender.buildSpendIx service.key item.1,
      spender.recordPaymentIx service item.1 item.2]) = .ok q ↔
    Absorb.each (payItem spender service) items p = .ok q := by
  induction items generalizing p with
  | nil =>
    rw [List.flatMap_nil, submit_nil, Absorb.each]
    exact ⟨congrArg _, Except.ok.inj⟩
  | cons item rest ih =>
    rw [List.flatMap_cons, submit_append, Absorb.each, bind_eq_ok]
    exact exists_congr fun next => and_congr_right fun _ => ih

theorem payBatch_eq (nonempty : items ≠ []) : spender.payBatch service items p = .ok q ↔
    (Absorb.each (payItem spender service) items p >>= fun p => submit p [spender.computeScoreIx]) =
      .ok q := by
  unfold payBatch
  rw [if_neg nonempty, submit_append, bind_eq_ok]
  exact exists_congr fun next => and_congr_left fun _ => payItems_eq

/-- A batch does what the payments do one by one, or nothing. -/
theorem batch_is_payments (spender : Spender K) (service : Signer K) (items : List (Nat × Hash))
    (p : Programs K) (nonempty : items ≠ []) :
    (∀ q, spender.payBatch service items p = .ok q ↔ spender.payEach service items p = .ok q) ∧
      ((∀ q, spender.payEach service items p ≠ .ok q) →
        settled p (spender.payBatch service items p) = p) := by
  have agree : ∀ q, spender.payBatch service items p = .ok q ↔
      spender.payEach service items p = .ok q := by
    intro q
    rw [payBatch_eq nonempty, ← (absorbs spender service).each_eq_ok nonempty]
    exact Absorb.each_congr fun item p q => pay_eq.symm
  refine ⟨agree, fun fails => ?_⟩
  cases outcome : spender.payBatch service items p with
  | ok q => exact absurd ((agree q).mp outcome) (fails q)
  | error e => rfl

end Spender

section Market

open Vault.Market SymbolicKey

def marketSpender : Spender SymbolicKey := ⟨agent, owner.key, usdc⟩

/-- The agent of the market, which is known to both programs, and its vault. -/
def market : Programs SymbolicKey where
  vault := Vault.Market.after [create 0 20 0 true, openPurse service.key, deposit 50]
  reputation :=
    [.program (.initializeAgent ⟨owner, agent, findProgramAddress (.agent agent.key)⟩
        (Vector.replicate 128 0) 0), Reputation.Bazaar.register service].foldl
      (Transition.settle Reputation.step) Reputation.Bazaar.empty

def marketItems : List (Nat × Hash) :=
  [(5, Reputation.Bazaar.receiptHash 1), (7, Reputation.Bazaar.receiptHash 2)]

/-- Two payments go through, and so does their batch. -/
theorem batch_is_payments_market :
    ∃ q, marketSpender.payEach service marketItems market = .ok q ∧
      marketSpender.payBatch service marketItems market = .ok q := by
  have pays : (marketSpender.payEach service marketItems market).isOk = true := by decide +kernel
  cases outcome : marketSpender.payEach service marketItems market with
  | error e =>
    rw [outcome] at pays
    cases pays
  | ok q =>
    have batch := Spender.batch_is_payments marketSpender service marketItems market (by decide)
    exact ⟨q, rfl, (batch.1 q).mpr outcome⟩

end Market

end AgentFuel.Clients
