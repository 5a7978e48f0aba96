import AgentFuel.Library.Tally
import AgentFuel.Reputation.Interference

/-!
# The ledger of receipts

Every recorded payment is in the log of the run. Profiles, registries and links count it in
eleven fields; the sums over links and the sums over the log agree with all of them.
-/
namespace AgentFuel.Reputation

open Checked Solana Tally

variable {K : Type} [DecidableEq K] [AddressSpace K] {w w' w₀ : World K} {log : List (Step K)}
  {key : K}

/-! ### Payments -/

/-- A payment as its receipt records it. -/
structure Payment (K : Type) where
  agent : K
  service : K
  amountUsdc : Nat
  hash : Hash
  deriving DecidableEq

omit [DecidableEq K] in
def Action.payment : Action K → Option (Payment K)
  | .program (.recordPayment ctx amountUsdc hash) =>
    some ⟨ctx.agentProfile, ctx.serviceRegistry, amountUsdc, hash⟩
  | _ => none

/-- The payments a run recorded, oldest first. -/
def payments (log : List (Step K)) : List (Payment K) := log.filterMap fun e => e.act.payment

omit [DecidableEq K] in
theorem payments_snoc (log : List (Step K)) (e : Step K) :
    payments (log ++ [e]) = payments log ++ e.act.payment.toList := by
  unfold payments
  cases paid : e.act.payment <;> simp [paid]

def paidTo (agent : K) (log : List (Step K)) : List (Payment K) :=
  (payments log).filter fun p => decide (p.agent = agent)

/-! ### What a payment does to the links -/

section RecordPayment

variable (ctx : RecordPayment K) (amount : Nat)

/-- The links after a payment. -/
def RecordPayment.links (ctx : RecordPayment K) (w : World K) (amount : Nat) :
    K → Option (AgentServiceLink K) :=
  Function.update w.links ctx.agentServiceLink (some ((ctx.link w).paid amount w.slot))

/-- A payment moves the sums on the two sides of its link, and no other. -/
theorem tally_paid {side : AgentServiceLink K → K} {f : AgentServiceLink K → ℕ} {n : ℕ} (key : K)
    (sparse : Sparse w.links)
    (kept : ∀ link : AgentServiceLink K, side (link.paid amount w.slot) = side link)
    (grown : f ((ctx.link w).paid amount w.slot) = weight w.links f ctx.agentServiceLink + n) :
    tally (ctx.links w amount) (onSide side key f) =
      tally w.links (onSide side key f) + if side (ctx.link w) = key then n else 0 := by
  rw [← kept]
  apply tally_onSide_grow sparse ?_ grown
  intro old held
  rw [kept, RecordPayment.link, held, Option.getD_some]

omit [DecidableEq K] in
/-- A link counts what it stores, a new one nothing. -/
theorem weight_link {f : AgentServiceLink K → ℕ}
    (new : w.links ctx.agentServiceLink = none → f (ctx.link w) = 0) :
    weight w.links f ctx.agentServiceLink = f (ctx.link w) := by
  cases held : w.links ctx.agentServiceLink with
  | none => rw [weight_of_none held, new held]
  | some link => rw [weight_of_some held, RecordPayment.link, held, Option.getD_some]

omit [DecidableEq K] in
theorem weight_transactions :
    ((ctx.link w).paid amount w.slot).totalTransactions =
      weight w.links AgentServiceLink.totalTransactions ctx.agentServiceLink + 1 := by
  rw [weight_link, AgentServiceLink.paid]
  intro absent
  simp [RecordPayment.link, absent]

omit [DecidableEq K] in
theorem weight_volume :
    ((ctx.link w).paid amount w.slot).totalVolumeUsdc =
      weight w.links AgentServiceLink.totalVolumeUsdc ctx.agentServiceLink + amount := by
  rw [weight_link, AgentServiceLink.paid]
  intro absent
  simp [RecordPayment.link, absent]

omit [DecidableEq K] in
theorem weight_pair :
    1 = weight w.links (fun _ => 1) ctx.agentServiceLink + (ctx.isNewPair w).toNat := by
  unfold RecordPayment.isNewPair
  cases held : w.links ctx.agentServiceLink with
  | none => simp [weight_of_none held]
  | some link => simp [weight_of_some held]

end RecordPayment

/-! ### The counters against links and payments -/

structure Books (log : List (Step K)) (w : World K) : Prop where
  sparse : Sparse w.links
  transactions : ∀ key, weight w.agents AgentProfile.totalTransactions key = (paidTo key log).length
  volume : ∀ key, weight w.agents AgentProfile.totalVolumeUsdc key =
    ((paidTo key log).map Payment.amountUsdc).sum
  linkTransactions : ∀ key, weight w.agents AgentProfile.totalTransactions key =
    tally w.links (onSide AgentServiceLink.agent key AgentServiceLink.totalTransactions)
  linkVolume : ∀ key, weight w.agents AgentProfile.totalVolumeUsdc key =
    tally w.links (onSide AgentServiceLink.agent key AgentServiceLink.totalVolumeUsdc)
  servicesUsed : ∀ key, weight w.agents AgentProfile.servicesUsed key =
    tally w.links (onSide AgentServiceLink.agent key fun _ => 1)
  agentsServed : ∀ key, weight w.services ServiceRegistry.totalAgentsServed key =
    tally w.links (onSide AgentServiceLink.service key fun _ => 1)
  received : ∀ key, weight w.services ServiceRegistry.totalVolumeReceivedUsdc key =
    tally w.links (onSide AgentServiceLink.service key AgentServiceLink.totalVolumeUsdc)

theorem Genesis.books (genesis : Genesis w) : Books ([] : List (Step K)) w := by
  have agents : ∀ key, w.agents key = none := fun key => (genesis.vacant key).1
  have services : ∀ key, w.services key = none := fun key => (genesis.vacant key).2.1
  have links : ∀ key, w.links key = none := fun key => (genesis.vacant key).2.2.1
  have nothing : ∀ f : AgentServiceLink K → ℕ, tally w.links f = 0 := by
    intro f
    apply tally_eq_zero
    intro key link held
    rw [links] at held
    cases held
  constructor
  · simp [Sparse, links]
  all_goals
    intro key
    simp [weight_of_none (agents key), weight_of_none (services key), nothing, paidTo, payments]

/-- Nothing the books count has changed. -/
structure SameTotals (w w' : World K) : Prop where
  transactions : weight w'.agents AgentProfile.totalTransactions =
    weight w.agents AgentProfile.totalTransactions
  volume : weight w'.agents AgentProfile.totalVolumeUsdc =
    weight w.agents AgentProfile.totalVolumeUsdc
  servicesUsed : weight w'.agents AgentProfile.servicesUsed =
    weight w.agents AgentProfile.servicesUsed
  agentsServed : weight w'.services ServiceRegistry.totalAgentsServed =
    weight w.services ServiceRegistry.totalAgentsServed
  received : weight w'.services ServiceRegistry.totalVolumeReceivedUsdc =
    weight w.services ServiceRegistry.totalVolumeReceivedUsdc
  sparse : Sparse w.links → Sparse w'.links
  links : ∀ f : AgentServiceLink K → ℕ,
    (∀ link slot rated, f { link with lastFeedbackSlot := slot, hasReceivedFeedback := rated } =
      f link) → tally w'.links f = tally w.links f

theorem Books.keep {e : Step K} (books : Books log w) (same : SameTotals w w')
    (unpaid : e.act.payment = none) : Books (log ++ [e]) w' := by
  -- The step pays nothing, so both sides stay.
  have noPayment : ∀ key, paidTo key (log ++ [e]) = paidTo key log := by
    intro key
    simp [paidTo, payments_snoc, unpaid]
  exact
    { sparse := same.sparse books.sparse
      transactions := by
        intro key
        rw [same.transactions, noPayment, books.transactions]
      volume := by
        intro key
        rw [same.volume, noPayment, books.volume]
      linkTransactions := by
        intro key
        rw [same.transactions, same.links _ fun _ _ _ => rfl, books.linkTransactions]
      linkVolume := by
        intro key
        rw [same.volume, same.links _ fun _ _ _ => rfl, books.linkVolume]
      servicesUsed := by
        intro key
        rw [same.servicesUsed, same.links _ fun _ _ _ => rfl, books.servicesUsed]
      agentsServed := by
        intro key
        rw [same.agentsServed, same.links _ fun _ _ _ => rfl, books.agentsServed]
      received := by
        intro key
        rw [same.received, same.links _ fun _ _ _ => rfl, books.received] }

theorem step_sameTotals {act : Action K} (wf : WellFormed w) (fired : step w act = .ok w')
    (unpaid : act.payment = none) : SameTotals w w' := by
  cases step_cases wf fired with
  | advance slots => exact ⟨rfl, rfl, rfl, rfl, rfl, id, fun _ _ => rfl⟩
  | initializeAgent _ absent =>
    -- A new profile counts as much as none.
    refine ⟨?_, ?_, ?_, rfl, rfl, id, fun _ _ => rfl⟩
    all_goals
      apply weight_update_same
      rw [weight_of_none absent, InitializeAgent.profile]
  | registerService _ absent =>
    refine ⟨rfl, rfl, rfl, ?_, ?_, id, fun _ _ => rfl⟩
    all_goals
      apply weight_update_same
      rw [weight_of_none absent, RegisterService.registry]
  | setServiceActive accepts =>
    refine ⟨rfl, rfl, rfl, ?_, ?_, id, fun _ _ => rfl⟩
    all_goals exact weight_replace accepts.serviceHeld rfl
  | recordPayment => cases unpaid
  | giveFeedback accepts =>
    refine ⟨?_, ?_, ?_, ?_, ?_, fun sparse => sparse.update _ _, ?_⟩
    · exact weight_replace accepts.agentHeld rfl
    · exact weight_replace accepts.agentHeld rfl
    · exact weight_replace accepts.agentHeld rfl
    · exact weight_replace accepts.serviceHeld rfl
    · exact weight_replace accepts.serviceHeld rfl
    · intro f unrated
      apply tally_update_same
      rw [unrated]
      exact weight_of_some accepts.linkHeld
  | appendResponse accepts =>
    refine ⟨?_, ?_, ?_, rfl, rfl, id, fun _ _ => rfl⟩
    all_goals exact weight_replace accepts.agentHeld rfl
  | revokeFeedback accepts =>
    refine ⟨?_, ?_, ?_, ?_, ?_, id, fun _ _ => rfl⟩
    · exact weight_replace accepts.agentHeld rfl
    · exact weight_replace accepts.agentHeld rfl
    · exact weight_replace accepts.agentHeld rfl
    · exact weight_replace accepts.serviceHeld rfl
    · exact weight_replace accepts.serviceHeld rfl
  | computeScore held =>
    refine ⟨?_, ?_, ?_, rfl, rfl, id, fun _ _ => rfl⟩
    all_goals exact weight_replace held rfl

theorem Books.record {ctx : RecordPayment K} {amount : Nat} {hash : Hash}
    {profile : AgentProfile K} {registry : ServiceRegistry K} (wf : WellFormed w)
    (books : Books log w) (accepts : ctx.Accepts w amount hash profile registry)
    (post : w' = ctx.record w amount hash profile registry) :
    Books (log ++ [⟨w, .program (.recordPayment ctx amount hash), w'⟩]) w' := by
  obtain ⟨ofAgent, ofService, -⟩ := RecordPayment.link_placed wf accepts.link
  -- Profile, registry and both sides of the link grow by the same amounts.
  have agents : ∀ key (f : AgentProfile K → ℕ) n,
      f (profile.paid amount w.slot (ctx.isNewPair w)) = f profile + n →
      weight w'.agents f key = weight w.agents f key + if ctx.agentProfile = key then n else 0 := by
    intro key f n grown
    rw [post]
    exact weight_grow accepts.agentHeld grown key
  have services : ∀ key (f : ServiceRegistry K → ℕ) n,
      f (registry.paid amount w.slot (ctx.isNewPair w)) = f registry + n →
      weight w'.services f key =
        weight w.services f key + if ctx.serviceRegistry = key then n else 0 := by
    intro key f n grown
    rw [post]
    exact weight_grow accepts.serviceHeld grown key
  have links : w'.links = ctx.links w amount := by rw [post]; rfl
  have paid : ∀ key, paidTo key (log ++ [⟨w, .program (.recordPayment ctx amount hash), w'⟩]) =
      paidTo key log ++ if ctx.agentProfile = key
        then [⟨ctx.agentProfile, ctx.serviceRegistry, amount, hash⟩] else [] := by
    intro key
    by_cases mine : ctx.agentProfile = key <;>
      simp [paidTo, payments_snoc, Action.payment, mine]
  constructor
  · rw [links]
    exact books.sparse.update _ _
  · intro key
    rw [agents key _ 1 rfl, paid, List.length_append, books.transactions, apply_ite List.length]
    rfl
  · intro key
    rw [agents key _ amount rfl, paid, List.map_append, List.sum_append, books.volume]
    split <;> simp
  · intro key
    rw [agents key _ 1 rfl, books.linkTransactions, links, ← ofAgent]
    exact (tally_paid ctx amount key books.sparse (fun _ => rfl) (weight_transactions ctx amount)).symm
  · intro key
    rw [agents key _ amount rfl, books.linkVolume, links, ← ofAgent]
    exact (tally_paid ctx amount key books.sparse (fun _ => rfl) (weight_volume ctx amount)).symm
  · intro key
    rw [agents key _ _ rfl, books.servicesUsed, links, ← ofAgent]
    exact (tally_paid ctx amount key books.sparse (fun _ => rfl) (weight_pair ctx)).symm
  · intro key
    rw [services key _ _ rfl, books.agentsServed, links, ← ofService]
    exact (tally_paid ctx amount key books.sparse (fun _ => rfl) (weight_pair ctx)).symm
  · intro key
    rw [services key _ amount rfl, books.received, links, ← ofService]
    exact (tally_paid ctx amount key books.sparse (fun _ => rfl) (weight_volume ctx amount)).symm

/-- Only `record_payment` records a payment. -/
theorem recorded_of_payment {act : Action K} {p : Payment K} (wf : WellFormed w)
    (fired : step w act = .ok w') (paid : act.payment = some p) :
    ∃ ctx profile registry, act = .program (.recordPayment ctx p.amountUsdc p.hash) ∧
      ctx.Accepts w p.amountUsdc p.hash profile registry ∧
      w' = ctx.record w p.amountUsdc p.hash profile registry ∧
      p.agent = ctx.agentProfile ∧ p.service = ctx.serviceRegistry := by
  cases step_cases wf fired with
  | recordPayment accepts =>
    obtain rfl := Option.some.inj paid
    exact ⟨_, _, _, rfl, accepts, rfl, rfl, rfl⟩
  | _ => cases paid

theorem Run.books (genesis : Genesis w₀) (run : Run w₀ log w) : Books log w := by
  induction run with
  | nil => exact genesis.books
  | @snoc log w act w' run fired ih =>
    have wf : WellFormed w := Run.wellFormed run genesis.wellFormed
    cases paid : act.payment with
    | none => exact ih.keep (step_sameTotals wf fired paid) paid
    | some payment =>
      obtain ⟨ctx, profile, registry, rfl, accepts, post, -⟩ := recorded_of_payment wf fired paid
      exact ih.record wf accepts post

/-! ### Receipts against payments -/

/-- The receipt of a payment is there and names its link. -/
def Payment.Receipted (p : Payment K) (w : World K) : Prop :=
  ∃ receipt, w.receipts (findProgramAddress (.receipt p.hash)) = some receipt ∧
    receipt.receiptHash = p.hash ∧
    receipt.agentServiceLink = findProgramAddress (.link p.agent p.service)

structure Receipts (log : List (Step K)) (w : World K) : Prop where
  receipted : ∀ p ∈ payments log, p.Receipted w
  paid : ∀ key receipt, w.receipts key = some receipt →
    ∃ p ∈ payments log, p.hash = receipt.receiptHash
  distinct : ((payments log).map Payment.hash).Nodup

theorem step_receipts {act : Action K} (wf : WellFormed w) (fired : step w act = .ok w')
    (unpaid : act.payment = none) : w'.receipts = w.receipts := by
  cases step_cases wf fired with
  | recordPayment => cases unpaid
  | _ => rfl

theorem Run.receipts (genesis : Genesis w₀) (run : Run w₀ log w) : Receipts log w := by
  induction run with
  | nil =>
    refine ⟨by simp [payments], ?_, by simp [payments]⟩
    intro key receipt held
    rw [(genesis.vacant key).2.2.2.1] at held
    cases held
  | @snoc log w act w' run fired ih =>
    have wf : WellFormed w := Run.wellFormed run genesis.wellFormed
    cases paid : act.payment with
    | none =>
      have kept := step_receipts wf fired paid
      have same : payments (log ++ [⟨w, act, w'⟩]) = payments log := by simp [payments_snoc, paid]
      refine ⟨?_, ?_, ?_⟩
      · rw [same]
        unfold Payment.Receipted
        rw [kept]
        exact ih.receipted
      · rw [same, kept]
        exact ih.paid
      · rw [same]
        exact ih.distinct
    | some p =>
      obtain ⟨ctx, profile, registry, rfl, accepts, rfl, agent, service⟩ :=
        recorded_of_payment wf fired paid
      have more : payments (log ++ [⟨w, .program (.recordPayment ctx p.amountUsdc p.hash),
          ctx.record w p.amountUsdc p.hash profile registry⟩]) = payments log ++ [p] := by
        rw [payments_snoc, paid, Option.toList_some]
      have written : (ctx.record w p.amountUsdc p.hash profile registry).receipts =
          Function.update w.receipts ctx.receiptUsed (some
            { receiptHash := p.hash
              agentServiceLink := ctx.agentServiceLink
              recordedSlot := w.slot
              bump := canonicalBump (K := K) (.receipt p.hash) }) := rfl
      -- The receipt account did not exist, so no earlier payment had this hash.
      have fresh : ∀ q ∈ payments log, q.hash ≠ p.hash := by
        intro q earlier same
        obtain ⟨receipt, held, -⟩ := ih.receipted q earlier
        rw [same, ← accepts.receipt, accepts.unused] at held
        cases held
      refine ⟨?_, ?_, ?_⟩
      · rw [more]
        intro q member
        unfold Payment.Receipted
        rw [written, accepts.receipt]
        rcases List.mem_append.mp member with earlier | last
        · obtain ⟨receipt, held, rest⟩ := ih.receipted q earlier
          refine ⟨receipt, ?_, rest⟩
          rw [Function.update_of_ne, held]
          simpa using fresh q earlier
        · obtain rfl := List.mem_singleton.mp last
          exact ⟨_, Function.update_self .., rfl, by rw [accepts.link, agent, service]⟩
      · rw [more, written]
        intro key receipt held
        rw [Function.update_apply] at held
        split at held
        · obtain rfl := Option.some.inj held
          exact ⟨p, by simp, rfl⟩
        · obtain ⟨q, earlier, same⟩ := ih.paid key receipt held
          exact ⟨q, List.mem_append_left _ earlier, same⟩
      · rw [more, List.map_append, List.map_singleton]
        apply List.Nodup.append ih.distinct (List.nodup_singleton _)
        simpa [List.Disjoint] using fresh

/-! ### Agreement -/

def servicesOf (w : World K) (agent : K) : Set K :=
  {service | ∃ key link, w.links key = some link ∧ link.agent = agent ∧ link.service = service}

def agentsOf (w : World K) (service : K) : Set K :=
  {agent | ∃ key link, w.links key = some link ∧ link.service = service ∧ link.agent = agent}

section Pairs

variable (wf : WellFormed w)
include wf

omit [DecidableEq K]

/-- An agent has one link to each of its services. -/
theorem WellFormed.count_services (agent : K) :
    count w.links (fun link => link.agent = agent) = (servicesOf w agent).ncard := by
  apply count_eq_ncard fun service => findProgramAddress (.link agent service)
  · intro s s' same
    simpa using same
  · rintro key link held rfl
    exact (wf.links key link held).1

theorem WellFormed.count_agents (service : K) :
    count w.links (fun link => link.service = service) = (agentsOf w service).ncard := by
  apply count_eq_ncard fun agent => findProgramAddress (.link agent service)
  · intro a a' same
    simpa using same
  · rintro key link held rfl
    exact (wf.links key link held).1

end Pairs

/-- What a profile counts, in the log and in the links. -/
structure AgentProfile.Agrees (profile : AgentProfile K) (key : K) (log : List (Step K))
    (w : World K) : Prop where
  transactions : profile.totalTransactions = (paidTo key log).length
  volume : profile.totalVolumeUsdc = ((paidTo key log).map Payment.amountUsdc).sum
  linkTransactions : profile.totalTransactions =
    tally w.links (onSide AgentServiceLink.agent key AgentServiceLink.totalTransactions)
  linkVolume : profile.totalVolumeUsdc =
    tally w.links (onSide AgentServiceLink.agent key AgentServiceLink.totalVolumeUsdc)
  services : profile.servicesUsed = (servicesOf w key).ncard

structure ServiceRegistry.Agrees (registry : ServiceRegistry K) (key : K) (w : World K) : Prop where
  agents : registry.totalAgentsServed = (agentsOf w key).ncard
  received : registry.totalVolumeReceivedUsdc =
    tally w.links (onSide AgentServiceLink.service key AgentServiceLink.totalVolumeUsdc)

/-- Profiles, registries, links and receipts agree with the payments of the run. -/
theorem aggregates_agree (genesis : Genesis w₀) (run : Run w₀ log w) :
    Sparse w.links ∧
    (∀ key profile, w.agents key = some profile → profile.Agrees key log w) ∧
    (∀ key registry, w.services key = some registry → registry.Agrees key w) ∧
    (∀ key link, w.links key = some link →
      key = findProgramAddress (.link link.agent link.service)) ∧
    ((payments log).map Payment.hash).Nodup ∧
    (∀ p ∈ payments log, p.Receipted w) ∧
    ∀ key receipt, w.receipts key = some receipt →
      ∃! p, p ∈ payments log ∧ p.hash = receipt.receiptHash := by
  have books := run.books genesis
  have receipts := run.receipts genesis
  have wf : WellFormed w := Run.wellFormed run genesis.wellFormed
  refine ⟨books.sparse, ?_, ?_, fun key link held => (wf.links key link held).1,
    receipts.distinct, receipts.receipted, ?_⟩
  · intro key profile held
    have counted := fun f : AgentProfile K → ℕ => weight_of_some (g := f) held
    have services := books.servicesUsed key
    -- Summing ones over the links of the agent counts its services.
    have ones : tally w.links (onSide AgentServiceLink.agent key fun _ => 1) =
        (servicesOf w key).ncard := by
      rw [← wf.count_services]
      exact tally_indicator books.sparse _
    exact
      { transactions := (counted _).symm.trans (books.transactions key)
        volume := (counted _).symm.trans (books.volume key)
        linkTransactions := (counted _).symm.trans (books.linkTransactions key)
        linkVolume := (counted _).symm.trans (books.linkVolume key)
        services := ((counted _).symm.trans services).trans ones }
  · intro key registry held
    have counted := fun f : ServiceRegistry K → ℕ => weight_of_some (g := f) held
    have ones : tally w.links (onSide AgentServiceLink.service key fun _ => 1) =
        (agentsOf w key).ncard := by
      rw [← wf.count_agents]
      exact tally_indicator books.sparse _
    exact
      { agents := ((counted _).symm.trans (books.agentsServed key)).trans ones
        received := (counted _).symm.trans (books.received key) }
  · intro key receipt held
    obtain ⟨p, member, ofHash⟩ := receipts.paid key receipt held
    refine ⟨p, ⟨member, ofHash⟩, ?_⟩
    -- Hashes of payments are distinct, so the payment of a receipt is unique.
    rintro q ⟨also, same⟩
    exact List.inj_on_of_nodup_map receipts.distinct also member (same.trans ofHash.symm)

namespace Bazaar

/-- The steps that open the accounts and then those of a list of actions. -/
def logged (acts : List (Action SymbolicKey)) : List (Step SymbolicKey) :=
  Transition.trace step empty (opening ++ acts)

theorem genesis : Genesis empty := ⟨fun _ => ⟨rfl, rfl, rfl, rfl, rfl⟩⟩

theorem run_logged (acts : List (Action SymbolicKey)) : Run empty (logged acts) (after acts) := by
  rw [after, start, ← List.foldl_append]
  exact .of_trace step empty (opening ++ acts)

def twoPayments : List (Action SymbolicKey) := [pay service 5 0, pay rival 7 1]

end Bazaar

theorem aggregates_agree_bazaar :
    ∃ profile, (Bazaar.after Bazaar.twoPayments).agents Bazaar.account = some profile ∧
      profile.Agrees Bazaar.account (Bazaar.logged Bazaar.twoPayments)
        (Bazaar.after Bazaar.twoPayments) := by
  have present : (Bazaar.after Bazaar.twoPayments).agents Bazaar.account ≠ none := by decide
  obtain ⟨profile, held⟩ := Option.ne_none_iff_exists'.mp present
  obtain ⟨-, agents, -⟩ := aggregates_agree Bazaar.genesis (Bazaar.run_logged Bazaar.twoPayments)
  exact ⟨profile, held, agents Bazaar.account profile held⟩

end AgentFuel.Reputation
