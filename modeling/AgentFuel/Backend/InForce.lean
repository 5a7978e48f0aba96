import AgentFuel.Backend.Delivered
import AgentFuel.Reputation.Interference
import AgentFuel.Vault.Runs

/-!
# The policy in force

The backend learns of a policy by `PolicyUpdated` alone and of activity by the events that refresh
a row. What else moves the fields of the row, or moves them without such an event, is what the
condition on the instructions leaves out.
-/
namespace AgentFuel.Backend

open Checked FirstFailure Solana Register Vault

variable {K S : Type} [DecidableEq K] [AddressSpace K]

/-- Events whose slot the account and the row do not both take. -/
def isDeferred : VaultEvent K → Bool
  | .policyUpdated .. => true
  | .spendRequested .. => true
  | .spendRejected .. => true
  | _ => false

/-- The vault has been active in the current slot, if it is there. -/
def Programs.Settled (p : Programs K) (v : K) : Prop :=
  ∀ vault, p.vault.vaults v = some vault → vault.lastActiveSlot = p.vault.slot

/-- Vaults start without limits; new limits fit the columns; what emits a deferred event runs in the
slot in which its vault has been active. -/
def KeepsInForce (p : Programs K) : Instruction K → Prop
  | .vault (.createVault _ perTx hourly lifetime allowPostPay) =>
    perTx = 0 ∧ hourly = 0 ∧ lifetime = 0 ∧ allowPostPay = false
  | .vault (.updatePolicy ctx perTx hourly lifetime _ _) =>
    (perTx < 2 ^ 63 ∧ hourly < 2 ^ 63 ∧ lifetime < 2 ^ 63) ∧ p.Settled ctx.vault
  | .vault (.requestSpend ctx _) => p.Settled ctx.vault
  | .vault (.cancelSpend ctx) => p.Settled ctx.vault
  | .vault _ => True
  | .token _ => True
  -- Only `credit_vault` runs.
  | .reputation _ => False

omit [DecidableEq K] in
theorem KeepsInForce.settled {p : Programs K} {i : Vault.Instruction K} {ev : VaultEvent K}
    (keeps : KeepsInForce p (.vault i)) (emits : i.Emits ev) (deferred : isDeferred ev = true) :
    p.Settled i.vault := by
  cases i with
  | updatePolicy ctx perTx hourly lifetime allowPostPay whitelist => exact keeps.2
  | requestSpend ctx amountUsdc => exact keeps
  | cancelSpend ctx => exact keeps
  -- The other events are taken by the account and by the row.
  | createVault ctx perTx hourly lifetime allowPostPay =>
    obtain ⟨_, rfl⟩ := emits
    cases deferred
  | deposit ctx amountUsdc =>
    obtain ⟨_, _, rfl⟩ := emits
    cases deferred
  | spend ctx amountUsdc =>
    obtain ⟨_, _, _, rfl⟩ := emits
    cases deferred
  | freezeVault ctx =>
    obtain ⟨_, rfl⟩ := emits
    cases deferred
  | unfreezeVault ctx =>
    obtain ⟨_, rfl⟩ := emits
    cases deferred
  | withdraw ctx amountUsdc =>
    obtain ⟨_, _, rfl⟩ := emits
    cases deferred
  | claim ctx amountUsdc =>
    obtain ⟨_, _, _, rfl⟩ := emits
    cases deferred
  | approveSpend ctx =>
    obtain ⟨_, _, _, _, _, rfl⟩ := emits
    cases deferred

omit [DecidableEq K] in
theorem KeepsInForce.limits {p : Programs K} {ix : Instruction K} (keeps : KeepsInForce p ix) :
    KeepsLimits p ix := by
  unfold KeepsLimits
  split
  · exact keeps.1
  · trivial

/-! ### What the events say of a vault -/

structure InForce (clock : Nat) (v : K) (vault : CreditVault K) (terms : Terms K)
    (events : List (VaultEvent K)) : Prop where
  blank : last (VaultEvent.about v VaultEvent.newTerms) events = none → terms = blankTerms
  clock : vault.lastActiveSlot ≤ clock
  past : ∀ ev ∈ events, ev.vault = v → ev.slot ≤ vault.lastActiveSlot
  touched : ∃ ev ∈ events, ev.vault = v ∧ isRequest ev = false ∧ ev.slot = vault.lastActiveSlot

section InForce

variable {clock : Nat} {v : K} {vault : CreditVault K} {terms : Terms K} {events : List (VaultEvent K)}
  {ev : VaultEvent K}

theorem InForce.other (inForce : InForce clock v vault terms events) (other : ev.vault ≠ v) :
    InForce clock v vault terms (events ++ [ev]) where
  blank unwritten := by
    rw [last_other other] at unwritten
    exact inForce.blank unwritten
  clock := inForce.clock
  past e member about := by
    rcases List.mem_append.mp member with earlier | here
    · exact inForce.past e earlier about
    · rw [List.mem_singleton.mp here] at about
      exact absurd about other
  touched := by
    obtain ⟨e, member, facts⟩ := inForce.touched
    exact ⟨e, List.mem_append_left _ member, facts⟩

theorem InForce.report {s s' : VaultView K}
    (inForce : InForce s.slot v s.vault s.policy.terms events) (reports : Reports v s ev s')
    (settled : isDeferred ev = true → s.vault.lastActiveSlot = s.slot) :
    InForce s.slot v s'.vault s'.policy.terms (events ++ [ev]) := by
  -- Every event sets the last activity, but for a few that come in a slot already noted.
  have active : s'.vault.lastActiveSlot = s.slot := by
    rw [reports.lastActive]
    split
    next passive =>
      apply settled
      cases ev <;> simp_all [VaultEvent.isPassive, isDeferred]
    · rfl
  refine ⟨?_, active.le, ?_, ?_⟩
  · -- No terms were written before, and none are now, so the initial ones hold.
    intro unwritten
    rw [last_snoc, ev.about_same reports.vault] at unwritten
    rw [reports.terms]
    cases wrote : ev.newTerms with
    | some t =>
      rw [wrote] at unwritten
      cases unwritten
    | none =>
      rw [wrote, Option.none_or] at unwritten
      exact inForce.blank unwritten
  · intro e member about
    rw [active]
    rcases List.mem_append.mp member with earlier | here
    · exact (inForce.past e earlier about).trans inForce.clock
    · rw [List.mem_singleton.mp here, reports.slot]
  · rw [active]
    by_cases deferred : isDeferred ev = true
    · -- The slot is that of an earlier event.
      obtain ⟨e, member, about, touches, slot⟩ := inForce.touched
      exact ⟨e, List.mem_append_left _ member, about, touches, slot.trans (settled deferred)⟩
    · refine ⟨ev, by simp, reports.vault, ?_, reports.slot⟩
      cases ev <;> simp_all [isRequest, isDeferred]

end InForce

/-- What holds of the accounts and the events so far. -/
structure PolicyBooks (p : Programs K) (events : List (Event K)) : Prop where
  wf : p.WellFormed
  books : EventBooks p events
  alone : events.filterMap Event.asReputation = []
  vaults : ∀ v vault policy, p.vault.vaults v = some vault →
    p.vault.policies (policyAddress v) = some policy →
      InForce p.vault.slot v vault policy.terms (events.filterMap Event.asVault)

variable {p p' : Programs K} {events new : List (Event K)} {ix : Instruction K}

/-- A new event of the vault program. -/
theorem PolicyBooks.vaultStep {i : Vault.Instruction K} {w : Vault.World K} {ev : VaultEvent K}
    (inv : PolicyBooks p events) (keeps : KeepsInForce p (.vault i))
    (handled : i.handler p.vault = .ok (w, ev)) :
    ∀ v vault policy, w.vaults v = some vault → w.policies (policyAddress v) = some policy →
      InForce w.slot v vault policy.terms (events.filterMap Event.asVault ++ [ev]) := by
  have cases := Vault.handler_cases inv.wf.vault handled
  have emits := Vault.handler_emits handled
  cases cases with
  | @create ctx perTx hourly lifetime allowPostPay tokens _ creates =>
    -- The terms are those that the mirror takes for granted.
    obtain ⟨rfl, rfl, rfl, rfl⟩ := keeps
    have fresh := inv.books.vault.absent ctx.vault creates.fresh.vaultVacant.1
    rw [creates.world]
    intro v vault policy present held
    by_cases here : v = ctx.vault
    · subst here
      simp only [World.write, Function.update_self, Option.some.injEq] at present held
      subst present held
      refine ⟨fun _ => rfl, le_refl _, ?_, _, List.mem_append_right _ (List.mem_singleton.mpr rfl), rfl,
        rfl, rfl⟩
      -- No earlier event is about the vault, because there was none.
      intro e member about
      rcases List.mem_append.mp member with earlier | last
      · exact absurd about (fresh e earlier)
      · rw [List.mem_singleton.mp last]
        exact le_refl _
    · simp only [World.write, Function.update_apply, policyAddress_inj, if_neg here] at present held
      exact (inv.vaults v vault policy present held).other (Ne.symm here)
  | @move _ s s' n tokens _ moves reports =>
    intro v vault policy present held
    by_cases here : v = i.vault
    · subst here
      simp only [World.write, Function.update_self, Option.some.injEq] at present held
      subst present held
      have before := inv.vaults _ _ _ moves.shows.vault moves.shows.policy
      rw [moves.shows.slot] at before
      have after := before.report reports ?_
      · rw [← moves.shows.slot] at after
        exact after
      · intro deferred
        exact (keeps.settled emits deferred _ moves.shows.vault).trans moves.shows.slot
    · simp only [World.write, Function.update_apply, policyAddress_inj, if_neg here] at present held
      have other : ev.vault ≠ v := reports.vault ▸ Ne.symm here
      exact (inv.vaults v vault policy present held).other other

theorem PolicyBooks.execute (inv : PolicyBooks p events) (keeps : KeepsInForce p ix)
    (executed : p.execute ix = .ok (p', new)) : PolicyBooks p' (events ++ new) := by
  have wf := (inv.wf.execute executed).1
  have books := inv.books.execute inv.wf executed
  rcases Programs.execute_cases executed with
    ⟨i, w, ev, rfl, handled, rfl, rfl⟩ | ⟨i, w, ev, rfl, -, -, -⟩ | ⟨i, tokens, rfl, -, rfl, rfl⟩
  · have appended : (events ++ [Event.vault ev]).filterMap Event.asVault =
        events.filterMap Event.asVault ++ [ev] := List.filterMap_append
    refine ⟨wf, books, ?_, ?_⟩
    · rw [List.filterMap_append, inv.alone]
      rfl
    · rw [appended]
      exact inv.vaultStep keeps handled
  · exact keeps.elim
  · rw [List.append_nil] at books ⊢
    exact ⟨wf, books, inv.alone, inv.vaults⟩

theorem PolicyBooks.tick (inv : PolicyBooks p events) (slots : Nat) :
    PolicyBooks (p.advance slots) events where
  wf := inv.wf.advance slots
  books := inv.books.advance slots
  alone := inv.alone
  vaults v vault policy present held := by
    obtain ⟨blank, clock, past, touched⟩ := inv.vaults v vault policy present held
    exact ⟨blank, clock.trans (Nat.le_add_right _ _), past, touched⟩

theorem ReachableBy.policyBooks {chain : Chain K} (reachable : ReachableBy KeepsInForce chain) :
    PolicyBooks chain.programs (chain.log.map Emitted.event) := by
  refine reachable.induction ?_ (fun _ _ _ _ _ keeps inv executed => inv.execute keeps executed)
    (fun _ _ slots inv => inv.tick slots)
  intro start genesis
  refine ⟨⟨genesis.vault.wellFormed, genesis.reputation.wellFormed, genesis.clock⟩,
    ⟨genesis.vault.eventBooks, genesis.reputation.eventBooks⟩, rfl, ?_⟩
  intro v vault policy present
  rw [genesis.vault.vaults] at present
  cases present

/-! ### The rows after all deliveries -/

/-- No two transactions of one slot emit events. -/
def Chain.OnePerSlot (chain : Chain K) : Prop :=
  ∀ a ∈ chain.log, ∀ b ∈ chain.log, a.slot = b.slot → a.signature = b.signature

variable {chain : Chain K}

/-- Then the order of the statements is the order of the chain. -/
theorem Chain.OnePerSlot.positions (one : chain.OnePerSlot) (sound : chain.Sound)
    (small : chain.programs.vault.slot < 2 ^ 63) :
    chain.log.Pairwise fun a b => a.position < b.position := by
  refine sound.sorted.imp_of_mem ?_
  intro a b first second ⟨slots, places⟩
  have slotA := Emitted.rowSlot_eq ((sound.clock a first).trans_lt small)
  have slotB := Emitted.rowSlot_eq ((sound.clock b second).trans_lt small)
  rw [Emitted.position, Emitted.position, Prod.Lex.toLex_lt_toLex, slotA, slotB]
  rcases Nat.lt_or_eq_of_le slots with less | same
  · exact .inl (Int.ofNat_lt.mpr less)
  · exact .inr ⟨congrArg Int.ofNat same, Int.ofNat_lt.mpr (places (one a first b second same))⟩

variable [DecidableEq S] {r : Rendering K S}

/-- The row shows the vault and its policy. -/
structure ShowsPolicy (r : Rendering K S) (row : VaultRow S) (vault : CreditVault K)
    (policy : SpendPolicy K) : Prop where
  terms : ShowsTerms r row policy.terms
  frozen : row.frozen = vault.frozen
  lastActiveSlot : row.lastActiveSlot = vault.lastActiveSlot

/-- Under the condition every vault has a row that shows it and its policy, whatever the batches. -/
theorem policy_shown (chain : Chain K) (reachable : ReachableBy KeepsInForce chain)
    (one : chain.OnePerSlot) (slots : chain.programs.vault.slot < 2 ^ 63)
    (totals : ∀ v vault, chain.programs.vault.vaults v = some vault →
      ∀ total : VaultTotal, total.value vault < 2 ^ 63)
    (r : Rendering K S) (injective : Function.Injective r.key) (rt : Runtime S)
    (batches : List (List (ParsedEvent S))) (delivers : Delivers r chain.log batches) (v : K)
    (vault : CreditVault K) (policy : SpendPolicy K)
    (present : chain.programs.vault.vaults v = some vault)
    (held : chain.programs.vault.policies (policyAddress v) = some policy) :
    ∃ row, (deliver rt (r.key defaultKey) .empty batches).vaults (r.key v) = some row ∧
      ShowsPolicy r row vault policy := by
  have sound := reachable.reachable.sound
  have books := reachable.policyBooks
  have bounds : VaultBounds chain := ⟨slots, totals, (reachable.mono fun _ _ => KeepsInForce.limits).limits⟩
  have recorded := sound.recorded present held
  -- Without events of the reputation program there are no agents.
  have agents : AgentBounds chain := by
    refine ⟨slots, fun key profile present => ?_⟩
    have created := (sound.books.reputation.agents key profile present).created
    rw [books.alone] at created
    cases created
  obtain ⟨row, entries, init, found, subset, covers, columns⟩ := vault_delivered reachable.reachable
    bounds agents rt (r.key defaultKey) injective delivers present
  have sorted := one.positions sound slots
  refine ⟨row, found, ?_, ?_, ?_⟩
  · -- The terms are the last update, or those of the creation.
    have value := terms_shown injective subset columns
      (.of_sorted (sorted.imp fun less _ _ => less)) (covers.writes newTerms_touches)
    cases update : last (VaultEvent.about v VaultEvent.newTerms) chain.vaultEvents with
    | some t =>
      rw [update, Option.getD_some] at value
      rw [recorded.terms t update]
      exact value
    | none =>
      rw [update, Option.getD_none] at value
      rw [(books.vaults v vault policy present held).blank update]
      exact value
  · exact frozen_shown injective sound subset present columns
      (.of_sorted (sorted.imp fun less _ _ => less)) (covers.writes newFrozen_touches)
  · obtain ⟨created, -, active⟩ := columns.lastActiveSlot
    obtain ⟨-, -, past, ev, event, about, touches, slot⟩ := books.vaults v vault policy present held
    rw [active]
    apply lastActive_shown sound slots subset
    · intro e inside text
      rw [vault_text] at text
      obtain ⟨other, event', text⟩ := Option.map_eq_some_iff.mp text
      have named := Event.asVault_eq_some.mp event'
      rw [named]
      exact past other (mem_vaultEvents.mpr ⟨e, subset inside, named⟩) (injective text)
    · obtain ⟨e, member, named⟩ := mem_vaultEvents.mp event
      refine ⟨e, covers.entry e member ev named about touches, ?_, ?_⟩
      · rw [vault_text, named, ← about]
        rfl
      · rw [named]
        exact slot

/-! ### A chain on symbolic keys -/

instance (p : Programs K) (v : K) : Decidable (p.Settled v) :=
  inferInstanceAs (Decidable (∀ vault ∈ p.vault.vaults v, _))

instance (p : Programs K) (ix : Instruction K) : Decidable (KeepsInForce p ix) := by
  unfold KeepsInForce
  split <;> infer_instance

namespace Market

open SymbolicKey Vault.Market

def genesis : Chain SymbolicKey := ⟨⟨Vault.Market.empty, Reputation.Bazaar.empty⟩, []⟩

theorem genesis_genesis : Genesis genesis where
  vault := ⟨fun _ => rfl, fun _ => rfl, fun _ => rfl⟩
  reputation := ⟨fun _ => ⟨rfl, rfl, rfl, rfl, rfl⟩⟩
  clock := rfl
  log := rfl

/-- Actions of the vault program in one transaction. -/
def transaction (signature : String) (acts : List (Vault.Action SymbolicKey)) : ChainAction SymbolicKey :=
  .transaction signature (acts.filterMap fun act => match act with
    | .program ix => some (.vault ix)
    | .token ix => some (.token ix)
    | .advance _ => none)

def after (acts : List (ChainAction SymbolicKey)) : Chain SymbolicKey :=
  acts.foldl (Transition.settle Chain.step) genesis

theorem reachableBy {condition : Programs SymbolicKey → Instruction SymbolicKey → Prop}
    {acts : List (ChainAction SymbolicKey)}
    (meets : ∀ e ∈ Transition.trace Chain.step genesis acts, e.pre.Meets condition e.act) :
    ReachableBy condition (after acts) :=
  ⟨genesis, _, genesis_genesis, .of_trace _ _ acts, meets⟩

theorem reachable (acts : List (ChainAction SymbolicKey)) : Reachable (after acts) :=
  reachableBy fun e _ => e.pre.meets_trivial e.act

/-- Keys stand for themselves. -/
def plain : Rendering SymbolicKey SymbolicKey := ⟨id, fun _ => defaultKey, fun _ => defaultKey⟩

/-- All events in one batch. -/
def batches (acts : List (ChainAction SymbolicKey)) : List (List (ParsedEvent SymbolicKey)) :=
  [(after acts).log.map (Emitted.row plain)]

theorem delivers (acts : List (ChainAction SymbolicKey)) :
    Delivers plain (after acts).log (batches acts) where
  sound batch member := by
    rw [List.mem_singleton.mp member]
    exact List.Subset.refl _
  complete := by
    rw [batches, List.flatten_singleton]
    exact List.Subset.refl _

/-- All counters are small if those of the one vault are. -/
theorem totals_small {acts : List (ChainAction SymbolicKey)}
    (only : ∀ ev ∈ (after acts).vaultEvents, ev.vault = Vault.Market.vault)
    (small : ∀ held ∈ (after acts).programs.vault.vaults Vault.Market.vault, held.totalDeposited < 2 ^ 63 ∧
      held.totalWithdrawn < 2 ^ 63 ∧ held.totalSpent < 2 ^ 63 ∧ held.totalClaimed < 2 ^ 63)
    (v : SymbolicKey) (held : CreditVault SymbolicKey)
    (present : (after acts).programs.vault.vaults v = some held) (total : VaultTotal) :
    total.value held < 2 ^ 63 := by
  have sound := (reachable acts).sound
  obtain ⟨policy, terms⟩ := sound.exists_policy present
  have here : v = Vault.Market.vault := only _ (sound.recorded present terms).created
  obtain ⟨deposited, withdrawn, spent, claimed⟩ := small held (here ▸ present)
  cases total with
  | deposited => exact deposited
  | withdrawn => exact withdrawn
  | spent => exact spent
  | claimed => exact claimed

end Market

instance {K : Type} (chain : Chain K) : Decidable chain.OnePerSlot :=
  inferInstanceAs (Decidable (∀ a ∈ chain.log, ∀ b ∈ chain.log, _))

/-- A vault without limits, its funding, an update in the same slot, and a freeze. -/
theorem policy_shown_market :
    let acts := [Market.transaction "open" Vault.Market.opening,
      Market.transaction "create" [Vault.Market.create 0 0 0 false], .advance 1,
      Market.transaction "fund" [Vault.Market.deposit 50, Vault.Market.allow Vault.Market.service.key],
      .advance 1, Market.transaction "freeze" [Vault.Market.freeze]]
    ∃ vault policy row, vault.frozen = true ∧ policy.allowPostPay = true ∧
      (deliver .standard (Market.plain.key defaultKey) .empty (Market.batches acts)).vaults
        (Market.plain.key Vault.Market.vault) = some row ∧ ShowsPolicy Market.plain row vault policy := by
  intro acts
  obtain ⟨vault, present, frozen⟩ : ∃ vault ∈ (Market.after acts).programs.vault.vaults
      Vault.Market.vault, vault.frozen = true := by decide +kernel
  obtain ⟨policy, held, postPay⟩ : ∃ policy ∈ (Market.after acts).programs.vault.policies
      Vault.Market.policy, policy.allowPostPay = true := by decide +kernel
  obtain ⟨row, found, shows⟩ := policy_shown (Market.after acts) (Market.reachableBy (by decide +kernel))
    (by decide +kernel) (by decide +kernel)
    (Market.totals_small (by decide +kernel) (by decide +kernel)) Market.plain Function.injective_id
    .standard (Market.batches acts) (Market.delivers acts) Vault.Market.vault vault policy present held
  exact ⟨vault, policy, row, frozen, postPay, found, shows⟩

/-- The limits of a creation are not in its event. -/
theorem policy_hidden :
    let acts := [Market.transaction "open" Vault.Market.opening,
      Market.transaction "create" [Vault.Market.create 5 0 0 false]]
    Reachable (Market.after acts) ∧ (Market.after acts).OnePerSlot ∧
      Delivers Market.plain (Market.after acts).log (Market.batches acts) ∧
      ∃ policy ∈ (Market.after acts).programs.vault.policies Vault.Market.policy,
        ∃ row ∈ (deliver .standard (Market.plain.key defaultKey) .empty (Market.batches acts)).vaults
          (Market.plain.key Vault.Market.vault), policy.perTxLimitUsdc = 5 ∧ row.perTxLimitUsdc = 0 :=
  ⟨Market.reachable _, by decide +kernel, Market.delivers _, by decide +kernel⟩

end AgentFuel.Backend
