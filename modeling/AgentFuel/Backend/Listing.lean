import AgentFuel.Backend.Standing

/-!
# The listing of a service

The row of a service is kept under its key; payments and switches name the address of its registry.
As long as nobody pays, and a service is only switched on in the slot of its last activity, the
row agrees with the registry.
-/
namespace AgentFuel.Backend

open Checked FirstFailure Solana Register Reputation

variable {K S : Type} [DecidableEq K] [AddressSpace K]

/-- Only the reputation program runs, no payment is recorded, and services are only switched on, in
the slot in which they have been active. -/
def KeepsListing (p : Programs K) : Instruction K → Prop
  | .reputation (.setServiceActive ctx active) => active = true ∧
    ∀ registry, p.reputation.services ctx.serviceRegistry = some registry →
      registry.lastActiveSlot = p.reputation.slot
  | .reputation ix => ix.isPayment = false
  | .token _ => True
  | .vault _ => False

omit [DecidableEq K] in
theorem KeepsListing.free {p : Programs K} {i : Reputation.Instruction K}
    (keeps : KeepsListing p (.reputation i)) : i.isPayment = false := by
  cases i with
  | setServiceActive ctx active => rfl
  | _ => exact keeps

/-- A registry as it was registered. -/
structure Listed (registry : ServiceRegistry K) : Prop where
  active : registry.active = true
  agents : registry.totalAgentsServed = 0
  volume : registry.totalVolumeReceivedUsdc = 0
  slot : registry.lastActiveSlot = registry.firstActiveSlot

/-- What holds of the accounts and the events so far. -/
structure ListingBooks (p : Programs K) (events : List (Event K)) : Prop where
  wf : p.WellFormed
  alone : events.filterMap Event.asVault = []
  unpaid : ∀ k, p.reputation.receipts k = none
  unrated : ∀ k, p.reputation.feedbacks k = none
  free : ∀ ev ∈ events.filterMap Event.asReputation, ev.isPayment = false
  services : ∀ key registry, p.reputation.services key = some registry → Listed registry

variable {p p' : Programs K} {events new : List (Event K)} {ix : Instruction K}

theorem ListingBooks.execute (inv : ListingBooks p events) (keeps : KeepsListing p ix)
    (executed : p.execute ix = .ok (p', new)) : ListingBooks p' (events ++ new) := by
  have wf := (inv.wf.execute executed).1
  rcases Programs.execute_cases executed with
    ⟨i, w, ev, rfl, -, -, -⟩ | ⟨i, w, ev, rfl, handled, rfl, rfl⟩ | ⟨i, tokens, rfl, -, rfl, rfl⟩
  · exact keeps.elim
  · have appended : (events ++ [Event.reputation ev]).filterMap Event.asReputation =
        events.filterMap Event.asReputation ++ [ev] := List.filterMap_append
    obtain ⟨free, unpaid, unrated, listing⟩ :=
      handler_listing inv.wf.reputation inv.unpaid inv.unrated handled keeps.free
    refine ⟨wf, ?_, unpaid, unrated, ?_, ?_⟩
    · rw [List.filterMap_append, inv.alone]
      rfl
    · rw [appended, List.forall_mem_append, List.forall_mem_singleton]
      exact ⟨inv.free, free⟩
    · intro key registry' held
      cases listing key registry' held with
      | registered absent active agents volume slot => exact ⟨active, agents, volume, slot⟩
      | kept held => exact inv.services key registry' held
      | switched ctx active registry set address before changed =>
        -- The switch leaves everything as it was.
        subst set address changed
        obtain ⟨rfl, settled⟩ := keeps
        obtain ⟨-, agents, volume, slot⟩ := inv.services _ registry before
        exact ⟨rfl, agents, volume, (settled registry before).symm.trans slot⟩
  · rw [List.append_nil]
    exact ⟨wf, inv.alone, inv.unpaid, inv.unrated, inv.free, inv.services⟩

theorem ReachableBy.listingBooks {chain : Chain K} (reachable : ReachableBy KeepsListing chain) :
    ListingBooks chain.programs (chain.log.map Emitted.event) := by
  refine reachable.induction ?_ (fun _ _ _ _ _ keeps inv executed => inv.execute keeps executed) ?_
  · intro start genesis
    refine ⟨genesis.sound.programs, rfl, fun k => (genesis.reputation.vacant k).2.2.2.1,
      fun k => (genesis.reputation.vacant k).2.2.2.2, by simp, ?_⟩
    intro key registry present
    rw [(genesis.reputation.vacant key).2.1] at present
    cases present
  · intro p events slots inv
    exact ⟨inv.wf.advance slots, inv.alone, inv.unpaid, inv.unrated, inv.free, inv.services⟩

/-! ### The rows after all deliveries -/

/-- The row shows the registry of the service. -/
structure ShowsListing (row : ServiceRow S) (registry : ServiceRegistry K) : Prop where
  active : row.active = registry.active
  totalAgentsServed : row.totalAgentsServed = registry.totalAgentsServed
  totalVolumeReceivedUsdc : row.totalVolumeReceivedUsdc = registry.totalVolumeReceivedUsdc
  lastActiveSlot : row.lastActiveSlot = registry.lastActiveSlot

variable [DecidableEq S] {r : Rendering K S}

/-- Agents that nobody has paid have empty counters. -/
theorem Chain.Sound.unpaid {chain : Chain K} (sound : chain.Sound)
    (small : chain.programs.vault.slot < 2 ^ 63)
    (free : ∀ ev ∈ chain.reputationEvents, ev.isPayment = false) : AgentBounds chain := by
  refine ⟨small, fun key profile present => ?_⟩
  have recorded := sound.books.reputation.agents key profile present
  have nothing : paymentsTo profile.authority chain.reputationEvents = [] := by
    rw [paymentsTo, List.filterMap_eq_nil_iff]
    intro ev member
    have quiet := free ev member
    cases ev <;> first | rfl | cases quiet
  rw [Chain.reputationEvents] at nothing
  rw [recorded.volume, recorded.transactions, nothing]
  exact ⟨by norm_num, by norm_num⟩

/-- Under the condition every service has a row that shows its registry, whatever the batches. -/
theorem listing_shown (chain : Chain K) (reachable : ReachableBy KeepsListing chain)
    (slots : chain.programs.vault.slot < 2 ^ 63) (r : Rendering K S)
    (injective : Function.Injective r.key) (rt : Runtime S) (zeroKey : S)
    (batches : List (List (ParsedEvent S))) (delivers : Delivers r chain.log batches) (key : K)
    (registry : ServiceRegistry K)
    (present : chain.programs.reputation.services key = some registry) :
    ∃ row, (deliver rt zeroKey .empty batches).services (r.key registry.authority) = some row ∧
      ShowsListing row registry := by
  have sound := reachable.reachable.sound
  have books := reachable.listingBooks
  have recorded := sound.books.reputation.services key registry present
  obtain ⟨row, entries, found, subset, init, held, sponsor, creates, columns⟩ := service_delivered
    reachable.reachable (sound.noVaults slots books.alone) (sound.unpaid slots books.free) rt zeroKey
    injective delivers present
  have first := books.services key registry present
  refine ⟨row, found, ?_, ?_, ?_, ?_⟩
  · rw [columns.active, first.active]
  · rw [columns.totalAgentsServed, first.agents]
    rfl
  · rw [columns.totalVolumeReceivedUsdc, first.volume]
    rfl
  · rw [columns.lastActiveSlot, first.slot]
    apply lastActive_shown sound slots subset
    · -- Only its registration names the service by its key.
      intro e inside text
      have among : e ∈ chain.log := subset inside
      cases event : e.event with
      | vault other =>
        have heard : other ∈ (chain.log.map Emitted.event).filterMap Event.asVault :=
          mem_vaultEvents.mpr ⟨e, among, event⟩
        rw [books.alone] at heard
        cases heard
      | reputation other =>
        have heard := mem_reputationEvents.mpr ⟨e, among, event⟩
        have elsewhere := sound.serviceRegistry_ne recorded.signs among event
        rw [service_text r event] at text
        obtain ⟨a, authority, same⟩ := Option.map_eq_some_iff.mp text
        obtain rfl := injective same
        cases other with
        | serviceRegistered service sponsor name category slot =>
          obtain rfl : service = registry.authority := Option.some.inj authority
          exact (recorded.creation sponsor name category slot heard).2.2.le
        | _ => exact absurd authority elsewhere
    · refine ⟨init, held, (touched_service creates rfl).2, ?_⟩
      rw [creates]
      rfl

/-! ### A chain on symbolic keys -/

instance (p : Programs K) (ix : Instruction K) : Decidable (KeepsListing p ix) := by
  rcases ix with i | i | i
  · exact isFalse id
  · cases i with
    | setServiceActive =>
      exact inferInstanceAs (Decidable (_ ∧ ∀ registry ∈ p.reputation.services _, _))
    | _ => exact inferInstanceAs (Decidable (_ = false))
  · exact isTrue trivial

namespace Market

open SymbolicKey

def switch (service : Signer SymbolicKey) (active : Bool) : Reputation.Action SymbolicKey :=
  .program (.setServiceActive ⟨service, Bazaar.address service, service.key⟩ active)

end Market

/-- A service that is switched on where it is on. -/
theorem listing_shown_market :
    let acts := [Market.record "open" Bazaar.opening,
      Market.record "switch" [Market.switch Bazaar.service true]]
    ∃ registry row, registry.active = true ∧
      (deliver .standard defaultKey .empty (Market.batches acts)).services
        (Market.plain.key registry.authority) = some row ∧ ShowsListing row registry := by
  intro acts
  obtain ⟨registry, present, active⟩ : ∃ registry ∈ (Market.after acts).programs.reputation.services
      (Bazaar.address Bazaar.service), registry.active = true := by decide +kernel
  obtain ⟨row, found, shows⟩ := listing_shown (Market.after acts)
    (Market.reachableBy (by decide +kernel)) (by decide +kernel) Market.plain Function.injective_id
    .standard defaultKey (Market.batches acts) (Market.delivers acts) _ registry present
  exact ⟨registry, row, active, found, shows⟩

/-- A payment and a switch reach the registry and not the row. -/
theorem listing_unseen :
    let acts := [Market.record "open" Bazaar.opening, .advance 1,
      Market.record "pay" [Bazaar.pay Bazaar.service 5 0], .advance 1,
      Market.record "switch" [Market.switch Bazaar.service false]]
    Reachable (Market.after acts) ∧ (Market.after acts).OnePerSlot ∧
      (∀ ev ∈ (Market.after acts).log.map Emitted.event, ev.asVault = none) ∧
      Delivers Market.plain (Market.after acts).log (Market.batches acts) ∧
      ∃ registry ∈ (Market.after acts).programs.reputation.services (Bazaar.address Bazaar.service),
        ∃ row ∈ (deliver .standard defaultKey .empty (Market.batches acts)).services
          (Market.plain.key registry.authority),
          registry.totalVolumeReceivedUsdc = 5 ∧ row.totalVolumeReceivedUsdc = 0 ∧
            registry.totalAgentsServed = 1 ∧ row.totalAgentsServed = 0 ∧
            registry.active = false ∧ row.active = true :=
  ⟨Market.reachable _, by decide +kernel, by decide +kernel, Market.delivers _, by decide +kernel⟩

end AgentFuel.Backend
