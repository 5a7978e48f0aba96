import AgentFuel.Backend.ReputationRows

/-!
# The rows after all deliveries

Once every event has arrived the row of an account is the one its statement made of a table that
holds all events that make a refresh of the row necessary.
-/
namespace AgentFuel.Backend

open Checked FirstFailure Solana Register Vault Reputation

variable {K S : Type} [DecidableEq K] [AddressSpace K] [DecidableEq S] {chain : Chain K}
  {r : Rendering K S} {entries : List (Emitted K)} {batches : List (List (ParsedEvent S))}

/-- The last activity that a row shows is the slot of the last event that names its key. -/
theorem lastActive_shown (sound : chain.Sound) (slots : chain.programs.vault.slot < 2 ^ 63)
    (subset : entries ⊆ chain.log) {field : String} {key : S} {init : Int} {n : Nat}
    (past : ∀ e ∈ entries, (e.row r).text field = some key → e.event.slot ≤ n)
    (attained : ∃ e ∈ entries, (e.row r).text field = some key ∧ e.event.slot = n) :
    lastActive (entries.map (Emitted.row r)) key field init = n := by
  have stamp : ∀ e ∈ entries, (e.row r).slot = e.event.slot := by
    intro e inside
    have small := (sound.clock e (subset inside)).trans_lt slots
    rw [row_slot, Emitted.rowSlot_eq small, sound.stamped e (subset inside)]
  apply lastActive_eq
  · intro row mention
    obtain ⟨listed, text⟩ := List.mem_filter.mp mention
    obtain ⟨e, inside, rfl⟩ := List.mem_map.mp listed
    rw [stamp e inside]
    exact Int.ofNat_le.mpr (past e inside (of_decide_eq_true text))
  · obtain ⟨e, inside, text, rfl⟩ := attained
    exact ⟨e.row r, List.mem_filter.mpr ⟨List.mem_map_of_mem inside, decide_eq_true text⟩,
      stamp e inside⟩

/-! ### Vaults -/

/-- Events that no refresh follows. -/
def isRequest : VaultEvent K → Bool
  | .spendRequested .. => true
  | .spendRejected .. => true
  | _ => false

omit [DecidableEq K] [AddressSpace K] [DecidableEq S] in
theorem touched_vault {e : Emitted K} {ev : VaultEvent K} (event : e.event = .vault ev)
    (touches : isRequest ev = false) : (e.row r).decoded.eventName ∈ [EventName.vaultCreated, .deposited,
      .spent, .claimed, .vaultFrozen, .vaultUnfrozen, .policyUpdated, .withdrawn] := by
  change e.event.name ∈ _
  rw [event]
  cases ev with
  | spendRequested => cases touches
  | spendRejected => cases touches
  | _ => simp [Event.name]

omit [DecidableEq K] [AddressSpace K] in
theorem newTerms_touches (ev : VaultEvent K) (wrote : ev.newTerms.isSome = true) :
    isRequest ev = false := by
  cases ev with
  | spendRequested => cases wrote
  | spendRejected => cases wrote
  | _ => rfl

omit [DecidableEq K] [AddressSpace K] in
theorem newFrozen_touches (ev : VaultEvent K) (wrote : ev.newFrozen.isSome = true) :
    isRequest ev = false := by
  cases ev with
  | spendRequested => cases wrote
  | spendRejected => cases wrote
  | _ => rfl

/-- The table has every event about a vault that refreshes its row. -/
structure CoversVault (chain : Chain K) (v : K) (entries : List (Emitted K)) : Prop where
  entry : ∀ e ∈ chain.log, ∀ ev, e.event = .vault ev → ev.vault = v → isRequest ev = false → e ∈ entries

omit [AddressSpace K] [DecidableEq S] in
theorem CoversVault.writes {v : K} {β : Type} {write : VaultEvent K → Option β}
    (covers : CoversVault chain v entries)
    (touches : ∀ ev, (write ev).isSome = true → isRequest ev = false) :
    ∀ e ∈ chain.log, (e.vaultWrite v write).isSome = true → e ∈ entries := by
  intro e member wrote
  obtain ⟨b, wrote⟩ := Option.isSome_iff_exists.mp wrote
  obtain ⟨ev, event, about, wrote⟩ := Emitted.vaultWrite_eq_some.mp wrote
  exact covers.entry e member ev event about (touches ev (by rw [wrote]; rfl))

theorem vault_delivered (reachable : Reachable chain) (vaults : VaultBounds chain)
    (agents : AgentBounds chain) (rt : Runtime S) (zeroKey : S) (injective : Function.Injective r.key)
    (delivers : Delivers r chain.log batches) {v : K} {vault : CreditVault K}
    (present : chain.programs.vault.vaults v = some vault) :
    ∃ row entries init, (deliver rt zeroKey .empty batches).vaults (r.key v) = some row ∧
      entries ⊆ chain.log ∧ CoversVault chain v entries ∧
      VaultColumns rt (entries.map (Emitted.row r)) (r.key v) zeroKey init row := by
  have sound := reachable.sound
  have unique := keys_nodup sound.sorted r
  obtain ⟨table, made, drawn, touched, statement, shown⟩ := deliver_shown
    (rows_accepted reachable vaults agents rt zeroKey injective) unique delivers.sound (.vault (r.key v))
  obtain ⟨entries, holds⟩ := drawn.holds
  -- What names the vault is in the table that the last refresh has read.
  have covers : CoversVault chain v entries := by
    refine ⟨fun e member ev event about touches => ?_⟩
    rw [holds.mem_iff unique member]
    refine touched _ (delivers.complete (List.mem_map_of_mem member))
      ⟨touched_vault event touches, ?_⟩
    rw [vault_text, event, ← about]
    rfl
  obtain ⟨policy, held⟩ := sound.exists_policy present
  obtain ⟨init, member, creates⟩ := mem_vaultEvents.mp (sound.recorded present held).created
  have among := covers.entry init member _ creates rfl rfl
  obtain ⟨made', row, first, done, present', -, -, columns⟩ :=
    sound.refreshVault vaults rt zeroKey injective holds present among creates
  obtain rfl : made' = made := Except.ok.inj (done.symm.trans statement)
  exact ⟨row, entries, first.row r, shown.symm.trans present', holds.subset, covers, columns⟩

/-! ### Agents -/

omit [DecidableEq K] [AddressSpace K] [DecidableEq S] in
theorem touched_agent {e : Emitted K} {ev : ReputationEvent K} {a : K}
    (event : e.event = .reputation ev) (named : ev.agentAuthority = some a) :
    (Entity.agent (r.key a)).Touched (e.row r) := by
  refine ⟨?_, ?_⟩
  · change e.event.name ∈ _
    rw [event]
    cases ev <;> cases named <;> simp [Event.name]
  · rw [agent_text r event, named]
    rfl

/-- The table has every event that names an agent by its key. -/
def CoversAgent (chain : Chain K) (a : K) (entries : List (Emitted K)) : Prop :=
  ∀ e ∈ chain.log, ∀ ev, e.event = .reputation ev → ev.agentAuthority = some a → e ∈ entries

omit [AddressSpace K] [DecidableEq S] in
theorem CoversAgent.payments {a : K} {rows : List (ParsedEvent S)} (covers : CoversAgent chain a entries)
    (unique : ((chain.log.map (Emitted.row r)).map ParsedEvent.key).Nodup)
    (holds : Holds r chain.log entries rows) : (paymentsIn a chain.log).Perm (paymentsIn a entries) := by
  apply holds.writes_perm unique
  intro e member wrote
  obtain ⟨paid, wrote⟩ := Option.isSome_iff_exists.mp wrote
  obtain ⟨ev, event, wrote⟩ := Emitted.reputationWrite_eq_some.mp wrote
  refine covers e member ev event ?_
  by_contra other
  rw [ev.payment_other other] at wrote
  cases wrote

theorem agent_delivered (reachable : Reachable chain) (vaults : VaultBounds chain)
    (agents : AgentBounds chain) (rt : Runtime S) (zeroKey : S) (injective : Function.Injective r.key)
    (delivers : Delivers r chain.log batches) {key : K} {profile : AgentProfile K}
    (present : chain.programs.reputation.agents key = some profile) :
    ∃ row entries, (deliver rt zeroKey .empty batches).agents (r.key profile.authority) = some row ∧
      Holds r chain.log entries (entries.map (Emitted.row r)) ∧
      CoversAgent chain profile.authority entries ∧ AgentColumns r rt profile.authority entries row := by
  have sound := reachable.sound
  have unique := keys_nodup sound.sorted r
  obtain ⟨table, made, drawn, touched, statement, shown⟩ := deliver_shown
    (rows_accepted reachable vaults agents rt zeroKey injective) unique delivers.sound
    (.agent (r.key profile.authority))
  obtain ⟨entries, holds⟩ := drawn.holds
  have covers : CoversAgent chain profile.authority entries := by
    intro e member ev event named
    rw [holds.mem_iff unique member]
    exact touched _ (delivers.complete (List.mem_map_of_mem member)) (touched_agent event named)
  obtain ⟨init, member, creates⟩ :=
    mem_reputationEvents.mp (sound.books.reputation.agents key profile present).created
  obtain ⟨made', row, done, present', columns⟩ := reachable.refreshAgent agents rt injective holds
    present (covers init member _ creates rfl) creates
  obtain rfl : made' = made := Except.ok.inj (done.symm.trans statement)
  exact ⟨row, entries, shown.symm.trans present', ⟨rfl, holds.subset, holds.distinct⟩, covers, columns⟩

/-! ### Services -/

omit [DecidableEq K] [AddressSpace K] [DecidableEq S] in
theorem touched_service {e : Emitted K} {ev : ReputationEvent K} {a : K}
    (event : e.event = .reputation ev) (named : ev.serviceAuthority = some a) :
    (Entity.service (r.key a)).Touched (e.row r) := by
  refine ⟨?_, ?_⟩
  · change e.event.name ∈ _
    rw [event]
    cases ev <;> cases named
    simp [Event.name]
  · rw [service_text r event, named]
    rfl

theorem service_delivered (reachable : Reachable chain) (vaults : VaultBounds chain)
    (agents : AgentBounds chain) (rt : Runtime S) (zeroKey : S) (injective : Function.Injective r.key)
    (delivers : Delivers r chain.log batches) {key : K} {registry : ServiceRegistry K}
    (present : chain.programs.reputation.services key = some registry) :
    ∃ row entries, (deliver rt zeroKey .empty batches).services (r.key registry.authority) = some row ∧
      entries ⊆ chain.log ∧
      ∃ init ∈ entries, ∃ sponsor, init.event = .reputation (registry.creation sponsor) ∧
        ServiceColumns r registry.authority entries registry.firstActiveSlot row := by
  have sound := reachable.sound
  have unique := keys_nodup sound.sorted r
  obtain ⟨table, made, drawn, touched, statement, shown⟩ := deliver_shown
    (rows_accepted reachable vaults agents rt zeroKey injective) unique delivers.sound
    (.service (r.key registry.authority))
  obtain ⟨entries, holds⟩ := drawn.holds
  obtain ⟨sponsor, created⟩ := (sound.books.reputation.services key registry present).created
  obtain ⟨init, member, creates⟩ := mem_reputationEvents.mp created
  have held : init ∈ entries := by
    rw [holds.mem_iff unique member]
    exact touched _ (delivers.complete (List.mem_map_of_mem member)) (touched_service creates rfl)
  obtain ⟨made', row, done, present', columns⟩ :=
    sound.refreshService agents.slot rt injective holds present held creates
  obtain rfl : made' = made := Except.ok.inj (done.symm.trans statement)
  exact ⟨row, entries, shown.symm.trans present', holds.subset, init, held, sponsor, creates, columns⟩

end AgentFuel.Backend
