import AgentFuel.Backend.ReputationMirror
import AgentFuel.Backend.VaultRows
import AgentFuel.Reputation.Standing

/-!
# The rows of the agents and services of a chain

On a table of events of a chain no statement is refused as long as the values fit the columns, and
the row of an agent counts the payments of the table.
-/
namespace AgentFuel.Backend

open Checked FirstFailure Solana Register Reputation

variable {K S : Type} [DecidableEq K] [AddressSpace K] {chain : Chain K} {e : Emitted K}
  {ev : ReputationEvent K} {a : K}

/-- The events of the agents and services, in chain order. -/
def Chain.reputationEvents (chain : Chain K) : List (ReputationEvent K) :=
  (chain.log.map Emitted.event).filterMap Event.asReputation

omit [DecidableEq K] [AddressSpace K] in
theorem mem_reputationEvents :
    ev ∈ chain.reputationEvents ↔ ∃ e ∈ chain.log, e.event = .reputation ev := by
  simp only [Chain.reputationEvents, List.filterMap_map, List.mem_filterMap, Function.comp_apply]
  exact exists_congr fun e => and_congr_right fun _ => Event.asReputation_eq_some

/-- Scores on a chain are within the scale. -/
theorem Reachable.scores (reachable : Reachable chain) {agent : K} {score slot : Nat}
    (scored : .scoreComputed agent score slot ∈ chain.reputationEvents) : score ≤ maxScore := by
  have kept : chain.programs.WellFormed ∧ ∀ agent score slot,
      .scoreComputed agent score slot ∈ (chain.log.map Emitted.event).filterMap Event.asReputation →
        score ≤ maxScore := by
    refine ReachableBy.induction (P := fun p events => p.WellFormed ∧ ∀ agent score slot,
      .scoreComputed agent score slot ∈ events.filterMap Event.asReputation → score ≤ maxScore)
      ?_ ?_ ?_ reachable
    · intro start genesis
      exact ⟨genesis.sound.programs, by simp⟩
    · rintro p events ix p' new - ⟨wf, bounded⟩ executed
      refine ⟨(wf.execute executed).1, ?_⟩
      intro agent score slot member
      rw [List.filterMap_append, List.mem_append] at member
      rcases member with earlier | here
      · exact bounded agent score slot earlier
      · rcases Programs.execute_cases executed with
          ⟨i, w, ev, -, -, -, rfl⟩ | ⟨i, w, ev, -, handled, -, rfl⟩ | ⟨i, tokens, -, -, -, rfl⟩
        · cases here
        · exact handler_score wf.reputation handled (List.mem_singleton.mp here).symm
        · cases here
    · rintro p events slots ⟨wf, bounded⟩
      exact ⟨wf.advance slots, bounded⟩
  exact kept.2 agent score slot scored

/-- An event names an agent by its key: the profile. -/
theorem Chain.Sound.exists_agent (sound : chain.Sound) (member : e ∈ chain.log)
    (event : e.event = .reputation ev) (named : ev.agentAuthority = some a) :
    ∃ key profile, chain.programs.reputation.agents key = some profile ∧ profile.authority = a :=
  (sound.books.reputation.names ev (mem_reputationEvents.mpr ⟨e, member, event⟩)).agentAuthority a named

theorem Chain.Sound.exists_service (sound : chain.Sound) (member : e ∈ chain.log)
    (event : e.event = .reputation ev) (named : ev.serviceAuthority = some a) :
    ∃ key registry, chain.programs.reputation.services key = some registry ∧ registry.authority = a :=
  (sound.books.reputation.names ev (mem_reputationEvents.mpr ⟨e, member, event⟩)).serviceAuthority a named

/-- The address of a profile is no key that signs. -/
theorem Chain.Sound.agentProfile_ne (sound : chain.Sound) (signs : CanSign a) (member : e ∈ chain.log)
    (event : e.event = .reputation ev) : ev.agentProfile ≠ some a := by
  intro named
  obtain ⟨profile, held⟩ := Option.ne_none_iff_exists'.mp
    ((sound.books.reputation.names ev (mem_reputationEvents.mpr ⟨e, member, event⟩)).agentProfile a named)
  rw [(sound.programs.reputation.agents a profile held).1] at signs
  exact findProgramAddress_cannot_sign _ signs

theorem Chain.Sound.serviceRegistry_ne (sound : chain.Sound) (signs : CanSign a)
    (member : e ∈ chain.log) (event : e.event = .reputation ev) : ev.serviceRegistry ≠ some a := by
  intro named
  obtain ⟨registry, held⟩ := Option.ne_none_iff_exists'.mp
    ((sound.books.reputation.names ev (mem_reputationEvents.mpr ⟨e, member, event⟩)).serviceRegistry a named)
  rw [(sound.programs.reputation.services a registry held).1] at signs
  exact findProgramAddress_cannot_sign _ signs

/-- What the agents hold fits the columns. -/
structure AgentBounds (chain : Chain K) : Prop where
  slot : chain.programs.vault.slot < 2 ^ 63
  agents : ∀ key profile, chain.programs.reputation.agents key = some profile →
    profile.totalVolumeUsdc < 2 ^ 63 ∧ profile.totalTransactions < 2 ^ 31

omit [AddressSpace K] in
theorem paymentsTo_log (a : K) (chain : Chain K) :
    paymentsTo a chain.reputationEvents = paymentsIn a chain.log := by
  rw [paymentsTo, Chain.reputationEvents, List.filterMap_map, List.filterMap_filterMap]
  rfl

section Statements

variable [DecidableEq S] {r : Rendering K S} {entries : List (Emitted K)} {rt : Runtime S}
  {table : Database S} {key : K} {profile : AgentProfile K}

omit [DecidableEq S] in
theorem AgentBounds.fits (bounds : AgentBounds chain) (reachable : Reachable chain)
    (holds : Holds r chain.log entries table.events)
    (present : chain.programs.reputation.agents key = some profile) :
    AgentFits profile.authority entries := by
  have recorded := reachable.sound.books.reputation.agents key profile present
  obtain ⟨volume, payments⟩ := bounds.agents key profile present
  rw [recorded.volume, ← Chain.reputationEvents, paymentsTo_log] at volume
  rw [recorded.transactions, ← Chain.reputationEvents, paymentsTo_log] at payments
  -- The table has no more payments than the chain.
  obtain ⟨rest, whole⟩ := holds.split
  have split := whole.filterMap (Emitted.reputationWrite (ReputationEvent.payment profile.authority))
  rw [List.filterMap_append] at split
  refine ⟨?_, ?_, ?_⟩
  · have sums := (split.map Prod.fst).sum_eq
    rw [List.map_append, List.sum_append] at sums
    exact (Nat.le_add_right _ _).trans_lt (sums ▸ volume)
  · have lengths := split.length_eq
    rw [List.length_append] at lengths
    exact (Nat.le_add_right _ _).trans_lt (lengths ▸ payments)
  · intro e member score wrote
    obtain ⟨ev, event, wrote⟩ := Emitted.reputationWrite_eq_some.mp wrote
    cases ev with
    | scoreComputed agent given slot =>
      simp only [ReputationEvent.newScore] at wrote
      split at wrote
      · obtain rfl := Option.some.inj wrote
        have scale := reachable.scores (mem_reputationEvents.mpr ⟨e, holds.subset member, event⟩)
        exact scale.trans_lt (by decide)
      · cases wrote
    | _ => cases wrote

omit [DecidableEq K] [AddressSpace K] in
theorem init_agent (injective : Function.Injective r.key) {row : ParsedEvent S}
    (member : row ∈ about [.agentInitialized] "agent" (r.key a) (entries.map (Emitted.row r))) :
    ∃ init ∈ entries, row = init.row r ∧
      ∃ owner slot, init.event = .reputation (.agentInitialized a owner slot) := by
  obtain ⟨held, about⟩ := List.mem_filter.mp member
  obtain ⟨init, inside, rfl⟩ := List.mem_map.mp held
  obtain ⟨named, text⟩ := of_decide_eq_true about
  refine ⟨init, inside, rfl, ?_⟩
  have creation : init.event.name = .agentInitialized := List.mem_singleton.mp named
  rcases event : init.event with ev | ev
  · rw [event] at creation
    cases ev <;> cases creation
  · rw [agent_text r event] at text
    rw [event] at creation
    cases ev <;> cases creation
    obtain rfl := injective (Option.some.inj text)
    exact ⟨_, _, rfl⟩

omit [DecidableEq K] [AddressSpace K] in
theorem init_service (injective : Function.Injective r.key) {row : ParsedEvent S}
    (member : row ∈ about [.serviceRegistered] "service" (r.key a) (entries.map (Emitted.row r))) :
    ∃ init ∈ entries, row = init.row r ∧ ∃ sponsor name category slot,
      init.event = .reputation (.serviceRegistered a sponsor name category slot) := by
  obtain ⟨held, about⟩ := List.mem_filter.mp member
  obtain ⟨init, inside, rfl⟩ := List.mem_map.mp held
  obtain ⟨named, text⟩ := of_decide_eq_true about
  refine ⟨init, inside, rfl, ?_⟩
  have creation : init.event.name = .serviceRegistered := List.mem_singleton.mp named
  rcases event : init.event with ev | ev
  · rw [event] at creation
    cases ev <;> cases creation
  · rw [service_text r event] at text
    rw [event] at creation
    cases ev <;> cases creation
    obtain rfl := injective (Option.some.inj text)
    exact ⟨_, _, _, _, rfl⟩

/-- The slot of an event fits. -/
theorem Chain.Sound.slot_small (sound : chain.Sound) (small : chain.programs.vault.slot < 2 ^ 63)
    (member : e ∈ chain.log) (event : e.event = .reputation ev) : ev.slot < 2 ^ 63 := by
  have stamp := sound.stamped e member
  rw [event] at stamp
  exact stamp.le.trans_lt ((sound.clock e member).trans_lt small)

/-- An agent that was initialized has a row. -/
theorem Reachable.refreshAgent (reachable : Reachable chain) (bounds : AgentBounds chain)
    (rt : Runtime S) (injective : Function.Injective r.key)
    (holds : Holds r chain.log entries table.events)
    (present : chain.programs.reputation.agents key = some profile) {init : Emitted K}
    (member : init ∈ entries) (creates : init.event = .reputation profile.creation) :
    ∃ made row, Backend.refreshAgent rt (r.key profile.authority) table = .ok made ∧
      made.agents (r.key profile.authority) = some row ∧
      AgentColumns r rt profile.authority entries row := by
  have sound := reachable.sound
  have signs := (sound.books.reputation.agents key profile present).signs
  have fits := bounds.fits reachable holds present
  have unnamed : ∀ e ∈ entries, ∀ ev, e.event = .reputation ev →
      ev.agentProfile ≠ some profile.authority :=
    fun e inside ev event => sound.agentProfile_ne signs (holds.subset inside) event
  have made : ∀ row ∈ about [.agentInitialized] "agent" (r.key profile.authority)
      (entries.map (Emitted.row r)), ∃ made,
        agentRow rt (entries.map (Emitted.row r)) (r.key profile.authority) row = .ok made ∧
          AgentColumns r rt profile.authority entries made := by
    intro row held
    obtain ⟨init, inside, rfl, owner, slot, event⟩ := init_agent injective held
    exact agentRow_ok injective rt fits unnamed event
      (sound.slot_small bounds.slot (holds.subset inside) event)
  have itself : init.row r ∈ about [.agentInitialized] "agent" (r.key profile.authority)
      (entries.map (Emitted.row r)) := by
    refine List.mem_filter.mpr ⟨List.mem_map_of_mem member, decide_eq_true ⟨?_, ?_⟩⟩
    · change init.event.name ∈ _
      rw [creates]
      exact List.mem_singleton.mpr rfl
    · rw [agent_text r creates]
      rfl
  obtain ⟨row, done, columns⟩ := limitOne_some rt.earliest rt.eager itself made
  rw [← holds.rows] at done
  refine ⟨?made, ?row, ?done, ?held, ?columns⟩
  case done =>
    simp only [Backend.refreshAgent, done]
    rfl
  case held => exact Function.update_self (r.key profile.authority) _ table.agents
  case columns =>
    -- What is kept of an old row are columns that are never rebuilt.
    cases table.agents (r.key profile.authority) with
    | none => exact columns
    | some old => exact ⟨columns.totalTransactions, columns.totalVolumeUsdc, columns.servicesUsed,
        columns.consecutiveSuccess, columns.totalFeedbackCount, columns.activeNegativeFeedbackCount,
        columns.score, columns.lastActiveSlot⟩

/-- A service that was registered has a row. -/
theorem Chain.Sound.refreshService (sound : chain.Sound) (small : chain.programs.vault.slot < 2 ^ 63)
    (rt : Runtime S) (injective : Function.Injective r.key)
    (holds : Holds r chain.log entries table.events) {registry : ServiceRegistry K}
    (present : chain.programs.reputation.services key = some registry) {init : Emitted K} {sponsor : K}
    (member : init ∈ entries) (creates : init.event = .reputation (registry.creation sponsor)) :
    ∃ made row, Backend.refreshService rt (r.key registry.authority) table = .ok made ∧
      made.services (r.key registry.authority) = some row ∧
      ServiceColumns r registry.authority entries registry.firstActiveSlot row := by
  have recorded := sound.books.reputation.services key registry present
  have unnamed : ∀ e ∈ entries, ∀ ev, e.event = .reputation ev →
      ev.serviceRegistry ≠ some registry.authority :=
    fun e inside ev event => sound.serviceRegistry_ne recorded.signs (holds.subset inside) event
  -- Whichever registration is picked, it is told by the same record.
  have made : ∀ row ∈ about [.serviceRegistered] "service" (r.key registry.authority)
      (entries.map (Emitted.row r)), ∃ made,
        serviceRow rt (entries.map (Emitted.row r)) (r.key registry.authority) row = .ok made ∧
          ServiceColumns r registry.authority entries registry.firstActiveSlot made := by
    intro row held
    obtain ⟨init, inside, rfl, sponsor, name, category, slot, event⟩ := init_service injective held
    have first := recorded.creation sponsor name category slot
      (mem_reputationEvents.mpr ⟨init, holds.subset inside, event⟩)
    rw [← first.2.2]
    exact serviceRow_ok injective rt unnamed event (sound.slot_small small (holds.subset inside) event)
  have itself : init.row r ∈ about [.serviceRegistered] "service" (r.key registry.authority)
      (entries.map (Emitted.row r)) := by
    refine List.mem_filter.mpr ⟨List.mem_map_of_mem member, decide_eq_true ⟨?_, ?_⟩⟩
    · change init.event.name ∈ _
      rw [creates]
      exact List.mem_singleton.mpr rfl
    · rw [service_text r creates]
      rfl
  obtain ⟨row, done, columns⟩ := limitOne_some rt.earliest rt.eager itself made
  rw [← holds.rows] at done
  refine ⟨?made, ?row, ?done, ?held, ?columns⟩
  case done =>
    simp only [Backend.refreshService, done]
    rfl
  case held => exact Function.update_self (r.key registry.authority) _ table.services
  case columns =>
    cases table.services (r.key registry.authority) with
    | none => exact columns
    | some old => exact ⟨columns.active, columns.totalAgentsServed, columns.totalVolumeReceivedUsdc,
        columns.lastActiveSlot⟩

/-- No statement is refused on a table of events of the chain. -/
theorem rows_accepted (reachable : Reachable chain) (vaults : VaultBounds chain)
    (agents : AgentBounds chain) (rt : Runtime S) (zeroKey : S) (injective : Function.Injective r.key) :
    Accepts rt zeroKey (chain.log.map (Emitted.row r)) := by
  have sound := reachable.sound
  intro db drawn entity
  obtain ⟨entries, holds⟩ := drawn.holds
  by_cases absent : entity.inits db.events = []
  · exact ⟨db, Entity.refresh_absent absent⟩
  obtain ⟨row, member⟩ := List.exists_mem_of_ne_nil _ absent
  -- The event that makes the row names the account.
  cases entity with
  | agent key =>
    simp only [Entity.inits, holds.rows] at member
    obtain ⟨listed, chosen⟩ := List.mem_filter.mp member
    obtain ⟨init, inside, rfl⟩ := List.mem_map.mp listed
    obtain ⟨named, text⟩ := of_decide_eq_true chosen
    have creation : init.event.name = .agentInitialized := List.mem_singleton.mp named
    obtain ⟨a, owner, slot, creates⟩ : ∃ a owner slot,
        init.event = .reputation (.agentInitialized a owner slot) := by
      rcases event : init.event with ev | ev <;> rw [event] at creation <;> cases ev <;> cases creation
      exact ⟨_, _, _, rfl⟩
    rw [agent_text r creates] at text
    obtain rfl := Option.some.inj text
    obtain ⟨address, profile, present, rfl⟩ := sound.exists_agent (holds.subset inside) creates rfl
    obtain ⟨rfl, rfl⟩ := (sound.books.reputation.agents address profile present).creation owner slot
      (mem_reputationEvents.mpr ⟨init, holds.subset inside, creates⟩)
    obtain ⟨made, -, done, -⟩ :=
      reachable.refreshAgent agents rt injective holds present inside creates
    exact ⟨made, done⟩
  | service key =>
    simp only [Entity.inits, holds.rows] at member
    obtain ⟨listed, chosen⟩ := List.mem_filter.mp member
    obtain ⟨init, inside, rfl⟩ := List.mem_map.mp listed
    obtain ⟨named, text⟩ := of_decide_eq_true chosen
    have creation : init.event.name = .serviceRegistered := List.mem_singleton.mp named
    obtain ⟨a, sponsor, name, category, slot, creates⟩ : ∃ a sponsor name category slot,
        init.event = .reputation (.serviceRegistered a sponsor name category slot) := by
      rcases event : init.event with ev | ev <;> rw [event] at creation <;> cases ev <;> cases creation
      exact ⟨_, _, _, _, _, rfl⟩
    rw [service_text r creates] at text
    obtain rfl := Option.some.inj text
    obtain ⟨address, registry, present, rfl⟩ := sound.exists_service (holds.subset inside) creates rfl
    obtain ⟨rfl, rfl, rfl⟩ := (sound.books.reputation.services address registry present).creation
      sponsor name category slot (mem_reputationEvents.mpr ⟨init, holds.subset inside, creates⟩)
    obtain ⟨made, -, done, -⟩ :=
      sound.refreshService agents.slot rt injective holds present inside creates
    exact ⟨made, done⟩
  | vault key =>
    simp only [Entity.inits, holds.rows] at member
    have held := member
    obtain ⟨listed, chosen⟩ := List.mem_filter.mp member
    obtain ⟨e, inside, rfl⟩ := List.mem_map.mp listed
    have text := (of_decide_eq_true chosen).2
    rw [vault_text] at text
    obtain ⟨ev, event, rfl⟩ := Option.map_eq_some_iff.mp text
    obtain ⟨vault, present⟩ := sound.exists_vault (holds.subset inside) (Event.asVault_eq_some.mp event)
    obtain ⟨init, among, -, creates⟩ := init_vault injective sound holds.subset present held
    obtain ⟨made, -, -, done, -⟩ :=
      sound.refreshVault vaults rt zeroKey injective holds present among creates
    exact ⟨made, done⟩

end Statements

end AgentFuel.Backend
