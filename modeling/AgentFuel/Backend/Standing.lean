import AgentFuel.Backend.InForce

/-!
# The standing of an agent

The row of an agent is kept under its key and feedback names the address of its profile. As long
as nobody gives feedback the two do not come apart.
-/
namespace AgentFuel.Backend

open Checked FirstFailure Solana Register Reputation

variable {K S : Type} [DecidableEq K] [AddressSpace K]

/-- Only the reputation program runs, and no feedback is given. -/
def KeepsStanding (_ : Programs K) : Instruction K → Prop
  | .reputation ix => ix.isFeedback = false
  | .token _ => True
  | .vault _ => False

/-- What the events say of the standing of an agent. -/
structure Standing (clock : Nat) (profile : AgentProfile K) (events : List (ReputationEvent K)) :
    Prop where
  feedback : profile.totalFeedbackCount = 0
  negative : profile.activeNegativeFeedbackCount = 0
  clock : profile.lastActiveSlot ≤ clock
  past : ∀ ev ∈ events, ev.agentAuthority = some profile.authority → ev.slot ≤ profile.lastActiveSlot
  active : ∃ ev ∈ events, ev.agentAuthority = some profile.authority ∧ ev.slot = profile.lastActiveSlot

section Standing

variable {clock : Nat} {profile profile' : AgentProfile K} {events : List (ReputationEvent K)}
  {ev : ReputationEvent K}

omit [DecidableEq K] [AddressSpace K] in
/-- The first event that names an agent. -/
theorem Standing.create (feedback : profile.totalFeedbackCount = 0)
    (negative : profile.activeNegativeFeedbackCount = 0) (now : profile.lastActiveSlot = clock)
    (fresh : ∀ ev ∈ events, ev.agentAuthority ≠ some profile.authority)
    (stamp : profile.firstActiveSlot = clock) :
    Standing clock profile (events ++ [profile.creation]) where
  feedback := feedback
  negative := negative
  clock := now.le
  past e member named := by
    rcases List.mem_append.mp member with earlier | here
    · exact absurd named (fresh e earlier)
    · rw [List.mem_singleton.mp here, now, ← stamp]
      exact le_refl _
  active := ⟨profile.creation, by simp, rfl, stamp.trans now.symm⟩

omit [DecidableEq K] [AddressSpace K] in
theorem Standing.report (standing : Standing clock profile events)
    (reports : StandingReports clock profile ev profile') (stamp : ev.slot = clock) :
    Standing clock profile' (events ++ [ev]) := by
  obtain ⟨authority, feedback, negative, moved⟩ := reports
  -- The last activity is the slot of now, or it stays.
  have grown : profile.lastActiveSlot ≤ profile'.lastActiveSlot := by
    rcases moved with ⟨-, now⟩ | ⟨-, same⟩
    · rw [now]
      exact standing.clock
    · exact same.ge
  refine ⟨feedback.trans standing.feedback, negative.trans standing.negative, ?_, ?_, ?_⟩
  · rcases moved with ⟨-, now⟩ | ⟨-, same⟩
    · exact now.le
    · exact same.trans_le standing.clock
  · intro e member named
    rw [authority] at named
    rcases List.mem_append.mp member with earlier | here
    · exact (standing.past e earlier named).trans grown
    · rw [List.mem_singleton.mp here] at named ⊢
      rcases moved with ⟨-, now⟩ | ⟨other, -⟩
      · exact (stamp.trans now.symm).le
      · exact absurd named other
  · rw [authority]
    rcases moved with ⟨named, now⟩ | ⟨-, same⟩
    · exact ⟨ev, by simp, named, stamp.trans now.symm⟩
    · -- The slot is that of an earlier event.
      obtain ⟨e, member, named, slot⟩ := standing.active
      exact ⟨e, List.mem_append_left _ member, named, slot.trans same.symm⟩

end Standing

/-- What holds of the accounts and the events so far. -/
structure StandingBooks (p : Programs K) (events : List (Event K)) : Prop where
  wf : p.WellFormed
  books : EventBooks p events
  alone : events.filterMap Event.asVault = []
  unrated : ∀ k, p.reputation.feedbacks k = none
  quiet : ∀ ev ∈ events.filterMap Event.asReputation, ev.agentProfile = none
  agents : ∀ key profile, p.reputation.agents key = some profile →
    Standing p.reputation.slot profile (events.filterMap Event.asReputation)

variable {p p' : Programs K} {events new : List (Event K)} {ix : Instruction K}

theorem StandingBooks.execute (inv : StandingBooks p events) (keeps : KeepsStanding p ix)
    (executed : p.execute ix = .ok (p', new)) : StandingBooks p' (events ++ new) := by
  have wf := (inv.wf.execute executed).1
  have books := inv.books.execute inv.wf executed
  rcases Programs.execute_cases executed with
    ⟨i, w, ev, rfl, -, -, -⟩ | ⟨i, w, ev, rfl, handled, rfl, rfl⟩ | ⟨i, tokens, rfl, -, rfl, rfl⟩
  · exact keeps.elim
  · have appended : (events ++ [Event.reputation ev]).filterMap Event.asReputation =
        events.filterMap Event.asReputation ++ [ev] := List.filterMap_append
    obtain ⟨silent, unrated, standing⟩ :=
      handler_standing inv.wf.reputation inv.unrated handled keeps
    obtain ⟨stamp, same⟩ := handler_slot inv.wf.reputation handled
    refine ⟨wf, books, ?_, unrated, ?_, ?_⟩
    · rw [List.filterMap_append, inv.alone]
      rfl
    · rw [appended, List.forall_mem_append, List.forall_mem_singleton]
      exact ⟨inv.quiet, silent⟩
    · rw [appended]
      intro key profile' held
      dsimp only at held ⊢
      rw [same]
      rcases standing key profile' held with
        ⟨feedback, negative, now, absent, rfl⟩ | ⟨profile, before, reports⟩
      · refine .create feedback negative now ?_ stamp
        -- A profile with the same key would be at the address that was vacant.
        intro e member named
        obtain ⟨u, other, present, same⟩ :=
          (inv.books.reputation.names e member).agentAuthority _ named
        have address := (inv.wf.reputation.agents u other present).1
        rw [AgentProfile.seeds, same, ← AgentProfile.seeds,
          ← (wf.reputation.agents key profile' held).1] at address
        rw [address, absent] at present
        cases present
      · exact (inv.agents key profile before).report reports stamp
  · rw [List.append_nil] at books ⊢
    exact ⟨wf, books, inv.alone, inv.unrated, inv.quiet, inv.agents⟩

theorem StandingBooks.tick (inv : StandingBooks p events) (slots : Nat) :
    StandingBooks (p.advance slots) events where
  wf := inv.wf.advance slots
  books := inv.books.advance slots
  alone := inv.alone
  unrated := inv.unrated
  quiet := inv.quiet
  agents key profile present := by
    obtain ⟨feedback, negative, clock, past, active⟩ := inv.agents key profile present
    exact ⟨feedback, negative, clock.trans (Nat.le_add_right _ _), past, active⟩

theorem ReachableBy.standingBooks {chain : Chain K} (reachable : ReachableBy KeepsStanding chain) :
    StandingBooks chain.programs (chain.log.map Emitted.event) := by
  refine reachable.induction ?_ (fun _ _ _ _ _ keeps inv executed => inv.execute keeps executed)
    (fun _ _ slots inv => inv.tick slots)
  intro start genesis
  have sound := genesis.sound
  have books := sound.books
  rw [genesis.log] at books
  refine ⟨sound.programs, books, rfl, fun k => (genesis.reputation.vacant k).2.2.2.2, by simp, ?_⟩
  intro key profile present
  rw [(genesis.reputation.vacant key).1] at present
  cases present

/-- A chain without events of the vault program has no vaults. -/
theorem Chain.Sound.noVaults {chain : Chain K} (sound : chain.Sound)
    (small : chain.programs.vault.slot < 2 ^ 63)
    (alone : (chain.log.map Emitted.event).filterMap Event.asVault = []) : VaultBounds chain := by
  refine ⟨small, ?_, ?_⟩
  · intro v vault present
    obtain ⟨policy, held⟩ := sound.exists_policy present
    have created := (sound.recorded present held).created
    rw [Chain.vaultEvents, alone] at created
    cases created
  · rw [Chain.vaultEvents, alone]
    simp

/-! ### The rows after all deliveries -/

/-- The row shows the standing of the agent. -/
structure ShowsStanding (row : AgentRow S) (profile : AgentProfile K) : Prop where
  consecutiveSuccess : row.consecutiveSuccess = profile.consecutiveSuccess
  totalFeedbackCount : row.totalFeedbackCount = profile.totalFeedbackCount
  activeNegativeFeedbackCount : row.activeNegativeFeedbackCount = profile.activeNegativeFeedbackCount
  lastActiveSlot : row.lastActiveSlot = profile.lastActiveSlot

variable [DecidableEq S] {r : Rendering K S}

/-- Where no feedback is given every agent has a row that shows its standing, whatever the batches. -/
theorem standing_shown (chain : Chain K) (reachable : ReachableBy KeepsStanding chain)
    (slots : chain.programs.vault.slot < 2 ^ 63)
    (counts : ∀ key profile, chain.programs.reputation.agents key = some profile →
      profile.totalVolumeUsdc < 2 ^ 63 ∧ profile.totalTransactions < 2 ^ 31)
    (r : Rendering K S) (injective : Function.Injective r.key) (rt : Runtime S) (zeroKey : S)
    (batches : List (List (ParsedEvent S))) (delivers : Delivers r chain.log batches) (key : K)
    (profile : AgentProfile K) (present : chain.programs.reputation.agents key = some profile) :
    ∃ row, (deliver rt zeroKey .empty batches).agents (r.key profile.authority) = some row ∧
      ShowsStanding row profile := by
  have sound := reachable.reachable.sound
  have books := reachable.standingBooks
  have bounds : AgentBounds chain := ⟨slots, counts⟩
  have recorded := sound.books.reputation.agents key profile present
  obtain ⟨row, entries, found, holds, covers, columns⟩ := agent_delivered reachable.reachable
    (sound.noVaults slots books.alone) bounds rt zeroKey injective delivers present
  obtain ⟨feedback, negative, -, past, ev, member, named, slot⟩ := books.agents key profile present
  refine ⟨row, found, ?_, ?_, ?_, ?_⟩
  · -- Every payment counts, for the row and for the profile.
    have streak := recorded.streak fun ev inside => by
      have quiet := books.quiet ev inside
      cases ev <;> first | rfl | cases quiet
    rw [columns.consecutiveSuccess, streak, ← Chain.reputationEvents, paymentsTo_log,
      (covers.payments (keys_nodup sound.sorted r) holds).length_eq]
  · rw [columns.totalFeedbackCount, feedback]
    rfl
  · rw [columns.activeNegativeFeedbackCount, negative]
    rfl
  · obtain ⟨created, active⟩ := columns.lastActiveSlot
    rw [active]
    apply lastActive_shown sound slots holds.subset
    · -- What names the agent in the table are its own events, none of which is in a later slot.
      intro e inside text
      have among := holds.subset inside
      cases event : e.event with
      | vault other =>
        have held : other ∈ (chain.log.map Emitted.event).filterMap Event.asVault :=
          mem_vaultEvents.mpr ⟨e, among, event⟩
        rw [books.alone] at held
        cases held
      | reputation other =>
        have heard := mem_reputationEvents.mpr ⟨e, among, event⟩
        rw [agent_text r event, books.quiet other heard, Option.or_none] at text
        obtain ⟨a, authority, same⟩ := Option.map_eq_some_iff.mp text
        exact past other heard (injective same ▸ authority)
    · obtain ⟨e, among, event⟩ := mem_reputationEvents.mp member
      refine ⟨e, covers e among ev event named, (touched_agent event named).2, ?_⟩
      rw [event]
      exact slot

/-! ### A chain on symbolic keys -/

instance (p : Programs K) (ix : Instruction K) : Decidable (KeepsStanding p ix) := by
  rcases ix with i | i | i
  · exact isFalse id
  · exact inferInstanceAs (Decidable (i.isFeedback = false))
  · exact isTrue trivial

namespace Market

open SymbolicKey

/-- Actions of the reputation program in one transaction. -/
def record (signature : String) (acts : List (Reputation.Action SymbolicKey)) :
    ChainAction SymbolicKey :=
  .transaction signature (acts.filterMap fun act => match act with
    | .program ix => some (.reputation ix)
    | .advance _ => none)

/-- All counters are small if those of the one agent are. -/
theorem counts_small {acts : List (ChainAction SymbolicKey)}
    (only : ∀ ev ∈ (after acts).reputationEvents, ∀ a ∈ ev.agentAuthority, a = Bazaar.agent.key)
    (small : ∀ held ∈ (after acts).programs.reputation.agents Bazaar.account,
      held.totalVolumeUsdc < 2 ^ 63 ∧ held.totalTransactions < 2 ^ 31)
    (key : SymbolicKey) (held : AgentProfile SymbolicKey)
    (present : (after acts).programs.reputation.agents key = some held) :
    held.totalVolumeUsdc < 2 ^ 63 ∧ held.totalTransactions < 2 ^ 31 := by
  have sound := (reachable acts).sound
  have agent : held.authority = Bazaar.agent.key :=
    only _ (sound.books.reputation.agents key held present).created _ rfl
  have address := (sound.programs.reputation.agents key held present).1
  rw [AgentProfile.seeds, agent] at address
  subst address
  exact small held present

end Market

/-- One payment. -/
theorem standing_shown_market :
    let acts := [Market.record "open" Bazaar.opening, .advance 1,
      Market.record "pay" [Bazaar.pay Bazaar.service 5 0]]
    ∃ profile row, profile.consecutiveSuccess = 1 ∧
      (deliver .standard defaultKey .empty (Market.batches acts)).agents
        (Market.plain.key profile.authority) = some row ∧ ShowsStanding row profile := by
  intro acts
  obtain ⟨profile, present, streak⟩ : ∃ profile ∈ (Market.after acts).programs.reputation.agents
      Bazaar.account, profile.consecutiveSuccess = 1 := by decide +kernel
  obtain ⟨row, found, shows⟩ := standing_shown (Market.after acts)
    (Market.reachableBy (by decide +kernel)) (by decide +kernel)
    (Market.counts_small (by decide +kernel) (by decide +kernel)) Market.plain Function.injective_id
    .standard defaultKey (Market.batches acts) (Market.delivers acts) Bazaar.account profile present
  exact ⟨profile, row, streak, found, shows⟩

/-- Feedback is counted for the profile and never for the row. -/
theorem feedback_unseen :
    let acts := [Market.record "open" Bazaar.opening, .advance 1,
      Market.record "pay" [Bazaar.pay Bazaar.service 5 0], .advance 1,
      Market.record "rate" [Bazaar.rate Bazaar.service (-40) 0]]
    Reachable (Market.after acts) ∧ (Market.after acts).OnePerSlot ∧
      (∀ ev ∈ (Market.after acts).log.map Emitted.event, ev.asVault = none) ∧
      Delivers Market.plain (Market.after acts).log (Market.batches acts) ∧
      ∃ profile ∈ (Market.after acts).programs.reputation.agents Bazaar.account,
        ∃ row ∈ (deliver .standard defaultKey .empty (Market.batches acts)).agents
          (Market.plain.key profile.authority),
          profile.totalFeedbackCount = 1 ∧ row.totalFeedbackCount = 0 ∧
            profile.activeNegativeFeedbackCount = 1 ∧ row.activeNegativeFeedbackCount = 0 ∧
            profile.consecutiveSuccess = 0 ∧ row.consecutiveSuccess = 1 :=
  ⟨Market.reachable _, by decide +kernel, by decide +kernel, Market.delivers _, by decide +kernel⟩

end AgentFuel.Backend
