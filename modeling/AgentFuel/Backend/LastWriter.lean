import AgentFuel.Backend.Totals

/-!
# The columns of the last writer

Such a column takes its value from the row that is last in `ORDER BY slot, log_index`. A log index
counts within one transaction, so that this order is the order of the chain only as far as the
transactions of one slot do not write the same column.
-/
namespace AgentFuel.Backend

open Checked Solana Register Vault Reputation

variable {K S : Type} [DecidableEq K] [AddressSpace K]

/-- Limits fit, services are only switched on, and feedback is never negative. -/
def KeepsWriters (p : Programs K) : Instruction K → Prop
  | .reputation (.setServiceActive _ active) => active = true
  | .reputation (.giveFeedback _ _ value _ _ _) => 0 ≤ value
  | ix => KeepsLimits p ix

/-- The writes of the greatest position agree with the last ones of the chain, for every column. -/
structure Chain.Decides (chain : Chain K) : Prop where
  score : ∀ a, Decided (Emitted.reputationWrite (ReputationEvent.newScore a)) chain.log
  frozen : ∀ v, Decided (Emitted.vaultWrite v VaultEvent.newFrozen) chain.log
  terms : ∀ v, Decided (Emitted.vaultWrite v VaultEvent.newTerms) chain.log

variable {chain : Chain K}

omit [DecidableEq K] in
theorem KeepsWriters.limits {p : Programs K} {ix : Instruction K} (keeps : KeepsWriters p ix) :
    KeepsLimits p ix := by
  rcases ix with i | i | i
  · exact keeps
  · trivial
  · trivial

/-- Every switch is on, and nobody complains. -/
theorem ReachableBy.mild (reachable : ReachableBy KeepsWriters chain) :
    ∀ ev ∈ chain.reputationEvents,
      (∀ registry active, ev.newActive registry = some active → active = true) ∧
        ∀ profile, ev.isComplaint profile = false := by
  have kept : chain.programs.WellFormed ∧
      ∀ ev ∈ (chain.log.map Emitted.event).filterMap Event.asReputation,
        (∀ registry active, ev.newActive registry = some active → active = true) ∧
          ∀ profile, ev.isComplaint profile = false := by
    refine reachable.induction (P := fun p events => p.WellFormed ∧
      ∀ ev ∈ events.filterMap Event.asReputation,
        (∀ registry active, ev.newActive registry = some active → active = true) ∧
          ∀ profile, ev.isComplaint profile = false) ?_ ?_ ?_
    · intro start genesis
      exact ⟨genesis.sound.programs, by simp⟩
    · rintro p events ix p' new keeps ⟨wf, mild⟩ executed
      refine ⟨(wf.execute executed).1, ?_⟩
      rw [List.filterMap_append, List.forall_mem_append]
      refine ⟨mild, ?_⟩
      -- Vault instructions and token transfers write nothing about a profile or a registry.
      rcases Programs.execute_cases executed with
        ⟨i, w, ev, -, -, -, rfl⟩ | ⟨i, w, ev, rfl, handled, -, rfl⟩ | ⟨i, tokens, -, -, -, rfl⟩
      · simp [Event.asReputation]
      · intro e member
        obtain rfl : e = ev := List.mem_singleton.mp member
        obtain ⟨switches, rates⟩ := handler_source wf.reputation handled
        constructor
        · intro registry active wrote
          cases e with
          | serviceActiveSet service set slot =>
            obtain ⟨ctx, rfl⟩ := switches service set slot rfl
            simp only [ReputationEvent.newActive] at wrote
            split at wrote
            · rw [← Option.some.inj wrote]
              exact keeps
            · cases wrote
          | _ => cases wrote
        · intro profile
          cases e with
          | feedbackGiven agent service feedback hash value tags slot =>
            obtain ⟨ctx, uri, evidence, rfl⟩ := rates agent service feedback hash value tags slot rfl
            have nonneg : 0 ≤ value := keeps
            simp only [ReputationEvent.isComplaint, decide_eq_false_iff_not, not_and]
            intro _
            omega
          | _ => rfl
      · simp
    · rintro p events slots ⟨wf, mild⟩
      exact ⟨wf.advance slots, mild⟩
  exact kept.2

variable [DecidableEq S] {r : Rendering K S} {entries : List (Emitted K)}

omit [DecidableEq K] [AddressSpace K] [DecidableEq S] in
theorem last_reputationWrite {β : Type} (write : ReputationEvent K → Option β) (chain : Chain K) :
    last write chain.reputationEvents = last (Emitted.reputationWrite write) chain.log := by
  rw [Chain.reputationEvents, List.filterMap_map, last_filterMap]
  rfl

omit [AddressSpace K] in
theorem score_shown (injective : Function.Injective r.key) {rt : Runtime S} {a : K}
    (decided : Decided (Emitted.reputationWrite (ReputationEvent.newScore a)) chain.log)
    (subset : entries ⊆ chain.log) (covers : CoversAgent chain a entries) {row : AgentRow S}
    (columns : AgentColumns r rt a entries row) :
    row.score = ((last (ReputationEvent.newScore a) chain.reputationEvents).getD 0 : Nat) := by
  obtain ⟨answer, done, shown⟩ := columns.score
  rw [about_scores injective] at done
  have inside : ∀ e ∈ chain.log,
      (e.reputationWrite (ReputationEvent.newScore a)).isSome = true → e ∈ entries := by
    intro e member wrote
    obtain ⟨score, wrote⟩ := Option.isSome_iff_exists.mp wrote
    obtain ⟨ev, event, wrote⟩ := Emitted.reputationWrite_eq_some.mp wrote
    refine covers e member ev event ?_
    by_contra other
    rw [ev.newScore_other other] at wrote
    cases wrote
  have reads : ∀ (e : Emitted K) (score : Nat) held, e.reputationWrite (ReputationEvent.newScore a) =
      some score → (e.row r).integer 32 "score" = .ok held → held = some (score : Int) := by
    intro e score held wrote read
    exact row_number_eq (newScore_field wrote) rfl read
  rw [shown, latest_value subset inside decided reads done, last_reputationWrite]
  cases last (Emitted.reputationWrite (ReputationEvent.newScore a)) chain.log <;> rfl

/-- The columns of the last writer hold what the last event of the chain has set. -/
structure ShowsWriters (r : Rendering K S) (chain : Chain K) (db : Database S) : Prop where
  agents : ∀ key profile, chain.programs.reputation.agents key = some profile →
    ∃ row, db.agents (r.key profile.authority) = some row ∧
      row.score = ((last (ReputationEvent.newScore profile.authority) chain.reputationEvents).getD 0 : Nat) ∧
      row.consecutiveSuccess = profile.consecutiveSuccess
  services : ∀ key registry, chain.programs.reputation.services key = some registry →
    ∃ row, db.services (r.key registry.authority) = some row ∧
      row.active = (last (ReputationEvent.newActive key) chain.reputationEvents).getD true
  vaults : ∀ v vault, chain.programs.vault.vaults v = some vault →
    ∃ row, db.vaults (r.key v) = some row ∧
      row.frozen = (last (VaultEvent.about v VaultEvent.newFrozen) chain.vaultEvents).getD false ∧
      ShowsTerms r row ((last (VaultEvent.about v VaultEvent.newTerms) chain.vaultEvents).getD blankTerms)

/-- Under the condition the rows agree with the chain, whatever the batches. -/
theorem writers_shown (chain : Chain K) (reachable : ReachableBy KeepsWriters chain)
    (decides : chain.Decides) (slots : chain.programs.vault.slot < 2 ^ 63)
    (totals : ∀ v vault, chain.programs.vault.vaults v = some vault →
      ∀ total : VaultTotal, total.value vault < 2 ^ 63)
    (counts : ∀ key profile, chain.programs.reputation.agents key = some profile →
      profile.totalVolumeUsdc < 2 ^ 63 ∧ profile.totalTransactions < 2 ^ 31)
    (r : Rendering K S) (injective : Function.Injective r.key) (rt : Runtime S)
    (batches : List (List (ParsedEvent S))) (delivers : Delivers r chain.log batches) :
    ShowsWriters r chain (deliver rt (r.key defaultKey) .empty batches) := by
  have sound := reachable.reachable.sound
  have mild := reachable.mild
  have vaults : VaultBounds chain := ⟨slots, totals, (reachable.mono fun _ _ => KeepsWriters.limits).limits⟩
  have agents : AgentBounds chain := ⟨slots, counts⟩
  refine ⟨?_, ?_, ?_⟩
  · intro key profile present
    obtain ⟨row, entries, found, holds, covers, columns⟩ := agent_delivered reachable.reachable vaults agents
      rt (r.key defaultKey) injective delivers present
    have recorded := sound.books.reputation.agents key profile present
    -- The mirror counts all payments as one streak, which is right while nobody complains.
    refine ⟨row, found, score_shown injective (decides.score _) holds.subset covers columns, ?_⟩
    rw [columns.consecutiveSuccess, recorded.streak fun ev member => (mild ev member).2 key,
      ← Chain.reputationEvents, paymentsTo_log,
      (covers.payments (keys_nodup sound.sorted r) holds).length_eq]
  · intro key registry present
    obtain ⟨row, entries, found, -, -, -, -, -, columns⟩ := service_delivered reachable.reachable vaults
      agents rt (r.key defaultKey) injective delivers present
    refine ⟨row, found, ?_⟩
    rw [columns.active]
    -- The column is always true, and so is the last thing that was switched.
    cases wrote : last (ReputationEvent.newActive key) chain.reputationEvents with
    | none => rfl
    | some active =>
      obtain ⟨before, ev, after, split, set, -⟩ := last_eq_some wrote
      have member : ev ∈ chain.reputationEvents := by
        rw [split]
        simp
      rw [(mild ev member).1 key active set]
      rfl
  · intro v vault present
    obtain ⟨row, entries, init, found, subset, covers, columns⟩ := vault_delivered reachable.reachable
      vaults agents rt (r.key defaultKey) injective delivers present
    obtain ⟨policy, held⟩ := sound.exists_policy present
    refine ⟨row, found, ?_, terms_shown injective subset columns (decides.terms v)
      (covers.writes newTerms_touches)⟩
    rw [frozen_shown injective sound subset present columns (decides.frozen v)
      (covers.writes newFrozen_touches)]
    exact (sound.recorded present held).frozen

/-! ### A chain on symbolic keys -/

instance (p : Programs K) (ix : Instruction K) : Decidable (KeepsWriters p ix) := by
  rcases ix with i | i | i
  · exact inferInstanceAs (Decidable (KeepsLimits p (.vault i)))
  · exact i.casesOn (fun _ _ _ => isTrue trivial) (fun _ _ _ _ => isTrue trivial)
      (fun _ active => instDecidableEqBool active true) (fun _ _ _ => isTrue trivial)
      (fun _ _ value _ _ _ => Int.decLe 0 value) (fun _ _ _ _ => isTrue trivial)
      (fun _ _ => isTrue trivial) (fun _ => isTrue trivial)
  · exact isTrue trivial

/-- One transaction in a slot decides every column. -/
theorem Chain.OnePerSlot.decides (one : chain.OnePerSlot) (sound : chain.Sound)
    (small : chain.programs.vault.slot < 2 ^ 63) : chain.Decides := by
  have sorted := one.positions sound small
  exact ⟨fun _ => .of_sorted (sorted.imp fun less _ _ => less),
    fun _ => .of_sorted (sorted.imp fun less _ _ => less),
    fun _ => .of_sorted (sorted.imp fun less _ _ => less)⟩

/-- Terms, a freeze, a payment and a score, each in a slot of its own. -/
theorem writers_shown_market :
    let acts := [Market.transaction "open" Vault.Market.opening,
      Market.transaction "create" [Vault.Market.create 0 0 0 false], .advance 1,
      Market.transaction "limit" [Market.limit 7], .advance 1,
      Market.transaction "freeze" [Vault.Market.freeze], .advance 1,
      Market.record "register" Bazaar.opening, .advance 1,
      Market.record "pay" [Bazaar.pay Bazaar.service 5 0], .advance 1,
      Market.record "score" [.program (.computeScore ⟨Bazaar.service, Bazaar.account⟩)]]
    (last (VaultEvent.about Vault.Market.vault VaultEvent.newFrozen)
      (Market.after acts).vaultEvents = some true) ∧
      last (ReputationEvent.newScore Bazaar.agent.key) (Market.after acts).reputationEvents = some 210 ∧
      ShowsWriters Market.plain (Market.after acts)
        (deliver .standard (Market.plain.key defaultKey) .empty (Market.batches acts)) := by
  intro acts
  have one : (Market.after acts).OnePerSlot := by decide +kernel
  have small : (Market.after acts).programs.vault.slot < 2 ^ 63 := by decide +kernel
  refine ⟨by decide +kernel, by decide +kernel, ?_⟩
  exact writers_shown (Market.after acts) (Market.reachableBy (by decide +kernel))
    (one.decides (Market.reachable acts).sound small) small
    (Market.totals_small (by decide +kernel) (by decide +kernel))
    (Market.counts_small (by decide +kernel) (by decide +kernel)) Market.plain Function.injective_id
    .standard (Market.batches acts) (Market.delivers acts)

namespace Market

def unfreeze : Vault.Action SymbolicKey :=
  .program (.unfreezeVault ⟨Vault.Market.owner, Vault.Market.vault⟩)

end Market

/-- A vault that is frozen behind an update and thawed by the next transaction of the slot. -/
theorem thaw_overtaken :
    let acts := [Market.transaction "open" Vault.Market.opening,
      Market.transaction "create" [Vault.Market.create 0 0 0 false], .advance 1,
      Market.transaction "freeze" [Market.limit 7, Vault.Market.freeze],
      Market.transaction "thaw" [Market.unfreeze]]
    Reachable (Market.after acts) ∧ Delivers Market.plain (Market.after acts).log (Market.batches acts) ∧
      last (VaultEvent.about Vault.Market.vault VaultEvent.newFrozen) (Market.after acts).vaultEvents =
        some false ∧
      ∃ row ∈ (deliver .standard (Market.plain.key defaultKey) .empty (Market.batches acts)).vaults
        (Market.plain.key Vault.Market.vault), row.frozen = true :=
  ⟨Market.reachable _, Market.delivers _, by decide +kernel, by decide +kernel⟩

end AgentFuel.Backend
