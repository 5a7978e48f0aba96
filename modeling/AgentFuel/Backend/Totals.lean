import AgentFuel.Backend.Standing

/-!
# The totals of the mirrors

Totals of a vault are the greatest values announced, totals of an agent count its payments. Both
are the same for every order of the deliveries, as long as no statement is refused: a limit that
the columns cannot hold stops the whole statement.
-/
namespace AgentFuel.Backend

open Checked Solana Register Vault Reputation

variable {K S : Type} [DecidableEq K] [AddressSpace K]

/-- The row shows what has gone through the vault. -/
structure ShowsTotals (row : VaultRow S) (vault : CreditVault K) : Prop where
  totalDeposited : row.totalDeposited = vault.totalDeposited
  totalWithdrawn : row.totalWithdrawn = vault.totalWithdrawn
  totalSpent : row.totalSpent = vault.totalSpent
  totalClaimed : row.totalClaimed = vault.totalClaimed

/-- The row shows the payments to the agent. -/
structure ShowsPayments (row : AgentRow S) (profile : AgentProfile K) : Prop where
  totalTransactions : row.totalTransactions = profile.totalTransactions
  totalVolumeUsdc : row.totalVolumeUsdc = profile.totalVolumeUsdc
  servicesUsed : row.servicesUsed = profile.servicesUsed

omit [DecidableEq K] [AddressSpace K] in
theorem VaultTotal.touches (total : VaultTotal) (ev : VaultEvent K)
    (wrote : (total.write ev).isSome = true) : isRequest ev = false := by
  cases ev with
  | spendRequested => cases total <;> cases wrote
  | spendRejected => cases total <;> cases wrote
  | _ => rfl

variable [DecidableEq S] {r : Rendering K S} {chain : Chain K} {entries : List (Emitted K)}

omit [DecidableEq K] [AddressSpace K] [DecidableEq S] in
theorem ShowsTotals.of_columns {row : VaultRow S} {vault : CreditVault K}
    (shown : ∀ total : VaultTotal, total.column row = total.value vault) : ShowsTotals row vault :=
  ⟨shown .deposited, shown .withdrawn, shown .spent, shown .claimed⟩

theorem payments_shown (sound : chain.Sound) {rt : Runtime S} {key : K} {profile : AgentProfile K}
    (present : chain.programs.reputation.agents key = some profile)
    (holds : Holds r chain.log entries (entries.map (Emitted.row r)))
    (covers : CoversAgent chain profile.authority entries) {row : AgentRow S}
    (columns : AgentColumns r rt profile.authority entries row) : ShowsPayments row profile := by
  have recorded := sound.books.reputation.agents key profile present
  have same := covers.payments (keys_nodup sound.sorted r) holds
  constructor
  · rw [columns.totalTransactions, recorded.transactions, ← Chain.reputationEvents, paymentsTo_log,
      same.length_eq]
  · rw [columns.totalVolumeUsdc, recorded.volume, ← Chain.reputationEvents, paymentsTo_log,
      (same.map Prod.fst).sum_eq]
  · rw [columns.servicesUsed, recorded.services, ← Chain.reputationEvents, paymentsTo_log,
      same.countP_eq]

/-- Where all limits fit, the rows show the totals, whatever the batches. -/
theorem totals_shown (chain : Chain K) (reachable : ReachableBy KeepsLimits chain)
    (slots : chain.programs.vault.slot < 2 ^ 63)
    (totals : ∀ v vault, chain.programs.vault.vaults v = some vault →
      ∀ total : VaultTotal, total.value vault < 2 ^ 63)
    (counts : ∀ key profile, chain.programs.reputation.agents key = some profile →
      profile.totalVolumeUsdc < 2 ^ 63 ∧ profile.totalTransactions < 2 ^ 31)
    (r : Rendering K S) (injective : Function.Injective r.key) (rt : Runtime S) (zeroKey : S)
    (batches : List (List (ParsedEvent S))) (delivers : Delivers r chain.log batches) :
    (∀ v vault, chain.programs.vault.vaults v = some vault →
      ∃ row, (deliver rt zeroKey .empty batches).vaults (r.key v) = some row ∧ ShowsTotals row vault) ∧
    ∀ key profile, chain.programs.reputation.agents key = some profile →
      ∃ row, (deliver rt zeroKey .empty batches).agents (r.key profile.authority) = some row ∧
        ShowsPayments row profile := by
  have sound := reachable.reachable.sound
  have vaults : VaultBounds chain := ⟨slots, totals, reachable.limits⟩
  have agents : AgentBounds chain := ⟨slots, counts⟩
  constructor
  · intro v vault present
    obtain ⟨row, entries, init, found, subset, covers, columns⟩ :=
      vault_delivered reachable.reachable vaults agents rt zeroKey injective delivers present
    -- The columns are read off the events that are there, and those cover the chain.
    refine ⟨row, found, .of_columns fun total => ?_⟩
    exact total_shown injective sound subset present columns total (covers.writes total.touches)
  · intro key profile present
    obtain ⟨row, entries, found, holds, covers, columns⟩ :=
      agent_delivered reachable.reachable vaults agents rt zeroKey injective delivers present
    exact ⟨row, found, payments_shown sound present holds covers columns⟩

/-! ### A chain on symbolic keys -/

instance (p : Programs K) (ix : Instruction K) : Decidable (KeepsLimits p ix) := by
  rcases ix with i | i | i
  · cases i with
    | updatePolicy => exact inferInstanceAs (Decidable (_ ∧ _ ∧ _))
    | _ => exact isTrue trivial
  · exact isTrue trivial
  · exact isTrue trivial

/-- A deposit into a vault and a payment to an agent. -/
theorem totals_shown_market :
    let acts := [Market.transaction "open" Vault.Market.opening,
      Market.transaction "create" [Vault.Market.create 0 0 0 false, Vault.Market.deposit 50],
      Market.record "register" Bazaar.opening, Market.record "pay" [Bazaar.pay Bazaar.service 5 0]]
    ∃ (vault : CreditVault SymbolicKey) (profile : AgentProfile SymbolicKey)
      (v : VaultRow SymbolicKey) (a : AgentRow SymbolicKey),
      vault.totalDeposited = 50 ∧ profile.totalVolumeUsdc = 5 ∧
      (deliver .standard defaultKey .empty (Market.batches acts)).vaults
        (Market.plain.key Vault.Market.vault) = some v ∧ ShowsTotals v vault ∧
      (deliver .standard defaultKey .empty (Market.batches acts)).agents
        (Market.plain.key profile.authority) = some a ∧ ShowsPayments a profile := by
  intro acts
  obtain ⟨vault, held, deposited⟩ : ∃ vault ∈ (Market.after acts).programs.vault.vaults
      Vault.Market.vault, vault.totalDeposited = 50 := by decide +kernel
  obtain ⟨profile, present, volume⟩ : ∃ profile ∈ (Market.after acts).programs.reputation.agents
      Bazaar.account, profile.totalVolumeUsdc = 5 := by decide +kernel
  obtain ⟨vaults, agents⟩ := totals_shown (Market.after acts) (Market.reachableBy (by decide +kernel))
    (by decide +kernel) (Market.totals_small (by decide +kernel) (by decide +kernel))
    (Market.counts_small (by decide +kernel) (by decide +kernel)) Market.plain Function.injective_id
    .standard defaultKey (Market.batches acts) (Market.delivers acts)
  obtain ⟨v, foundVault, showsVault⟩ := vaults _ vault held
  obtain ⟨a, foundAgent, showsAgent⟩ := agents _ profile present
  exact ⟨vault, profile, v, a, deposited, volume, foundVault, showsVault, foundAgent, showsAgent⟩

namespace Market

/-- A limit on each payment, and none on the whole. -/
def limit (perTx : Nat) : Vault.Action SymbolicKey :=
  .program (.updatePolicy ⟨Vault.Market.owner, Vault.Market.vault, Vault.Market.policy⟩ perTx 0 0 false
    (Vector.replicate whitelistLen defaultKey))

end Market

/-- A limit that `BIGINT` cannot hold leaves a funded vault without a row. -/
theorem limit_refused :
    let acts := [Market.transaction "open" Vault.Market.opening,
      Market.transaction "create" [Vault.Market.create 0 0 0 false, Vault.Market.deposit 50],
      Market.transaction "limit" [Market.limit (2 ^ 64 - 1)]]
    let db := deliver .standard defaultKey .empty (Market.batches acts)
    Reachable (Market.after acts) ∧ Delivers Market.plain (Market.after acts).log (Market.batches acts) ∧
      (∃ vault ∈ (Market.after acts).programs.vault.vaults Vault.Market.vault, vault.totalDeposited = 50 ∧
        vault.totalWithdrawn = 0 ∧ vault.totalSpent = 0 ∧ vault.totalClaimed = 0) ∧
      db.events.length = (Market.after acts).log.length ∧
      db.vaults (Market.plain.key Vault.Market.vault) = none ∧
      (refreshVault .standard (Market.plain.key Vault.Market.vault) defaultKey db).isOk = false :=
  ⟨Market.reachable _, Market.delivers _, by decide +kernel, by decide +kernel, by decide +kernel,
    by decide +kernel⟩

end AgentFuel.Backend
