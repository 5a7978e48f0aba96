import AgentFuel.Backend.Pipeline
import AgentFuel.Backend.VaultMirror
import AgentFuel.Vault.Emissions

/-!
# The rows of the vaults of a chain

On a table of events of a chain the statement of a vault is not refused as long as the values fit
the columns, and its totals are those of the account.
-/
namespace AgentFuel.Backend

open Checked FirstFailure Solana Register Vault

variable {K S : Type} [DecidableEq K] [AddressSpace K] {chain : Chain K} {v : K}
  {vault : CreditVault K} {policy : SpendPolicy K} {e : Emitted K} {ev : VaultEvent K}

/-- The events of the vaults, in chain order. -/
def Chain.vaultEvents (chain : Chain K) : List (VaultEvent K) :=
  (chain.log.map Emitted.event).filterMap Event.asVault

omit [DecidableEq K] [AddressSpace K] in
theorem mem_vaultEvents : ev ∈ chain.vaultEvents ↔ ∃ e ∈ chain.log, e.event = .vault ev := by
  simp only [Chain.vaultEvents, List.filterMap_map, List.mem_filterMap, Function.comp_apply]
  exact exists_congr fun e => and_congr_right fun _ => Event.asVault_eq_some

theorem Chain.Sound.exists_policy (sound : chain.Sound)
    (present : chain.programs.vault.vaults v = some vault) :
    ∃ policy, chain.programs.vault.policies (policyAddress v) = some policy := by
  obtain ⟨s, -, shows⟩ := sound.programs.vault.shown v vault present
  exact ⟨s.policy, shows.policy⟩

/-- Every event is about a vault that is there. -/
theorem Chain.Sound.exists_vault (sound : chain.Sound) (member : e ∈ chain.log)
    (event : e.event = .vault ev) : ∃ vault, chain.programs.vault.vaults ev.vault = some vault := by
  cases present : chain.programs.vault.vaults ev.vault with
  | some vault => exact ⟨vault, rfl⟩
  | none =>
    have held : ev ∈ chain.vaultEvents := mem_vaultEvents.mpr ⟨e, member, event⟩
    exact absurd rfl (sound.books.vault.absent ev.vault present ev held)

theorem Chain.Sound.recorded (sound : chain.Sound)
    (present : chain.programs.vault.vaults v = some vault)
    (held : chain.programs.vault.policies (policyAddress v) = some policy) :
    Recorded v vault policy.terms chain.vaultEvents :=
  sound.books.vault.recorded v vault policy present held

/-- New limits fit the columns. -/
def KeepsLimits (_ : Programs K) : Instruction K → Prop
  | .vault (.updatePolicy _ perTx hourly lifetime _ _) =>
    perTx < 2 ^ 63 ∧ hourly < 2 ^ 63 ∧ lifetime < 2 ^ 63
  | _ => True

theorem ReachableBy.limits (reachable : ReachableBy KeepsLimits chain) :
    ∀ ev ∈ chain.vaultEvents, ∀ t, ev.newTerms = some t →
      t.perTxLimitUsdc < 2 ^ 63 ∧ t.hourlyLimitUsdc < 2 ^ 63 ∧ t.lifetimeLimitUsdc < 2 ^ 63 := by
  refine reachable.induction (P := fun _ events => ∀ ev ∈ events.filterMap Event.asVault, ∀ t,
    ev.newTerms = some t → t.perTxLimitUsdc < 2 ^ 63 ∧ t.hourlyLimitUsdc < 2 ^ 63 ∧
      t.lifetimeLimitUsdc < 2 ^ 63) (by simp) ?_ (fun _ _ _ small => small)
  intro p events ix p' new keeps small executed
  rw [List.filterMap_append, List.forall_mem_append]
  refine ⟨small, ?_⟩
  rcases Programs.execute_cases executed with
    ⟨i, w, ev, rfl, handled, -, rfl⟩ | ⟨i, w, ev, -, -, -, rfl⟩ | ⟨i, tokens, -, -, -, rfl⟩
  · intro e member t wrote
    rw [List.mem_singleton.mp member] at wrote
    obtain ⟨ctx, rfl⟩ := emits_terms (handler_emits handled) wrote
    exact keeps
  · simp [Event.asVault]
  · simp

/-- What the vaults hold and what their owners have set fits the columns. -/
structure VaultBounds (chain : Chain K) : Prop where
  slot : chain.programs.vault.slot < 2 ^ 63
  totals : ∀ v vault, chain.programs.vault.vaults v = some vault →
    ∀ total : VaultTotal, total.value vault < 2 ^ 63
  terms : ∀ ev ∈ chain.vaultEvents, ∀ t, ev.newTerms = some t →
    t.perTxLimitUsdc < 2 ^ 63 ∧ t.hourlyLimitUsdc < 2 ^ 63 ∧ t.lifetimeLimitUsdc < 2 ^ 63

theorem VaultBounds.fits (bounds : VaultBounds chain) (sound : chain.Sound) (member : e ∈ chain.log)
    (event : e.event = .vault ev) : VaultFits ev where
  slot := by
    have stamp : ev.slot = e.slot := by
      have stamp := sound.stamped e member
      rw [event] at stamp
      exact stamp
    rw [stamp]
    exact (sound.clock e member).trans_lt bounds.slot
  totals total n wrote := by
    obtain ⟨vault, present⟩ := sound.exists_vault member event
    obtain ⟨policy, held⟩ := sound.exists_policy present
    have counter := total.recorded (sound.recorded present held)
    have written : VaultEvent.about ev.vault total.write ev = some n := by
      rw [VaultEvent.about_same rfl]
      exact wrote
    exact (counter.grows ev (mem_vaultEvents.mpr ⟨e, member, event⟩) n written).trans_lt
      (bounds.totals ev.vault vault present total)
  terms := bounds.terms ev (mem_vaultEvents.mpr ⟨e, member, event⟩)

variable [DecidableEq S] {r : Rendering K S} {entries : List (Emitted K)} {rt : Runtime S} {zeroKey : S}
  {table : Database S}

theorem init_vault (injective : Function.Injective r.key) (sound : chain.Sound)
    (subset : entries ⊆ chain.log) (present : chain.programs.vault.vaults v = some vault)
    {row : ParsedEvent S} (member : row ∈ about [.vaultCreated] "vault" (r.key v)
      (entries.map (Emitted.row r))) :
    ∃ init ∈ entries, row = init.row r ∧ init.event = .vault (vault.creation v) := by
  obtain ⟨held, about⟩ := List.mem_filter.mp member
  obtain ⟨init, inside, rfl⟩ := List.mem_map.mp held
  obtain ⟨named, text⟩ := of_decide_eq_true about
  refine ⟨init, inside, rfl, ?_⟩
  rw [vault_text] at text
  have creation : init.event.name = .vaultCreated := List.mem_singleton.mp named
  cases event : init.event with
  | reputation ev =>
    rw [event] at text
    cases text
  | vault ev =>
    rw [event] at text creation
    -- A vault is created once, and this event says how.
    have about : ev.vault = v := injective (Option.some.inj text)
    obtain ⟨policy, held⟩ := sound.exists_policy present
    have recorded := (sound.recorded present held).creation ev
      (mem_vaultEvents.mpr ⟨init, subset inside, event⟩) about
    rw [recorded ?_]
    cases ev <;> cases creation
    rfl

/-- A vault that was created has a row. -/
theorem Chain.Sound.refreshVault (sound : chain.Sound) (bounds : VaultBounds chain) (rt : Runtime S)
    (zeroKey : S) (injective : Function.Injective r.key)
    (holds : Holds r chain.log entries table.events)
    (present : chain.programs.vault.vaults v = some vault) {init : Emitted K} (member : init ∈ entries)
    (creates : init.event = .vault (vault.creation v)) :
    ∃ made row init, Backend.refreshVault rt (r.key v) zeroKey table = .ok made ∧
      made.vaults (r.key v) = some row ∧ init ∈ entries ∧ init.event = .vault (vault.creation v) ∧
      VaultColumns rt (entries.map (Emitted.row r)) (r.key v) zeroKey (init.row r) row := by
  have fits : ∀ e ∈ entries, ∀ ev, e.event = .vault ev → VaultFits ev :=
    fun e inside ev event => bounds.fits sound (holds.subset inside) event
  have made : ∀ row ∈ about [.vaultCreated] "vault" (r.key v) (entries.map (Emitted.row r)), ∃ made,
      vaultRow rt (entries.map (Emitted.row r)) (r.key v) zeroKey row = .ok made ∧
        ∃ init ∈ entries, init.event = .vault (vault.creation v) ∧
          VaultColumns rt (entries.map (Emitted.row r)) (r.key v) zeroKey (init.row r) made := by
    intro row held
    obtain ⟨init, inside, rfl, creates⟩ := init_vault injective sound holds.subset present held
    obtain ⟨made, computed⟩ : ∃ made, vaultRow rt _ _ zeroKey (init.row r) = .ok made :=
      vaultRow_total injective fits inside creates
    exact ⟨made, computed, init, inside, creates, vaultRow_columns computed⟩
  have itself : init.row r ∈ about [.vaultCreated] "vault" (r.key v) (entries.map (Emitted.row r)) := by
    refine List.mem_filter.mpr ⟨List.mem_map_of_mem member, decide_eq_true ⟨?_, ?_⟩⟩
    · change init.event.name ∈ _
      rw [creates]
      exact List.mem_singleton.mpr rfl
    · rw [vault_text, creates]
      rfl
  obtain ⟨row, done, init, inside, creates, columns⟩ :=
    limitOne_some rt.earliest rt.eager itself made
  rw [← holds.rows] at done columns ⊢
  refine ⟨?made, ?row, init, ?done, ?held, inside, creates, ?columns⟩
  case done =>
    simp only [Backend.refreshVault, done]
    rfl
  case held => exact Function.update_self (r.key v) _ table.vaults
  case columns =>
    -- What is kept of an old row are columns that are never rebuilt.
    cases table.vaults (r.key v) with
    | none => exact columns
    | some old => exact ⟨columns.totalDeposited, columns.totalWithdrawn, columns.totalSpent,
        columns.totalClaimed, columns.frozen, columns.perTxLimitUsdc, columns.hourlyLimitUsdc,
        columns.lifetimeLimitUsdc, columns.allowPostPay, columns.whitelist, columns.lastActiveSlot⟩

/-! ### What the columns show -/

section Columns

variable {init : ParsedEvent S} {row : VaultRow S}

omit [DecidableEq S] [AddressSpace K] in
/-- The last write of a field of a vault. -/
theorem last_vaultWrite {β : Type} (write : VaultEvent K → Option β) (chain : Chain K) (v : K) :
    last (VaultEvent.about v write) chain.vaultEvents = last (Emitted.vaultWrite v write) chain.log := by
  rw [Chain.vaultEvents, List.filterMap_map, last_filterMap]
  rfl

theorem total_shown (injective : Function.Injective r.key) (sound : chain.Sound)
    (subset : entries ⊆ chain.log) (present : chain.programs.vault.vaults v = some vault)
    (columns : VaultColumns rt (entries.map (Emitted.row r)) (r.key v) zeroKey init row)
    (total : VaultTotal)
    (covers : ∀ e ∈ chain.log, (e.vaultWrite v total.write).isSome = true → e ∈ entries) :
    total.column row = total.value vault := by
  obtain ⟨policy, held⟩ := sound.exists_policy present
  have counter := total.recorded (sound.recorded present held)
  rw [Chain.vaultEvents, List.filterMap_map] at counter
  exact counterColumn_value injective total.carries (fun _ _ => total.shows) counter.of_filterMap subset
    covers (total.counted columns)

theorem frozen_shown (injective : Function.Injective r.key) (sound : chain.Sound)
    (subset : entries ⊆ chain.log) (present : chain.programs.vault.vaults v = some vault)
    (columns : VaultColumns rt (entries.map (Emitted.row r)) (r.key v) zeroKey init row)
    (decided : Decided (Emitted.vaultWrite v VaultEvent.newFrozen) chain.log)
    (covers : ∀ e ∈ chain.log, (e.vaultWrite v VaultEvent.newFrozen).isSome = true → e ∈ entries) :
    row.frozen = vault.frozen := by
  obtain ⟨policy, held⟩ := sound.exists_policy present
  obtain ⟨answer, done, shown⟩ := columns.frozen
  rw [shown, frozen_value injective decided subset covers done, (sound.recorded present held).frozen,
    last_vaultWrite]

/-- The terms of a vault whose policy has not been updated, when it was created without limits. -/
def blankTerms : Terms K := ⟨0, 0, 0, false, Vector.replicate whitelistLen defaultKey⟩

/-- The row shows the terms; the empty places of the whitelist are left out. -/
structure ShowsTerms (r : Rendering K S) (row : VaultRow S) (terms : Terms K) : Prop where
  perTxLimitUsdc : row.perTxLimitUsdc = terms.perTxLimitUsdc
  hourlyLimitUsdc : row.hourlyLimitUsdc = terms.hourlyLimitUsdc
  lifetimeLimitUsdc : row.lifetimeLimitUsdc = terms.lifetimeLimitUsdc
  allowPostPay : row.allowPostPay = terms.allowPostPay
  whitelist : row.whitelist = (terms.whitelist.toList.filter fun key => decide (key ≠ defaultKey)).map r.key

theorem filter_keys (injective : Function.Injective r.key) (keys : List K) :
    (keys.map r.key).filter (fun listed => decide (listed ≠ r.key defaultKey)) =
      (keys.filter fun key => decide (key ≠ defaultKey)).map r.key := by
  rw [List.filter_map]
  congr 1
  apply List.filter_congr
  intro key _
  simp only [Function.comp_apply, ne_eq, injective.eq_iff]

theorem terms_shown (injective : Function.Injective r.key) (subset : entries ⊆ chain.log)
    (columns : VaultColumns rt (entries.map (Emitted.row r)) (r.key v) (r.key defaultKey) init row)
    (decided : Decided (Emitted.vaultWrite v VaultEvent.newTerms) chain.log)
    (covers : ∀ e ∈ chain.log, (e.vaultWrite v VaultEvent.newTerms).isSome = true → e ∈ entries) :
    ShowsTerms r row ((last (VaultEvent.about v VaultEvent.newTerms) chain.vaultEvents).getD blankTerms) := by
  have integers : ∀ (field : String) (value : Terms K → Nat), (∀ (e : Emitted K) (t : Terms K),
      e.vaultWrite v VaultEvent.newTerms = some t →
        e.event.fields.lookup field = some (.u64 (value t))) → ∀ answer,
      policyColumn rt (entries.map (Emitted.row r)) (r.key v) (ParsedEvent.integer 64 field) = .ok answer →
        answer = (last (Emitted.vaultWrite v VaultEvent.newTerms) chain.log).map
          fun t => some (value t : Int) := by
    intro field value held answer done
    refine policyColumn_value injective decided subset covers ?_ done
    intro e t a wrote read
    rw [row_integer (held e t wrote), map_eq_ok] at read
    obtain ⟨n, fits, rfl⟩ := read
    rw [(fit_eq_ok.mp fits).2]
  rw [last_vaultWrite]
  obtain ⟨perTx, perTxDone, perTxShown⟩ := columns.perTxLimitUsdc
  obtain ⟨hourly, hourlyDone, hourlyShown⟩ := columns.hourlyLimitUsdc
  obtain ⟨lifetime, lifetimeDone, lifetimeShown⟩ := columns.lifetimeLimitUsdc
  obtain ⟨postPay, postPayDone, postPayShown⟩ := columns.allowPostPay
  obtain ⟨whitelist, whitelistDone, whitelistShown⟩ := columns.whitelist
  have postPayValue : postPay = (last (Emitted.vaultWrite v VaultEvent.newTerms) chain.log).map
      fun t => some t.allowPostPay := by
    refine policyColumn_value injective decided subset covers ?_ postPayDone
    intro e t a wrote read
    rw [row_boolean (newTerms_fields wrote).2.2.2.1] at read
    exact (Except.ok.inj read).symm
  have whitelistValue : whitelist = (last (Emitted.vaultWrite v VaultEvent.newTerms) chain.log).map
      fun t => t.whitelist.toList.map r.key := by
    refine policyColumn_value injective decided subset covers ?_ whitelistDone
    intro e t a wrote read
    rw [row_texts (newTerms_fields wrote).2.2.2.2] at read
    exact (Except.ok.inj read).symm
  have perTxValue := integers _ Terms.perTxLimitUsdc (fun _ _ w => (newTerms_fields w).1) _ perTxDone
  have hourlyValue := integers _ Terms.hourlyLimitUsdc (fun _ _ w => (newTerms_fields w).2.1) _ hourlyDone
  have lifetimeValue :=
    integers _ Terms.lifetimeLimitUsdc (fun _ _ w => (newTerms_fields w).2.2.1) _ lifetimeDone
  constructor
  · rw [perTxShown, perTxValue]
    cases last (Emitted.vaultWrite v VaultEvent.newTerms) chain.log <;> rfl
  · rw [hourlyShown, hourlyValue]
    cases last (Emitted.vaultWrite v VaultEvent.newTerms) chain.log <;> rfl
  · rw [lifetimeShown, lifetimeValue]
    cases last (Emitted.vaultWrite v VaultEvent.newTerms) chain.log <;> rfl
  · rw [postPayShown, postPayValue]
    cases last (Emitted.vaultWrite v VaultEvent.newTerms) chain.log <;> rfl
  · rw [whitelistShown, whitelistValue]
    cases last (Emitted.vaultWrite v VaultEvent.newTerms) chain.log with
    | some t => exact filter_keys injective _
    | none =>
      -- The whitelist of the blank terms has nothing but empty places.
      symm
      simp [blankTerms, Vector.toList_replicate]

end Columns

end AgentFuel.Backend
