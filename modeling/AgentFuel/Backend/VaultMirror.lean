import AgentFuel.Backend.Columns

/-!
# The mirror row of a vault

The columns of `refresh_vault`, read on the events of a chain. The table may lack events of the
vault that no column but `last_active_slot` looks at.
-/
namespace AgentFuel.Backend

open Checked Solana Register Vault

variable {K S α β : Type} {r : Rendering K S}

theorem vault_text (r : Rendering K S) (e : Emitted K) :
    (e.row r).text "vault" = e.event.asVault.map fun ev => r.key ev.vault := by
  obtain ⟨signature, slot, logIndex, ev | ev⟩ := e <;> cases ev <;> rfl

section Writes

variable [DecidableEq K]

/-- What an event writes to the vault at `v`. -/
def Emitted.vaultWrite (v : K) (write : VaultEvent K → Option β) (e : Emitted K) : Option β :=
  e.event.asVault.bind (VaultEvent.about v write)

theorem Emitted.vaultWrite_eq_some {v : K} {write : VaultEvent K → Option β} {e : Emitted K} {b : β} :
    e.vaultWrite v write = some b ↔ ∃ ev, e.event = .vault ev ∧ ev.vault = v ∧ write ev = some b := by
  obtain ⟨signature, slot, logIndex, ev | ev⟩ := e
  · simp [vaultWrite, Event.asVault, VaultEvent.about_eq_some]
  · simp [vaultWrite, Event.asVault]

/-- The events of some names are those that write, and their field `vault` names the vault. -/
theorem about_vault [DecidableEq S] (injective : Function.Injective r.key) {names : List EventName}
    {write : VaultEvent K → Option β}
    (carries : ∀ event : Event K, event.name ∈ names ↔ (event.asVault.bind write).isSome = true)
    (v : K) (entries : List (Emitted K)) :
    about names "vault" (r.key v) (entries.map (Emitted.row r)) =
      (writers (Emitted.vaultWrite v write) entries).map (Emitted.row r) := by
  apply about_rows
  intro e _
  rw [carries, vault_text, Emitted.vaultWrite]
  cases e.event.asVault with
  | none => simp
  | some ev =>
    simp only [Option.bind_some, Option.map_some, Option.some.injEq, injective.eq_iff,
      VaultEvent.about]
    split <;> simp [*]

/-! ### Totals -/

section Counters

variable [DecidableEq S] {names : List EventName} {field : String} {write : VaultEvent K → Option Nat}
  {v : K} {log entries : List (Emitted K)}

theorem counterColumn_value (injective : Function.Injective r.key)
    (carries : ∀ event : Event K, event.name ∈ names ↔ (event.asVault.bind write).isSome = true)
    (shows : ∀ ev n, write ev = some n → (vaultFields ev).lookup field = some (.u64 n)) {value : Nat}
    (counter : Counter (Emitted.vaultWrite v write) value log) (subset : entries ⊆ log)
    (covers : ∀ e ∈ log, (e.vaultWrite v write).isSome = true → e ∈ entries) {total : Int}
    (done : counterColumn (entries.map (Emitted.row r)) (r.key v) names field = .ok total) :
    total = value := by
  obtain ⟨greatest, found, done⟩ := (bind_eq_ok _ _ _).mp done
  obtain rfl := Except.ok.inj done
  rw [about_vault injective carries] at found
  have value := maxOf_value (g := fun e => Int.ofNat ((e.vaultWrite v write).getD 0)) found <| by
    intro e member n read
    obtain ⟨-, m, wrote⟩ := mem_writers.mp member
    obtain ⟨ev, event, -, wrote'⟩ := Emitted.vaultWrite_eq_some.mp wrote
    have held : e.event.fields.lookup field = some (.u64 m) := by
      rw [event]
      exact shows ev m wrote'
    rw [row_integer held, map_eq_ok] at read
    obtain ⟨k, fits, rfl⟩ := read
    rw [wrote, Option.getD_some, ← (fit_eq_ok.mp fits).2]
    rfl
  rw [value, writers_map (g := Int.ofNat) (fun e n wrote => by rw [wrote, Option.getD_some]), max_ofNat,
    counter.max subset covers]
  rfl

theorem counterColumn_total (injective : Function.Injective r.key)
    (carries : ∀ event : Event K, event.name ∈ names ↔ (event.asVault.bind write).isSome = true)
    (shows : ∀ ev n, write ev = some n → (vaultFields ev).lookup field = some (.u64 n))
    (small : ∀ e ∈ entries, ∀ n, e.vaultWrite v write = some n → n < 2 ^ 63) :
    ∃ total, counterColumn (entries.map (Emitted.row r)) (r.key v) names field = .ok total := by
  have read : ∃ greatest, maxOf (about names "vault" (r.key v) (entries.map (Emitted.row r)))
      (ParsedEvent.integer 64 field) = .ok greatest := by
    apply maxOf_total
    rw [about_vault injective carries]
    intro row member
    obtain ⟨e, held, rfl⟩ := List.mem_map.mp member
    obtain ⟨inside, m, wrote⟩ := mem_writers.mp held
    obtain ⟨ev, event, -, wrote'⟩ := Emitted.vaultWrite_eq_some.mp wrote
    have shown : e.event.fields.lookup field = some (.u64 m) := by
      rw [event]
      exact shows ev m wrote'
    have bound := small e inside m wrote
    have range : -2 ^ (64 - 1) ≤ (m : Int) ∧ (m : Int) < 2 ^ (64 - 1) := by omega
    exact ⟨some m, by rw [row_integer shown, fit, if_pos range]; rfl⟩
  obtain ⟨greatest, read⟩ := read
  exact ⟨greatest.getD 0, by rw [counterColumn, read]; rfl⟩

end Counters

/-! ### Last writers -/

section LastWriters

variable [DecidableEq S] {rt : Runtime S} {v : K} {log entries : List (Emitted K)}

omit [DecidableEq K] [DecidableEq S] in
theorem mem_frozen (event : Event K) : event.name ∈ [EventName.vaultFrozen, .vaultUnfrozen] ↔
    (event.asVault.bind VaultEvent.newFrozen).isSome = true := by
  rcases event with ev | ev <;> cases ev <;> simp [Event.name, Event.asVault, VaultEvent.newFrozen]

theorem frozen_value (injective : Function.Injective r.key)
    (decided : Decided (Emitted.vaultWrite v VaultEvent.newFrozen) log) (subset : entries ⊆ log)
    (covers : ∀ e ∈ log, (e.vaultWrite v VaultEvent.newFrozen).isSome = true → e ∈ entries)
    {answer : Option Bool}
    (done : limitOne rt.latest rt.eager
      (about [.vaultFrozen, .vaultUnfrozen] "vault" (r.key v) (entries.map (Emitted.row r)))
      (fun row => pure (decide (row.decoded.eventName = .vaultFrozen))) = .ok answer) :
    answer = last (Emitted.vaultWrite v VaultEvent.newFrozen) log := by
  rw [about_vault injective mem_frozen] at done
  have reads : ∀ (e : Emitted K) (frozen a : Bool),
      e.vaultWrite v VaultEvent.newFrozen = some frozen →
      (pure (decide ((e.row r).decoded.eventName = .vaultFrozen)) : Except SqlError Bool) = .ok a →
      a = id frozen := by
    intro e frozen a wrote read
    obtain ⟨ev, event, -, wrote⟩ := Emitted.vaultWrite_eq_some.mp wrote
    obtain rfl := Except.ok.inj read
    change decide (e.event.name = .vaultFrozen) = frozen
    rw [event]
    cases ev <;> cases wrote <;> rfl
  rw [latest_value subset covers decided reads done, Option.map_id]
  rfl

omit [DecidableEq K] [DecidableEq S] in
theorem mem_policyUpdated (event : Event K) : event.name ∈ [EventName.policyUpdated] ↔
    (event.asVault.bind VaultEvent.newTerms).isSome = true := by
  rcases event with ev | ev <;> cases ev <;> simp [Event.name, Event.asVault, VaultEvent.newTerms]

theorem policyColumn_value (injective : Function.Injective r.key)
    (decided : Decided (Emitted.vaultWrite v VaultEvent.newTerms) log) (subset : entries ⊆ log)
    (covers : ∀ e ∈ log, (e.vaultWrite v VaultEvent.newTerms).isSome = true → e ∈ entries)
    {select : ParsedEvent S → Except SqlError α} {value : Terms K → α} {answer : Option α}
    (reads : ∀ e t a, Emitted.vaultWrite v VaultEvent.newTerms e = some t →
      select (e.row r) = .ok a → a = value t)
    (done : policyColumn rt (entries.map (Emitted.row r)) (r.key v) select = .ok answer) :
    answer = (last (Emitted.vaultWrite v VaultEvent.newTerms) log).map value := by
  rw [policyColumn, about_vault injective mem_policyUpdated] at done
  exact latest_value subset covers decided reads done

theorem policyColumn_total (injective : Function.Injective r.key)
    {select : ParsedEvent S → Except SqlError α}
    (each : ∀ e ∈ entries, ∀ t, e.vaultWrite v VaultEvent.newTerms = some t →
      ∃ a, select (e.row r) = .ok a) :
    ∃ answer, policyColumn rt (entries.map (Emitted.row r)) (r.key v) select = .ok answer := by
  rw [policyColumn, about_vault injective mem_policyUpdated]
  apply limitOne_total
  intro row member
  obtain ⟨e, held, rfl⟩ := List.mem_map.mp member
  obtain ⟨inside, t, wrote⟩ := mem_writers.mp held
  exact each e inside t wrote

omit [DecidableEq S] in
/-- The fields of `PolicyUpdated`. -/
theorem newTerms_fields {e : Emitted K} {t : Terms K}
    (wrote : e.vaultWrite v VaultEvent.newTerms = some t) :
    e.event.fields.lookup "per_tx_limit_usdc" = some (.u64 t.perTxLimitUsdc) ∧
    e.event.fields.lookup "hourly_limit_usdc" = some (.u64 t.hourlyLimitUsdc) ∧
    e.event.fields.lookup "lifetime_limit_usdc" = some (.u64 t.lifetimeLimitUsdc) ∧
    e.event.fields.lookup "allow_post_pay" = some (.bool t.allowPostPay) ∧
    e.event.fields.lookup "whitelist" = some (.pubkeys t.whitelist) := by
  obtain ⟨ev, event, -, wrote⟩ := Emitted.vaultWrite_eq_some.mp wrote
  rw [event]
  cases ev <;> cases wrote
  exact ⟨rfl, rfl, rfl, rfl, rfl⟩

end LastWriters

end Writes

/-! ### The row -/

theorem row_texts {e : Emitted K} {field : String} {keys : Vector K whitelistLen}
    (held : e.event.fields.lookup field = some (.pubkeys keys)) :
    (e.row r).texts field = .ok (keys.toList.map r.key) := by
  rw [ParsedEvent.texts, row_get, held]
  change List.mapM _ (keys.toList.map fun key => Json.str (r.key key)) = _
  rw [List.mapM_map]
  exact List.mapM_pure

section Row

variable [DecidableEq S] {rt : Runtime S} {events : List (ParsedEvent S)} {key zeroKey : S}
  {init : ParsedEvent S} {row : VaultRow S}

/-- The queries behind the columns of a row. -/
structure VaultColumns (rt : Runtime S) (events : List (ParsedEvent S)) (key zeroKey : S)
    (init : ParsedEvent S) (row : VaultRow S) : Prop where
  totalDeposited :
    counterColumn events key [.deposited] "new_total_deposited" = .ok row.totalDeposited
  totalWithdrawn :
    counterColumn events key [.withdrawn] "new_total_withdrawn" = .ok row.totalWithdrawn
  totalSpent : counterColumn events key [.spent, .claimed] "new_total_spent" = .ok row.totalSpent
  totalClaimed : counterColumn events key [.claimed] "new_total_claimed" = .ok row.totalClaimed
  frozen : ∃ answer, limitOne rt.latest rt.eager
      (about [.vaultFrozen, .vaultUnfrozen] "vault" key events)
      (fun row => pure (decide (row.decoded.eventName = .vaultFrozen))) = .ok answer ∧
    row.frozen = answer.getD false
  perTxLimitUsdc : ∃ answer,
    policyColumn rt events key (ParsedEvent.integer 64 "per_tx_limit_usdc") = .ok answer ∧
      row.perTxLimitUsdc = answer.join.getD 0
  hourlyLimitUsdc : ∃ answer,
    policyColumn rt events key (ParsedEvent.integer 64 "hourly_limit_usdc") = .ok answer ∧
      row.hourlyLimitUsdc = answer.join.getD 0
  lifetimeLimitUsdc : ∃ answer,
    policyColumn rt events key (ParsedEvent.integer 64 "lifetime_limit_usdc") = .ok answer ∧
      row.lifetimeLimitUsdc = answer.join.getD 0
  allowPostPay : ∃ answer,
    policyColumn rt events key (ParsedEvent.boolean "allow_post_pay") = .ok answer ∧
      row.allowPostPay = answer.join.getD false
  whitelist : ∃ answer, policyColumn rt events key (ParsedEvent.texts "whitelist") = .ok answer ∧
    row.whitelist = (answer.getD []).filter fun listed => decide (listed ≠ zeroKey)
  lastActiveSlot : ∃ created, init.integer 64 "slot" = .ok (some created) ∧
    row.lastActiveSlot = lastActive events key "vault" created

theorem vaultRow_columns (done : vaultRow rt events key zeroKey init = .ok row) :
    VaultColumns rt events key zeroKey init row := by
  simp only [vaultRow, bind_eq_ok, okOr_eq_ok, pure_eq_ok] at done
  obtain ⟨_, -, _, -, _, -, _, -, _, deposited, _, withdrawn, _, spent, _, claimed, _, frozen,
    _, perTx, _, hourly, _, lifetime, _, postPay, _, whitelist, _, slot, _, rfl, rfl⟩ := done
  exact ⟨deposited, withdrawn, spent, claimed, ⟨_, frozen, rfl⟩, ⟨_, perTx, rfl⟩, ⟨_, hourly, rfl⟩,
    ⟨_, lifetime, rfl⟩, ⟨_, postPay, rfl⟩, ⟨_, whitelist, rfl⟩, ⟨_, slot, rfl⟩⟩

end Row

/-! ### The totals -/

inductive VaultTotal where
  | deposited
  | withdrawn
  | spent
  | claimed

namespace VaultTotal

def names : VaultTotal → List EventName
  | deposited => [.deposited]
  | withdrawn => [.withdrawn]
  | spent => [.spent, .claimed]
  | claimed => [.claimed]

def field : VaultTotal → String
  | deposited => "new_total_deposited"
  | withdrawn => "new_total_withdrawn"
  | spent => "new_total_spent"
  | claimed => "new_total_claimed"

def write : VaultTotal → VaultEvent K → Option Nat
  | deposited => VaultEvent.newTotalDeposited
  | withdrawn => VaultEvent.newTotalWithdrawn
  | spent => VaultEvent.newTotalSpent
  | claimed => VaultEvent.newTotalClaimed

/-- The field of the account. -/
def value (vault : CreditVault K) : VaultTotal → Nat
  | deposited => vault.totalDeposited
  | withdrawn => vault.totalWithdrawn
  | spent => vault.totalSpent
  | claimed => vault.totalClaimed

/-- The column of the row. -/
def column (row : VaultRow S) : VaultTotal → Int
  | deposited => row.totalDeposited
  | withdrawn => row.totalWithdrawn
  | spent => row.totalSpent
  | claimed => row.totalClaimed

theorem carries (total : VaultTotal) (event : Event K) :
    event.name ∈ total.names ↔ (event.asVault.bind total.write).isSome = true := by
  rcases event with ev | ev <;> cases total <;> cases ev <;>
    simp [Event.name, Event.asVault, names, write, VaultEvent.newTotalDeposited,
      VaultEvent.newTotalWithdrawn, VaultEvent.newTotalSpent, VaultEvent.newTotalClaimed]

theorem shows (total : VaultTotal) {ev : VaultEvent K} {n : Nat} (wrote : total.write ev = some n) :
    (vaultFields ev).lookup total.field = some (.u64 n) := by
  cases total <;> cases ev <;> cases wrote <;> rfl

theorem recorded [DecidableEq K] (total : VaultTotal) {v : K} {vault : CreditVault K} {terms : Terms K}
    {events : List (VaultEvent K)} (recorded : Recorded v vault terms events) :
    Counter (VaultEvent.about v total.write) (total.value vault) events := by
  cases total with
  | deposited => exact recorded.deposited
  | withdrawn => exact recorded.withdrawn
  | spent => exact recorded.spent
  | claimed => exact recorded.claimed

theorem counted [DecidableEq S] {rt : Runtime S} {events : List (ParsedEvent S)} {key zeroKey : S}
    {init : ParsedEvent S} {row : VaultRow S} (columns : VaultColumns rt events key zeroKey init row)
    (total : VaultTotal) : counterColumn events key total.names total.field = .ok (total.column row) := by
  cases total with
  | deposited => exact columns.totalDeposited
  | withdrawn => exact columns.totalWithdrawn
  | spent => exact columns.totalSpent
  | claimed => exact columns.totalClaimed

end VaultTotal

/-! ### Values that fit -/

/-- The values that the statement of a vault casts fit their columns. -/
structure VaultFits (ev : VaultEvent K) : Prop where
  slot : ev.slot < 2 ^ 63
  totals : ∀ (total : VaultTotal) n, total.write ev = some n → n < 2 ^ 63
  terms : ∀ t, ev.newTerms = some t → t.perTxLimitUsdc < 2 ^ 63 ∧ t.hourlyLimitUsdc < 2 ^ 63 ∧
    t.lifetimeLimitUsdc < 2 ^ 63

theorem row_integer_fits {e : Emitted K} {field : String} {n : Nat}
    (held : e.event.fields.lookup field = some (.u64 n)) (small : n < 2 ^ 63) :
    (e.row r).integer 64 field = .ok (some (n : Int)) := by
  have range : -2 ^ (64 - 1) ≤ (n : Int) ∧ (n : Int) < 2 ^ (64 - 1) := by omega
  rw [row_integer held, fit, if_pos range]
  rfl

/-- Where all values fit, the statement of a vault is not refused. -/
theorem vaultRow_total [DecidableEq K] [DecidableEq S] (injective : Function.Injective r.key)
    {rt : Runtime S} {entries : List (Emitted K)} {zeroKey : S} {v : K}
    (fits : ∀ e ∈ entries, ∀ ev, e.event = .vault ev → VaultFits ev) {init : Emitted K}
    {vault : CreditVault K} (member : init ∈ entries) (creates : init.event = .vault (vault.creation v)) :
    ∃ row, vaultRow rt (entries.map (Emitted.row r)) (r.key v) zeroKey (init.row r) = .ok row := by
  have text : ∀ field key, (vaultFields (vault.creation v)).lookup field = some (.pubkey key) →
      (init.row r).text field = some (r.key key) := by
    intro field key held
    rw [row_text, creates]
    change ((vaultFields (vault.creation v)).lookup field).bind _ = _
    rw [held]
    rfl
  -- Every column has a value of its own; the row is there once all of them are.
  have total : ∀ total : VaultTotal, ∃ n, counterColumn (entries.map (Emitted.row r)) (r.key v)
      total.names total.field = .ok n := by
    intro total
    refine counterColumn_total injective total.carries (fun _ _ => total.shows) ?_
    intro e inside n wrote
    obtain ⟨ev, event, -, wrote⟩ := Emitted.vaultWrite_eq_some.mp wrote
    exact (fits e inside ev event).totals total n wrote
  have term : ∀ field (value : Terms K → Nat), (∀ t : Terms K, (∀ e : Emitted K,
      e.vaultWrite v VaultEvent.newTerms = some t →
        e.event.fields.lookup field = some (.u64 (value t)))) →
      (∀ e ∈ entries, ∀ t, e.vaultWrite v VaultEvent.newTerms = some t → value t < 2 ^ 63) →
      ∃ answer, policyColumn rt (entries.map (Emitted.row r)) (r.key v)
        (ParsedEvent.integer 64 field) = .ok answer := by
    intro field value held small
    apply policyColumn_total injective
    intro e inside t wrote
    exact ⟨_, row_integer_fits (held t e wrote) (small e inside t wrote)⟩
  have bounds : ∀ e ∈ entries, ∀ t, e.vaultWrite v VaultEvent.newTerms = some t →
      t.perTxLimitUsdc < 2 ^ 63 ∧ t.hourlyLimitUsdc < 2 ^ 63 ∧ t.lifetimeLimitUsdc < 2 ^ 63 := by
    intro e inside t wrote
    obtain ⟨ev, event, -, wrote⟩ := Emitted.vaultWrite_eq_some.mp wrote
    exact (fits e inside ev event).terms t wrote
  obtain ⟨deposited, depositedDone⟩ := total .deposited
  obtain ⟨withdrawn, withdrawnDone⟩ := total .withdrawn
  obtain ⟨spent, spentDone⟩ := total .spent
  obtain ⟨claimed, claimedDone⟩ := total .claimed
  obtain ⟨frozen, frozenDone⟩ : ∃ answer, limitOne rt.latest rt.eager
      (about [.vaultFrozen, .vaultUnfrozen] "vault" (r.key v) (entries.map (Emitted.row r)))
      (fun row => pure (decide (row.decoded.eventName = .vaultFrozen))) = .ok answer :=
    limitOne_total fun _ _ => ⟨_, rfl⟩
  obtain ⟨perTx, perTxDone⟩ := term "per_tx_limit_usdc" Terms.perTxLimitUsdc
    (fun t e wrote => (newTerms_fields wrote).1) (fun e inside t wrote => (bounds e inside t wrote).1)
  obtain ⟨hourly, hourlyDone⟩ := term "hourly_limit_usdc" Terms.hourlyLimitUsdc
    (fun t e wrote => (newTerms_fields wrote).2.1) (fun e inside t wrote => (bounds e inside t wrote).2.1)
  obtain ⟨lifetime, lifetimeDone⟩ := term "lifetime_limit_usdc" Terms.lifetimeLimitUsdc
    (fun t e wrote => (newTerms_fields wrote).2.2.1)
    (fun e inside t wrote => (bounds e inside t wrote).2.2)
  obtain ⟨postPay, postPayDone⟩ : ∃ answer, policyColumn rt (entries.map (Emitted.row r)) (r.key v)
      (ParsedEvent.boolean "allow_post_pay") = .ok answer :=
    policyColumn_total injective fun e _ t wrote => ⟨_, row_boolean (newTerms_fields wrote).2.2.2.1⟩
  obtain ⟨whitelist, whitelistDone⟩ : ∃ answer, policyColumn rt (entries.map (Emitted.row r)) (r.key v)
      (ParsedEvent.texts "whitelist") = .ok answer :=
    policyColumn_total injective fun e _ t wrote => ⟨_, row_texts (newTerms_fields wrote).2.2.2.2⟩
  have slot : (init.row r).integer 64 "slot" = .ok (some (vault.createdSlot : Int)) := by
    have small := (fits init member _ creates).slot
    refine row_integer_fits ?_ small
    rw [creates]
    rfl
  simp only [VaultTotal.names, VaultTotal.field] at depositedDone withdrawnDone spentDone claimedDone
  simp only [vaultRow, text "owner" vault.owner rfl, text "agent" vault.agent rfl,
    text "usdc_mint" vault.usdcMint rfl, text "vault_token_account" vault.vaultTokenAccount rfl,
    depositedDone, withdrawnDone, spentDone, claimedDone, frozenDone, perTxDone, hourlyDone,
    lifetimeDone, postPayDone, whitelistDone, slot]
  exact ⟨_, rfl⟩

end AgentFuel.Backend
