import AgentFuel.Backend.Parser
import AgentFuel.Library.FirstBy
import Mathlib.Data.List.ReduceOption
import Mathlib.Data.Prod.Lex
import Mathlib.Logic.Function.Basic

/-!
# The mirror tables

The rows of agents, services and vaults are rebuilt from the `events` table by one statement
each. Columns that hold times of the database are left out. Texts are of any type here; the
statements compare them and take nothing else from them.
-/
namespace AgentFuel.Backend

variable {S α : Type}

/-! ### Tables -/

structure AgentRow (S : Type) where
  owner : S
  initSlot : Int
  score : Int
  totalTransactions : Int
  totalVolumeUsdc : Int
  servicesUsed : Int
  consecutiveSuccess : Int
  totalFeedbackCount : Int
  activeNegativeFeedbackCount : Int
  lastActiveSlot : Int

structure ServiceRow (S : Type) where
  name : S
  category : Int
  active : Bool
  initSlot : Int
  totalAgentsServed : Int
  totalVolumeReceivedUsdc : Int
  lastActiveSlot : Int

structure VaultRow (S : Type) where
  owner : S
  agent : S
  usdcMint : S
  vaultTokenAccount : S
  totalDeposited : Int
  totalWithdrawn : Int
  totalSpent : Int
  totalClaimed : Int
  frozen : Bool
  perTxLimitUsdc : Int
  hourlyLimitUsdc : Int
  lifetimeLimitUsdc : Int
  allowPostPay : Bool
  whitelist : List S
  createdSlot : Int
  lastActiveSlot : Int

/-- The rows of `events` are the parsed events as they were inserted. -/
structure Database (S : Type) where
  events : List (ParsedEvent S)
  agents : S → Option (AgentRow S)
  services : S → Option (ServiceRow S)
  vaults : S → Option (VaultRow S)

def Database.empty : Database S := ⟨[], fun _ => none, fun _ => none, fun _ => none⟩

inductive SqlError where
  | outOfRange
  | invalidText
  | nullValue
  deriving DecidableEq, Repr

/-- The order of `ORDER BY slot, log_index`. -/
def ParsedEvent.position (row : ParsedEvent S) : Int ×ₗ Int := toLex (row.slot, Int.ofNat row.logIndex)

/-- What the statements leave to the database and to the standard library. -/
structure Runtime (S : Type) where
  earliest : FirstBy (ParsedEvent.position (S := S))
  latest : FirstBy fun row : ParsedEvent S => OrderDual.toDual row.position
  /-- Whether the select list is evaluated for the rows that `LIMIT` drops. -/
  eager : Bool
  /-- The order in which a `HashSet` is iterated. -/
  iterate : List S → List S
  iterate_perm : ∀ keys, (iterate keys).Perm keys

def Runtime.standard : Runtime S where
  earliest := .leftmost _
  latest := .leftmost _
  eager := false
  iterate := id
  iterate_perm _ := .refl _

/-! ### Expressions -/

/-- An integer of this many bits. -/
def fit (bits : Nat) (n : Int) : Except SqlError Int :=
  if -2 ^ (bits - 1) ≤ n ∧ n < 2 ^ (bits - 1) then .ok n else .error .outOfRange

/-- `payload->>'field'` as a text. -/
def ParsedEvent.text (row : ParsedEvent S) (field : String) : Option S :=
  (row.decoded.payload.get field).bind Json.asStr

/-- `(payload->>'field')::bigint`, or `::int` or `::smallint`. -/
def ParsedEvent.integer (bits : Nat) (field : String) (row : ParsedEvent S) :
    Except SqlError (Option Int) :=
  match row.decoded.payload.get field with
  | none | some .null => .ok none
  | some (.num n) => some <$> fit bits n
  | some _ => .error .invalidText

/-- `(payload->>'field')::boolean` -/
def ParsedEvent.boolean (field : String) (row : ParsedEvent S) : Except SqlError (Option Bool) :=
  match row.decoded.payload.get field with
  | none | some .null => .ok none
  | some (.bool b) => .ok (some b)
  | some _ => .error .invalidText

/-- `jsonb_array_elements_text(payload->'field')` -/
def ParsedEvent.texts (field : String) (row : ParsedEvent S) : Except SqlError (List S) :=
  match row.decoded.payload.get field with
  | none | some .null => .ok []
  | some (.arr items) => items.mapM fun item => Checked.okOr item.asStr .invalidText
  | some _ => .error .invalidText

/-- `COALESCE(SUM(..), 0)` -/
def sumOf (rows : List (ParsedEvent S)) (value : ParsedEvent S → Except SqlError (Option Int)) :
    Except SqlError Int := do
  let values ← rows.mapM value
  pure values.reduceOption.sum

/-- `MAX(..)` -/
def maxOf (rows : List (ParsedEvent S)) (value : ParsedEvent S → Except SqlError (Option Int)) :
    Except SqlError (Option Int) := do
  let values ← rows.mapM value
  pure values.reduceOption.max?

/-- `ORDER BY .. LIMIT 1` around a select list. -/
def limitOne {β : Type} [LinearOrder β] {key : ParsedEvent S → β} (first : FirstBy key)
    (eager : Bool) (rows : List (ParsedEvent S)) (select : ParsedEvent S → Except SqlError α) :
    Except SqlError (Option α) := do
  if eager then rows.forM fun row => discard (select row)
  match first.pick rows with
  | none => pure none
  | some row => some <$> select row

variable [DecidableEq S]

/-- The events of some names whose field holds a key. -/
def about (names : List EventName) (field : String) (key : S) (events : List (ParsedEvent S)) :
    List (ParsedEvent S) :=
  events.filter fun row => decide (row.decoded.eventName ∈ names ∧ row.text field = some key)

/-- `payload->>'field' = key`, whatever the event. -/
def mentioning (field : String) (key : S) (events : List (ParsedEvent S)) : List (ParsedEvent S) :=
  events.filter fun row => decide (row.text field = some key)

variable (rt : Runtime S) (events : List (ParsedEvent S)) (key : S)

/-- `COALESCE((SELECT MAX(slot) ..), init)` -/
def lastActive (field : String) (init : Int) : Int :=
  (((mentioning field key events).map ParsedEvent.slot).max?).getD init

/-! ### refresh_agent -/

/-- Negative feedback that has not been revoked. -/
def standingNegatives : Except SqlError (List (ParsedEvent S)) := do
  let negatives ← (about [.feedbackGiven] "agent" key events).filterM fun given => do
    let value ← given.integer 32 "value"
    pure (value.any (· < 0))
  pure (negatives.filter fun given => !events.any fun revoked =>
    decide (revoked.decoded.eventName = .feedbackRevoked) &&
      (given.text "feedback").any fun feedback => decide (revoked.text "feedback" = some feedback))

/-- Payments since the latest standing negative feedback. -/
def streak (payments : List (ParsedEvent S)) : Except SqlError Int := do
  let negatives ← standingNegatives events key
  let since := (rt.latest.pick negatives).elim (toLex (-1, -1)) ParsedEvent.position
  pure (Int.ofNat (payments.countP fun payment => decide (since < payment.position)))

/-- The row `refresh_agent` computes. -/
def agentRow (init : ParsedEvent S) : Except SqlError (AgentRow S) := do
  let owner ← Checked.okOr (init.text "owner") .nullValue
  let initSlot ← init.integer 64 "init_slot"
  let initSlot ← Checked.okOr initSlot .nullValue
  let scores := about [.scoreComputed] "agent" key events
  let score ← limitOne rt.latest rt.eager scores (ParsedEvent.integer 32 "score")
  let payments := about [.paymentRecorded] "agent" key events
  let volume ← sumOf payments (ParsedEvent.integer 64 "amount_usdc")
  let totalVolumeUsdc ← fit 64 volume
  let newPairs ← payments.filterM fun payment => do
    let wasNewPair ← payment.boolean "was_new_pair"
    pure (wasNewPair = some true)
  let servicesUsed ← fit 32 newPairs.length
  let since ← streak rt events key payments
  let consecutiveSuccess ← fit 32 since
  let given := about [.feedbackGiven] "agent" key events
  let revoked := about [.feedbackRevoked] "agent" key events
  let totalFeedbackCount ← fit 32 (given.length - revoked.length)
  let negative ← given.filterM fun feedback => do
    let value ← feedback.integer 32 "value"
    pure (value.any (· < 0))
  let lifted ← revoked.filterM fun feedback => do
    let wasNegative ← feedback.boolean "was_negative"
    pure (wasNegative = some true)
  let activeNegativeFeedbackCount ← fit 32 (max 0 (negative.length - lifted.length))
  pure
    { owner, initSlot
      score := (score.join).getD 0
      totalTransactions := payments.length
      totalVolumeUsdc, servicesUsed, consecutiveSuccess, totalFeedbackCount
      activeNegativeFeedbackCount
      lastActiveSlot := lastActive events key "agent" initSlot }

def refreshAgent (db : Database S) : Except SqlError (Database S) := do
  let inits := about [.agentInitialized] "agent" key db.events
  let row ← limitOne rt.earliest rt.eager inits (agentRow rt db.events key)
  match row with
  | none => pure db
  | some row =>
    -- A row that exists keeps what the insertion gave it.
    let row := match db.agents key with
      | none => row
      | some old => { row with owner := old.owner, initSlot := old.initSlot }
    pure { db with agents := Function.update db.agents key (some row) }

/-! ### refresh_service -/

def serviceRow (init : ParsedEvent S) : Except SqlError (ServiceRow S) := do
  let name ← Checked.okOr (init.text "name") .nullValue
  let category ← init.integer 16 "category"
  let category ← Checked.okOr category .nullValue
  let flips := about [.serviceActiveSet] "service" key events
  let active ← limitOne rt.latest rt.eager flips (ParsedEvent.boolean "active")
  let initSlot ← init.integer 64 "init_slot"
  let initSlot ← Checked.okOr initSlot .nullValue
  let payments := about [.paymentRecorded] "service" key events
  let newPairs ← payments.filterM fun payment => do
    let wasNewPair ← payment.boolean "was_new_pair"
    pure (wasNewPair = some true)
  let totalAgentsServed ← fit 32 newPairs.length
  let volume ← sumOf payments (ParsedEvent.integer 64 "amount_usdc")
  let totalVolumeReceivedUsdc ← fit 64 volume
  pure
    { name, category
      active := (active.join).getD true
      initSlot, totalAgentsServed, totalVolumeReceivedUsdc
      lastActiveSlot := lastActive events key "service" initSlot }

def refreshService (db : Database S) : Except SqlError (Database S) := do
  let inits := about [.serviceRegistered] "service" key db.events
  let row ← limitOne rt.earliest rt.eager inits (serviceRow rt db.events key)
  match row with
  | none => pure db
  | some row =>
    let row := match db.services key with
      | none => row
      | some old => { row with initSlot := old.initSlot }
    pure { db with services := Function.update db.services key (some row) }

/-! ### refresh_vault -/

/-- The latest value that `PolicyUpdated` gave a column. -/
def policyColumn (select : ParsedEvent S → Except SqlError α) : Except SqlError (Option α) :=
  limitOne rt.latest rt.eager (about [.policyUpdated] "vault" key events) select

/-- The greatest post-value of a counter. -/
def counterColumn (names : List EventName) (field : String) : Except SqlError Int := do
  let value ← maxOf (about names "vault" key events) (ParsedEvent.integer 64 field)
  pure (value.getD 0)

/-- The row `refresh_vault` computes; the all-zero key is filtered from the whitelist. -/
def vaultRow (zeroKey : S) (init : ParsedEvent S) : Except SqlError (VaultRow S) := do
  let owner ← Checked.okOr (init.text "owner") .nullValue
  let agent ← Checked.okOr (init.text "agent") .nullValue
  let usdcMint ← Checked.okOr (init.text "usdc_mint") .nullValue
  let vaultTokenAccount ← Checked.okOr (init.text "vault_token_account") .nullValue
  let totalDeposited ← counterColumn events key [.deposited] "new_total_deposited"
  let totalWithdrawn ← counterColumn events key [.withdrawn] "new_total_withdrawn"
  let totalSpent ← counterColumn events key [.spent, .claimed] "new_total_spent"
  let totalClaimed ← counterColumn events key [.claimed] "new_total_claimed"
  let frozen ← limitOne rt.latest rt.eager (about [.vaultFrozen, .vaultUnfrozen] "vault" key events)
    fun row => pure (decide (row.decoded.eventName = .vaultFrozen))
  let perTxLimitUsdc ← policyColumn rt events key (ParsedEvent.integer 64 "per_tx_limit_usdc")
  let hourlyLimitUsdc ← policyColumn rt events key (ParsedEvent.integer 64 "hourly_limit_usdc")
  let lifetimeLimitUsdc ← policyColumn rt events key (ParsedEvent.integer 64 "lifetime_limit_usdc")
  let allowPostPay ← policyColumn rt events key (ParsedEvent.boolean "allow_post_pay")
  let whitelist ← policyColumn rt events key (ParsedEvent.texts "whitelist")
  let createdSlot ← init.integer 64 "slot"
  let createdSlot ← Checked.okOr createdSlot .nullValue
  pure
    { owner, agent, usdcMint, vaultTokenAccount
      totalDeposited, totalWithdrawn, totalSpent, totalClaimed
      frozen := frozen.getD false
      perTxLimitUsdc := (perTxLimitUsdc.join).getD 0
      hourlyLimitUsdc := (hourlyLimitUsdc.join).getD 0
      lifetimeLimitUsdc := (lifetimeLimitUsdc.join).getD 0
      allowPostPay := (allowPostPay.join).getD false
      whitelist := (whitelist.getD []).filter fun listed => decide (listed ≠ zeroKey)
      createdSlot
      lastActiveSlot := lastActive events key "vault" createdSlot }

def refreshVault (zeroKey : S) (db : Database S) : Except SqlError (Database S) := do
  let inits := about [.vaultCreated] "vault" key db.events
  let row ← limitOne rt.earliest rt.eager inits (vaultRow rt db.events key zeroKey)
  match row with
  | none => pure db
  | some row =>
    let row := match db.vaults key with
      | none => row
      | some old =>
        { row with
          owner := old.owner, agent := old.agent, usdcMint := old.usdcMint
          vaultTokenAccount := old.vaultTokenAccount, createdSlot := old.createdSlot }
    pure { db with vaults := Function.update db.vaults key (some row) }

/-! ### affected and refresh -/

/-- The keys whose rows an event could touch, without repetition. -/
structure Affected (S : Type) where
  agents : List S
  services : List S
  vaults : List S

/-- The keys in a field of the events of some names. -/
def keysOf (names : List EventName) (field : String) : List S :=
  ((events.filter fun row => decide (row.decoded.eventName ∈ names)).filterMap fun row =>
    row.text field).dedup

def affected : Affected S where
  agents := keysOf events [.agentInitialized, .feedbackGiven, .responseAppended, .feedbackRevoked,
    .scoreComputed, .paymentRecorded] "agent"
  services := keysOf events [.serviceRegistered, .serviceActiveSet, .paymentRecorded] "service"
  vaults := keysOf events [.vaultCreated, .deposited, .spent, .claimed, .vaultFrozen,
    .vaultUnfrozen, .policyUpdated, .withdrawn] "vault"

/-- Statements that commit one by one, up to the first that fails. -/
def runAll (db : Database S) :
    List (Database S → Except SqlError (Database S)) → Database S × Except SqlError Unit
  | [] => (db, .ok ())
  | statement :: rest =>
    match statement db with
    | .ok db => runAll db rest
    | .error e => (db, .error e)

def refresh (zeroKey : S) (db : Database S) (keys : Affected S) :
    Database S × Except SqlError Unit :=
  runAll db
    ((rt.iterate keys.agents).map (refreshAgent rt) ++
      (rt.iterate keys.services).map (refreshService rt) ++
      (rt.iterate keys.vaults).map fun key => refreshVault rt key zeroKey)

/-! ### What refreshing keeps -/

variable {rt} {key} {db db' : Database S} {zeroKey : S}

theorem refreshAgent_events (done : refreshAgent rt key db = .ok db') : db'.events = db.events := by
  obtain ⟨row, -, done⟩ := (Checked.bind_eq_ok _ _ _).mp done
  cases row <;> cases done <;> rfl

theorem refreshService_events (done : refreshService rt key db = .ok db') :
    db'.events = db.events := by
  obtain ⟨row, -, done⟩ := (Checked.bind_eq_ok _ _ _).mp done
  cases row <;> cases done <;> rfl

theorem refreshVault_events (done : refreshVault rt key zeroKey db = .ok db') :
    db'.events = db.events := by
  obtain ⟨row, -, done⟩ := (Checked.bind_eq_ok _ _ _).mp done
  cases row <;> cases done <;> rfl

omit [DecidableEq S] in
/-- What every statement keeps is kept, also when one of them fails. -/
theorem runAll_keeps {P : Database S → Prop}
    {statements : List (Database S → Except SqlError (Database S))}
    (keeps : ∀ statement ∈ statements, ∀ {db db'}, statement db = .ok db' → P db → P db')
    (holds : P db) : P (runAll db statements).1 := by
  induction statements generalizing db with
  | nil => exact holds
  | cons statement rest ih =>
    rw [List.forall_mem_cons] at keeps
    unfold runAll
    cases outcome : statement db with
    | error e => exact holds
    | ok next => exact ih keeps.2 (keeps.1 outcome holds)

variable (rt) (zeroKey) in
theorem refresh_events (db : Database S) (keys : Affected S) :
    (refresh rt zeroKey db keys).1.events = db.events := by
  have keeps : ∀ statement ∈ (rt.iterate keys.agents).map (refreshAgent rt) ++
      (rt.iterate keys.services).map (refreshService rt) ++
      (rt.iterate keys.vaults).map (fun key => refreshVault rt key zeroKey),
      ∀ {before after}, statement before = .ok after →
        before.events = db.events → after.events = db.events := by
    intro statement member before after done same
    rw [List.mem_append, List.mem_append] at member
    rcases member with (agent | service) | vault
    · obtain ⟨key, -, rfl⟩ := List.mem_map.mp agent
      exact (refreshAgent_events done).trans same
    · obtain ⟨key, -, rfl⟩ := List.mem_map.mp service
      exact (refreshService_events done).trans same
    · obtain ⟨key, -, rfl⟩ := List.mem_map.mp vault
      exact (refreshVault_events done).trans same
  exact runAll_keeps keeps rfl

end AgentFuel.Backend
