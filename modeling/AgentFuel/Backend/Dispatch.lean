import AgentFuel.Backend.Alerts
import AgentFuel.Backend.PendingSpends
import AgentFuel.Backend.Score

/-!
# A delivery and all its tables

After the events are stored and the mirror is refreshed, scores are sampled and every event of the
batch goes through `dispatch`, which announces it to an owner where there is something to announce.
Nobody else writes the tables meanwhile; no statement fails but for its constraints. Amounts in
floating point and their texts are left to the standard library.
-/
namespace AgentFuel.Backend

/-! ### Tables -/

structure AlertRow where
  id : Nat
  alert : Alert
  /-- Whether `read_at` is set. -/
  read : Bool

structure AlertTable where
  rows : List AlertRow
  nextId : Nat

/-- All tables that a delivery writes. The threshold of a vault is a column of its row. -/
structure Tables where
  db : Database String
  lastBudgetAlertPct : String → Int
  scoreHistory : List ScoreRow
  pending : PendingTable String
  alerts : AlertTable

structure DispatchRuntime where
  oldest : FirstBy (PendingRow.createdAt (S := String))
  now : Nat → Int
  /-- `amount as f64 / 1_000_000.0` -/
  usdc : Int → Json String
  /-- The same with two decimals. -/
  twoDecimals : Int → String

/-- An amount in USDC, where it is exact in floating point. -/
def usdcAmount (amount : Int) : Json String := .frac amount 1000000

/-- The same in whole cents. -/
def usdcText (amount : Int) : String :=
  let cents := (amount + 5000) / 10000
  let padding := if cents % 100 < 10 then "0" else ""
  toString (cents / 100) ++ "." ++ padding ++ toString (cents % 100)

/-- Rows are inserted one after the other, and the leftmost of the oldest ones is taken. -/
def DispatchRuntime.standard : DispatchRuntime := ⟨.leftmost _, fun id => id, usdcAmount, usdcText⟩

/-- `INSERT INTO alerts .. RETURNING id` -/
def Tables.emit (t : Tables) (alert : Alert) : Tables × Nat :=
  ({ t with alerts := ⟨t.alerts.rows ++ [⟨t.alerts.nextId, alert, false⟩], t.alerts.nextId + 1⟩ },
    t.alerts.nextId)

/-- `UPDATE alerts SET read_at = now() WHERE id = $1 AND owner = $2 AND read_at IS NULL` -/
def AlertTable.markRead (alerts : AlertTable) (owner : String) : Option Nat → AlertTable
  | none => alerts
  | some id =>
    { alerts with rows := alerts.rows.map fun row =>
        if row.id = id ∧ row.alert.owner = owner then { row with read := true } else row }

/-- The ends of a key, which is ASCII. -/
def short (pk : String) : String :=
  if pk.utf8ByteSize ≤ 8 then pk
  else String.ofList (pk.toList.take 4) ++ "…" ++ String.ofList (pk.toList.drop (pk.length - 4))

/-! ### Announcements -/

section Announcements

variable (dr : DispatchRuntime)

def depositAlert (ev : ParsedEvent String) : Option Alert := do
  let vaultPubkey ← ev.text "vault"
  let amount ← ev.asI64 "amount_usdc"
  let owner ← ev.text "owner"
  some
    { owner
      kind := .vaultFunded
      severity := .info
      title := "Vault funded · " ++ dr.twoDecimals amount ++ " USDC"
      body := "A deposit just landed on chain. Vault " ++ short vaultPubkey ++ " top-up confirmed."
      data := .obj [("vault", .str vaultPubkey), ("amount_usdc_lamports", .num amount),
        ("amount_usdc", dr.usdc amount), ("slot", .num ev.slot)] }

def freezeAlert (ev : ParsedEvent String) : Option Alert := do
  let vaultPubkey ← ev.text "vault"
  let owner ← ev.text "owner"
  some
    { owner
      kind := .vaultFrozen
      severity := .urgent
      title := "Vault frozen"
      body := "Vault " ++ short vaultPubkey ++
        " has stopped accepting payments. Unfreeze from the console to resume."
      data := .obj [("vault", .str vaultPubkey), ("slot", .num ev.slot)] }

/-- `ELITE_TIER` -/
def eliteTier : Int := 900

/-- The alert for a score that is not the previous one; `i64` wraps around. -/
def scoreChangeAlert (agentPubkey owner : String) (newScore : Int) (prevScore : Option Int)
    (slot : Int) : Alert :=
  let delta := Int.bmod (newScore - prevScore.getD 0) (2 ^ 64)
  let crossedElite := prevScore.any (fun p => decide (p < eliteTier)) && decide (newScore ≥ eliteTier)
  let urgentDrop := decide (delta ≤ -15)
  { owner
    kind := if crossedElite then .tierCrossed else .scoreChange
    severity := if urgentDrop then .urgent else .info
    title :=
      if crossedElite then "Agent crossed Elite tier"
      else if urgentDrop then "Reputation dropped " ++ toString delta.natAbs ++ " pts"
      else "Reputation score updated"
    body :=
      if crossedElite then "Reputation reached " ++ toString newScore ++
        ". Post-pay credit unlocks for whitelisted services."
      else if urgentDrop then "Score fell from " ++ toString (prevScore.getD 0) ++ " to " ++
        toString newScore ++ ". Consider freezing the vault until things stabilize."
      else prevScore.elim ("Initial score recorded: " ++ toString newScore ++ ".") fun p =>
        "Score moved from " ++ toString p ++ " to " ++ toString newScore ++ "."
    data := .obj [("agent", .str agentPubkey), ("new_score", .num newScore),
      ("previous_score", prevScore.elim .null .num), ("delta", .num delta), ("slot", .num slot)] }

/-- `SELECT score FROM score_history WHERE agent = $1 AND slot < $2 ORDER BY slot DESC LIMIT 1` -/
def previousScore (history : List ScoreRow) (agent : String) (slot : Int) : Option Int :=
  (latestRow (history.filter fun row => decide (row.agent = agent ∧ row.slot < slot))).map
    ScoreRow.score

def scoreAlert (db : Database String) (history : List ScoreRow) (ev : ParsedEvent String) :
    Option Alert := do
  let agentPubkey ← ev.text "agent"
  let newScore ← ev.asI64 "score"
  let agent ← db.agents agentPubkey
  let prevScore := previousScore history agentPubkey ev.slot
  if prevScore = some newScore then none
  else some (scoreChangeAlert agentPubkey agent.owner newScore prevScore ev.slot)

/-- `json!(Option<i64>)` -/
def optionalNum (n : Option Int) : Json String := n.elim .null .num

def approvalRequiredAlert (owner : String) (request : SpendRequest String) (pendingId : Nat)
    (ev : ParsedEvent String) : Alert where
  owner
  kind := .approvalRequired
  severity := .urgent
  title := "Approval required · " ++ dr.twoDecimals request.amountUsdc ++ " USDC spend"
  body := short request.agent ++ " requested " ++ dr.twoDecimals request.amountUsdc ++ " USDC to " ++
    short request.service ++ " — above the vault's policy."
  data := .obj [("pending_spend_id", .num pendingId),
    ("pending_spend_pubkey", (ev.decoded.payload.get "pending_spend").getD .null),
    ("agent", .str request.agent), ("vault", .str request.vault), ("service", .str request.service),
    ("amount_usdc_lamports", .num request.amountUsdc), ("amount_usdc", dr.usdc request.amountUsdc),
    ("nonce", (ev.decoded.payload.get "nonce").getD .null), ("slot", .num ev.slot)]

def approvalApprovedAlert (payment : SpendPayment String) (row : PendingRow String) (slot : Int) :
    Alert where
  owner := row.owner
  kind := .approvalApproved
  severity := .info
  title := "Spend approved · " ++ dr.twoDecimals payment.amountUsdc ++ " USDC"
  body := "Released " ++ dr.twoDecimals payment.amountUsdc ++ " USDC to " ++ short payment.service ++
    " on chain."
  data := .obj [("pending_spend_id", .num row.id),
    ("pending_spend_pubkey", row.pendingSpendPubkey.elim .null .str), ("vault", .str payment.vault),
    ("service", .str payment.service), ("amount_usdc_lamports", .num payment.amountUsdc),
    ("amount_usdc", dr.usdc payment.amountUsdc), ("nonce", optionalNum row.nonce),
    ("slot", .num slot)]

def approvalRejectedAlert (pendingPubkey : String) (row : PendingRow String) (slot : Int) :
    Alert where
  owner := row.owner
  kind := .approvalRejected
  severity := .info
  title := "Spend rejected · " ++ dr.twoDecimals row.amountUsdc ++ " USDC"
  body := "Cancelled " ++ dr.twoDecimals row.amountUsdc ++ " USDC request to " ++ short row.service ++
    "."
  data := .obj [("pending_spend_id", .num row.id), ("pending_spend_pubkey", .str pendingPubkey),
    ("vault", .str row.vault), ("service", .str row.service),
    ("amount_usdc_lamports", .num row.amountUsdc), ("amount_usdc", dr.usdc row.amountUsdc),
    ("nonce", optionalNum row.nonce), ("slot", .num slot)]

end Announcements

/-! ### dispatch -/

section Dispatch

variable (dr : DispatchRuntime) (t : Tables) (ev : ParsedEvent String)

/-- An alert that nothing else depends on. -/
def Tables.announce (alert : Option Alert) : Tables :=
  match alert with
  | none => t
  | some alert => (t.emit alert).1

/-- The threshold is stored before it is announced. -/
def Tables.budgetAlert : Tables :=
  match ev.text "vault" with
  | none => t
  | some vaultPubkey =>
    match (t.db.vaults vaultPubkey).bind fun row =>
        budgetCrossing ⟨row, t.lastBudgetAlertPct vaultPubkey⟩ with
    | none => t
    | some crossing =>
      ({ t with
        lastBudgetAlertPct := Function.update t.lastBudgetAlertPct vaultPubkey crossing.newThreshold
        }.emit (crossing.alert vaultPubkey)).1

def Tables.spendRequestedAlert : Tables :=
  match spendRequest ev with
  | none => t
  | some request =>
    match t.db.vaults request.vault with
    | none => t
    | some vault =>
      match t.pending.request vault.owner request (dr.now t.pending.nextId) with
      | (pending, none) => { t with pending }
      | (pending, some id) =>
        let (t, alertId) := { t with pending }.emit (approvalRequiredAlert dr vault.owner request id ev)
        { t with pending := t.pending.setAlert id alertId }

def Tables.spendApprovedMirror : Tables :=
  match spendPayment ev with
  | none => t
  | some payment =>
    match t.pending.approve dr.oldest payment with
    | (_, none) => t
    | (pending, some row) =>
      { t with pending, alerts := t.alerts.markRead row.owner row.alertId }.announce
        (some (approvalApprovedAlert dr payment row ev.slot))

def Tables.spendRejectedMirror : Tables :=
  match ev.text "pending_spend" with
  | none => t
  | some key =>
    match t.pending.reject key with
    | (_, none) => t
    | (pending, some row) =>
      { t with pending, alerts := t.alerts.markRead row.owner row.alertId }.announce
        (some (approvalRejectedAlert dr key row ev.slot))

/-- `dispatch` at one event. -/
def Tables.dispatch : Tables :=
  match ev.decoded.eventName with
  -- A payment decides a pending row, and may cross a threshold in any case.
  | .spent => (t.spendApprovedMirror dr ev).budgetAlert ev
  | .claimed => t.budgetAlert ev
  | .scoreComputed => t.announce (scoreAlert t.db t.scoreHistory ev)
  | .deposited => t.announce (depositAlert dr ev)
  | .vaultFrozen => t.announce (freezeAlert ev)
  | .spendRequested => t.spendRequestedAlert dr ev
  | .spendRejected => t.spendRejectedMirror dr ev
  | _ => t

end Dispatch

/-- The history after `record_events`. -/
def recordScores (history : List ScoreRow) (batch : List (ParsedEvent String)) : List ScoreRow :=
  (batch.filterMap scoreRow).foldl (fun history row => (insertScore history row).1) history

/-- The tables that `dispatch` finds. A new row of a vault starts below all thresholds. -/
def Tables.store (rt : Runtime String) (t : Tables) (batch : List (ParsedEvent String)) : Tables :=
  { t with
    db := (ingest rt zeroKeyText t.db batch).1
    lastBudgetAlertPct := fun key => if (t.db.vaults key).isSome then t.lastBudgetAlertPct key else 0
    scoreHistory := recordScores t.scoreHistory batch }

/-- One delivery of a batch. -/
def Tables.deliver (rt : Runtime String) (dr : DispatchRuntime) (t : Tables)
    (batch : List (ParsedEvent String)) : Tables :=
  batch.foldl (Tables.dispatch dr) (t.store rt batch)

end AgentFuel.Backend
