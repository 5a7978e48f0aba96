import AgentFuel.Backend.Dispatch
import AgentFuel.Library.Unicode

/-!
# Requests for approval over HTTP

An owner's agent asks for a spend with a request of its own. The handler stores the request, tells
the owner in an alert and links the two. Its answer is told apart from a panic, which leaves behind
what was written before.
-/
namespace AgentFuel.Backend.Spends

open Unicode

inductive SpendReason where
  | perTxExceeded
  | hourlyExceeded
  | lifetimeExceeded
  deriving DecidableEq, Repr

def SpendReason.asStr : SpendReason → String
  | perTxExceeded => "per_tx_exceeded"
  | hourlyExceeded => "hourly_exceeded"
  | lifetimeExceeded => "lifetime_exceeded"

def SpendReason.human : SpendReason → String
  | perTxExceeded => "per-tx limit"
  | hourlyExceeded => "hourly limit"
  | lifetimeExceeded => "lifetime cap"

structure RequestSpendBody where
  agent : String
  vault : String
  service : String
  amountUsdc : Int
  reason : SpendReason

/-- The statements of the handler, each of which may fail. -/
inductive Statement where
  | vaultOwner
  | insertPending
  | insertAlert
  | linkAlert
  deriving DecidableEq

inductive Reply where
  | badRequest (text : String)
  | notFound
  | internalServerError
  | created (pendingSpendId alertId : Nat)
  | panicked
  deriving DecidableEq

/-- The tables with the column `reason` of `pending_spends`, what was broadcast, under its key, and
what was given to the notifier. -/
structure State extends Tables where
  reason : Nat → Option SpendReason
  broadcasts : List (String × Json String)
  notified : List Alert

/-- Times, and amounts in floating point with their texts. -/
structure RequestRuntime where
  now : Nat → Int
  alertCreatedAt : Nat → Json String
  /-- `amount as f64 / 1_000_000.0` -/
  usdc : Int → Json String
  /-- The same with two decimals. -/
  twoDecimals : Int → String

/-- A slice at an offset within a character panics. -/
def short (pk : String) : Option String :=
  if byteSize pk.toList ≤ 8 then some pk
  else do
    let (first, _) ← cut 4 pk.toList
    let (_, last) ← cut (byteSize pk.toList - 4) pk.toList
    some (String.ofList first ++ "…" ++ String.ofList last)

section Handler

variable (rt : RequestRuntime) (fails : Statement → Bool)

/-- `INSERT INTO pending_spends .. RETURNING id` -/
def State.insertPending (s : State) (owner : String) (req : RequestSpendBody) : State :=
  { s with
    pending := s.pending.insert
      { id := s.pending.nextId
        owner
        agent := req.agent
        vault := req.vault
        service := req.service
        amountUsdc := req.amountUsdc
        status := .pending
        alertId := none
        createdAt := rt.now s.pending.nextId
        pendingSpendPubkey := none
        nonce := none } rfl
    reason := Function.update s.reason s.pending.nextId (some req.reason) }

/-- The alert, of which the text is formatted at once. -/
def approvalRequired (owner : String) (pendingId : Nat) (req : RequestSpendBody) : Option Alert := do
  let agent ← short req.agent
  let service ← short req.service
  some
    { owner
      kind := .approvalRequired
      severity := .urgent
      title := "Approval required · " ++ rt.twoDecimals req.amountUsdc ++ " USDC spend"
      body := agent ++ " wants to pay " ++ rt.twoDecimals req.amountUsdc ++ " USDC to " ++ service ++
        " — above the " ++ req.reason.human ++ "."
      data := .obj [("pending_spend_id", .num pendingId), ("agent", .str req.agent),
        ("vault", .str req.vault), ("service", .str req.service),
        ("amount_usdc_lamports", .num req.amountUsdc), ("amount_usdc", rt.usdc req.amountUsdc),
        ("reason", .str req.reason.asStr)] }

def alertsKey (owner : String) : String := "alerts:" ++ owner

/-- What subscribers get of an alert. -/
def payload (id : Nat) (alert : Alert) : Json String :=
  .obj [("id", .num id), ("owner", .str alert.owner), ("kind", .str alert.kind.asStr),
    ("severity", .str alert.severity.asStr), ("title", .str alert.title), ("body", .str alert.body),
    ("data", alert.data), ("created_at", rt.alertCreatedAt id), ("read_at", .null)]

/-- `alerts::emit`, when its statement succeeds. -/
def State.emit (s : State) (alert : Alert) : State × Nat :=
  let (tables, id) := s.toTables.emit alert
  ({ s with
    toTables := tables
    broadcasts := s.broadcasts ++ [(alertsKey alert.owner, payload rt id alert)]
    notified := s.notified ++ [alert] }, id)

def request (s : State) (caller : String) (req : RequestSpendBody) : State × Reply :=
  if req.amountUsdc ≤ 0 then (s, .badRequest "amount_usdc must be > 0")
  else if fails .vaultOwner then (s, .internalServerError)
  else
    match (s.db.vaults req.vault).map VaultRow.owner with
    | none => (s, .notFound)
    | some owner =>
      if owner ≠ caller then (s, .notFound)
      else if fails .insertPending then (s, .internalServerError)
      else
        let pendingId := s.pending.nextId
        let s := s.insertPending rt owner req
        match approvalRequired rt owner pendingId req with
        | none => (s, .panicked)
        | some alert =>
          -- The row stays when the alert cannot be stored.
          if fails .insertAlert then (s, .internalServerError)
          else
            let (s, alertId) := s.emit rt alert
            -- Best effort: a failure is only logged.
            let s := if fails .linkAlert then s
              else { s with pending := s.pending.setAlert pendingId alertId }
            (s, .created pendingId alertId)

end Handler

/-! ### Texts that are cut -/

/-- The text is kept as it is, or both ends of it are whole characters. -/
def Cuttable (pk : String) : Prop :=
  byteSize pk.toList ≤ 8 ∨
    (IsBoundary 4 pk.toList ∧ IsBoundary (byteSize pk.toList - 4) pk.toList)

instance (pk : String) : Decidable (Cuttable pk) := inferInstanceAs (Decidable (_ ∨ _ ∧ _))

theorem short_isSome {pk : String} : (short pk).isSome = true ↔ Cuttable pk := by
  unfold short Cuttable
  split
  next small => simp [small]
  next large =>
    rw [← cut_isSome, ← cut_isSome, or_iff_right large]
    cases cut 4 pk.toList with
    | none => simp
    | some first =>
      cases cut (byteSize pk.toList - 4) pk.toList with
      | none => simp
      | some last => simp

theorem approvalRequired_isSome (rt : RequestRuntime) (owner : String) (pendingId : Nat)
    (req : RequestSpendBody) : (approvalRequired rt owner pendingId req).isSome = true ↔
      Cuttable req.agent ∧ Cuttable req.service := by
  rw [← short_isSome, ← short_isSome]
  unfold approvalRequired
  cases short req.agent with
  | none => simp
  | some agent =>
    cases short req.service with
    | none => simp
    | some service => simp

/-- The alert goes to the owner and names the row. -/
theorem approvalRequired_eq_some {rt : RequestRuntime} {owner : String} {pendingId : Nat}
    {req : RequestSpendBody} {alert : Alert}
    (formatted : approvalRequired rt owner pendingId req = some alert) :
    alert.owner = owner ∧ alert.data.get "pending_spend_id" = some (.num pendingId) := by
  simp only [approvalRequired, Option.bind_eq_bind, Option.bind_eq_some_iff, Option.some.injEq]
    at formatted
  obtain ⟨agent, -, service, -, rfl⟩ := formatted
  exact ⟨rfl, rfl⟩

/-- Keys are ASCII, so that their slices are whole characters. -/
theorem cuttable_of_ascii {pk : String} (ascii : ∀ c ∈ pk.toList, c.utf8Size = 1) : Cuttable pk := by
  have size : ∀ text : List Char, (∀ c ∈ text, c.utf8Size = 1) → byteSize text = text.length := by
    intro text single
    induction text with
    | nil => simp
    | cons c text ih =>
      rw [List.forall_mem_cons] at single
      rw [byteSize_cons, single.1, ih single.2, List.length_cons, Nat.add_comm]
  have boundary : ∀ n ≤ pk.toList.length, IsBoundary n pk.toList := by
    intro n inside
    refine ⟨pk.toList.take n, pk.toList.drop n, (List.take_append_drop n _).symm, ?_⟩
    rw [size _ fun c member => ascii c (List.mem_of_mem_take member), List.length_take]
    omega
  rcases Nat.lt_or_ge 8 (byteSize pk.toList) with large | small
  · rw [size _ ascii] at large
    refine .inr ⟨boundary 4 (by omega), boundary _ ?_⟩
    rw [size _ ascii]
    omega
  · exact .inl small

/-! ### What a request leaves behind -/

section Requests

variable {rt : RequestRuntime} {fails : Statement → Bool} {s : State} {caller : String}
  {req : RequestSpendBody}

/-- One row and one alert are written, which refer to each other, and the reply names them. -/
def Completed (s : State) (owner : String) (req : RequestSpendBody) (out : State × Reply) : Prop :=
  ∃ (row : PendingRow String) (alert : AlertRow), out.2 = .created row.id alert.id ∧
    out.1.pending.rows = s.pending.rows ++ [row] ∧ out.1.alerts.rows = s.alerts.rows ++ [alert] ∧
    row.alertId = some alert.id ∧
    alert.alert.data.get "pending_spend_id" = some (.num row.id) ∧
    (row.owner = owner ∧ row.agent = req.agent ∧ row.vault = req.vault ∧
      row.service = req.service ∧ row.amountUsdc = req.amountUsdc ∧ row.status = .pending ∧
      out.1.reason row.id = some req.reason) ∧
    (alert.alert.owner = owner ∧ out.1.notified = s.notified ++ [alert.alert])

/-- The row that is linked is the new one, as all others have smaller numbers. -/
theorem setAlert_insert {table : PendingTable String} {row : PendingRow String}
    (next : row.id = table.nextId) (alertId : Nat) :
    ((table.insert row next).setAlert table.nextId alertId).rows =
      table.rows ++ [{ row with alertId := some alertId }] := by
  have others : table.rows.map (fun old =>
      if decide (old.id = table.nextId) = true then { old with alertId := some alertId } else old) =
      table.rows := by
    calc _ = table.rows.map id := by
          apply List.map_congr_left
          intro old member
          have less := table.below old member
          have other : ¬decide (old.id = table.nextId) = true := by
            rw [decide_eq_true_eq]
            omega
          rw [if_neg other, id]
      _ = table.rows := List.map_id _
  simp only [PendingTable.setAlert, PendingTable.updateWhere, PendingTable.update,
    PendingTable.insert, List.map_append, others, List.map_singleton, next, decide_true, if_true]

/-- An amount that is not positive is refused before anything is read. -/
theorem request_refused (amount : req.amountUsdc ≤ 0) :
    request rt fails s caller req = (s, .badRequest "amount_usdc must be > 0") := by
  rw [request, if_pos amount]

section Owner

variable (succeed : ∀ statement, fails statement = false)
  (owned : (s.db.vaults req.vault).map VaultRow.owner = some caller) (positive : 0 < req.amountUsdc)

include succeed owned positive

theorem request_completed (agent : Cuttable req.agent) (service : Cuttable req.service) :
    Completed s caller req (request rt fails s caller req) := by
  obtain ⟨alert, formatted⟩ := Option.isSome_iff_exists.mp
    ((approvalRequired_isSome rt caller s.pending.nextId req).mpr ⟨agent, service⟩)
  have proceeds : ¬req.amountUsdc ≤ 0 := by omega
  simp only [request, succeed, owned, formatted, proceeds, if_false, ne_eq, not_true_eq_false,
    Bool.false_eq_true]
  obtain ⟨owner, named⟩ := approvalRequired_eq_some formatted
  exact ⟨_, ⟨s.alerts.nextId, alert, false⟩, rfl, setAlert_insert rfl _, rfl, rfl, named,
    ⟨rfl, rfl, rfl, rfl, rfl, rfl, Function.update_self ..⟩, owner, rfl⟩

/-- A slice within a character ends the handler after the row was stored. -/
theorem request_panicked (uncut : ¬(Cuttable req.agent ∧ Cuttable req.service)) :
    request rt fails s caller req = (s.insertPending rt caller req, .panicked) := by
  have nothing : approvalRequired rt caller s.pending.nextId req = none := by
    rw [← Option.not_isSome_iff_eq_none, approvalRequired_isSome]
    exact uncut
  have proceeds : ¬req.amountUsdc ≤ 0 := by omega
  simp only [request, succeed, owned, nothing, proceeds, if_false, ne_eq, not_true_eq_false,
    Bool.false_eq_true]

end Owner

/-- The handler ends what it begins, by the amount, for texts it can cut. -/
theorem request_ends (succeed : ∀ statement, fails statement = false)
    (owned : (s.db.vaults req.vault).map VaultRow.owner = some caller) :
    (req.amountUsdc ≤ 0 →
      request rt fails s caller req = (s, .badRequest "amount_usdc must be > 0")) ∧
    (0 < req.amountUsdc → Cuttable req.agent → Cuttable req.service →
      Completed s caller req (request rt fails s caller req)) :=
  ⟨request_refused, request_completed succeed owned⟩

end Requests

/-! ### A desk with one vault -/

namespace Desk

def vault : VaultRow String :=
  { owner := "owner", agent := "agent", usdcMint := "usdc", vaultTokenAccount := "purse"
    totalDeposited := 0, totalWithdrawn := 0, totalSpent := 0, totalClaimed := 0, frozen := false
    perTxLimitUsdc := 0, hourlyLimitUsdc := 0, lifetimeLimitUsdc := 0, allowPostPay := false
    whitelist := [], createdSlot := 0, lastActiveSlot := 0 }

def state : State :=
  { db := { Database.empty with vaults := fun _ => some vault }
    lastBudgetAlertPct := fun _ => 0
    scoreHistory := []
    pending := .empty
    alerts := ⟨[], 1⟩
    reason := fun _ => none
    broadcasts := []
    notified := [] }

/-- Each row is inserted at a time of its own. -/
def runtime : RequestRuntime :=
  ⟨fun id => id, fun _ => .str "2026-05-26T00:00:00Z", usdcAmount, usdcText⟩

def body (agent : String) (amountUsdc : Int) : RequestSpendBody :=
  ⟨agent, "vault", "service", amountUsdc, .perTxExceeded⟩

def works (_ : Statement) : Bool := false

theorem succeed (statement : Statement) : works statement = false := rfl

theorem owned (agent : String) (amountUsdc : Int) :
    (state.db.vaults (body agent amountUsdc).vault).map VaultRow.owner = some "owner" := rfl

end Desk

theorem request_ends_desk :
    Completed Desk.state "owner" (Desk.body "AxMZj6QvN5VxRTpzdBcEwFHvuJxV3TA64" 5)
      (request Desk.runtime Desk.works Desk.state "owner"
        (Desk.body "AxMZj6QvN5VxRTpzdBcEwFHvuJxV3TA64" 5)) :=
  (request_ends Desk.succeed (Desk.owned ..)).2 (by decide) (by decide +kernel) (by decide +kernel)

/-- No amount at all; and a character of two bytes on both sides of the fourth byte. -/
theorem request_not_completed :
    (¬∀ rt fails s caller req, (∀ statement, fails statement = false) →
      (s.db.vaults req.vault).map VaultRow.owner = some caller →
      Completed s caller req (request rt fails s caller req)) ∧
    ¬∀ rt fails s caller req, (∀ statement, fails statement = false) →
      (s.db.vaults req.vault).map VaultRow.owner = some caller → 0 < req.amountUsdc →
      Completed s caller req (request rt fails s caller req) := by
  constructor
  · intro every
    obtain ⟨_, _, replied, -⟩ :=
      every Desk.runtime Desk.works Desk.state "owner" (Desk.body "agent" 0) Desk.succeed
        (Desk.owned ..)
    rw [request_refused (by decide)] at replied
    cases replied
  · intro every
    obtain ⟨_, _, replied, -⟩ :=
      every Desk.runtime Desk.works Desk.state "owner" (Desk.body "aaaéaaaa" 1)
        Desk.succeed (Desk.owned ..) (by decide)
    rw [request_panicked Desk.succeed (Desk.owned ..) (by decide) (by decide +kernel)] at replied
    cases replied

end AgentFuel.Backend.Spends
