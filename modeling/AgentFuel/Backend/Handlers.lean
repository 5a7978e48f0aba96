import AgentFuel.Backend.SpendRequests
import AgentFuel.Library.Paging
import AgentFuel.Library.Pool

/-!
# The handlers, a statement at a time

Every handler that touches the alerts or the pending spends, as the statements it sends to the
database and what it does with their results. Handlers of many requests and deliveries run at once;
run alone, a delivery and a request for approval do what their models of one piece do.
-/
namespace AgentFuel.Backend.Handlers

open Spends Paging

/-! ### Statements -/

/-- The two endpoints that decide. -/
inductive Decision where
  | approve
  | reject
  deriving DecidableEq

/-- `new_status` -/
def Decision.newStatus : Decision → SpendStatus
  | approve => .approved
  | reject => .rejected

inductive Query where
  | vaultOwner (vault : String)
  | insertPending (owner : String) (req : RequestSpendBody)
  | upsertPending (owner : String) (request : SpendRequest String)
  | linkAlert (alertId pendingId : Nat)
  | decide (decision : Decision) (id : Int) (owner : String)
  /-- The sub-select of `spend_approved_mirror`, on the rows as they are when its `UPDATE` begins. -/
  | oldestPending (payment : SpendPayment String)
  /-- The `UPDATE` around it. A row that another transaction is writing is waited for, and then tested
  again for its `id` alone. -/
  | approve (id : Nat)
  | reject (pendingSpend : String)
  | insertAlert (alert : Alert)
  /-- `hub.broadcast` of `emit`; the subscribers get the alert. -/
  | broadcast (id : Nat) (alert : Alert)
  /-- `notifier.dispatch` of `emit` -/
  | notify (id : Nat) (alert : Alert)
  | markRead (id : Int) (owner : String)
  | markAllRead (owner : String)
  | unreadCount (owner : String)
  | listAlerts (owner : String) (beforeId : Int) (onlyUnread : Bool) (limit : Nat)
  | budgetRow (vault : String)
  | storeBudget (pct : Int) (vault : String)
  | agentOwner (agent : String)
  | previousScore (agent : String) (slot : Int)

/-- The rows that a statement returns; of the updates that only count, the keys of the rows. -/
def Query.Rows : Query → Type
  | vaultOwner _ => Option String
  | insertPending _ _ => Nat
  | upsertPending _ _ => Nat
  | linkAlert _ _ => Unit
  | decide _ _ _ => Option (SpendStatus × Option Nat)
  | oldestPending _ => Option Nat
  | approve _ => Option (PendingRow String)
  | reject _ => Option (PendingRow String)
  | insertAlert _ => Nat
  | broadcast _ _ => Unit
  | notify _ _ => Unit
  | markRead _ _ => List Nat
  | markAllRead _ => List Nat
  | unreadCount _ => Nat
  | listAlerts _ _ _ _ => List AlertRow
  | budgetRow _ => Option AlertedVault
  | storeBudget _ _ => Unit
  | agentOwner _ => Option String
  | previousScore _ _ => Option Int

/-- `sqlx::Error`, of which no handler looks at more. -/
inductive Failed where
  | failed

abbrev Query.Answer (q : Query) : Type := Except Failed q.Rows

/-- Why a handler ends without a reply: a panic, or a client that has gone. -/
inductive Stopped where
  | panicked
  | gone

section Statements

variable (rt : RequestRuntime) (dr : DispatchRuntime)

/-- The `UPDATE` of `decide` and the columns it returns. -/
def decideRow (table : PendingTable String) (decision : Decision) (id : Int) (owner : String) :
    PendingTable String × Option (SpendStatus × Option Nat) :=
  let hit := fun row : PendingRow String =>
    Decidable.decide ((row.id : Int) = id ∧ row.owner = owner ∧ row.status = .pending)
  (table.updateWhere hit (fun row => { row with status := decision.newStatus }) fun _ => rfl,
    (table.rows.find? hit).map fun row => (decision.newStatus, row.alertId))

/-- The row that the sub-select of `spend_approved_mirror` names. -/
def oldestRow (table : PendingTable String) (payment : SpendPayment String) : Option Nat :=
  (dr.oldest.pick (table.rows.filter (PendingRow.awaits payment))).map PendingRow.id

/-- What its `UPDATE` does to that row, whatever became of it since, and the row it returns. -/
def approveRow (table : PendingTable String) (id : Nat) :
    PendingTable String × Option (PendingRow String) :=
  let hit := fun row : PendingRow String => Decidable.decide (row.id = id)
  (table.updateWhere hit (fun row => { row with status := .approved }) fun _ => rfl,
    (table.rows.find? hit).map fun row => { row with status := .approved })

/-- The rows that `UPDATE alerts SET read_at = now() WHERE .. AND read_at IS NULL` writes. -/
def AlertTable.markWhere (alerts : AlertTable) (hit : AlertRow → Bool) : AlertTable × List Nat :=
  ({ alerts with rows := alerts.rows.map fun row => if hit row then { row with read := true } else row },
    (alerts.rows.filter fun row => hit row && !row.read).map AlertRow.id)

def alertId (row : AlertRow) : Int := row.id

/-- `.. WHERE owner = $1 AND id < $2 [AND read_at IS NULL] ORDER BY id DESC LIMIT $3` -/
def listRows (alerts : AlertTable) (owner : String) (beforeId : Int) (onlyUnread : Bool)
    (limit : Nat) : List AlertRow :=
  (Descending.stable alertId).page limit (some beforeId)
    (alerts.rows.filter fun row => Decidable.decide (row.alert.owner = owner) && (!onlyUnread || !row.read))

/-- A statement that succeeds, unless a constraint of its table refuses it. -/
def execute (s : State) : (q : Query) → State × q.Answer
  | .vaultOwner vault => (s, .ok ((s.db.vaults vault).map VaultRow.owner))
  | .insertPending owner req => (s.insertPending rt owner req, .ok s.pending.nextId)
  | .upsertPending owner request =>
    let (pending, id) := s.pending.request owner request (dr.now s.pending.nextId)
    ({ s with pending }, Checked.okOr id .failed)
  | .linkAlert alertId pendingId => ({ s with pending := s.pending.setAlert pendingId alertId }, .ok ())
  | .decide decision id owner =>
    let (pending, row) := decideRow s.pending decision id owner
    ({ s with pending }, .ok row)
  | .oldestPending payment => (s, .ok (oldestRow dr s.pending payment))
  | .approve id =>
    let (pending, row) := approveRow s.pending id
    ({ s with pending }, .ok row)
  | .reject key =>
    let (pending, row) := s.pending.reject key
    ({ s with pending }, .ok row)
  | .insertAlert alert =>
    let (tables, id) := s.toTables.emit alert
    ({ s with toTables := tables }, .ok id)
  | .broadcast id alert =>
    ({ s with broadcasts := s.broadcasts ++ [(alertsKey alert.owner, payload rt id alert)] }, .ok ())
  | .notify _ alert => ({ s with notified := s.notified ++ [alert] }, .ok ())
  | .markRead id owner =>
    let (alerts, ids) := AlertTable.markWhere s.alerts
      fun row => Decidable.decide ((row.id : Int) = id ∧ row.alert.owner = owner)
    ({ s with alerts }, .ok ids)
  | .markAllRead owner =>
    let (alerts, ids) := AlertTable.markWhere s.alerts fun row => Decidable.decide (row.alert.owner = owner)
    ({ s with alerts }, .ok ids)
  | .unreadCount owner =>
    (s, .ok (s.alerts.rows.countP fun row => Decidable.decide (row.alert.owner = owner) && !row.read))
  | .listAlerts owner beforeId onlyUnread limit =>
    (s, .ok (listRows s.alerts owner beforeId onlyUnread limit))
  | .budgetRow vault =>
    (s, .ok ((s.db.vaults vault).map fun row => ⟨row, s.lastBudgetAlertPct vault⟩))
  | .storeBudget pct vault =>
    ({ s with lastBudgetAlertPct := Function.update s.lastBudgetAlertPct vault pct }, .ok ())
  | .agentOwner agent => (s, .ok ((s.db.agents agent).map AgentRow.owner))
  | .previousScore agent slot => (s, .ok (Backend.previousScore s.scoreHistory agent slot))

/-- A statement that fails is rolled back; what follows the statement of `emit` cannot fail. -/
def answer (s : State) (succeeds : Bool) : (q : Query) → State × q.Answer
  | .broadcast id alert => execute rt dr s (.broadcast id alert)
  | .notify id alert => execute rt dr s (.notify id alert)
  | q => if succeeds then execute rt dr s q else (s, .error .failed)

theorem answer_true (s : State) (q : Query) : answer rt dr s true q = execute rt dr s q := by
  cases q <;> rfl

/-- What a refresh of the mirror and the sampling of scores write meanwhile. -/
structure Refresh where
  db : Database String
  lastBudgetAlertPct : String → Int
  scoreHistory : List ScoreRow

def desk : Pool.World State Refresh Bool Query Query.Answer where
  answer := answer rt dr
  move s m :=
    { s with
      db := m.db, lastBudgetAlertPct := m.lastBudgetAlertPct, scoreHistory := m.scoreHistory }

end Statements

/-! ### Handlers -/

/-- A statement with what came back. -/
abbrev Asked : Type := Dialogue.Exchange Stopped Query Query.Answer

abbrev Handler (A : Type) : Type := Dialogue Stopped Query Query.Answer A

def sql (q : Query) : Handler (Except Failed q.Rows) := Dialogue.question q

/-- Go on with what a fallible part returned, or fail with it: the `?` of the source. -/
def andThen {A B : Type} (part : Handler (Except Failed A)) (next : A → Handler (Except Failed B)) :
    Handler (Except Failed B) := do
  match ← part with
  | .ok a => next a
  | .error e => pure (.error e)

/-- Best effort: a failure is only logged. -/
def ignore {A : Type} (part : Handler (Except Failed A)) : Handler (Except Failed Unit) := do
  let _ ← part
  pure (.ok ())

/-- `?limit=N&before_id=X&unread=true` -/
structure ListQuery where
  limit : Option Int
  beforeId : Option Int
  unread : Option Bool

def defaultLimit : Int := 50

def maxLimit : Int := 200

/-- `ListQuery::limit` -/
def ListQuery.pageLimit (query : ListQuery) : Nat :=
  (max 1 (min (query.limit.getD defaultLimit) maxLimit)).toNat

inductive Reply where
  | request (reply : Spends.Reply)
  | decided (id : Int) (status : SpendStatus)
  | noContent
  | marked (count : Nat)
  | unread (count : Nat)
  | rows (rows : List AlertRow)
  | notFound
  | internalServerError
  | dispatched

/-- `alerts::emit` -/
def emit (alert : Alert) : Handler (Except Failed Nat) :=
  andThen (sql (.insertAlert alert)) fun id => do
    let _ ← sql (.broadcast id alert)
    let _ ← sql (.notify id alert)
    pure (.ok id)

section Endpoints

variable (caller : String)

def request (rt : RequestRuntime) (req : RequestSpendBody) : Handler Reply :=
  if req.amountUsdc ≤ 0 then pure (.request (.badRequest "amount_usdc must be > 0"))
  else do
    match ← sql (.vaultOwner req.vault) with
    | .error _ => pure (.request .internalServerError)
    | .ok none => pure (.request .notFound)
    | .ok (some owner) =>
      if owner ≠ caller then pure (.request .notFound)
      else
        match ← sql (.insertPending owner req) with
        | .error _ => pure (.request .internalServerError)
        | .ok pendingId =>
          match approvalRequired rt owner pendingId req with
          | none => .done (.error .panicked)
          | some alert =>
            match ← emit alert with
            | .error _ => pure (.request .internalServerError)
            | .ok alertId => do
              let _ ← ignore (sql (.linkAlert alertId pendingId))
              pure (.request (.created pendingId alertId))

/-- `approve` and `reject` of `spends.rs` -/
def decide (decision : Decision) (id : Int) : Handler Reply := do
  match ← sql (.decide decision id caller) with
  | .error _ => pure .internalServerError
  | .ok none => pure .notFound
  | .ok (some (status, alertId)) =>
    match alertId with
    | none => pure (.decided id status)
    | some alertId => do
      -- The badge of the request is cleared in the same round trip.
      let _ ← ignore (sql (.markRead alertId caller))
      pure (.decided id status)

def markRead (id : Int) : Handler Reply := do
  match ← sql (.markRead id caller) with
  | .error _ => pure .internalServerError
  | .ok written => if written.length = 0 then pure .notFound else pure .noContent

def markAllRead : Handler Reply := do
  match ← sql (.markAllRead caller) with
  | .error _ => pure .internalServerError
  | .ok written => pure (.marked written.length)

def unreadCount : Handler Reply := do
  match ← sql (.unreadCount caller) with
  | .error _ => pure .internalServerError
  | .ok count => pure (.unread count)

def list (query : ListQuery) : Handler Reply := do
  match ← sql (.listAlerts caller (query.beforeId.getD (2 ^ 63 - 1)) (query.unread.getD false)
      query.pageLimit) with
  | .error _ => pure .internalServerError
  | .ok rows => pure (.rows rows)

end Endpoints

/-! ### Deliveries -/

section Deliveries

variable (dr : DispatchRuntime) (ev : ParsedEvent String)

def emitSome (alert : Option Alert) : Handler (Except Failed Unit) :=
  match alert with
  | none => pure (.ok ())
  | some alert => andThen (emit alert) fun _ => pure (.ok ())

def budgetAlert : Handler (Except Failed Unit) :=
  match ev.text "vault" with
  | none => pure (.ok ())
  | some vaultPubkey =>
    andThen (sql (.budgetRow vaultPubkey)) fun (row : Option AlertedVault) =>
      match row.bind budgetCrossing with
      | none => pure (.ok ())
      | some crossing =>
        andThen (sql (.storeBudget crossing.newThreshold vaultPubkey)) fun _ =>
          emitSome (some (crossing.alert vaultPubkey))

def scoreAlert : Handler (Except Failed Unit) :=
  match ev.text "agent", ev.asI64 "score" with
  | some agentPubkey, some newScore =>
    andThen (sql (.agentOwner agentPubkey)) fun (owner : Option String) =>
      match owner with
      | none => pure (.ok ())
      | some owner =>
        andThen (sql (.previousScore agentPubkey ev.slot)) fun (prevScore : Option Int) =>
          if prevScore = some newScore then pure (.ok ())
          else emitSome (some (scoreChangeAlert agentPubkey owner newScore prevScore ev.slot))
  | _, _ => pure (.ok ())

def spendRequestedAlert : Handler (Except Failed Unit) :=
  match spendRequest ev with
  | none => pure (.ok ())
  | some request =>
    andThen (sql (.vaultOwner request.vault)) fun (owner : Option String) =>
      match owner with
      | none => pure (.ok ())
      | some owner =>
        andThen (sql (.upsertPending owner request)) fun (pendingId : Nat) =>
          andThen (emit (approvalRequiredAlert dr owner request pendingId ev)) fun alertId =>
            ignore (sql (.linkAlert alertId pendingId))

/-- The badge of a decided request is cleared and the decision is announced. -/
def settle (row : PendingRow String) (alert : Alert) : Handler (Except Failed Unit) :=
  match row.alertId with
  | none => emitSome (some alert)
  | some alertId =>
    andThen (ignore (sql (.markRead alertId row.owner))) fun _ => emitSome (some alert)

/-- The one statement of `spend_approved_mirror`, whose outer `WHERE` only tests the `id`. -/
def approveOldest (payment : SpendPayment String) : Handler (Except Failed (Option (PendingRow String))) :=
  andThen (sql (.oldestPending payment)) fun (chosen : Option Nat) =>
    match chosen with
    | none => pure (.ok none)
    | some id => sql (.approve id)

def spendApprovedMirror : Handler (Except Failed Unit) :=
  match spendPayment ev with
  | none => pure (.ok ())
  | some payment =>
    andThen (approveOldest payment) fun row =>
      match row with
      | none => pure (.ok ())
      | some row => settle row (approvalApprovedAlert dr payment row ev.slot)

def spendRejectedMirror : Handler (Except Failed Unit) :=
  match ev.text "pending_spend" with
  | none => pure (.ok ())
  | some key =>
    andThen (sql (.reject key)) fun (row : Option (PendingRow String)) =>
      match row with
      | none => pure (.ok ())
      | some row => settle row (approvalRejectedAlert dr key row ev.slot)

/-- `dispatch` at one event. -/
def dispatchEvent : Handler (Except Failed Unit) :=
  match ev.decoded.eventName with
  | .spent => do
    -- The second runs whatever became of the first.
    let a ← spendApprovedMirror dr ev
    let b ← budgetAlert ev
    pure (a.bind fun _ => b)
  | .claimed => budgetAlert ev
  | .scoreComputed => scoreAlert ev
  | .deposited => emitSome (depositAlert dr ev)
  | .vaultFrozen => emitSome (freezeAlert ev)
  | .spendRequested => spendRequestedAlert dr ev
  | .spendRejected => spendRejectedMirror dr ev
  | _ => pure (.ok ())

/-- `alerts::dispatch`; a failure is logged and the next event goes on. -/
def dispatch (dr : DispatchRuntime) : List (ParsedEvent String) → Handler Reply
  | [] => pure .dispatched
  | ev :: events => do
    let _ ← dispatchEvent dr ev
    dispatch dr events

end Deliveries

/-- What can be under way. -/
inductive Kind where
  | request (caller : String) (req : RequestSpendBody)
  | decide (caller : String) (decision : Decision) (id : Int)
  | markRead (caller : String) (id : Int)
  | markAllRead (caller : String)
  | unreadCount (caller : String)
  | list (caller : String) (query : ListQuery)
  | dispatch (events : List (ParsedEvent String))

def program (rt : RequestRuntime) (dr : DispatchRuntime) : Kind → Handler Reply
  | .request caller req => request caller rt req
  | .decide caller decision id => decide caller decision id
  | .markRead caller id => markRead caller id
  | .markAllRead caller => markAllRead caller
  | .unreadCount caller => unreadCount caller
  | .list caller query => list caller query
  | .dispatch events => dispatch dr events

abbrev Threads : Type := Pool.State State Kind Stopped Query Query.Answer Reply

abbrev Serving (rt : RequestRuntime) (dr : DispatchRuntime) (s : State)
    (log : List (Transition.Fired Threads (Pool.Action Refresh Bool Kind Stopped))) (t : Threads) : Prop :=
  Pool.PoolRun (desk rt dr) (program rt dr) (.start s) log t

/-! ### How handlers are built -/

/-- Which handler can send a deciding statement. -/
def Origin (kind : Kind) : Query → Prop
  | .decide decision id owner => kind = .decide owner decision id
  | .oldestPending payment => ∃ events ev, kind = .dispatch events ∧ ev ∈ events ∧
    ev.decoded.eventName = .spent ∧ spendPayment ev = some payment
  | .reject key => ∃ events ev, kind = .dispatch events ∧ ev ∈ events ∧
    ev.decoded.eventName = .spendRejected ∧ ev.text "pending_spend" = some key
  | _ => True

/-- The statements apart from those of `emit` and of an approval. -/
def Query.Plain : Query → Prop
  | oldestPending _ => False
  | approve _ => False
  | insertAlert _ => False
  | broadcast _ _ => False
  | notify _ _ => False
  | _ => True

/-- A property that the parts of a handler hand on to it. -/
structure Built (kind : Kind) (P : (A : Type) → Handler A → Prop) : Prop where
  done : ∀ {A : Type} (result : Except Stopped A), P A (.done result)
  bind : ∀ {A B : Type} {x : Handler A} {f : A → Handler B},
    P A x → (∀ a, P B (f a)) → P B (x >>= f)
  sql : ∀ q : Query, q.Plain → Origin kind q → P _ (sql q)
  emit : ∀ alert, P _ (emit alert)
  approveOldest : ∀ payment, Origin kind (.oldestPending payment) → P _ (approveOldest payment)

section Built

variable {kind : Kind} {P : (A : Type) → Handler A → Prop} {A B : Type}

theorem Built.pure (built : Built kind P) (a : A) : P A (pure a) := built.done (.ok a)

theorem Built.andThen (built : Built kind P) {part : Handler (Except Failed A)}
    {next : A → Handler (Except Failed B)} (first : P _ part) (second : ∀ a, P _ (next a)) :
    P _ (andThen part next) := by
  refine built.bind first fun result => ?_
  cases result with
  | ok a => exact second a
  | error e => exact built.pure _

theorem Built.ignore (built : Built kind P) {part : Handler (Except Failed A)} (first : P _ part) :
    P _ (ignore part) :=
  built.bind first fun _ => built.pure _

theorem Built.emitSome (built : Built kind P) (alert : Option Alert) : P _ (emitSome alert) := by
  cases alert with
  | none => exact built.pure _
  | some alert => exact built.andThen (built.emit alert) fun _ => built.pure _

variable {rt : RequestRuntime} {dr : DispatchRuntime}

theorem Built.request (built : Built kind P) (caller : String) (req : RequestSpendBody) :
    P _ (request caller rt req) := by
  unfold Handlers.request
  split
  · exact built.pure _
  · refine built.bind (built.sql _ trivial trivial) fun owner => ?_
    split
    · exact built.pure _
    · exact built.pure _
    · split
      · exact built.pure _
      · refine built.bind (built.sql _ trivial trivial) fun pendingId => ?_
        split
        · exact built.pure _
        · split
          · exact built.done _
          · refine built.bind (built.emit _) fun alertId => ?_
            split
            · exact built.pure _
            · refine built.bind (built.ignore (built.sql _ trivial trivial)) fun _ => ?_
              exact built.pure _

theorem Built.decide {caller : String} {decision : Decision} {id : Int}
    (built : Built (.decide caller decision id) P) : P _ (decide caller decision id) := by
  refine built.bind (built.sql _ trivial rfl) fun row => ?_
  split
  · exact built.pure _
  · exact built.pure _
  · split
    · exact built.pure _
    · exact built.bind (built.ignore (built.sql _ trivial trivial)) fun _ => built.pure _

theorem Built.budgetAlert (built : Built kind P) (ev : ParsedEvent String) :
    P _ (budgetAlert ev) := by
  unfold Handlers.budgetAlert
  split
  · exact built.pure _
  · refine built.andThen (built.sql _ trivial trivial) fun row => ?_
    split
    · exact built.pure _
    · exact built.andThen (built.sql _ trivial trivial) fun _ => built.emitSome _

theorem Built.scoreAlert (built : Built kind P) (ev : ParsedEvent String) :
    P _ (scoreAlert ev) := by
  unfold Handlers.scoreAlert
  split
  · refine built.andThen (built.sql _ trivial trivial) fun owner => ?_
    split
    · exact built.pure _
    · refine built.andThen (built.sql _ trivial trivial) fun prevScore => ?_
      split
      · exact built.pure _
      · exact built.emitSome _
  · exact built.pure _

theorem Built.spendRequestedAlert (built : Built kind P) (ev : ParsedEvent String) :
    P _ (spendRequestedAlert dr ev) := by
  unfold Handlers.spendRequestedAlert
  split
  · exact built.pure _
  · refine built.andThen (built.sql _ trivial trivial) fun owner => ?_
    split
    · exact built.pure _
    · refine built.andThen (built.sql _ trivial trivial) fun pendingId => ?_
      refine built.andThen (built.emit _) fun alertId => ?_
      exact built.ignore (built.sql _ trivial trivial)

theorem Built.settle (built : Built kind P) (row : PendingRow String) (alert : Alert) :
    P _ (settle row alert) := by
  unfold Handlers.settle
  split
  · exact built.emitSome _
  · exact built.andThen (built.ignore (built.sql _ trivial trivial)) fun _ => built.emitSome _

variable {ev : ParsedEvent String}

theorem Built.spendApprovedMirror (built : Built kind P)
    (origin : ∀ payment, spendPayment ev = some payment → Origin kind (.oldestPending payment)) :
    P _ (spendApprovedMirror dr ev) := by
  unfold Handlers.spendApprovedMirror
  split
  · exact built.pure _
  next payment read =>
    refine built.andThen (built.approveOldest payment (origin payment read)) fun row => ?_
    split
    · exact built.pure _
    · exact built.settle _ _

theorem Built.spendRejectedMirror (built : Built kind P)
    (origin : ∀ key, ev.text "pending_spend" = some key → Origin kind (.reject key)) :
    P _ (spendRejectedMirror dr ev) := by
  unfold Handlers.spendRejectedMirror
  split
  · exact built.pure _
  next key read =>
    refine built.andThen (built.sql _ trivial (origin key read)) fun row => ?_
    split
    · exact built.pure _
    · exact built.settle _ _

theorem Built.dispatchEvent {events : List (ParsedEvent String)}
    (built : Built (.dispatch events) P) (member : ev ∈ events) : P _ (dispatchEvent dr ev) := by
  unfold Handlers.dispatchEvent
  split
  next named =>
    refine built.bind (built.spendApprovedMirror ?_) fun a => ?_
    · exact fun payment read => ⟨events, ev, rfl, member, named, read⟩
    · exact built.bind (built.budgetAlert ev) fun b => built.pure _
  · exact built.budgetAlert ev
  · exact built.scoreAlert ev
  · exact built.emitSome _
  · exact built.emitSome _
  · exact built.spendRequestedAlert ev
  next named =>
    apply built.spendRejectedMirror
    exact fun key read => ⟨events, ev, rfl, member, named, read⟩
  · exact built.pure _

theorem Built.dispatch {all : List (ParsedEvent String)} (built : Built (.dispatch all) P)
    (events : List (ParsedEvent String)) (part : events ⊆ all) : P _ (dispatch dr events) := by
  induction events with
  | nil => exact built.pure _
  | cons ev events ih =>
    rw [List.cons_subset] at part
    exact built.bind (built.dispatchEvent part.1) fun _ => ih part.2

/-- What the parts hand on holds of the whole handler. -/
theorem Built.program (built : Built kind P) (rt : RequestRuntime) (dr : DispatchRuntime) :
    P _ (program rt dr kind) := by
  cases kind with
  | request caller req => exact built.request caller req
  | decide caller decision id => exact built.decide
  | dispatch events => exact built.dispatch events (List.Subset.refl events)
  | markRead caller id =>
    refine built.bind (built.sql _ trivial trivial) fun written => ?_
    split
    · exact built.pure _
    · split <;> exact built.pure _
  | _ =>
    refine built.bind (built.sql _ trivial trivial) fun written => ?_
    split <;> exact built.pure _

end Built

/-! ### A shift at the desk -/

namespace Shift

def runtime : DispatchRuntime := .standard

/-- What is under way after some actions at the empty desk. -/
def after (acts : List (Pool.Action Refresh Bool Kind Stopped)) : Threads :=
  acts.foldl (Transition.settle (Pool.step (desk Desk.runtime runtime) (program Desk.runtime runtime)))
    (.start Desk.state)

theorem serving (acts : List (Pool.Action Refresh Bool Kind Stopped)) :
    Serving Desk.runtime runtime Desk.state
      (Transition.trace (Pool.step (desk Desk.runtime runtime) (program Desk.runtime runtime))
        (.start Desk.state) acts) (after acts) :=
  .of_trace _ _ acts

/-- The agent's request, from the lookup of the vault to the link of row and alert. -/
def requested : List (Pool.Action Refresh Bool Kind Stopped) :=
  .start (.request "owner" (Desk.body "agent" 5)) :: List.replicate 6 (.turn 0 true)

end Shift
end AgentFuel.Backend.Handlers
