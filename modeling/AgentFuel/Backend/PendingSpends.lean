import AgentFuel.Backend.Ingest

/-!
# The table of pending spends

Events of the approval flow make rows in `pending_spends` and decide them. A rejection names the
request; a payment does not, so that it decides the oldest undecided row for the same vault,
service and amount. What is emitted to the owner is left to the caller of these statements.
-/
namespace AgentFuel.Backend

variable {S : Type}

inductive SpendStatus where
  | pending
  | approved
  | rejected
  | expired
  deriving DecidableEq, Repr

/-- A row of `pending_spends`; those of the chain have the reason `per_tx_exceeded`. -/
structure PendingRow (S : Type) where
  id : Nat
  owner : S
  agent : S
  vault : S
  service : S
  amountUsdc : Int
  status : SpendStatus
  alertId : Option Nat
  createdAt : Int
  pendingSpendPubkey : Option S
  nonce : Option Int

/-- The table, with its primary key. -/
structure PendingTable (S : Type) where
  rows : List (PendingRow S)
  /-- What the sequence behind `id` gives next. -/
  nextId : Nat
  below : ∀ row ∈ rows, row.id < nextId
  distinct : (rows.map PendingRow.id).Nodup

namespace PendingTable

def empty : PendingTable S := ⟨[], 1, by simp, by simp⟩

/-- A value of the sequence is drawn for nothing. -/
def skip (table : PendingTable S) : PendingTable S :=
  { table with
    nextId := table.nextId + 1
    below := fun row member => (table.below row member).trans (Nat.lt_succ_self _) }

/-- Every row is rewritten; its `id` stays. -/
def update (table : PendingTable S) (f : PendingRow S → PendingRow S) (same : ∀ row, (f row).id = row.id) :
    PendingTable S where
  rows := table.rows.map f
  nextId := table.nextId
  below := by
    rw [List.forall_mem_map]
    intro row member
    rw [same]
    exact table.below row member
  distinct := by
    have ids : PendingRow.id ∘ f = PendingRow.id := funext same
    rw [List.map_map, ids]
    exact table.distinct

/-- A row with the next `id`. -/
def insert (table : PendingTable S) (row : PendingRow S) (next : row.id = table.nextId) :
    PendingTable S where
  rows := table.rows ++ [row]
  nextId := table.nextId + 1
  below := by
    rw [List.forall_mem_append, List.forall_mem_singleton, next]
    exact ⟨table.skip.below, Nat.lt_succ_self _⟩
  distinct := by
    rw [List.map_append, List.map_singleton, ← List.concat_eq_append]
    refine table.distinct.concat ?_
    intro held
    obtain ⟨old, member, same⟩ := List.mem_map.mp held
    have less := table.below old member
    omega

/-- The rows that meet a condition are rewritten. -/
def updateWhere (table : PendingTable S) (hit : PendingRow S → Bool)
    (f : PendingRow S → PendingRow S) (same : ∀ row, (f row).id = row.id) : PendingTable S :=
  table.update (fun row => if hit row then f row else row) (by
    intro row
    split
    · exact same row
    · rfl)

end PendingTable

/-- `ev.decoded.payload["field"].as_i64()` -/
def ParsedEvent.asI64 (ev : ParsedEvent S) (field : String) : Option Int :=
  (ev.decoded.payload.get field).bind Json.asI64

/-- What `spend_requested_alert` reads from its event. -/
structure SpendRequest (S : Type) where
  vault : S
  agent : S
  service : S
  amountUsdc : Int
  pendingSpend : Option S
  nonce : Option Int

def spendRequest (ev : ParsedEvent S) : Option (SpendRequest S) := do
  let vault ← ev.text "vault"
  let agent ← ev.text "agent"
  let service ← ev.text "service"
  let amountUsdc ← ev.asI64 "amount_usdc"
  some
    { vault, agent, service, amountUsdc
      pendingSpend := ev.text "pending_spend"
      nonce := ev.asI64 "nonce" }

/-- What `spend_approved_mirror` reads from its event. -/
structure SpendPayment (S : Type) where
  vault : S
  service : S
  amountUsdc : Int
  deriving DecidableEq

def spendPayment (ev : ParsedEvent S) : Option (SpendPayment S) := do
  let vault ← ev.text "vault"
  let service ← ev.text "service"
  let amountUsdc ← ev.asI64 "amount_usdc"
  some { vault, service, amountUsdc }

section Statements

variable [DecidableEq S] (table : PendingTable S)

/-- `INSERT .. ON CONFLICT (pending_spend_pubkey) DO UPDATE SET owner = EXCLUDED.owner RETURNING id`;
nothing is returned when `CHECK (amount_usdc > 0)` refuses the row. -/
def PendingTable.request (owner : S) (request : SpendRequest S) (createdAt : Int) :
    PendingTable S × Option Nat :=
  if request.amountUsdc ≤ 0 then (table.skip, none)
  else
    match request.pendingSpend.bind fun key =>
        table.rows.find? fun row => decide (row.pendingSpendPubkey = some key) with
    | some old =>
      (table.skip.updateWhere (fun row => decide (row.id = old.id)) (fun row => { row with owner })
        fun _ => rfl, some old.id)
    | none =>
      (table.insert
        { id := table.nextId
          owner
          agent := request.agent
          vault := request.vault
          service := request.service
          amountUsdc := request.amountUsdc
          status := .pending
          alertId := none
          createdAt
          pendingSpendPubkey := request.pendingSpend
          nonce := request.nonce } rfl, some table.nextId)

/-- `UPDATE pending_spends SET alert_id = $1 WHERE id = $2` -/
def PendingTable.setAlert (id alertId : Nat) : PendingTable S :=
  table.updateWhere (fun row => decide (row.id = id)) (fun row => { row with alertId := some alertId })
    fun _ => rfl

/-- The undecided rows for a payment. -/
def PendingRow.awaits (payment : SpendPayment S) (row : PendingRow S) : Bool :=
  decide (row.vault = payment.vault ∧ row.service = payment.service ∧
    row.amountUsdc = payment.amountUsdc ∧ row.status = .pending)

/-- The `UPDATE` of `spend_approved_mirror` and the row it returns. -/
def PendingTable.approve (oldest : FirstBy (PendingRow.createdAt (S := S))) (payment : SpendPayment S) :
    PendingTable S × Option (PendingRow S) :=
  match oldest.pick (table.rows.filter (PendingRow.awaits payment)) with
  | none => (table, none)
  | some chosen =>
    (table.updateWhere (fun row => decide (row.id = chosen.id))
      (fun row => { row with status := .approved }) fun _ => rfl,
      some { chosen with status := .approved })

/-- The undecided row of a request. -/
def PendingRow.isOpen (key : S) (row : PendingRow S) : Bool :=
  decide (row.pendingSpendPubkey = some key ∧ row.status = .pending)

/-- The `UPDATE` of `spend_rejected_mirror` and the row it returns. -/
def PendingTable.reject (key : S) : PendingTable S × Option (PendingRow S) :=
  (table.updateWhere (PendingRow.isOpen key) (fun row => { row with status := .rejected })
    fun _ => rfl,
    (table.rows.find? (PendingRow.isOpen key)).map fun row => { row with status := .rejected })

/-! ### The handlers -/

/-- What the handlers leave to the database and to `emit`: which of the oldest rows is taken, the
time at which a row is inserted, and the alert that announces a request, if it could be inserted. -/
structure SpendRuntime (S : Type) where
  oldest : FirstBy (PendingRow.createdAt (S := S))
  now : Nat → Int
  alert : Nat → Option Nat

variable (sr : SpendRuntime S) (db : Database S) (ev : ParsedEvent S)

def spendRequestedAlert : PendingTable S :=
  match spendRequest ev with
  | none => table
  | some request =>
    match db.vaults request.vault with
    | none => table
    | some vault =>
      let (table, id) := table.request vault.owner request (sr.now table.nextId)
      match id.bind fun id => (sr.alert id).map fun alertId => (id, alertId) with
      | none => table
      | some (id, alertId) => table.setAlert id alertId

def spendApprovedMirror : PendingTable S :=
  match spendPayment ev with
  | none => table
  | some payment => (table.approve sr.oldest payment).1

def spendRejectedMirror : PendingTable S :=
  match ev.text "pending_spend" with
  | none => table
  | some key => (table.reject key).1

/-- What `dispatch` does to `pending_spends` at an event. -/
def dispatchSpend (table : PendingTable S) (ev : ParsedEvent S) : PendingTable S :=
  match ev.decoded.eventName with
  | .spent => spendApprovedMirror table sr ev
  | .spendRequested => spendRequestedAlert table sr db ev
  | .spendRejected => spendRejectedMirror table ev
  | _ => table

end Statements

/-- The mirror tables and the pending spends. -/
structure SpendState (S : Type) where
  db : Database S
  pending : PendingTable S

def SpendState.empty : SpendState S := ⟨.empty, .empty⟩

/-- One delivery: the mirror is refreshed before the events are dispatched. -/
def SpendState.ingest [DecidableEq S] (rt : Runtime S) (zeroKey : S) (sr : SpendRuntime S)
    (s : SpendState S) (batch : List (ParsedEvent S)) : SpendState S :=
  let db := (Backend.ingest rt zeroKey s.db batch).1
  ⟨db, batch.foldl (dispatchSpend sr db) s.pending⟩

def deliverSpends [DecidableEq S] (rt : Runtime S) (zeroKey : S) (sr : SpendRuntime S)
    (batches : List (List (ParsedEvent S))) : SpendState S :=
  batches.foldl (SpendState.ingest rt zeroKey sr) .empty

/-! ### What a statement does to the rows -/

/-- The columns of a request stay. -/
structure PendingRow.SameRequest (row row' : PendingRow S) : Prop where
  vault : row'.vault = row.vault
  service : row'.service = row.service
  amountUsdc : row'.amountUsdc = row.amountUsdc
  pendingSpendPubkey : row'.pendingSpendPubkey = row.pendingSpendPubkey

theorem PendingRow.SameRequest.refl (row : PendingRow S) : row.SameRequest row := ⟨rfl, rfl, rfl, rfl⟩

variable [DecidableEq S] {table table' : PendingTable S} {sr : SpendRuntime S} {db : Database S}
  {ev : ParsedEvent S} {row row' : PendingRow S}

/-- A new row says what was requested. -/
structure Opens (request : SpendRequest S) (row : PendingRow S) : Prop where
  vault : row.vault = request.vault
  service : row.service = request.service
  amountUsdc : row.amountUsdc = request.amountUsdc
  pendingSpendPubkey : row.pendingSpendPubkey = request.pendingSpend
  status : row.status = .pending

/-- What became of a row at an event. -/
inductive Fate (ev : ParsedEvent S) (row row' : PendingRow S) : Prop
  | kept : row'.status = row.status → Fate ev row row'
  | approved (payment : SpendPayment S) : ev.decoded.eventName = .spent →
    spendPayment ev = some payment → row.awaits payment = true → row'.status = .approved →
    Fate ev row row'
  | rejected (key : S) : ev.decoded.eventName = .spendRejected →
    ev.text "pending_spend" = some key → row.isOpen key = true → row'.status = .rejected →
    Fate ev row row'

omit [DecidableEq S] in
/-- Rows are told apart by their `id`. -/
theorem PendingTable.eq_of_id {other : PendingRow S} (member : row ∈ table.rows)
    (inside : other ∈ table.rows) (same : row.id = other.id) : row = other :=
  List.inj_on_of_nodup_map table.distinct member inside same

omit [DecidableEq S] in
theorem PendingTable.find?_id (member : row ∈ table.rows) :
    table.rows.find? (fun other => decide (other.id = row.id)) = some row := by
  obtain ⟨other, found⟩ : ∃ other,
      table.rows.find? (fun other => decide (other.id = row.id)) = some other := by
    rw [← Option.isSome_iff_exists, List.find?_isSome]
    exact ⟨row, member, decide_eq_true rfl⟩
  have same := List.find?_some found
  rw [found, PendingTable.eq_of_id (List.mem_of_find?_eq_some found) member (of_decide_eq_true same)]

/-- A request adds its row or finds it; nothing is decided. -/
theorem request_rows {owner : S} {request : SpendRequest S} {createdAt : Int}
    (member : row' ∈ (table.request owner request createdAt).1.rows) :
    (∃ row ∈ table.rows, row.SameRequest row' ∧ row'.status = row.status) ∨ Opens request row' := by
  unfold PendingTable.request at member
  split at member
  · exact .inl ⟨row', member, .refl row', rfl⟩
  · split at member
    next old _ =>
      obtain ⟨row, inside, rfl⟩ := List.mem_map.mp member
      refine .inl ⟨row, inside, ?_⟩
      split
      · exact ⟨⟨rfl, rfl, rfl, rfl⟩, rfl⟩
      · exact ⟨.refl row, rfl⟩
    · rcases List.mem_append.mp member with earlier | here
      · exact .inl ⟨row', earlier, .refl row', rfl⟩
      · rw [List.mem_singleton.mp here]
        exact .inr ⟨rfl, rfl, rfl, rfl, rfl⟩

omit [DecidableEq S] in
theorem setAlert_rows {id alertId : Nat} (member : row' ∈ (table.setAlert id alertId).rows) :
    ∃ row ∈ table.rows, row.SameRequest row' ∧ row'.status = row.status := by
  obtain ⟨row, inside, rfl⟩ := List.mem_map.mp member
  refine ⟨row, inside, ?_⟩
  split
  · exact ⟨⟨rfl, rfl, rfl, rfl⟩, rfl⟩
  · exact ⟨.refl row, rfl⟩

/-- The table that `spend_requested_alert` leaves, with the statement that made it. -/
theorem spendRequestedAlert_cases (table : PendingTable S) (sr : SpendRuntime S) (db : Database S)
    (ev : ParsedEvent S) :
    spendRequestedAlert table sr db ev = table ∨
      ∃ request vault, spendRequest ev = some request ∧ db.vaults request.vault = some vault ∧
        (spendRequestedAlert table sr db ev =
            (table.request vault.owner request (sr.now table.nextId)).1 ∨
          ∃ id alertId, spendRequestedAlert table sr db ev =
            (table.request vault.owner request (sr.now table.nextId)).1.setAlert id alertId) := by
  unfold spendRequestedAlert
  split
  · exact .inl rfl
  next request read =>
    split
    · exact .inl rfl
    next vault present =>
      refine .inr ⟨request, vault, read, present, ?_⟩
      dsimp only
      split
      · exact .inl rfl
      next id alertId _ => exact .inr ⟨id, alertId, rfl⟩

/-- Where the rows after an event come from. -/
theorem dispatchSpend_rows (member : row' ∈ (dispatchSpend sr db table ev).rows) :
    (∃ row ∈ table.rows, row.SameRequest row' ∧ Fate ev row row') ∨
      ∃ request, ev.decoded.eventName = .spendRequested ∧ spendRequest ev = some request ∧
        Opens request row' := by
  unfold dispatchSpend at member
  split at member
  next named =>
    unfold spendApprovedMirror at member
    split at member
    · exact .inl ⟨row', member, .refl row', .kept rfl⟩
    next payment read =>
      unfold PendingTable.approve at member
      split at member
      · exact .inl ⟨row', member, .refl row', .kept rfl⟩
      next chosen found =>
        obtain ⟨row, inside, rfl⟩ := List.mem_map.mp member
        refine .inl ⟨row, inside, ?_⟩
        split
        next hit =>
          -- Only the chosen row changes its status, and it was waiting for this payment.
          obtain ⟨held, awaits⟩ := List.mem_filter.mp (sr.oldest.pick_mem found)
          rw [← PendingTable.eq_of_id inside held (of_decide_eq_true hit)] at awaits
          exact ⟨⟨rfl, rfl, rfl, rfl⟩, .approved payment named read awaits rfl⟩
        · exact ⟨.refl row, .kept rfl⟩
  next named =>
    rcases spendRequestedAlert_cases table sr db ev with same |
      ⟨request, vault, read, -, made | ⟨id, alertId, made⟩⟩
    · rw [same] at member
      exact .inl ⟨row', member, .refl row', .kept rfl⟩
    · rw [made] at member
      rcases request_rows member with ⟨row, inside, same, status⟩ | opens
      · exact .inl ⟨row, inside, same, .kept status⟩
      · exact .inr ⟨request, named, read, opens⟩
    · rw [made] at member
      -- The alert of a request is noted on its row afterwards.
      obtain ⟨between, member, same', status'⟩ := setAlert_rows member
      rcases request_rows member with ⟨row, inside, same, status⟩ | opens
      · exact .inl ⟨row, inside, ⟨same'.vault.trans same.vault, same'.service.trans same.service,
          same'.amountUsdc.trans same.amountUsdc,
          same'.pendingSpendPubkey.trans same.pendingSpendPubkey⟩, .kept (status'.trans status)⟩
      · exact .inr ⟨request, named, read, ⟨same'.vault.trans opens.vault,
          same'.service.trans opens.service, same'.amountUsdc.trans opens.amountUsdc,
          same'.pendingSpendPubkey.trans opens.pendingSpendPubkey, status'.trans opens.status⟩⟩
  next named =>
    unfold spendRejectedMirror at member
    split at member
    · exact .inl ⟨row', member, .refl row', .kept rfl⟩
    next key read =>
      obtain ⟨row, inside, rfl⟩ := List.mem_map.mp member
      refine .inl ⟨row, inside, ?_⟩
      split
      next hit => exact ⟨⟨rfl, rfl, rfl, rfl⟩, .rejected key named read hit rfl⟩
      · exact ⟨.refl row, .kept rfl⟩
  · exact .inl ⟨row', member, .refl row', .kept rfl⟩

/-! ### Rows stay -/

omit [DecidableEq S] in
theorem PendingRow.SameRequest.trans {row'' : PendingRow S} (first : row.SameRequest row')
    (second : row'.SameRequest row'') : row.SameRequest row'' where
  vault := second.vault.trans first.vault
  service := second.service.trans first.service
  amountUsdc := second.amountUsdc.trans first.amountUsdc
  pendingSpendPubkey := second.pendingSpendPubkey.trans first.pendingSpendPubkey

/-- Every row is still there, whatever became of it. -/
def PendingTable.Extends (table table' : PendingTable S) : Prop :=
  ∀ row ∈ table.rows, ∃ row' ∈ table'.rows, row.SameRequest row'

omit [DecidableEq S] in
theorem PendingTable.Extends.refl (table : PendingTable S) : table.Extends table :=
  fun row member => ⟨row, member, .refl row⟩

omit [DecidableEq S] in
theorem PendingTable.Extends.trans {table'' : PendingTable S} (first : table.Extends table')
    (second : table'.Extends table'') : table.Extends table'' := by
  intro row member
  obtain ⟨row', inside, same⟩ := first row member
  obtain ⟨row'', inside', same'⟩ := second row' inside
  exact ⟨row'', inside', same.trans same'⟩

omit [DecidableEq S] in
theorem PendingTable.Extends.rewrite {hit : PendingRow S → Bool} {f : PendingRow S → PendingRow S}
    (columns : ∀ row : PendingRow S, row.SameRequest (f row))
    (rows : table'.rows = table.rows.map fun row => if hit row = true then f row else row) :
    table.Extends table' := by
  intro row member
  rw [rows]
  refine ⟨_, List.mem_map_of_mem member, ?_⟩
  split
  · exact columns row
  · exact .refl row

theorem request_extends (table : PendingTable S) (owner : S) (request : SpendRequest S)
    (createdAt : Int) : table.Extends (table.request owner request createdAt).1 := by
  unfold PendingTable.request
  split
  · exact .refl table
  · split
    · refine .rewrite ?_ rfl
      exact fun _ => ⟨rfl, rfl, rfl, rfl⟩
    · exact fun row member => ⟨row, List.mem_append_left _ member, .refl row⟩

theorem spendRequestedAlert_extends (table : PendingTable S) (sr : SpendRuntime S) (db : Database S)
    (ev : ParsedEvent S) : table.Extends (spendRequestedAlert table sr db ev) := by
  rcases spendRequestedAlert_cases table sr db ev with same |
    ⟨request, vault, -, -, made | ⟨id, alertId, made⟩⟩
  · rw [same]
    exact .refl table
  · rw [made]
    exact request_extends table _ _ _
  · rw [made]
    refine (request_extends table _ _ _).trans (.rewrite ?_ rfl)
    exact fun _ => ⟨rfl, rfl, rfl, rfl⟩

theorem dispatchSpend_extends (sr : SpendRuntime S) (db : Database S) (table : PendingTable S)
    (ev : ParsedEvent S) : table.Extends (dispatchSpend sr db table ev) := by
  unfold dispatchSpend
  split
  · unfold spendApprovedMirror
    split
    · exact .refl table
    · unfold PendingTable.approve
      split
      · exact .refl table
      · refine .rewrite ?_ rfl
        exact fun _ => ⟨rfl, rfl, rfl, rfl⟩
  · exact spendRequestedAlert_extends table sr db ev
  · unfold spendRejectedMirror
    split
    · exact .refl table
    · refine .rewrite ?_ rfl
      exact fun _ => ⟨rfl, rfl, rfl, rfl⟩
  · exact .refl table

/-- A request of a vault that has a row gets its own row. -/
theorem request_row {request : SpendRequest S} {key : S} (named : request.pendingSpend = some key)
    (positive : 0 < request.amountUsdc) (table : PendingTable S) (owner : S) (createdAt : Int) :
    ∃ row ∈ (table.request owner request createdAt).1.rows, row.pendingSpendPubkey = some key := by
  unfold PendingTable.request
  rw [if_neg (by omega), named, Option.bind_some]
  split
  next old found =>
    have kept : table.skip.Extends (table.skip.updateWhere (fun row => decide (row.id = old.id))
        (fun row => { row with owner }) fun _ => rfl) := by
      refine .rewrite ?_ rfl
      exact fun _ => ⟨rfl, rfl, rfl, rfl⟩
    obtain ⟨row, inside, same⟩ := kept old (List.mem_of_find?_eq_some found)
    have held : decide (old.pendingSpendPubkey = some key) = true := by
      have found := List.find?_some found
      exact found
    exact ⟨row, inside, same.pendingSpendPubkey.trans (of_decide_eq_true held)⟩
  · exact ⟨_, List.mem_append_right _ (List.mem_singleton.mpr rfl), rfl⟩

theorem dispatchSpend_row {request : SpendRequest S} {vault : VaultRow S} {key : S}
    (named : ev.decoded.eventName = .spendRequested) (read : spendRequest ev = some request)
    (present : db.vaults request.vault = some vault) (address : request.pendingSpend = some key)
    (positive : 0 < request.amountUsdc) (sr : SpendRuntime S) (table : PendingTable S) :
    ∃ row ∈ (dispatchSpend sr db table ev).rows, row.pendingSpendPubkey = some key := by
  unfold dispatchSpend
  rw [named]
  dsimp only
  unfold spendRequestedAlert
  rw [read]
  dsimp only
  rw [present]
  dsimp only
  obtain ⟨row, inside, held⟩ := request_row address positive table vault.owner (sr.now table.nextId)
  split
  · exact ⟨row, inside, held⟩
  next id alertId _ =>
    have kept : (table.request vault.owner request (sr.now table.nextId)).1.Extends
        ((table.request vault.owner request (sr.now table.nextId)).1.setAlert id alertId) := by
      refine .rewrite ?_ rfl
      exact fun _ => ⟨rfl, rfl, rfl, rfl⟩
    obtain ⟨row', inside', same⟩ := kept row inside
    exact ⟨row', inside', same.pendingSpendPubkey.trans held⟩

/-! ### Rows that wait for a payment -/

def PendingTable.waiting (payment : SpendPayment S) (table : PendingTable S) : Nat :=
  table.rows.countP (PendingRow.awaits payment)

/-- The event asks for the payment. -/
def ParsedEvent.asksFor (payment : SpendPayment S) (ev : ParsedEvent S) : Bool :=
  decide (ev.decoded.eventName = .spendRequested) && (spendRequest ev).any fun request =>
    decide ((⟨request.vault, request.service, request.amountUsdc⟩ : SpendPayment S) = payment)

def ParsedEvent.pays (payment : SpendPayment S) (ev : ParsedEvent S) : Bool :=
  decide (ev.decoded.eventName = .spent) && decide (spendPayment ev = some payment)

/-- An update that lets no row in. -/
theorem waiting_rewrite {payment : SpendPayment S} {hit : PendingRow S → Bool}
    {f : PendingRow S → PendingRow S}
    (out : ∀ row : PendingRow S, (f row).awaits payment = true → row.awaits payment = true)
    (rows : table'.rows = table.rows.map fun row => if hit row = true then f row else row) :
    table'.waiting payment ≤ table.waiting payment := by
  unfold PendingTable.waiting
  rw [rows, List.countP_map]
  apply List.countP_mono_left
  intro row _ awaits
  rw [Function.comp_apply] at awaits
  split at awaits
  · exact out row awaits
  · exact awaits

theorem PendingRow.not_awaits {payment : SpendPayment S} (status : row.status ≠ .pending) :
    row.awaits payment = false := by
  simp [PendingRow.awaits, status]

theorem waiting_request {owner : S} {request : SpendRequest S} {createdAt : Int}
    (payment : SpendPayment S) (table : PendingTable S) :
    (table.request owner request createdAt).1.waiting payment ≤ table.waiting payment +
      (decide ((⟨request.vault, request.service, request.amountUsdc⟩ : SpendPayment S) =
        payment)).toNat := by
  unfold PendingTable.request
  split
  · exact Nat.le_add_right _ _
  · split
    · refine le_trans (waiting_rewrite ?_ rfl) (Nat.le_add_right _ _)
      exact fun row awaits => awaits
    · change (table.rows ++ [_]).countP _ ≤ _
      rw [List.countP_append, List.countP_singleton]
      apply Nat.add_le_add_left
      split
      next awaits =>
        obtain ⟨vault, service, amount, -⟩ := of_decide_eq_true awaits
        obtain rfl : (⟨request.vault, request.service, request.amountUsdc⟩ : SpendPayment S) =
            payment := by
          cases payment
          exact SpendPayment.mk.injEq .. ▸ ⟨vault, service, amount⟩
        rw [decide_eq_true rfl]
        exact le_refl 1
      · exact Nat.zero_le _

omit [DecidableEq S] in
theorem countP_map_lt {rows : List (PendingRow S)} {p : PendingRow S → Bool}
    {f : PendingRow S → PendingRow S} (out : ∀ row, p (f row) = true → p row = true)
    (member : row ∈ rows) (before : p row = true) (after : p (f row) = false) :
    (rows.map f).countP p < rows.countP p := by
  rw [List.countP_map]
  induction rows with
  | nil => cases member
  | cons first rest ih =>
    have others : rest.countP (p ∘ f) ≤ rest.countP p :=
      List.countP_mono_left fun row _ => out row
    rcases List.mem_cons.mp member with rfl | later
    · simp only [List.countP_cons, Function.comp_apply, before, after, Bool.false_eq_true, if_false,
        if_true]
      omega
    · have less := ih later
      by_cases waits : p (f first) = true
      · simp only [List.countP_cons, Function.comp_apply, waits, out first waits, if_true]
        omega
      · simp only [List.countP_cons, Function.comp_apply, if_neg waits]
        omega

/-- A payment takes one of the rows that wait for it. -/
theorem waiting_approve (oldest : FirstBy (PendingRow.createdAt (S := S))) (payment : SpendPayment S)
    (table : PendingTable S) :
    (table.approve oldest payment).1.waiting payment ≤ table.waiting payment - 1 := by
  unfold PendingTable.approve
  split
  next nobody =>
    have none : table.waiting payment = 0 := by
      rw [PendingTable.waiting, List.countP_eq_length_filter, oldest.pick_none nobody]
      rfl
    rw [none]
  next chosen found =>
    obtain ⟨member, awaits⟩ := List.mem_filter.mp (oldest.pick_mem found)
    have less : (table.updateWhere (fun row => decide (row.id = chosen.id))
        (fun row => { row with status := .approved }) fun _ => rfl).waiting payment <
          table.waiting payment := by
      refine countP_map_lt ?_ member awaits ?_
      · intro row awaits
        split at awaits
        · exact absurd (of_decide_eq_true awaits).2.2.2 (by simp)
        · exact awaits
      · simp [PendingRow.awaits]
    exact Nat.le_sub_one_of_lt less

theorem waiting_dispatchSpend (payment : SpendPayment S) (sr : SpendRuntime S) (db : Database S)
    (table : PendingTable S) (ev : ParsedEvent S) :
    (dispatchSpend sr db table ev).waiting payment ≤
      table.waiting payment + (ev.asksFor payment).toNat - (ev.pays payment).toNat := by
  unfold dispatchSpend
  split
  next named =>
    -- A payment takes the oldest request of its own kind and no other.
    have unasked : ev.asksFor payment = false := by simp [ParsedEvent.asksFor, named]
    rw [unasked, Bool.toNat_false, Nat.add_zero]
    unfold spendApprovedMirror
    split
    next unread =>
      have unpaid : ev.pays payment = false := by simp [ParsedEvent.pays, unread]
      rw [unpaid]
      exact le_refl _
    next other read =>
      by_cases same : other = payment
      · have paid : ev.pays payment = true := by simp [ParsedEvent.pays, named, read, same]
        rw [paid, same]
        exact waiting_approve sr.oldest payment table
      · have unpaid : ev.pays payment = false := by simp [ParsedEvent.pays, read, same]
        rw [unpaid]
        unfold PendingTable.approve
        split
        · exact le_refl _
        · refine waiting_rewrite ?_ rfl
          intro row awaits
          rw [PendingRow.not_awaits (by simp)] at awaits
          cases awaits
  next named =>
    -- A request is one row more at most.
    have unpaid : ev.pays payment = false := by simp [ParsedEvent.pays, named]
    rw [unpaid, Bool.toNat_false, Nat.sub_zero]
    rcases spendRequestedAlert_cases table sr db ev with same |
      ⟨request, vault, read, -, made⟩
    · rw [same]
      exact Nat.le_add_right _ _
    · have asked : ev.asksFor payment = decide
          ((⟨request.vault, request.service, request.amountUsdc⟩ : SpendPayment S) = payment) := by
        simp [ParsedEvent.asksFor, named, read]
      rw [asked]
      rcases made with made | ⟨id, alertId, made⟩
      · rw [made]
        exact waiting_request payment table
      · rw [made]
        refine le_trans (waiting_rewrite ?_ rfl) (waiting_request payment table)
        exact fun row awaits => awaits
  next named =>
    -- A row that is rejected no longer waits.
    have unasked : ev.asksFor payment = false := by simp [ParsedEvent.asksFor, named]
    have unpaid : ev.pays payment = false := by simp [ParsedEvent.pays, named]
    rw [unasked, unpaid]
    unfold spendRejectedMirror
    split
    · exact le_refl _
    · refine waiting_rewrite ?_ rfl
      intro row awaits
      rw [PendingRow.not_awaits (by simp)] at awaits
      cases awaits
  next unspent unrequested _ =>
    have unasked : ev.asksFor payment = false := by
      rw [ParsedEvent.asksFor, decide_eq_false unrequested, Bool.false_and]
    have unpaid : ev.pays payment = false := by
      rw [ParsedEvent.pays, decide_eq_false unspent, Bool.false_and]
    rw [unasked, unpaid]
    exact le_refl _

end AgentFuel.Backend
