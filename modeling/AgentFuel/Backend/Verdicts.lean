import AgentFuel.Backend.InForce
import AgentFuel.Backend.PendingSpends
import AgentFuel.Vault.Requests

/-!
# What the row of a pending spend says

A rejected row names a request that was cancelled. An approved row was taken for a payment, which
need not be that of its request: the row is right as long as every request whose vault, service and
amount some payment of the run has is itself approved in the run. Then, in chain order, the payments
reach all rows that wait for them.
-/
namespace AgentFuel.Backend

open Checked Solana Vault Backlog

variable {K S : Type} [DecidableEq K] [AddressSpace K]

/-! ### The instructions of a run -/

def ChainAction.instructions : ChainAction K → List (Instruction K)
  | .transaction _ instructions => instructions
  | .advance _ => []

def Instruction.approves : Instruction K → Option K
  | .vault ix => ix.approves
  | _ => none

def Instruction.cancels : Instruction K → Option K
  | .vault ix => ix.cancels
  | _ => none

abbrev ChainRun (start : Chain K) (steps : List (Transition.Fired (Chain K) (ChainAction K)))
    (chain : Chain K) : Prop :=
  Transition.Run Chain.step start steps chain

/-- All instructions of the transactions of a run; none of them failed. -/
def executed (steps : List (Transition.Fired (Chain K) (ChainAction K))) : List (Instruction K) :=
  steps.flatMap fun e => e.act.instructions

/-- The requests that the run approves. -/
def approvedIn (steps : List (Transition.Fired (Chain K) (ChainAction K))) : List K :=
  (executed steps).filterMap Instruction.approves

def cancelledIn (steps : List (Transition.Fired (Chain K) (ChainAction K))) : List K :=
  (executed steps).filterMap Instruction.cancels

variable {p p' : Programs K} {events new : List (Event K)} {history : List (Instruction K)}
  {ix : Instruction K} {start chain : Chain K}
  {steps : List (Transition.Fired (Chain K) (ChainAction K))}

theorem Programs.executeAll_history {P : Programs K → List (Event K) → List (Instruction K) → Prop}
    (keep : ∀ p events history ix p' new, P p events history → p.execute ix = .ok (p', new) →
      P p' (events ++ new) (history ++ [ix]))
    {instructions : List (Instruction K)} (executed : p.executeAll instructions = .ok (p', new))
    (holds : P p events history) : P p' (events ++ new) (history ++ instructions) := by
  induction instructions generalizing p events new history with
  | nil =>
    obtain ⟨rfl, rfl⟩ := Prod.mk.inj (Except.ok.inj executed)
    rw [List.append_nil, List.append_nil]
    exact holds
  | cons ix rest ih =>
    obtain ⟨⟨next, first⟩, here, executed⟩ := (bind_eq_ok _ _ _).mp executed
    obtain ⟨⟨last, later⟩, others, executed⟩ := (bind_eq_ok _ _ _).mp executed
    obtain ⟨rfl, rfl⟩ := Prod.mk.inj (Except.ok.inj executed)
    rw [← List.append_assoc, List.append_cons]
    exact ih others (keep p events history ix next first holds here)

/-- What every instruction and the clock keep holds of the accounts, the events and the
instructions so far. -/
theorem history_induction {P : Programs K → List (Event K) → List (Instruction K) → Prop}
    (keep : ∀ p events history ix p' new, P p events history → p.execute ix = .ok (p', new) →
      P p' (events ++ new) (history ++ [ix]))
    (tick : ∀ p events history slots, P p events history → P (p.advance slots) events history)
    (init : P start.programs (start.log.map Emitted.event) []) (run : ChainRun start steps chain) :
    P chain.programs (chain.log.map Emitted.event) (executed steps) := by
  induction run with
  | nil => exact init
  | @snoc steps t act u earlier fired ih =>
    have appended : executed (steps ++ [⟨t, act, u⟩]) = executed steps ++ act.instructions := by
      simp [executed]
    rw [appended]
    rcases Chain.step_cases fired with
      ⟨slots, rfl, rfl⟩ | ⟨signature, instructions, programs, events, rfl, -, done, rfl⟩
    · rw [ChainAction.instructions, List.append_nil]
      exact tick _ _ _ slots ih
    · rw [List.map_append, emitted_event]
      exact Programs.executeAll_history keep done ih

structure SpendBooks (p : Programs K) (events : List (Event K)) (history : List (Instruction K)) :
    Prop where
  wf : p.WellFormed
  books : EventBooks p events
  requests : RequestBooks p.vault (events.filterMap Event.asVault)
    (history.filterMap Instruction.approves) (history.filterMap Instruction.cancels)

theorem filterMap_snoc {α β : Type} (f : α → Option β) (list : List α) (a : α) :
    (list ++ [a]).filterMap f = list.filterMap f ++ (f a).toList := by
  rw [List.filterMap_append]
  cases found : f a <;> simp [found]

theorem SpendBooks.execute (inv : SpendBooks p events history)
    (executed : p.execute ix = .ok (p', new)) : SpendBooks p' (events ++ new) (history ++ [ix]) := by
  obtain ⟨wf, books, requests⟩ := inv
  refine ⟨(wf.execute executed).1, books.execute wf executed, ?_⟩
  rw [filterMap_snoc, filterMap_snoc]
  rcases Programs.execute_cases executed with
    ⟨i, w, ev, rfl, handled, rfl, rfl⟩ | ⟨i, w, ev, rfl, -, rfl, rfl⟩ | ⟨i, tokens, rfl, -, rfl, rfl⟩
  · rw [filterMap_snoc]
    exact requests.handled books.vault (handler_requests wf.vault handled)
      fun v vault present => handler_counts wf.vault handled present
  · rw [filterMap_snoc]
    simp only [Event.asVault, Instruction.approves, Instruction.cancels, Option.toList_none,
      List.append_nil]
    exact requests
  · simp only [Instruction.approves, Instruction.cancels, Option.toList_none, List.append_nil]
    exact requests.same rfl rfl

theorem SpendBooks.of_run (genesis : Genesis start) (run : ChainRun start steps chain) :
    SpendBooks chain.programs (chain.log.map Emitted.event) (executed steps) := by
  refine history_induction (fun _ _ _ _ _ _ inv executed => inv.execute executed) ?_ ?_ run
  · rintro p events history slots ⟨wf, books, requests⟩
    exact ⟨wf.advance slots, books.advance slots, requests.same rfl rfl⟩
  · rw [genesis.log]
    exact ⟨genesis.sound.programs, ⟨genesis.vault.eventBooks, genesis.reputation.eventBooks⟩,
      genesis.vault.requestBooks⟩

/-! ### What the handlers read from an event of the chain -/

section Reading

variable {r : Rendering K S} {e : Emitted K} {ev : VaultEvent K} {key : K} {d : Demand K}

/-- The columns of a row for a demand. -/
def Rendering.demand (r : Rendering K S) (d : Demand K) : SpendPayment S :=
  ⟨r.key d.vault, r.key d.service, d.amountUsdc⟩

omit [DecidableEq K] [AddressSpace K] in
theorem Rendering.demand_inj (injective : Function.Injective r.key) {d' : Demand K}
    (same : r.demand d = r.demand d') : d = d' := by
  obtain ⟨vault, service, amount⟩ := d
  obtain ⟨vault', service', amount'⟩ := d'
  simp only [Rendering.demand, SpendPayment.mk.injEq, injective.eq_iff, Int.natCast_inj] at same
  obtain ⟨rfl, rfl, rfl⟩ := same
  rfl

omit [DecidableEq K] [AddressSpace K] in
theorem row_asI64 {field : String} {n : Nat} (held : e.event.fields.lookup field = some (.u64 n)) :
    (e.row r).asI64 field = if n < 2 ^ 63 then some (n : Int) else none := by
  have read : (e.row r).asI64 field = (Json.num (S := S) n).asI64 := by
    rw [ParsedEvent.asI64, row_get, held, Option.map_some, Option.bind_some]
    exact congrArg Json.asI64 (rfl : Field.json r (.u64 n) = .num n)
  rw [read, Json.asI64]
  split <;> split <;> first | rfl | omega

omit [DecidableEq K] [AddressSpace K] in
theorem row_key {field : String} {key : K} (held : e.event.fields.lookup field = some (.pubkey key)) :
    (e.row r).text field = some (r.key key) := by
  rw [row_text, held]
  rfl

omit [DecidableEq K] [AddressSpace K] in
theorem spendRequest_row {vault agent service pendingSpend : K} {amountUsdc nonce slot : Nat}
    (event : e.event = .vault (.spendRequested vault agent service pendingSpend amountUsdc nonce slot)) :
    spendRequest (e.row r) = if amountUsdc < 2 ^ 63 then
      some ⟨r.key vault, r.key agent, r.key service, amountUsdc, some (r.key pendingSpend),
        (e.row r).asI64 "nonce"⟩
    else none := by
  have fields : e.event.fields = [("vault", .pubkey vault), ("agent", .pubkey agent),
      ("service", .pubkey service), ("pending_spend", .pubkey pendingSpend),
      ("amount_usdc", .u64 amountUsdc), ("nonce", .u64 nonce), ("slot", .u64 slot)] := by
    rw [event]
    rfl
  have amount : (e.row r).asI64 "amount_usdc" = _ := row_asI64 (by rw [fields]; rfl)
  have first : (e.row r).text "vault" = _ := row_key (by rw [fields]; rfl)
  have second : (e.row r).text "agent" = _ := row_key (by rw [fields]; rfl)
  have third : (e.row r).text "service" = _ := row_key (by rw [fields]; rfl)
  have fourth : (e.row r).text "pending_spend" = _ := row_key (by rw [fields]; rfl)
  rw [spendRequest, first, second, third, fourth, amount]
  split <;> rfl

omit [DecidableEq K] [AddressSpace K] in
theorem spendPayment_row {vault agent service : K} {amountUsdc total slot : Nat}
    (event : e.event = .vault (.spent vault agent service amountUsdc total slot)) :
    spendPayment (e.row r) =
      if amountUsdc < 2 ^ 63 then some (r.demand ⟨vault, service, amountUsdc⟩) else none := by
  have fields : e.event.fields = [("vault", .pubkey vault), ("agent", .pubkey agent),
      ("service", .pubkey service), ("amount_usdc", .u64 amountUsdc), ("new_total_spent", .u64 total),
      ("slot", .u64 slot)] := by
    rw [event]
    rfl
  have amount : (e.row r).asI64 "amount_usdc" = _ := row_asI64 (by rw [fields]; rfl)
  have first : (e.row r).text "vault" = _ := row_key (by rw [fields]; rfl)
  have second : (e.row r).text "service" = _ := row_key (by rw [fields]; rfl)
  rw [spendPayment, first, second, amount]
  split <;> rfl

omit [DecidableEq K] [AddressSpace K] in
/-- The columns of a new row say what the event requests. -/
theorem spendRequest_reads {request : SpendRequest S} (named : e.event.name = .spendRequested)
    (read : spendRequest (e.row r) = some request) : ∃ ev key d, e.event = .vault ev ∧
      ev.request = some (key, d) ∧ request.pendingSpend = some (r.key key) ∧
      (⟨request.vault, request.service, request.amountUsdc⟩ : SpendPayment S) = r.demand d := by
  cases event : e.event with
  | reputation ev => rw [event] at named; cases ev <;> cases named
  | vault ev =>
    rw [event] at named
    cases ev with
    | spendRequested vault agent service pendingSpend amountUsdc nonce slot =>
      rw [spendRequest_row event] at read
      split at read
      · obtain rfl := Option.some.inj read
        exact ⟨_, pendingSpend, ⟨vault, service, amountUsdc⟩, rfl, rfl, rfl, rfl⟩
      · cases read
    | _ => cases named

omit [DecidableEq K] [AddressSpace K] in
theorem spendRequest_made (event : e.event = .vault ev) (made : ev.request = some (key, d))
    (small : d.amountUsdc < 2 ^ 63) : e.event.name = .spendRequested ∧ ∃ request,
      spendRequest (e.row r) = some request ∧ request.pendingSpend = some (r.key key) ∧
      (⟨request.vault, request.service, request.amountUsdc⟩ : SpendPayment S) = r.demand d := by
  cases ev with
  | spendRequested vault agent service pendingSpend amountUsdc nonce slot =>
    obtain ⟨rfl, rfl⟩ := Prod.mk.inj (Option.some.inj made)
    refine ⟨by rw [event]; rfl, ?_⟩
    rw [spendRequest_row event, if_pos small]
    exact ⟨_, rfl, rfl, rfl⟩
  | _ => cases made

omit [DecidableEq K] [AddressSpace K] in
theorem spendPayment_reads {payment : SpendPayment S} (named : e.event.name = .spent)
    (read : spendPayment (e.row r) = some payment) :
    ∃ ev d, e.event = .vault ev ∧ ev.payment = some d ∧ payment = r.demand d := by
  cases event : e.event with
  | reputation ev => rw [event] at named; cases ev <;> cases named
  | vault ev =>
    rw [event] at named
    cases ev with
    | spent vault agent service amountUsdc total slot =>
      rw [spendPayment_row event] at read
      split at read
      · exact ⟨_, _, rfl, rfl, (Option.some.inj read).symm⟩
      · cases read
    | _ => cases named

omit [DecidableEq K] [AddressSpace K] in
theorem spendPayment_made (event : e.event = .vault ev) (paid : ev.payment = some d)
    (small : d.amountUsdc < 2 ^ 63) :
    e.event.name = .spent ∧ spendPayment (e.row r) = some (r.demand d) := by
  cases ev with
  | spent vault agent service amountUsdc total slot =>
    obtain rfl := Option.some.inj paid
    refine ⟨by rw [event]; rfl, ?_⟩
    rw [spendPayment_row event, if_pos small]
  | _ => cases paid

omit [DecidableEq K] [AddressSpace K] in
theorem rejection_reads {text : S} (named : e.event.name = .spendRejected)
    (read : (e.row r).text "pending_spend" = some text) :
    ∃ ev key, e.event = .vault ev ∧ ev.rejection = some key ∧ text = r.key key := by
  cases event : e.event with
  | reputation ev => rw [event] at named; cases ev <;> cases named
  | vault ev =>
    rw [event] at named
    cases ev with
    | spendRejected vault owner pendingSpend nonce slot =>
      have held : (e.row r).text "pending_spend" = some (r.key pendingSpend) :=
        row_key (by rw [event]; rfl)
      exact ⟨_, pendingSpend, rfl, rfl, Option.some.inj (read.symm.trans held)⟩
    | _ => cases named

end Reading

/-! ### Where the rows come from -/

section Rows

variable [DecidableEq S] {r : Rendering K S} {sr : SpendRuntime S} {rt : Runtime S} {zeroKey : S}
  {batches : List (List (ParsedEvent S))}

/-- The row was made of a request of the chain, and decided by an event of the chain. -/
structure RowOf (r : Rendering K S) (events : List (VaultEvent K)) (row : PendingRow S) : Prop where
  made : ∃ key d, Made events key d ∧ row.pendingSpendPubkey = some (r.key key) ∧
    (⟨row.vault, row.service, row.amountUsdc⟩ : SpendPayment S) = r.demand d
  decided : row.status = .pending ∨
    row.status = .approved ∧ (∃ d, Paid events d ∧
      (⟨row.vault, row.service, row.amountUsdc⟩ : SpendPayment S) = r.demand d) ∨
    row.status = .rejected ∧ ∃ key, (∃ ev ∈ events, ev.rejection = some key) ∧
      row.pendingSpendPubkey = some (r.key key)

omit [DecidableEq K] [AddressSpace K] [DecidableEq S] in
theorem PendingRow.SameRequest.payment {row row' : PendingRow S} (same : row.SameRequest row') :
    (⟨row'.vault, row'.service, row'.amountUsdc⟩ : SpendPayment S) =
      ⟨row.vault, row.service, row.amountUsdc⟩ := by
  rw [same.vault, same.service, same.amountUsdc]

omit [DecidableEq K] [AddressSpace K] in
theorem RowOf.dispatch {table : PendingTable S} {db : Database S} {e : Emitted K}
    (rows : ∀ row ∈ table.rows, RowOf r chain.vaultEvents row) (member : e ∈ chain.log) :
    ∀ row ∈ (dispatchSpend sr db table (e.row r)).rows, RowOf r chain.vaultEvents row := by
  intro row' inside
  rcases dispatchSpend_rows inside with ⟨row, held, same, fate⟩ | ⟨request, named, read, opens⟩
  · obtain ⟨⟨key, d, made, address, demand⟩, decided⟩ := rows row held
    refine ⟨⟨key, d, made, same.pendingSpendPubkey.trans address, same.payment.trans demand⟩, ?_⟩
    -- The row is as before, or this event has decided it.
    cases fate with
    | kept status =>
      rw [status, same.payment, same.pendingSpendPubkey]
      exact decided
    | approved payment named read awaits status =>
      obtain ⟨ev, paid, event, pays, rfl⟩ := spendPayment_reads named read
      obtain ⟨vault, service, amount, -⟩ := of_decide_eq_true awaits
      refine .inr (.inl ⟨status, paid, ⟨ev, mem_vaultEvents.mpr ⟨e, member, event⟩, pays⟩, ?_⟩)
      rw [same.payment, vault, service, amount]
    | rejected text named read open' status =>
      obtain ⟨ev, other, event, rejects, rfl⟩ := rejection_reads named read
      refine .inr (.inr ⟨status, other, ⟨ev, mem_vaultEvents.mpr ⟨e, member, event⟩, rejects⟩, ?_⟩)
      exact same.pendingSpendPubkey.trans (of_decide_eq_true open').1
  · obtain ⟨ev, key, d, event, made, address, demand⟩ := spendRequest_reads named read
    refine ⟨⟨key, d, ⟨ev, mem_vaultEvents.mpr ⟨e, member, event⟩, made⟩,
      opens.pendingSpendPubkey.trans address, ?_⟩, .inl opens.status⟩
    rw [opens.vault, opens.service, opens.amountUsdc, demand]

/-- The events in the order in which they are dispatched, each with the tables it finds. -/
def dispatched (rt : Runtime S) (zeroKey : S) (db : Database S) :
    List (List (ParsedEvent S)) → List (Database S × ParsedEvent S)
  | [] => []
  | batch :: rest =>
    let db := (Backend.ingest rt zeroKey db batch).1
    batch.map (fun ev => (db, ev)) ++ dispatched rt zeroKey db rest

/-- The handler of one event on its tables. -/
def dispatchOn (sr : SpendRuntime S) (table : PendingTable S) (found : Database S × ParsedEvent S) :
    PendingTable S :=
  dispatchSpend sr found.1 table found.2

omit [DecidableEq K] [AddressSpace K] in
theorem foldl_pending (rt : Runtime S) (zeroKey : S) (sr : SpendRuntime S) (s : SpendState S)
    (batches : List (List (ParsedEvent S))) :
    (batches.foldl (SpendState.ingest rt zeroKey sr) s).pending =
      (dispatched rt zeroKey s.db batches).foldl (dispatchOn sr) s.pending := by
  induction batches generalizing s with
  | nil => rfl
  | cons batch rest ih =>
    rw [List.foldl_cons, ih, dispatched, List.foldl_append, List.foldl_map]
    rfl

omit [DecidableEq K] [AddressSpace K] in
theorem dispatched_events (rt : Runtime S) (zeroKey : S) (db : Database S)
    (batches : List (List (ParsedEvent S))) :
    (dispatched rt zeroKey db batches).map Prod.snd = batches.flatten := by
  induction batches generalizing db with
  | nil => rfl
  | cons batch rest ih =>
    rw [dispatched, List.map_append, ih, List.flatten_cons, List.map_map]
    congr 1
    exact List.map_id batch

omit [DecidableEq K] [AddressSpace K] in
/-- The tables an event finds are those after its batch. -/
theorem mem_dispatched {db db' : Database S} {ev : ParsedEvent S}
    (member : (db', ev) ∈ dispatched rt zeroKey db batches) : ∃ earlier batch later,
      batches = earlier ++ batch :: later ∧ ev ∈ batch ∧
      db' = deliver rt zeroKey db (earlier ++ [batch]) := by
  induction batches generalizing db with
  | nil => cases member
  | cons batch rest ih =>
    rcases List.mem_append.mp member with here | later
    · obtain ⟨_, inside, same⟩ := List.mem_map.mp here
      obtain ⟨rfl, rfl⟩ := Prod.mk.inj same
      exact ⟨[], batch, rest, rfl, inside, rfl⟩
    · obtain ⟨earlier, other, others, rfl, inside, rfl⟩ := ih later
      exact ⟨batch :: earlier, other, others, rfl, inside, rfl⟩

omit [DecidableEq K] [AddressSpace K] in
theorem RowOf.foldl {found : List (Database S × ParsedEvent S)} {table : PendingTable S}
    (source : ∀ each ∈ found, ∃ e ∈ chain.log, each.2 = e.row r)
    (rows : ∀ row ∈ table.rows, RowOf r chain.vaultEvents row) :
    ∀ row ∈ (found.foldl (dispatchOn sr) table).rows, RowOf r chain.vaultEvents row := by
  induction found generalizing table with
  | nil => exact rows
  | cons first rest ih =>
    rw [List.forall_mem_cons] at source
    obtain ⟨⟨e, member, same⟩, later⟩ := source
    refine ih later ?_
    rw [dispatchOn, same]
    exact RowOf.dispatch rows member

omit [DecidableEq K] [AddressSpace K] in
theorem RowOf.deliver (rt : Runtime S) (zeroKey : S) (sr : SpendRuntime S)
    (given : ∀ batch ∈ batches, batch ⊆ chain.log.map (Emitted.row r)) :
    ∀ row ∈ (deliverSpends rt zeroKey sr batches).pending.rows, RowOf r chain.vaultEvents row := by
  rw [deliverSpends, foldl_pending]
  apply RowOf.foldl
  · intro found member
    have inside : found.2 ∈ (dispatched rt zeroKey SpendState.empty.db batches).map Prod.snd :=
      List.mem_map_of_mem member
    rw [dispatched_events] at inside
    obtain ⟨batch, among, held⟩ := List.mem_flatten.mp inside
    obtain ⟨e, member, same⟩ := List.mem_map.mp (given batch among held)
    exact ⟨e, member, same.symm⟩
  · intro row member
    cases member

/-! ### Payments reach the rows that wait -/

omit [DecidableEq K] [AddressSpace K] in
theorem countP_vaultEvents (p : VaultEvent K → Bool) (log : List (Emitted K)) :
    ((log.map Emitted.event).filterMap Event.asVault).countP p =
      log.countP fun e => e.event.asVault.any p := by
  rw [List.countP_filterMap, List.countP_map]
  apply List.countP_congr
  intro e _
  rw [Function.comp_apply]
  cases e.event.asVault <;> simp

omit [AddressSpace K] in
theorem asksFor_row {e : Emitted K} {d : Demand K} (injective : Function.Injective r.key)
    (asks : (e.row r).asksFor (r.demand d) = true) :
    e.event.asVault.any (VaultEvent.asks d) = true := by
  obtain ⟨named, read⟩ := Bool.and_eq_true_iff.mp asks
  rw [Option.any_eq_true] at read
  obtain ⟨request, read, same⟩ := read
  obtain ⟨ev, key, d', event, made, -, demand⟩ := spendRequest_reads (of_decide_eq_true named) read
  have equal := Rendering.demand_inj injective (demand.symm.trans (of_decide_eq_true same))
  simp [event, Event.asVault, VaultEvent.asks, made, equal]

omit [AddressSpace K] in
theorem pays_row {e : Emitted K} {d : Demand K} (small : d.amountUsdc < 2 ^ 63)
    (pays : e.event.asVault.any (VaultEvent.pays d) = true) :
    (e.row r).pays (r.demand d) = true := by
  rw [Option.any_eq_true] at pays
  obtain ⟨ev, event, pays⟩ := pays
  obtain ⟨named, read⟩ := spendPayment_made (r := r) (Event.asVault_eq_some.mp event)
    (of_decide_eq_true pays) small
  rw [ParsedEvent.pays, read]
  simp [Emitted.row, named]

omit [AddressSpace K] in
/-- When the run approves all requests for a payment, they have payments of their own. -/
theorem served_rows {approved : List K} {d : Demand K} (injective : Function.Injective r.key)
    (small : d.amountUsdc < 2 ^ 63)
    (balance : ∀ rest, rest <:+ chain.vaultEvents → rest.countP (VaultEvent.asks d) ≤
      rest.countP (VaultEvent.pays d) + rest.countP (VaultEvent.unpaid d approved))
    (all : ∀ ev ∈ chain.vaultEvents, ∀ key, ev.request = some (key, d) → key ∈ approved) :
    Served (ParsedEvent.asksFor (r.demand d)) (ParsedEvent.pays (r.demand d))
      (chain.log.map (Emitted.row r)) := by
  apply Served.of_map
  intro rest part
  have inside : (rest.map Emitted.event).filterMap Event.asVault <:+ chain.vaultEvents :=
    (part.map Emitted.event).filterMap Event.asVault
  have settled : ((rest.map Emitted.event).filterMap Event.asVault).countP
      (VaultEvent.unpaid d approved) = 0 := by
    rw [List.countP_eq_zero]
    intro ev member unpaid
    obtain ⟨asks, unapproved⟩ := Bool.and_eq_true_iff.mp unpaid
    obtain ⟨⟨key, _⟩, made, rfl⟩ := Option.map_eq_some_iff.mp (of_decide_eq_true asks)
    have kept := all ev (inside.subset member) key made
    exact of_decide_eq_true unapproved key (by rw [made]; rfl) kept
  have enough := balance _ inside
  rw [settled, countP_vaultEvents, countP_vaultEvents] at enough
  refine le_trans (List.countP_mono_left fun e _ => asksFor_row injective) (le_trans enough ?_)
  exact List.countP_mono_left fun e _ => pays_row small

omit [DecidableEq K] [AddressSpace K] in
theorem foldl_dispatchOn (payment : SpendPayment S) (sr : SpendRuntime S)
    (served : Served (ParsedEvent.asksFor payment) (ParsedEvent.pays payment) batches.flatten)
    (rt : Runtime S) (zeroKey : S) :
    (deliverSpends rt zeroKey sr batches).pending.waiting payment = 0 := by
  rw [deliverSpends, foldl_pending]
  have later : Served (fun found => found.2.asksFor payment) (fun found => found.2.pays payment)
      (dispatched rt zeroKey SpendState.empty.db batches) := by
    rintro rest ⟨front, whole⟩
    have part := served (rest.map Prod.snd) ⟨front.map Prod.snd, by
      rw [← List.map_append, whole, dispatched_events]⟩
    rw [List.countP_map, List.countP_map] at part
    exact part
  refine later.drained (fun table found => waiting_dispatchSpend payment sr found.1 table found.2) _ ?_
  have whole := later.whole
  exact le_of_eq_of_le (Nat.zero_add _) whole

/-- The vault has a row once its creation is delivered. -/
theorem vault_present (reachable : Reachable chain) (vaults : VaultBounds chain)
    (agents : AgentBounds chain) (rt : Runtime S) (zeroKey : S) (injective : Function.Injective r.key)
    (given : ∀ batch ∈ batches, batch ⊆ chain.log.map (Emitted.row r)) {init : Emitted K}
    {v : K} {vault : CreditVault K} (present : chain.programs.vault.vaults v = some vault)
    (member : init ∈ chain.log) (creates : init.event = .vault (vault.creation v))
    (delivered : init.row r ∈ batches.flatten) :
    ∃ row, (deliver rt zeroKey .empty batches).vaults (r.key v) = some row := by
  have sound := reachable.sound
  have unique := keys_nodup sound.sorted r
  obtain ⟨table, made, drawn, touched, statement, shown⟩ := deliver_shown
    (rows_accepted reachable vaults agents rt zeroKey injective) unique given (.vault (r.key v))
  obtain ⟨entries, holds⟩ := drawn.holds
  have held : init ∈ entries := by
    rw [holds.mem_iff unique member]
    refine touched _ delivered ⟨touched_vault creates rfl, ?_⟩
    rw [vault_text, creates]
    rfl
  obtain ⟨made', row, -, done, present', -⟩ :=
    sound.refreshVault vaults rt zeroKey injective holds present held creates
  obtain rfl : made' = made := Except.ok.inj (done.symm.trans statement)
  exact ⟨row, shown.symm.trans present'⟩

/-- In chain order the creation of a vault is delivered before the requests on it. -/
theorem requested_vault_present (reachable : Reachable chain)
    (requested : Requested chain.programs.vault chain.vaultEvents) (vaults : VaultBounds chain)
    (agents : AgentBounds chain) (rt : Runtime S) (zeroKey : S)
    (injective : Function.Injective r.key) {earlier later : List (List (ParsedEvent S))}
    {batch : List (ParsedEvent S)}
    (ordered : (earlier ++ batch :: later).flatten = chain.log.map (Emitted.row r))
    {e : Emitted K} {ev : VaultEvent K} {key : K} {d : Demand K} (member : e ∈ chain.log)
    (event : e.event = .vault ev) (inside : ev ∈ chain.vaultEvents)
    (made : ev.request = some (key, d)) (held : e.row r ∈ batch) :
    ∃ row, (deliver rt zeroKey .empty (earlier ++ [batch])).vaults (r.key d.vault) = some row := by
  have sound := reachable.sound
  -- The log up to the request has been delivered.
  obtain ⟨front, back, rfl⟩ := List.append_of_mem held
  have whole : chain.log.map (Emitted.row r) =
      (earlier.flatten ++ front) ++ e.row r :: (back ++ later.flatten) := by
    rw [← ordered]
    simp
  obtain ⟨before, rest, split, first, second⟩ := List.map_eq_append_iff.mp whole
  obtain ⟨e', after, rfl, twin, -⟩ := List.map_eq_cons_iff.mp second
  have unique := keys_nodup sound.sorted r
  have inLog : e' ∈ chain.log := by
    rw [split]
    simp
  obtain rfl := List.inj_on_of_nodup_map unique.of_map inLog member twin
  have events : chain.vaultEvents = (before.map Emitted.event).filterMap Event.asVault ++
      ev :: (after.map Emitted.event).filterMap Event.asVault := by
    simp [Chain.vaultEvents, split, event, Event.asVault]
  -- The vault was created in it.
  obtain ⟨creation, earlierEvent, creates, about⟩ := requested.created _ ev _ events key d made
  obtain ⟨vault, n, there, -, -⟩ := requested.numbered ev inside key d made
  obtain ⟨policy, terms⟩ := sound.exists_policy there
  have recorded := (sound.recorded there terms).creation creation (by
    rw [events]
    exact List.mem_append_left _ earlierEvent) about creates
  obtain ⟨made', inBefore, asVault⟩ := List.mem_filterMap.mp earlierEvent
  obtain ⟨init, initMember, rfl⟩ := List.mem_map.mp inBefore
  refine vault_present reachable vaults agents rt zeroKey injective ?_ there ?_
    ((Event.asVault_eq_some.mp asVault).trans (congrArg Event.vault recorded)) ?_
  · intro each eachMember row rowMember
    rw [← ordered]
    refine List.mem_flatten.mpr ⟨each, ?_, rowMember⟩
    rcases List.mem_append.mp eachMember with one | other
    · exact List.mem_append_left _ one
    · rw [List.mem_singleton.mp other]
      exact List.mem_append_right _ List.mem_cons_self
  · rw [split]
    exact List.mem_append_left _ initMember
  · rw [List.flatten_append, List.flatten_singleton, ← List.append_assoc, ← first]
    exact List.mem_append_left _ (List.mem_map_of_mem initMember)

omit [DecidableEq K] [AddressSpace K] in
theorem extends_foldl (sr : SpendRuntime S) (found : List (Database S × ParsedEvent S))
    (table : PendingTable S) : table.Extends (found.foldl (dispatchOn sr) table) := by
  induction found generalizing table with
  | nil => exact .refl table
  | cons first rest ih =>
    exact (dispatchSpend_extends sr first.1 table first.2).trans (ih (dispatchOn sr table first))

/-- In chain order every request has its row. -/
theorem request_delivered (reachable : Reachable chain) (requested : Requested chain.programs.vault
      chain.vaultEvents) (vaults : VaultBounds chain) (agents : AgentBounds chain) (rt : Runtime S)
    (zeroKey : S) (sr : SpendRuntime S) (injective : Function.Injective r.key)
    (ordered : batches.flatten = chain.log.map (Emitted.row r)) {key : K} {d : Demand K}
    (made : Made chain.vaultEvents key d) (small : d.amountUsdc < 2 ^ 63) :
    ∃ row ∈ (deliverSpends rt zeroKey sr batches).pending.rows,
      row.pendingSpendPubkey = some (r.key key) := by
  obtain ⟨ev, inside, made⟩ := made
  obtain ⟨e, member, event⟩ := mem_vaultEvents.mp inside
  obtain ⟨named, request, read, address, demand⟩ := spendRequest_made (r := r) event made small
  -- The event is dispatched on the tables after its batch.
  have among : e.row r ∈ (dispatched rt zeroKey SpendState.empty.db batches).map Prod.snd := by
    rw [dispatched_events, ordered]
    exact List.mem_map_of_mem member
  obtain ⟨⟨db, row⟩, found, same⟩ := List.mem_map.mp among
  obtain rfl : row = e.row r := same
  obtain ⟨earlier, batch, later, rfl, held, rfl⟩ := mem_dispatched found
  obtain ⟨vaultRow, present⟩ := requested_vault_present reachable requested vaults agents rt zeroKey
    injective ordered member event inside made held
  have vaultKey : request.vault = r.key d.vault := (SpendPayment.mk.inj demand).1
  rw [← vaultKey] at present
  have positive : 0 < request.amountUsdc := by
    rw [(SpendPayment.mk.inj demand).2.2]
    exact Int.natCast_pos.mpr (requested.positive ev inside key d made)
  obtain ⟨front, back, split⟩ := List.append_of_mem found
  obtain ⟨row, inserted, at'⟩ := dispatchSpend_row named read present address positive sr
    (front.foldl (dispatchOn sr) SpendState.empty.pending)
  rw [deliverSpends, foldl_pending, split, List.foldl_append, List.foldl_cons]
  obtain ⟨row', kept, same⟩ := extends_foldl sr back _ row inserted
  exact ⟨row', kept, same.pendingSpendPubkey.trans at'⟩

/-! ### The truth of the rows -/

/-- Every request that some payment of the chain could be for is among the approved ones. -/
def PaidAreApproved (chain : Chain K) (approved : List K) : Prop :=
  ∀ ev ∈ chain.vaultEvents, ∀ asked ∈ ev.request, Paid chain.vaultEvents asked.2 →
    asked.1 ∈ approved

/-- A decided row was decided on chain. -/
structure TellsTruth (r : Rendering K S) (approved cancelled : List K) (row : PendingRow S) : Prop where
  approved : ∀ key, row.pendingSpendPubkey = some (r.key key) → row.status = .approved →
    key ∈ approved
  rejected : ∀ key, row.pendingSpendPubkey = some (r.key key) → row.status = .rejected →
    key ∈ cancelled

omit [DecidableEq S] in
theorem RowOf.truth (books : SpendBooks chain.programs (chain.log.map Emitted.event) (executed steps))
    (paid : PaidAreApproved chain (approvedIn steps)) (injective : Function.Injective r.key)
    {row : PendingRow S} (of : RowOf r chain.vaultEvents row) :
    TellsTruth r (approvedIn steps) (cancelledIn steps) row := by
  obtain ⟨⟨key, d, ⟨ev, member, made⟩, address, demand⟩, decided⟩ := of
  constructor
  · intro other named status
    obtain rfl := injective (Option.some.inj (address.symm.trans named))
    rcases decided with open' | ⟨-, d', payment, demand'⟩ | ⟨rejected, -⟩
    · rw [status] at open'
      cases open'
    · obtain rfl := Rendering.demand_inj injective (demand.symm.trans demand')
      exact paid ev member (key, d) made payment
    · rw [status] at rejected
      cases rejected
  · intro other named status
    obtain rfl := injective (Option.some.inj (address.symm.trans named))
    rcases decided with open' | ⟨approved, -⟩ | ⟨-, key', ⟨ev', member', rejects⟩, address'⟩
    · rw [status] at open'
      cases open'
    · rw [status] at approved
      cases approved
    · obtain rfl := injective (Option.some.inj (address.symm.trans address'))
      exact books.requests.rejected ev' member' key rejects

/-- Under the condition decided rows were decided on chain, whatever the deliveries, and in chain
order every approved request has an approved row. -/
theorem verdicts_true (genesis : Genesis start) (run : ChainRun start steps chain)
    (paid : PaidAreApproved chain (approvedIn steps)) (r : Rendering K S)
    (injective : Function.Injective r.key) (rt : Runtime S) (sr : SpendRuntime S) :
    (∀ batches, (∀ batch ∈ batches, batch ⊆ chain.log.map (Emitted.row r)) →
      ∀ row ∈ (deliverSpends rt (r.key defaultKey) sr batches).pending.rows,
        TellsTruth r (approvedIn steps) (cancelledIn steps) row) ∧
    (VaultBounds chain → AgentBounds chain →
      (∀ ev ∈ chain.vaultEvents, ∀ asked ∈ ev.request, asked.2.amountUsdc < 2 ^ 63) →
      ∀ batches, batches.flatten = chain.log.map (Emitted.row r) → ∀ key ∈ approvedIn steps,
        (∃ row ∈ (deliverSpends rt (r.key defaultKey) sr batches).pending.rows,
          row.pendingSpendPubkey = some (r.key key)) ∧
        ∀ row ∈ (deliverSpends rt (r.key defaultKey) sr batches).pending.rows,
          row.pendingSpendPubkey = some (r.key key) → row.status = .approved) := by
  have books := SpendBooks.of_run genesis run
  refine ⟨?_, ?_⟩
  · intro batches given row member
    exact (RowOf.deliver rt (r.key defaultKey) sr given row member).truth books paid injective
  · intro vaults agents small batches ordered key settled
    have reachable : Reachable chain :=
      ⟨start, steps, genesis, run, fun e _ => e.pre.meets_trivial e.act⟩
    have given : ∀ batch ∈ batches, batch ⊆ chain.log.map (Emitted.row r) := by
      intro batch among row inside
      rw [← ordered]
      exact List.mem_flatten.mpr ⟨batch, among, inside⟩
    -- The request was made once, so whatever row has its address is of this demand.
    obtain ⟨uncancelled, d, made, payment⟩ := books.requests.paid key settled
    have fits : d.amountUsdc < 2 ^ 63 := by
      obtain ⟨ev, member, asks⟩ := made
      exact small ev member (key, d) asks
    refine ⟨request_delivered reachable books.requests.requested vaults agents rt (r.key defaultKey)
      sr injective ordered made fits, ?_⟩
    intro row member named
    have of := RowOf.deliver rt (r.key defaultKey) sr given row member
    have truth := of.truth books paid injective
    obtain ⟨⟨key', d', made', address, demand⟩, decided⟩ := of
    obtain rfl := injective (Option.some.inj (address.symm.trans named))
    have same : d' = d := by
      obtain ⟨ev', member', asks'⟩ := made'
      obtain ⟨ev, member, asks⟩ := made
      exact books.requests.requested.one ev' member' ev member key' d' d asks' asks
    rcases decided with open' | ⟨approved, -⟩ | ⟨rejected, -⟩
    · -- Nobody waits for this payment any more.
      have served := served_rows injective fits (books.requests.balance d)
        fun ev member key asks => paid ev member (key, d) asks payment
      rw [← ordered] at served
      have nobody := foldl_dispatchOn (r.demand d) sr served rt (r.key defaultKey)
      rw [PendingTable.waiting, List.countP_eq_zero] at nobody
      obtain ⟨vault, service, amount⟩ := SpendPayment.mk.inj (same ▸ demand)
      exact absurd (decide_eq_true ⟨vault, service, amount, open'⟩) (nobody row member)
    · exact approved
    · exact absurd (truth.rejected key' named rejected) uncancelled

end Rows

/-! ### A chain on symbolic keys -/

instance (events : List (VaultEvent K)) (d : Demand K) : Decidable (Paid events d) :=
  inferInstanceAs (Decidable (∃ ev ∈ events, _))

instance (chain : Chain K) (approved : List K) : Decidable (PaidAreApproved chain approved) :=
  inferInstanceAs (Decidable (∀ ev ∈ chain.vaultEvents, ∀ asked ∈ ev.request, _ → _))

/-- Rows are inserted one unit of time apart, and their alerts are numbered like them. -/
def SpendRuntime.standard : SpendRuntime S := ⟨.leftmost _, fun id => id, some⟩

namespace Market

open SymbolicKey

/-- The run of a list of actions. -/
theorem chainRun (acts : List (ChainAction SymbolicKey)) :
    ChainRun genesis (Transition.trace Chain.step genesis acts) (after acts) :=
  .of_trace _ _ acts

end Market

/-- A request and its approval, after a payment of another amount. -/
theorem verdicts_true_market :
    let acts := [Market.transaction "open" Vault.Market.opening,
      Market.transaction "create" [Vault.Market.create 0 0 0 true, Vault.Market.deposit 50],
      Market.transaction "request" [Vault.Market.request 20 0, Vault.Market.spend 5],
      Market.transaction "approve" [Vault.Market.approve 0]]
    ∃ row ∈ (deliverSpends .standard (Market.plain.key defaultKey) .standard
        (Market.batches acts)).pending.rows,
      row.pendingSpendPubkey = some (Market.plain.key (pendingAddress Vault.Market.vault 0)) ∧
        row.status = .approved := by
  intro acts
  have silent : (Market.after acts).reputationEvents = [] := by decide +kernel
  have sound := (Market.reachable acts).sound
  have agents : AgentBounds (Market.after acts) := by
    refine ⟨by decide +kernel, fun key profile present => ?_⟩
    have created := (sound.books.reputation.agents key profile present).created
    rw [← Chain.reputationEvents, silent] at created
    cases created
  have terms : ∀ ev ∈ (Market.after acts).vaultEvents, ev.newTerms = none := by decide +kernel
  have vaults : VaultBounds (Market.after acts) := by
    refine ⟨by decide +kernel, Market.totals_small (by decide +kernel) (by decide +kernel), ?_⟩
    intro ev member t wrote
    rw [terms ev member] at wrote
    cases wrote
  obtain ⟨-, delivered⟩ := verdicts_true Market.genesis_genesis (Market.chainRun acts)
    (by decide +kernel) Market.plain Function.injective_id .standard .standard
  obtain ⟨⟨row, member, named⟩, approved⟩ := delivered vaults agents (by decide +kernel)
    (Market.batches acts) (List.flatten_singleton) (pendingAddress Vault.Market.vault 0)
    (by decide +kernel)
  exact ⟨row, member, named, approved row member named⟩

/-- A payment that was never requested is taken for the request of the same amount. -/
theorem payment_mistaken :
    let acts := [Market.transaction "open" Vault.Market.opening,
      Market.transaction "create" [Vault.Market.create 0 0 0 true, Vault.Market.deposit 50],
      Market.transaction "request" [Vault.Market.request 20 0],
      Market.transaction "spend" [Vault.Market.spend 20]]
    Genesis Market.genesis ∧
    ChainRun Market.genesis (Transition.trace Chain.step Market.genesis acts) (Market.after acts) ∧
    (Market.batches acts).flatten = (Market.after acts).log.map (Emitted.row Market.plain) ∧
    approvedIn (Transition.trace Chain.step Market.genesis acts) = [] ∧
    ∃ row ∈ (deliverSpends .standard (Market.plain.key defaultKey) .standard
        (Market.batches acts)).pending.rows,
      row.pendingSpendPubkey = some (Market.plain.key (pendingAddress Vault.Market.vault 0)) ∧
        row.status = .approved :=
  ⟨Market.genesis_genesis, Market.chainRun _, List.flatten_singleton, by decide +kernel,
    by decide +kernel⟩

end AgentFuel.Backend
