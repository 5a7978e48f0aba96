import AgentFuel.Backend.Handlers
import AgentFuel.Library.History

/-!
# What decides a row

The decision of a pending spend, statement by statement: which ones decide the row, and which have
found it undecided when they did.
-/
namespace AgentFuel.Backend.Handlers

open Spends

/-! ### Decisions in the table -/

/-- The decision of a row, once there is one. -/
def verdict (table : PendingTable String) (id : Nat) : Option SpendStatus :=
  (table.rows.find? fun row => Decidable.decide (row.id = id)).bind fun row =>
    if row.status = .pending then none else some row.status

/-- `pending_spends_pubkey_uniq` -/
def OneRow (table : PendingTable String) : Prop :=
  ∀ row ∈ table.rows, ∀ other ∈ table.rows, ∀ key, row.pendingSpendPubkey = some key →
    other.pendingSpendPubkey = some key → row = other

variable {table table' : PendingTable String} {id : Nat} {status : SpendStatus}
  {row : PendingRow String}

theorem verdict_eq_some : verdict table id = some status ↔
    ∃ row ∈ table.rows, row.id = id ∧ row.status = status ∧ status ≠ .pending := by
  unfold verdict
  rw [Option.bind_eq_some_iff]
  constructor
  · rintro ⟨row, found, decided⟩
    have same := List.find?_some found
    split at decided
    · cases decided
    next settled =>
      obtain rfl := Option.some.inj decided
      exact ⟨row, List.mem_of_find?_eq_some found, of_decide_eq_true same, rfl, settled⟩
  · rintro ⟨row, member, rfl, rfl, settled⟩
    exact ⟨row, PendingTable.find?_id member, if_neg settled⟩

/-- Rewriting other columns leaves the decisions. -/
theorem verdict_rewrite {f : PendingRow String → PendingRow String}
    (rows : table'.rows = table.rows.map f) (ids : ∀ row, (f row).id = row.id)
    (statuses : ∀ row, (f row).status = row.status) : verdict table' id = verdict table id := by
  ext status
  rw [verdict_eq_some, verdict_eq_some, rows]
  constructor
  · rintro ⟨_, member, rfl, rfl, settled⟩
    obtain ⟨row, inside, rfl⟩ := List.mem_map.mp member
    exact ⟨row, inside, (ids row).symm, (statuses row).symm, settled⟩
  · rintro ⟨row, inside, rfl, rfl, settled⟩
    exact ⟨f row, List.mem_map_of_mem inside, ids row, statuses row, settled⟩

/-- A new row is not decided. -/
theorem verdict_insert (waits : row.status = .pending) (rows : table'.rows = table.rows ++ [row]) :
    verdict table' id = verdict table id := by
  ext status
  rw [verdict_eq_some, verdict_eq_some, rows]
  constructor
  · rintro ⟨other, member, rfl, rfl, settled⟩
    rcases List.mem_append.mp member with old | new
    · exact ⟨other, old, rfl, rfl, settled⟩
    · rw [List.mem_singleton.mp new] at settled
      exact absurd waits settled
  · rintro ⟨other, member, rest⟩
    exact ⟨other, List.mem_append_left _ member, rest⟩

/-- An update that hits one row decides it and no other. -/
theorem verdict_update {hit : PendingRow String → Bool} {decided : SpendStatus}
    (settled : decided ≠ .pending) (member : row ∈ table.rows) (hits : hit row = true)
    (alone : ∀ other ∈ table.rows, hit other = true → other = row)
    (rows : table'.rows = table.rows.map fun r => if hit r = true then { r with status := decided } else r) :
    verdict table' id = if row.id = id then some decided else verdict table id := by
  ext status
  rw [verdict_eq_some, rows]
  constructor
  · rintro ⟨_, changed, rfl, rfl, was⟩
    obtain ⟨other, inside, rfl⟩ := List.mem_map.mp changed
    by_cases here : hit other = true
    · obtain rfl := alone other inside here
      rw [if_pos here, if_pos rfl]
    · rw [if_neg here] at was ⊢
      -- Another row with this number would be the same row.
      have apart : row.id ≠ other.id := by
        intro same
        rw [PendingTable.eq_of_id member inside same] at hits
        exact here hits
      rw [if_neg apart]
      exact verdict_eq_some.mpr ⟨other, inside, rfl, rfl, was⟩
  · split
    next same =>
      rintro ⟨⟩
      exact ⟨_, List.mem_map_of_mem member, by rw [if_pos hits, same], by rw [if_pos hits], settled⟩
    next apart =>
      intro before
      obtain ⟨other, inside, rfl, rfl, was⟩ := verdict_eq_some.mp before
      refine ⟨other, List.mem_map.mpr ⟨other, inside, if_neg fun here => ?_⟩, rfl, rfl, was⟩
      exact apart (congrArg PendingRow.id (alone other inside here)).symm

theorem verdict_eq_none (waits : row.status = .pending) (member : row ∈ table.rows) :
    verdict table row.id = none := by
  cases decided : verdict table row.id with
  | none => rfl
  | some status =>
    obtain ⟨other, inside, same, rfl, settled⟩ := verdict_eq_some.mp decided
    rw [PendingTable.eq_of_id inside member same] at settled
    exact absurd waits settled

theorem OneRow.rewrite {f : PendingRow String → PendingRow String} (one : OneRow table)
    (rows : table'.rows = table.rows.map f)
    (keys : ∀ row, (f row).pendingSpendPubkey = row.pendingSpendPubkey) : OneRow table' := by
  rw [OneRow, rows]
  intro _ first _ second key here there
  obtain ⟨row, inside, rfl⟩ := List.mem_map.mp first
  obtain ⟨other, within, rfl⟩ := List.mem_map.mp second
  rw [one row inside other within key ((keys row).symm.trans here) ((keys other).symm.trans there)]

theorem OneRow.insert (one : OneRow table) (rows : table'.rows = table.rows ++ [row])
    (new : ∀ key, row.pendingSpendPubkey = some key → ∀ other ∈ table.rows,
      other.pendingSpendPubkey ≠ some key) : OneRow table' := by
  rw [OneRow, rows]
  intro first member second member' key here there
  rcases List.mem_append.mp member with old | fresh <;>
    rcases List.mem_append.mp member' with old' | fresh'
  · exact one first old second old' key here there
  · rw [List.mem_singleton.mp fresh'] at there
    exact absurd here (new key there first old)
  · rw [List.mem_singleton.mp fresh] at here
    exact absurd there (new key here second old')
  · rw [List.mem_singleton.mp fresh, List.mem_singleton.mp fresh']

/-! ### What a statement decides -/

/-- A decision, as far as it is one of the row. -/
def forRow (id : Nat) (taken : Option (Nat × SpendStatus)) : Option SpendStatus :=
  taken.bind fun entry => if entry.1 = id then some entry.2 else none

theorem forRow_eq_some {taken : Option (Nat × SpendStatus)} :
    forRow id taken = some status ↔ taken = some (id, status) := by
  unfold forRow
  cases taken with
  | none => simp
  | some entry => simp [Prod.ext_iff]

/-- A statement took the table to another one and decided this row, if any. -/
structure Decides (table table' : PendingTable String) (taken : Option (Nat × SpendStatus)) : Prop where
  one : OneRow table → OneRow table'
  verdicts : ∀ id, verdict table' id = (forRow id taken).or (verdict table id)

theorem Decides.nothing (one : OneRow table → OneRow table')
    (same : ∀ id, verdict table' id = verdict table id) : Decides table table' none where
  one := one
  verdicts := same

theorem Decides.refl (table : PendingTable String) : Decides table table none :=
  .nothing id fun _ => rfl

/-- An update by a condition that one row meets at most. -/
theorem Decides.update (table : PendingTable String) (hit : PendingRow String → Bool)
    {decided : SpendStatus} (settled : decided ≠ .pending)
    (alone : ∀ row ∈ table.rows, ∀ other ∈ table.rows, hit row = true → hit other = true → other = row) :
    Decides table (table.updateWhere hit (fun row => { row with status := decided }) fun _ => rfl)
      ((table.rows.find? hit).map fun row => (row.id, decided)) := by
  have keys : OneRow table →
      OneRow (table.updateWhere hit (fun row => { row with status := decided }) fun _ => rfl) := by
    refine fun one => one.rewrite rfl ?_
    intro row
    split <;> rfl
  cases found : table.rows.find? hit with
  | none =>
    -- Nothing is hit, so the table is the same.
    rw [List.find?_eq_none] at found
    have same : table.rows.map (fun row => if hit row = true then { row with status := decided } else row) =
        table.rows := by
      calc _ = table.rows.map id := by
            apply List.map_congr_left
            intro row member
            rw [if_neg (found row member), id]
        _ = table.rows := List.map_id _
    refine .nothing keys fun id => ?_
    have rows : (table.updateWhere hit (fun row => { row with status := decided }) fun _ => rfl).rows =
        table.rows := same
    rw [verdict, verdict, rows]
  | some row =>
    have member := List.mem_of_find?_eq_some found
    have hits := List.find?_some found
    refine ⟨keys, fun id => ?_⟩
    rw [verdict_update settled member hits (fun other inside => alone row member other inside hits) rfl]
    simp only [Option.map_some, forRow, Option.bind_some]
    split <;> rfl

theorem decideRow_decides (table : PendingTable String) (decision : Decision) (id : Int)
    (owner : String) : Decides table (decideRow table decision id owner).1
      ((decideRow table decision id owner).2.map fun answer => (id.toNat, answer.1)) := by
  have settled : decision.newStatus ≠ .pending := by cases decision <;> simp [Decision.newStatus]
  have update := Decides.update table
    (fun row => Decidable.decide ((row.id : Int) = id ∧ row.owner = owner ∧ row.status = .pending)) settled
    (fun row member other inside here there => by
      have same := (of_decide_eq_true there).1.trans (of_decide_eq_true here).1.symm
      exact PendingTable.eq_of_id inside member (Int.ofNat.inj same))
  unfold decideRow
  dsimp only
  cases found : table.rows.find? fun row =>
      Decidable.decide ((row.id : Int) = id ∧ row.owner = owner ∧ row.status = .pending) with
  | none =>
    rw [found] at update
    exact update
  | some row =>
    rw [found] at update
    have hits := List.find?_some found
    have named : (row.id : Int) = id := (of_decide_eq_true hits).1
    have number : id.toNat = row.id := by omega
    simp only [Option.map_some, number]
    exact update

/-- An approval decides its row whatever the row's status is. -/
theorem approveRow_decides (table : PendingTable String) (id : Nat) :
    Decides table (approveRow table id).1 ((approveRow table id).2.map fun _ => (id, .approved)) := by
  have settled : SpendStatus.approved ≠ .pending := by simp
  have update := Decides.update table (fun row => Decidable.decide (row.id = id)) settled
    (fun row inside other within here there =>
      PendingTable.eq_of_id within inside ((of_decide_eq_true there).trans (of_decide_eq_true here).symm))
  unfold approveRow
  dsimp only
  cases found : table.rows.find? fun row => Decidable.decide (row.id = id) with
  | none =>
    rw [found] at update
    exact update
  | some row =>
    rw [found] at update
    have hits := List.find?_some found
    obtain rfl : row.id = id := of_decide_eq_true hits
    exact update

theorem reject_decides (one : OneRow table) (key : String) :
    Decides table (table.reject key).1
      ((table.reject key).2.map fun row => (row.id, .rejected)) := by
  have settled : SpendStatus.rejected ≠ .pending := by simp
  have update := Decides.update table (PendingRow.isOpen key) settled
    (fun row inside other within here there =>
      one other within row inside key (of_decide_eq_true there).1 (of_decide_eq_true here).1)
  unfold PendingTable.reject
  rw [Option.map_map]
  exact update

theorem request_decides (owner : String) (request : SpendRequest String) (createdAt : Int)
    (table : PendingTable String) : Decides table (table.request owner request createdAt).1 none := by
  unfold PendingTable.request
  split
  · exact .nothing id fun _ => rfl
  · split
    next old found =>
      refine .nothing (fun one => ?_) fun id => ?_
      · refine one.rewrite rfl ?_
        intro row
        split <;> rfl
      · refine verdict_rewrite rfl ?_ ?_
        · intro row
          split <;> rfl
        · intro row
          split <;> rfl
    next unknown =>
      refine .nothing (fun one => ?_) fun id => verdict_insert rfl rfl
      refine one.insert rfl ?_
      -- The key was looked for and no row has it.
      intro key named other member held
      dsimp only at named
      rw [named, Option.bind_some, List.find?_eq_none] at unknown
      exact unknown other member (decide_eq_true held)

theorem setAlert_decides (pendingId alertId : Nat) (table : PendingTable String) :
    Decides table (table.setAlert pendingId alertId) none := by
  refine .nothing (fun one => ?_) fun id => ?_
  · refine one.rewrite rfl ?_
    intro row
    split <;> rfl
  · refine verdict_rewrite rfl ?_ ?_
    · intro row
      split <;> rfl
    · intro row
      split <;> rfl

/-! ### Rows found undecided -/

theorem decideRow_waits {decision : Decision} {number : Int} {owner : String}
    {answer : SpendStatus × Option Nat} (told : (decideRow table decision number owner).2 = some answer) :
    verdict table number.toNat = none := by
  obtain ⟨row, found, -⟩ := Option.map_eq_some_iff.mp told
  have hits := List.find?_some found
  obtain ⟨named, -, waits⟩ := of_decide_eq_true hits
  have number : number.toNat = row.id := by omega
  rw [number]
  exact verdict_eq_none waits (List.mem_of_find?_eq_some found)

theorem reject_waits {key : String} (told : (table.reject key).2 = some row) :
    verdict table row.id = none := by
  obtain ⟨old, found, rfl⟩ := Option.map_eq_some_iff.mp told
  have hits := List.find?_some found
  have waits : verdict table old.id = none :=
    verdict_eq_none (of_decide_eq_true hits).2 (List.mem_of_find?_eq_some found)
  exact waits

/-- The sub-select names a row that awaits the payment. -/
theorem oldestRow_awaits {dr : DispatchRuntime} {payment : SpendPayment String}
    (chosen : oldestRow dr table payment = some id) :
    ∃ row ∈ table.rows, row.id = id ∧ row.awaits payment = true := by
  obtain ⟨row, found, rfl⟩ := Option.map_eq_some_iff.mp chosen
  obtain ⟨member, awaits⟩ := List.mem_filter.mp (dr.oldest.pick_mem found)
  exact ⟨row, member, rfl, awaits⟩

theorem oldestRow_waits {dr : DispatchRuntime} {payment : SpendPayment String}
    (chosen : oldestRow dr table payment = some id) : verdict table id = none := by
  obtain ⟨row, member, rfl, awaits⟩ := oldestRow_awaits chosen
  exact verdict_eq_none (of_decide_eq_true awaits).2.2.2 member

/-! ### What an answer decides -/

open Dialogue

/-- The row that an exchange decided, and how. -/
def decided : Asked → Option (Nat × SpendStatus)
  | ⟨.decide _ id _, .ok (.ok row)⟩ =>
    Option.map (fun (answer : SpendStatus × Option Nat) => (id.toNat, answer.1)) row
  | ⟨.approve id, .ok (.ok row)⟩ =>
    Option.map (fun (_ : PendingRow String) => (id, SpendStatus.approved)) row
  | ⟨.reject _, .ok (.ok row)⟩ =>
    Option.map (fun (row : PendingRow String) => (row.id, SpendStatus.rejected)) row
  | _ => none

/-- The exchange has found the row undecided. -/
def foundOpen : Asked → Nat → Prop
  | ⟨.oldestPending _, .ok (.ok chosen)⟩, id => chosen = some id
  | ⟨.decide _ number _, .ok (.ok row)⟩, id => Option.isSome row = true ∧ number.toNat = id
  | ⟨.reject _, .ok (.ok row)⟩, id => Option.map PendingRow.id row = some id
  | _, _ => False

variable {rt : RequestRuntime} {dr : DispatchRuntime} {s : State} {q : Query}

theorem execute_decides (one : OneRow s.pending) (q : Query) :
    Decides s.pending (execute rt dr s q).1.pending (decided ⟨q, .ok (execute rt dr s q).2⟩) := by
  cases q with
  | insertPending owner req =>
    refine .nothing (fun one => ?_) fun id => verdict_insert rfl rfl
    refine one.insert rfl ?_
    intro key named
    cases named
  | upsertPending owner request =>
    exact request_decides owner request (dr.now s.pending.nextId) s.pending
  | linkAlert alertId pendingId => exact setAlert_decides pendingId alertId s.pending
  | decide decision id owner => exact decideRow_decides s.pending decision id owner
  | approve id => exact approveRow_decides s.pending id
  | reject key => exact reject_decides one key
  | _ => exact .refl s.pending

theorem answer_decides (rt : RequestRuntime) (dr : DispatchRuntime) (one : OneRow s.pending)
    (succeeds : Bool) (q : Query) :
    Decides s.pending (answer rt dr s succeeds q).1.pending
      (decided ⟨q, .ok (answer rt dr s succeeds q).2⟩) := by
  cases succeeds with
  | true =>
    rw [answer_true]
    exact execute_decides one q
  | false =>
    -- A statement that failed decides nothing.
    cases q <;> exact .refl s.pending

theorem answer_open (rt : RequestRuntime) (dr : DispatchRuntime) (succeeds : Bool) (q : Query) {id : Nat}
    (found : foundOpen ⟨q, .ok (answer rt dr s succeeds q).2⟩ id) : verdict s.pending id = none := by
  cases succeeds with
  | false => cases q <;> cases found
  | true =>
    rw [answer_true] at found
    cases q with
    | oldestPending payment => exact oldestRow_waits found
    | decide decision number owner =>
      obtain ⟨some, rfl⟩ := found
      obtain ⟨answer, told⟩ := Option.isSome_iff_exists.mp some
      exact decideRow_waits told
    | reject key =>
      obtain ⟨row, told, rfl⟩ := Option.map_eq_some_iff.mp found
      exact reject_waits told
    | _ => cases found

/-- A row has the last decision that a statement made of it, and what was found undecided was so. -/
theorem verdict_cells (rt : RequestRuntime) (dr : DispatchRuntime) :
    Pool.Cells (desk rt dr) (fun s => OneRow s.pending) (fun s => verdict s.pending)
      (fun id x => forRow id (decided x)) foundOpen where
  answered s succeeds q one := (answer_decides rt dr one succeeds q).one one
  values s succeeds q one := (answer_decides rt dr one succeeds q).verdicts
  empty s succeeds q one id found := answer_open rt dr succeeds q found
  dropped q e id := by cases q <;> exact ⟨rfl, fun found => by cases found⟩
  moved s m one := ⟨one, fun _ => rfl⟩

end AgentFuel.Backend.Handlers
