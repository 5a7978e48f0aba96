import AgentFuel.Backend.Pipeline
import AgentFuel.Backend.Rerun

/-!
# Rows of all tables

A refresh that reaches an entity computes its row afresh and writes it over the one that is there,
but for the columns that only an insertion gives. The deliveries leave what the refreshes that
reach the entity write, one over the other.
-/
namespace AgentFuel.Backend

open Checked FirstFailure

variable {S : Type} [DecidableEq S]

inductive MirrorRow (S : Type) where
  | agent (row : AgentRow S)
  | service (row : ServiceRow S)
  | vault (row : VaultRow S)

/-- The slot that a row has without any activity. -/
def MirrorRow.initSlot : MirrorRow S → Int
  | agent row => row.initSlot
  | service row => row.initSlot
  | vault row => row.createdSlot

def MirrorRow.lastActiveSlot : MirrorRow S → Int
  | agent row => row.lastActiveSlot
  | service row => row.lastActiveSlot
  | vault row => row.lastActiveSlot

/-- What an update writes over a row that exists. -/
def MirrorRow.onto : Option (MirrorRow S) → MirrorRow S → MirrorRow S
  | some (agent old), agent row => .agent { row with owner := old.owner, initSlot := old.initSlot }
  | some (service old), service row => .service { row with initSlot := old.initSlot }
  | some (vault old), vault row => .vault { row with
      owner := old.owner, agent := old.agent, usdcMint := old.usdcMint
      vaultTokenAccount := old.vaultTokenAccount, createdSlot := old.createdSlot }
  | _, row => row

/-- The columns that an update keeps are those of this event. -/
def MirrorRow.MadeBy (init : ParsedEvent S) : MirrorRow S → Prop
  | agent row => init.text "owner" = some row.owner ∧ init.integer 64 "init_slot" = .ok (some row.initSlot)
  | service row => init.integer 64 "init_slot" = .ok (some row.initSlot)
  | vault row => init.text "owner" = some row.owner ∧ init.text "agent" = some row.agent ∧
      init.text "usdc_mint" = some row.usdcMint ∧
      init.text "vault_token_account" = some row.vaultTokenAccount ∧
      init.integer 64 "slot" = .ok (some row.createdSlot)

omit [DecidableEq S] in
/-- Rows made by one event have the columns in common that an update keeps. -/
theorem MirrorRow.onto_eq {init : ParsedEvent S} {old row : MirrorRow S} (before : old.MadeBy init)
    (now : row.MadeBy init) : row.onto (some old) = row := by
  cases old with
  | agent old =>
    cases row with
    | agent row =>
      have owner := Option.some.inj (before.1.symm.trans now.1)
      have slot := Option.some.inj (Except.ok.inj (before.2.symm.trans now.2))
      rw [onto, owner, slot]
    | service row => rfl
    | vault row => rfl
  | service old =>
    cases row with
    | service row =>
      have slot := Option.some.inj (Except.ok.inj (Eq.trans (Eq.symm before) now))
      rw [onto, slot]
    | agent row => rfl
    | vault row => rfl
  | vault old =>
    cases row with
    | vault row =>
      obtain ⟨owner, agent, mint, account, slot⟩ := before
      obtain ⟨owner', agent', mint', account', slot'⟩ := now
      rw [onto, Option.some.inj (owner.symm.trans owner'), Option.some.inj (agent.symm.trans agent'),
        Option.some.inj (mint.symm.trans mint'), Option.some.inj (account.symm.trans account'),
        Option.some.inj (Except.ok.inj (slot.symm.trans slot'))]
    | agent row => rfl
    | service row => rfl

def Entity.rowIn : Entity S → Database S → Option (MirrorRow S)
  | agent key, db => (db.agents key).map .agent
  | service key, db => (db.services key).map .service
  | vault key, db => (db.vaults key).map .vault

/-- The select list of the statement of an entity. -/
def Entity.compute (rt : Runtime S) (zeroKey : S) (events : List (ParsedEvent S))
    (init : ParsedEvent S) : Entity S → Except SqlError (MirrorRow S)
  | agent key => .agent <$> agentRow rt events key init
  | service key => .service <$> serviceRow rt events key init
  | vault key => .vault <$> vaultRow rt events key zeroKey init

/-- The `MAX(slot)` of the events that name an entity. -/
def Entity.lastActive (events : List (ParsedEvent S)) (init : Int) : Entity S → Int
  | agent key => Backend.lastActive events key "agent" init
  | service key => Backend.lastActive events key "service" init
  | vault key => Backend.lastActive events key "vault" init

variable {rt : Runtime S} {zeroKey : S} {db made : Database S} {entity : Entity S}
  {events extra : List (ParsedEvent S)} {init : ParsedEvent S} {row : MirrorRow S}
  {found : Option (MirrorRow S)}

theorem Entity.compute_ok (done : entity.compute rt zeroKey events init = .ok row) :
    row.MadeBy init ∧ row.lastActiveSlot = entity.lastActive events row.initSlot := by
  cases entity with
  | agent key =>
    simp only [compute, agentRow, map_eq_ok, bind_eq_ok, okOr_eq_ok, pure_eq_ok] at done
    obtain ⟨_, ⟨_, owner, _, slot, _, rfl, _, -, _, -, _, -, _, -, _, -, _, -, _, -, _, -, _, -, _, -,
      _, -, rfl⟩, rfl⟩ := done
    exact ⟨⟨owner, slot⟩, rfl⟩
  | service key =>
    simp only [compute, serviceRow, map_eq_ok, bind_eq_ok, okOr_eq_ok, pure_eq_ok] at done
    obtain ⟨_, ⟨_, -, _, -, _, -, _, -, _, slot, _, rfl, _, -, _, -, _, -, _, -, rfl⟩, rfl⟩ := done
    exact ⟨slot, rfl⟩
  | vault key =>
    simp only [compute, vaultRow, map_eq_ok, bind_eq_ok, okOr_eq_ok, pure_eq_ok] at done
    obtain ⟨_, ⟨_, owner, _, agent, _, mint, _, account, _, -, _, -, _, -, _, -, _, -, _, -, _, -,
      _, -, _, -, _, -, _, slot, _, rfl, rfl⟩, rfl⟩ := done
    exact ⟨⟨owner, agent, mint, account, slot⟩, rfl⟩

omit [DecidableEq S] in
theorem limitOne_single {α κ : Type} [LinearOrder κ] {key : ParsedEvent S → κ} (first : FirstBy key)
    (eager : Bool) (row : ParsedEvent S) (select : ParsedEvent S → Except SqlError α) :
    limitOne first eager [row] select = some <$> select row := by
  obtain ⟨picked, found⟩ := first.exists_pick (List.mem_singleton_self row)
  obtain rfl := List.mem_singleton.mp (first.pick_mem found)
  unfold limitOne
  rw [found]
  cases eager with
  | false => rfl
  | true =>
    cases outcome : select picked with
    | error e =>
      simp [outcome]
      rfl
    | ok a =>
      have dropped : [picked].forM (fun row => discard (select row)) = .ok () := by
        apply forM_total
        intro row member
        rw [List.mem_singleton.mp member, outcome]
        exact ⟨(), rfl⟩
      rw [dropped]
      exact congrArg (Functor.map some) outcome

omit [DecidableEq S] in
theorem limitOne_map {α β κ : Type} [LinearOrder κ] {key : ParsedEvent S → κ} (first : FirstBy key)
    (eager : Bool) (rows : List (ParsedEvent S)) (g : α → β) (select : ParsedEvent S → Except SqlError α) :
    limitOne first eager rows (fun row => g <$> select row) =
      Option.map g <$> limitOne first eager rows select := by
  have dropped : (fun row => discard (g <$> select row)) = fun row => discard (select row) := by
    funext row
    cases select row <;> rfl
  have mapped : ∀ value : Except SqlError α,
      some <$> (g <$> value) = Option.map g <$> (some <$> value) := by
    intro value
    cases value <;> rfl
  unfold limitOne
  rw [dropped]
  cases eager with
  | false =>
    cases first.pick rows with
    | none => rfl
    | some row => exact mapped (select row)
  | true =>
    cases rows.forM fun row => discard (select row) with
    | error e => rfl
    | ok =>
      cases first.pick rows with
      | none => rfl
      | some row => exact mapped (select row)

/-- The row that the statement of an entity computes, where the event that makes one is there. -/
def Entity.statement (rt : Runtime S) (zeroKey : S) (events : List (ParsedEvent S)) (entity : Entity S) :
    Except SqlError (Option (MirrorRow S)) :=
  limitOne rt.earliest rt.eager (entity.inits events) fun init => entity.compute rt zeroKey events init

theorem Entity.statement_single (one : entity.inits events = [init]) :
    entity.statement rt zeroKey events = some <$> entity.compute rt zeroKey events init := by
  rw [statement, one, limitOne_single]

/-- The statement writes what it computes over the row that is there. -/
theorem Entity.refresh_statement (done : entity.refresh rt zeroKey db = .ok made) :
    ∃ found, entity.statement rt zeroKey db.events = .ok found ∧
      entity.rowIn made = found.elim (entity.rowIn db) fun row => some (row.onto (entity.rowIn db)) := by
  cases entity with
  | agent key =>
    simp only [refresh, refreshAgent, bind_eq_ok] at done
    obtain ⟨found, computed, done⟩ := done
    refine ⟨found.map .agent, (limitOne_map ..).trans (congrArg _ computed), ?_⟩
    cases found <;> obtain rfl := Except.ok.inj done
    · rfl
    · simp only [rowIn, Function.update_self]
      cases db.agents key <;> rfl
  | service key =>
    simp only [refresh, refreshService, bind_eq_ok] at done
    obtain ⟨found, computed, done⟩ := done
    refine ⟨found.map .service, (limitOne_map ..).trans (congrArg _ computed), ?_⟩
    cases found <;> obtain rfl := Except.ok.inj done
    · rfl
    · simp only [rowIn, Function.update_self]
      cases db.services key <;> rfl
  | vault key =>
    simp only [refresh, refreshVault, bind_eq_ok] at done
    obtain ⟨found, computed, done⟩ := done
    refine ⟨found.map .vault, (limitOne_map ..).trans (congrArg _ computed), ?_⟩
    cases found <;> obtain rfl := Except.ok.inj done
    · rfl
    · simp only [rowIn, Function.update_self]
      cases db.vaults key <;> rfl

/-- The row that the refresh of a batch computes for an entity: none if a statement up to that of the
entity is refused, or if nothing has made the entity. -/
def Entity.refreshed (rt : Runtime S) (zeroKey : S) (table batch : List (ParsedEvent S))
    (entity : Entity S) : Option (MirrorRow S) :=
  if entity ∈ (rt.order (affected batch)).entities.takeWhile fun other =>
      (other.statement rt zeroKey table).isOk then
    (entity.statement rt zeroKey table).toOption.join
  else none

/-- The rows that the refreshes of deliveries compute for the entity, from a table on. -/
def Entity.refreshes (rt : Runtime S) (zeroKey : S) (entity : Entity S) (table : List (ParsedEvent S)) :
    List (List (ParsedEvent S)) → List (MirrorRow S)
  | [] => []
  | batch :: rest =>
    let table := insertEvents table batch
    (entity.refreshed rt zeroKey table batch).toList ++ entity.refreshes rt zeroKey table rest

/-- The row belongs to the table of the entity. -/
def MirrorRow.Fits : Entity S → MirrorRow S → Prop
  | .agent _, .agent _ | .service _, .service _ | .vault _, .vault _ => True
  | _, _ => False

end AgentFuel.Backend
