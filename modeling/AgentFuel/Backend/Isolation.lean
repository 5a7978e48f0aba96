import AgentFuel.Backend.Mirror
import AgentFuel.Library.FirstFailure
import Mathlib.Data.List.Dedup

/-!
# One entity and the others

A refresh runs one statement for each key it affects and stops at the first that the database
refuses. Which keys come before which is up to the iteration of three hash sets.
-/
namespace AgentFuel.Backend

open Checked FirstFailure

/-- A mirror row, by its table and its key. -/
inductive Entity (S : Type) where
  | agent (key : S)
  | service (key : S)
  | vault (key : S)
  deriving DecidableEq

/-- The order in which `refresh` goes through the tables. -/
def Entity.table {S : Type} : Entity S → Nat
  | agent _ => 0
  | service _ => 1
  | vault _ => 2

/-- The events that name the entity. -/
def Entity.ownEvents {S : Type} [DecidableEq S] (events : List (ParsedEvent S)) :
    Entity S → List (ParsedEvent S)
  | agent key => mentioning "agent" key events
  | service key => mentioning "service" key events
  | vault key => mentioning "vault" key events

/-- The numbers in the payload of an event. -/
def ParsedEvent.numbers {S : Type} (row : ParsedEvent S) : List Int :=
  match row.decoded.payload with
  | .obj fields => fields.filterMap fun field => match field.2 with
    | .num n => some n
    | _ => none
  | _ => []

/-- No number in the events that name the entity exceeds a signed integer of 64 bits. -/
def Entity.Small {S : Type} [DecidableEq S] (events : List (ParsedEvent S)) (entity : Entity S) : Prop :=
  ∀ row ∈ entity.ownEvents events, ∀ n ∈ row.numbers, n < 2 ^ 63

instance {S : Type} [DecidableEq S] (events : List (ParsedEvent S)) (entity : Entity S) :
    Decidable (entity.Small events) :=
  inferInstanceAs (Decidable (∀ row ∈ _, ∀ n ∈ _, _))

/-- The databases agree on the events and on the row of the entity. -/
def Entity.Alike {S : Type} : Entity S → Database S → Database S → Prop
  | agent key, db, db' => db.events = db'.events ∧ db.agents key = db'.agents key
  | service key, db, db' => db.events = db'.events ∧ db.services key = db'.services key
  | vault key, db, db' => db.events = db'.events ∧ db.vaults key = db'.vaults key

variable {S : Type} [DecidableEq S]

section Statements

variable (rt : Runtime S) (zeroKey : S)

/-- The statement of an entity. -/
def Entity.refresh : Entity S → Database S → Except SqlError (Database S)
  | agent key => refreshAgent rt key
  | service key => refreshService rt key
  | vault key => refreshVault rt key zeroKey

def Affected.entities (keys : Affected S) : List (Entity S) :=
  keys.agents.map .agent ++ keys.services.map .service ++ keys.vaults.map .vault

/-- `refresh` with the sets in the order of iteration. -/
def refreshInOrder (db : Database S) (order : Affected S) : Database S × Except SqlError Unit :=
  runAll db (order.agents.map (refreshAgent rt) ++ order.services.map (refreshService rt) ++
    order.vaults.map fun key => refreshVault rt key zeroKey)

theorem refresh_eq (db : Database S) (keys : Affected S) : refresh rt zeroKey db keys =
    refreshInOrder rt zeroKey db
      ⟨rt.iterate keys.agents, rt.iterate keys.services, rt.iterate keys.vaults⟩ := rfl

end Statements

/-- The same keys in another order. -/
structure Affected.Reorders (order keys : Affected S) : Prop where
  agents : order.agents.Perm keys.agents
  services : order.services.Perm keys.services
  vaults : order.vaults.Perm keys.vaults

variable {rt : Runtime S} {zeroKey key : S} {db db' t : Database S} {order keys : Affected S}
  {entity : Entity S}

/-! ### A statement and its row -/

omit [DecidableEq S] in
theorem Entity.alike (entity : Entity S) : Equivalence entity.Alike := by
  cases entity with
  | agent key => exact ⟨fun _ => ⟨rfl, rfl⟩, fun h => ⟨h.1.symm, h.2.symm⟩,
      fun h h' => ⟨h.1.trans h'.1, h.2.trans h'.2⟩⟩
  | service key => exact ⟨fun _ => ⟨rfl, rfl⟩, fun h => ⟨h.1.symm, h.2.symm⟩,
      fun h h' => ⟨h.1.trans h'.1, h.2.trans h'.2⟩⟩
  | vault key => exact ⟨fun _ => ⟨rfl, rfl⟩, fun h => ⟨h.1.symm, h.2.symm⟩,
      fun h h' => ⟨h.1.trans h'.1, h.2.trans h'.2⟩⟩

theorem refreshAgent_ok (done : refreshAgent rt key db = .ok t) :
    t = db ∨ ∃ row, t = { db with agents := Function.update db.agents key (some row) } := by
  obtain ⟨row, -, done⟩ := (bind_eq_ok _ _ _).mp done
  cases row with
  | none => exact .inl (Except.ok.inj done).symm
  | some row => exact .inr ⟨_, (Except.ok.inj done).symm⟩

theorem refreshService_ok (done : refreshService rt key db = .ok t) :
    t = db ∨ ∃ row, t = { db with services := Function.update db.services key (some row) } := by
  obtain ⟨row, -, done⟩ := (bind_eq_ok _ _ _).mp done
  cases row with
  | none => exact .inl (Except.ok.inj done).symm
  | some row => exact .inr ⟨_, (Except.ok.inj done).symm⟩

theorem refreshVault_ok (done : refreshVault rt key zeroKey db = .ok t) :
    t = db ∨ ∃ row, t = { db with vaults := Function.update db.vaults key (some row) } := by
  obtain ⟨row, -, done⟩ := (bind_eq_ok _ _ _).mp done
  cases row with
  | none => exact .inl (Except.ok.inj done).symm
  | some row => exact .inr ⟨_, (Except.ok.inj done).symm⟩

/-- A statement keeps the events and every other row. -/
theorem Entity.refresh_frame {other : Entity S} (done : entity.refresh rt zeroKey db = .ok t)
    (apart : other ≠ entity) : other.Alike db t := by
  cases entity with
  | agent key =>
    rcases refreshAgent_ok done with rfl | ⟨row, rfl⟩
    · exact other.alike.refl _
    · cases other with
      | agent otherKey =>
        have keys : otherKey ≠ key := fun same => apart (congrArg Entity.agent same)
        exact ⟨rfl, (Function.update_of_ne keys _ _).symm⟩
      | service _ => exact ⟨rfl, rfl⟩
      | vault _ => exact ⟨rfl, rfl⟩
  | service key =>
    rcases refreshService_ok done with rfl | ⟨row, rfl⟩
    · exact other.alike.refl _
    · cases other with
      | agent _ => exact ⟨rfl, rfl⟩
      | service otherKey =>
        have keys : otherKey ≠ key := fun same => apart (congrArg Entity.service same)
        exact ⟨rfl, (Function.update_of_ne keys _ _).symm⟩
      | vault _ => exact ⟨rfl, rfl⟩
  | vault key =>
    rcases refreshVault_ok done with rfl | ⟨row, rfl⟩
    · exact other.alike.refl _
    · cases other with
      | agent _ => exact ⟨rfl, rfl⟩
      | service _ => exact ⟨rfl, rfl⟩
      | vault otherKey =>
        have keys : otherKey ≠ key := fun same => apart (congrArg Entity.vault same)
        exact ⟨rfl, (Function.update_of_ne keys _ _).symm⟩

/-- A statement reads the events and its own row. -/
theorem Entity.refresh_own (same : entity.Alike db db') (done : entity.refresh rt zeroKey db = .ok t) :
    ∃ t', entity.refresh rt zeroKey db' = .ok t' ∧ entity.Alike t t' := by
  cases entity with
  | agent key =>
    obtain ⟨events, old⟩ := same
    simp only [Entity.refresh, refreshAgent] at done ⊢
    rw [events, old] at done
    obtain ⟨row, computed, done⟩ := (bind_eq_ok _ _ _).mp done
    rw [computed]
    cases row with
    | none =>
      obtain rfl := Except.ok.inj done
      exact ⟨db', rfl, events, old⟩
    | some row =>
      obtain rfl := Except.ok.inj done
      exact ⟨_, rfl, rfl, by simp only [Function.update_self]⟩
  | service key =>
    obtain ⟨events, old⟩ := same
    simp only [Entity.refresh, refreshService] at done ⊢
    rw [events, old] at done
    obtain ⟨row, computed, done⟩ := (bind_eq_ok _ _ _).mp done
    rw [computed]
    cases row with
    | none =>
      obtain rfl := Except.ok.inj done
      exact ⟨db', rfl, events, old⟩
    | some row =>
      obtain rfl := Except.ok.inj done
      exact ⟨_, rfl, rfl, by simp only [Function.update_self]⟩
  | vault key =>
    obtain ⟨events, old⟩ := same
    simp only [Entity.refresh, refreshVault] at done ⊢
    rw [events, old] at done
    obtain ⟨row, computed, done⟩ := (bind_eq_ok _ _ _).mp done
    rw [computed]
    cases row with
    | none =>
      obtain rfl := Except.ok.inj done
      exact ⟨db', rfl, events, old⟩
    | some row =>
      obtain rfl := Except.ok.inj done
      exact ⟨_, rfl, rfl, by simp only [Function.update_self]⟩

variable (rt zeroKey) in
theorem separate : Separate (Entity.refresh rt zeroKey) Entity.Alike where
  alike := Entity.alike
  frame := Entity.refresh_frame
  own := Entity.refresh_own

theorem refreshInOrder_eq (db : Database S) (order : Affected S) :
    (refreshInOrder rt zeroKey db order).1 =
      runUntil (Entity.refresh rt zeroKey) db order.entities := by
  have same : order.agents.map (refreshAgent rt) ++ order.services.map (refreshService rt) ++
      (order.vaults.map fun key => refreshVault rt key zeroKey) =
        order.entities.map (Entity.refresh rt zeroKey) := by
    simp only [Affected.entities, List.map_append, List.map_map]
    rfl
  rw [refreshInOrder, same]
  induction order.entities generalizing db with
  | nil => rfl
  | cons entity rest ih =>
    rw [List.map_cons, runAll, runUntil]
    cases outcome : entity.refresh rt zeroKey db with
    | ok t => exact ih t
    | error e => rfl

/-! ### Orders -/

omit [DecidableEq S] in
theorem Affected.Reorders.entities (reorders : order.Reorders keys) :
    order.entities.Perm keys.entities :=
  ((reorders.agents.map _).append (reorders.services.map _)).append (reorders.vaults.map _)

omit [DecidableEq S] in
/-- The tables come one after the other. -/
theorem Affected.entities_sorted (order : Affected S) :
    order.entities.Pairwise fun a b => a.table ≤ b.table := by
  have within : ∀ (make : S → Entity S) (table : Nat), (∀ key, (make key).table = table) →
      ∀ keys : List S, (keys.map make).Pairwise fun a b => a.table ≤ b.table := by
    intro make table same keys
    rw [List.pairwise_map]
    exact List.pairwise_of_forall fun a b => (same a).trans_le (same b).ge
  rw [Affected.entities, List.pairwise_append, List.pairwise_append]
  refine ⟨⟨within _ 0 (fun _ => rfl) _, within _ 1 (fun _ => rfl) _, ?_⟩, within _ 2 (fun _ => rfl) _, ?_⟩
  · intro a agent b service
    obtain ⟨_, -, rfl⟩ := List.mem_map.mp agent
    exact Nat.zero_le _
  · intro a earlier b vault
    obtain ⟨_, -, rfl⟩ := List.mem_map.mp vault
    rcases List.mem_append.mp earlier with agent | service
    · obtain ⟨_, -, rfl⟩ := List.mem_map.mp agent
      exact Nat.zero_le _
    · obtain ⟨_, -, rfl⟩ := List.mem_map.mp service
      exact Nat.le_succ 1

/-- Any entity can be the first of its table. -/
theorem Affected.exists_first {first : Entity S} (member : first ∈ keys.entities) :
    ∃ order : Affected S, order.Reorders keys ∧ ∃ before after,
      order.entities = before ++ first :: after ∧ ∀ entity ∈ before, entity.table < first.table := by
  simp only [Affected.entities, List.mem_append, List.mem_map] at member
  -- The set is in any order, so the key may as well come first.
  rcases member with (⟨key, held, rfl⟩ | ⟨key, held, rfl⟩) | ⟨key, held, rfl⟩
  · refine ⟨⟨key :: keys.agents.erase key, keys.services, keys.vaults⟩,
      ⟨(List.perm_cons_erase held).symm, .refl _, .refl _⟩, [],
      (keys.agents.erase key).map .agent ++ keys.services.map .service ++ keys.vaults.map .vault, rfl, ?_⟩
    simp
  · refine ⟨⟨keys.agents, key :: keys.services.erase key, keys.vaults⟩,
      ⟨.refl _, (List.perm_cons_erase held).symm, .refl _⟩, keys.agents.map .agent,
      (keys.services.erase key).map .service ++ keys.vaults.map .vault, ?_, ?_⟩
    · simp [Affected.entities]
    · intro entity earlier
      obtain ⟨_, -, rfl⟩ := List.mem_map.mp earlier
      exact Nat.zero_lt_one
  · refine ⟨⟨keys.agents, keys.services, key :: keys.vaults.erase key⟩,
      ⟨.refl _, .refl _, (List.perm_cons_erase held).symm⟩,
      keys.agents.map .agent ++ keys.services.map .service, (keys.vaults.erase key).map .vault, ?_, ?_⟩
    · simp [Affected.entities]
    · intro entity earlier
      rcases List.mem_append.mp earlier with agent | service
      · obtain ⟨_, -, rfl⟩ := List.mem_map.mp agent
        exact Nat.zero_lt_two
      · obtain ⟨_, -, rfl⟩ := List.mem_map.mp service
        exact Nat.one_lt_two

theorem affected_nodup (batch : List (ParsedEvent S)) : (affected batch).entities.Nodup := by
  have tables : ∀ {make : S → Entity S}, Function.Injective make → ∀ names field,
      ((keysOf batch names field).map make).Nodup :=
    fun injective names field => (List.nodup_dedup _).map injective
  have apart : ∀ {make other : S → Entity S}, (∀ key key', make key ≠ other key') →
      ∀ keys keys', List.Disjoint (List.map make keys) (List.map other keys') := by
    intro make other differ keys keys' entity left right
    obtain ⟨key, -, rfl⟩ := List.mem_map.mp left
    obtain ⟨key', -, same⟩ := List.mem_map.mp right
    exact differ key key' same.symm
  rw [Affected.entities, List.nodup_append', List.nodup_append', List.disjoint_append_left]
  exact ⟨⟨tables (fun _ _ => Entity.agent.inj) _ _, tables (fun _ _ => Entity.service.inj) _ _,
    apart (by simp) _ _⟩, tables (fun _ _ => Entity.vault.inj) _ _, apart (by simp) _ _,
    apart (by simp) _ _⟩

/-! ### Refreshing a batch -/

/-- Whatever the order of the sets, every affected entity with small values has the row that its
stored events make. -/
def Mirrors (rt : Runtime S) (zeroKey : S) (batch : List (ParsedEvent S)) (db : Database S) : Prop :=
  ∀ order : Affected S, order.Reorders (affected batch) → ∀ entity ∈ (affected batch).entities,
    entity.Small db.events → ∃ t, entity.refresh rt zeroKey db = .ok t ∧
      entity.Alike t (refreshInOrder rt zeroKey db order).1

/-- The database accepts the statement of every affected entity with small values. Where it
refuses the statement of another one that may come first, the row has to be there already. -/
def Unhindered (rt : Runtime S) (zeroKey : S) (batch : List (ParsedEvent S)) (db : Database S) : Prop :=
  ∀ entity ∈ (affected batch).entities, entity.Small db.events →
    ∃ t, entity.refresh rt zeroKey db = .ok t ∧ ∀ other ∈ (affected batch).entities, other ≠ entity →
      other.table ≤ entity.table → Fails (Entity.refresh rt zeroKey) other db → entity.Alike t db

theorem mirrors_of_unhindered {batch : List (ParsedEvent S)} (free : Unhindered rt zeroKey batch db) :
    Mirrors rt zeroKey batch db := by
  intro order reorders entity member small
  obtain ⟨t, done, hindered⟩ := free entity member small
  refine ⟨t, done, ?_⟩
  have once : order.entities.Nodup := reorders.entities.nodup_iff.mpr (affected_nodup batch)
  obtain ⟨before, after, split⟩ := List.append_of_mem (reorders.entities.mem_iff.mpr member)
  rw [refreshInOrder_eq, split]
  rw [split] at once
  by_cases clear : ∀ k ∈ before, ∃ t, k.refresh rt zeroKey db = .ok t
  · exact (separate rt zeroKey).reaches once clear done
  · simp only [not_forall] at clear
    obtain ⟨other, earlier, refused⟩ := clear
    have fails : Fails (Entity.refresh rt zeroKey) other db := fun t ok => refused ⟨t, ok⟩
    -- What comes before the entity stands in its table or in an earlier one.
    have sorted := order.entities_sorted
    rw [split] at sorted
    have level := (List.pairwise_append.mp sorted).2.2 other earlier entity List.mem_cons_self
    have apart : other ≠ entity := by
      rintro rfl
      exact (List.nodup_append.mp once).2.2 other earlier other List.mem_cons_self rfl
    have affects : other ∈ (affected batch).entities := by
      rw [← reorders.entities.mem_iff, split]
      exact List.mem_append_left _ earlier
    exact (entity.alike).trans (hindered other affects apart level fails)
      ((separate rt zeroKey).skips once earlier fails)

theorem unhindered_of_mirrors {batch : List (ParsedEvent S)} (mirrors : Mirrors rt zeroKey batch db) :
    Unhindered rt zeroKey batch db := by
  intro entity member small
  obtain ⟨t, done, -⟩ := mirrors _ ⟨.refl _, .refl _, .refl _⟩ entity member small
  refine ⟨t, done, fun other affects apart level fails => ?_⟩
  -- The order that puts the refused statement first in its table.
  obtain ⟨order, reorders, before, after, split, lower⟩ := Affected.exists_first affects
  obtain ⟨t', done', mirrored⟩ := mirrors order reorders entity member small
  rw [done] at done'
  obtain rfl := Except.ok.inj done'
  have once : order.entities.Nodup := reorders.entities.nodup_iff.mpr (affected_nodup batch)
  have behind : entity ∈ after := by
    have held := reorders.entities.mem_iff.mpr member
    rw [split, List.mem_append, List.mem_cons] at held
    rcases held with earlier | same | later
    · exact absurd (lower entity earlier) (Nat.not_lt.mpr level)
    · exact absurd same.symm apart
    · exact later
  obtain ⟨middle, rest, rfl⟩ := List.append_of_mem behind
  have whole : order.entities = (before ++ other :: middle) ++ entity :: rest := by
    rw [split, List.append_assoc, List.cons_append]
  rw [refreshInOrder_eq, whole] at mirrored
  rw [whole] at once
  have kept := (separate rt zeroKey).skips once (by simp) fails
  exact (entity.alike).trans mirrored ((entity.alike).symm kept)

/-- A refresh mirrors every entity with small values exactly if no statement that may come before
one of them is refused, unless its row needs no change. -/
theorem mirrors_iff (rt : Runtime S) (zeroKey : S) (batch : List (ParsedEvent S)) (db : Database S) :
    Mirrors rt zeroKey batch db ↔ Unhindered rt zeroKey batch db :=
  ⟨unhindered_of_mirrors, mirrors_of_unhindered⟩

/-- Two agents that initialize, and a payment of the first that no signed integer holds. -/
def largePayment : List (ParsedEvent String) :=
  let initialized (agent : String) (logIndex : Nat) : ParsedEvent String :=
    ⟨"sig", 5, logIndex, [], .agentInitialized,
      .obj [("agent", .str agent), ("owner", .str "O"), ("init_slot", .num 5)]⟩
  let payment : ParsedEvent String := ⟨"sig", 5, 2, [], .paymentRecorded,
    .obj [("agent", .str "X"), ("service", .str "S"), ("amount_usdc", .num (2 ^ 63)),
      ("payment_receipt_hash", .str "h"), ("was_new_pair", .bool true), ("slot", .num 5)]⟩
  [initialized "X" 0, initialized "Y" 1, payment]

/-- The payment of one agent keeps the other one out of the mirror. -/
theorem large_payment_hinders :
    ¬Mirrors .standard "0" largePayment ⟨largePayment, fun _ => none, fun _ => none, fun _ => none⟩ := by
  intro mirrors
  obtain ⟨t, done, -, row⟩ := mirrors ⟨["X", "Y"], ["S"], []⟩
    ⟨by decide +kernel, by decide +kernel, by decide +kernel⟩ (.agent "Y") (by decide +kernel)
    (by decide +kernel)
  have missing : ((refreshInOrder .standard "0" ⟨largePayment, fun _ => none, fun _ => none, fun _ => none⟩
      ⟨["X", "Y"], ["S"], []⟩).1.agents "Y").isSome = false := by decide +kernel
  have own : (match (Entity.agent "Y").refresh .standard "0"
        ⟨largePayment, fun _ => none, fun _ => none, fun _ => none⟩ with
      | .ok t => (t.agents "Y").isSome
      | .error _ => false) = true := by decide +kernel
  rw [done] at own
  rw [← row] at missing
  exact Bool.false_ne_true (missing.symm.trans own)

end AgentFuel.Backend
