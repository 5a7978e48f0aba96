import AgentFuel.Backend.Chain

/-!
# Deliveries of a chain

The events of a chain reach the backend as rows in batches. Whatever the order of the batches
and however often one of them comes, the table ends up as a rearrangement of the chain.
-/
namespace AgentFuel.Backend

open Solana

variable {K S : Type}

def Event.program : Event K → ProgramId
  | vault _ => creditVaultProgram
  | reputation _ => reputationProgram

/-- The slot of the transaction as `parse_one` reads it. -/
def Emitted.rowSlot (e : Emitted K) : Int := ((Json.num (S := String) e.slot).asI64).getD 0

/-- The row the parser makes of an event. -/
def Emitted.row (r : Rendering K S) (e : Emitted K) : ParsedEvent S where
  signature := e.signature
  slot := e.rowSlot
  logIndex := e.logIndex
  programId := e.event.program.text
  decoded := ⟨e.event.name, .obj (e.event.json r)⟩

/-- The place of the row in the order of the statements. -/
def Emitted.position (e : Emitted K) : Int ×ₗ Int := toLex (e.rowSlot, Int.ofNat e.logIndex)

theorem Emitted.rowSlot_eq {e : Emitted K} (small : e.slot < 2 ^ 63) : e.rowSlot = e.slot := by
  have range : -2 ^ 63 ≤ (e.slot : Int) ∧ (e.slot : Int) < 2 ^ 63 := by omega
  rw [rowSlot, Json.asI64, if_pos range, Option.getD_some]

theorem Emitted.rowSlot_nonneg (e : Emitted K) : 0 ≤ e.rowSlot := by
  by_cases small : e.slot < 2 ^ 63
  · rw [rowSlot_eq small]
    exact Int.natCast_nonneg e.slot
  · have range : ¬(-2 ^ 63 ≤ (e.slot : Int) ∧ (e.slot : Int) < 2 ^ 63) := by omega
    rw [rowSlot, Json.asI64, if_neg range, Option.getD_none]

section Deliver

variable [DecidableEq S]

/-- The database after the batches; a refresh that fails leaves the events in it. -/
def deliver (rt : Runtime S) (zeroKey : S) (db : Database S) (batches : List (List (ParsedEvent S))) :
    Database S :=
  batches.foldl (fun db batch => (ingest rt zeroKey db batch).1) db

theorem deliver_concat (rt : Runtime S) (zeroKey : S) (db : Database S)
    (batches : List (List (ParsedEvent S))) (batch : List (ParsedEvent S)) :
    deliver rt zeroKey db (batches ++ [batch]) = (ingest rt zeroKey (deliver rt zeroKey db batches) batch).1 := by
  rw [deliver, List.foldl_append]
  rfl

theorem deliver_events (rt : Runtime S) (zeroKey : S) (db : Database S)
    (batches : List (List (ParsedEvent S))) :
    (deliver rt zeroKey db batches).events = insertEvents db.events batches.flatten := by
  induction batches generalizing db with
  | nil => rfl
  | cons batch batches ih =>
    rw [deliver, List.foldl_cons, ← deliver, ih, ingest_events, List.flatten_cons]
    exact (List.foldl_append ..).symm

end Deliver

/-- The batches bring the rows of the chain, each at least once. -/
structure Delivers (r : Rendering K S) (log : List (Emitted K))
    (batches : List (List (ParsedEvent S))) : Prop where
  sound : ∀ batch ∈ batches, batch ⊆ log.map (Emitted.row r)
  complete : log.map (Emitted.row r) ⊆ batches.flatten

/-- The table holds the rows of these events. -/
structure Holds (r : Rendering K S) (log entries : List (Emitted K)) (rows : List (ParsedEvent S)) :
    Prop where
  rows : rows = entries.map (Emitted.row r)
  subset : entries ⊆ log
  distinct : entries.Nodup

section Holds

variable {r : Rendering K S} {log entries : List (Emitted K)} {rows : List (ParsedEvent S)}
  {batches : List (List (ParsedEvent S))}

/-- Transaction and place tell the events of a chain apart. -/
theorem keys_nodup (sorted : log.Pairwise fun a b =>
    a.slot ≤ b.slot ∧ (a.signature = b.signature → a.logIndex < b.logIndex)) (r : Rendering K S) :
    ((log.map (Emitted.row r)).map ParsedEvent.key).Nodup := by
  rw [List.map_map, List.Nodup, List.pairwise_map]
  refine sorted.imp ?_
  intro a b order same
  obtain ⟨signature, logIndex⟩ := Prod.mk.inj same
  exact absurd logIndex (Nat.ne_of_lt (order.2 signature))

theorem exists_preimage {β γ : Type} {f : β → γ} {source : List β} {images : List γ}
    (subset : images ⊆ source.map f) : ∃ list, images = list.map f ∧ list ⊆ source := by
  induction images with
  | nil => exact ⟨[], rfl, List.nil_subset _⟩
  | cons image images ih =>
    rw [List.cons_subset] at subset
    obtain ⟨a, member, rfl⟩ := List.mem_map.mp subset.1
    obtain ⟨list, rfl, inside⟩ := ih subset.2
    exact ⟨a :: list, rfl, List.cons_subset.mpr ⟨member, inside⟩⟩

theorem Drawn.holds (drawn : Drawn (log.map (Emitted.row r)) rows) :
    ∃ entries, Holds r log entries rows := by
  obtain ⟨entries, rfl, inside⟩ := exists_preimage drawn.subset
  exact ⟨entries, rfl, inside, drawn.distinct.of_map.of_map⟩

/-- A row of the chain stands for one event. -/
theorem Holds.mem_iff (unique : ((log.map (Emitted.row r)).map ParsedEvent.key).Nodup)
    (holds : Holds r log entries rows) {e : Emitted K} (member : e ∈ log) :
    e ∈ entries ↔ e.row r ∈ rows := by
  rw [holds.rows]
  refine ⟨List.mem_map_of_mem, ?_⟩
  intro held
  obtain ⟨other, inside, same⟩ := List.mem_map.mp held
  rw [← List.inj_on_of_nodup_map unique.of_map (holds.subset inside) member same]
  exact inside

/-- The chain is what the table holds and a rest. -/
theorem Holds.split (holds : Holds r log entries rows) : ∃ rest, log.Perm (entries ++ rest) := by
  obtain ⟨part, same, inside⟩ := List.subperm_of_subset holds.distinct holds.subset
  obtain ⟨rest, whole⟩ := inside.exists_perm_append
  exact ⟨rest, whole.trans (same.append_right rest)⟩

/-- A table with every event that writes has all writes of the chain. -/
theorem Holds.writes_perm {β : Type} {write : Emitted K → Option β}
    (unique : ((log.map (Emitted.row r)).map ParsedEvent.key).Nodup) (holds : Holds r log entries rows)
    (covers : ∀ e ∈ log, (write e).isSome = true → e ∈ entries) :
    (log.filterMap write).Perm (entries.filterMap write) := by
  obtain ⟨rest, whole⟩ := holds.split
  have apart := List.nodup_append.mp (whole.nodup_iff.mp unique.of_map.of_map)
  have silent : rest.filterMap write = [] := by
    rw [List.filterMap_eq_nil_iff]
    intro e member
    by_contra wrote
    rw [← ne_eq, Option.ne_none_iff_isSome] at wrote
    have held := covers e (whole.mem_iff.mpr (List.mem_append_right _ member)) wrote
    exact apart.2.2 e held e member rfl
  have writes := whole.filterMap write
  rw [List.filterMap_append, silent, List.append_nil] at writes
  exact writes

/-- After all batches every event of the chain is in the table once. -/
theorem Delivers.holds [DecidableEq S]
    (unique : ((log.map (Emitted.row r)).map ParsedEvent.key).Nodup) (delivers : Delivers r log batches)
    (rt : Runtime S) (zeroKey : S) :
    ∃ entries, Holds r log entries (deliver rt zeroKey .empty batches).events ∧
      entries.Perm log := by
  have start : Drawn (log.map (Emitted.row r)) (Database.empty (S := S)).events :=
    ⟨List.nil_subset _, List.nodup_nil⟩
  have given : batches.flatten ⊆ log.map (Emitted.row r) := by
    intro row member
    obtain ⟨batch, inside, held⟩ := List.mem_flatten.mp member
    exact delivers.sound batch inside held
  have drawn := start.insertEvents given
  rw [deliver_events]
  obtain ⟨entries, holds⟩ := drawn.holds
  refine ⟨entries, holds, ?_⟩
  rw [List.perm_ext_iff_of_nodup holds.distinct unique.of_map.of_map]
  intro e
  refine ⟨fun inside => holds.subset inside, fun member => ?_⟩
  rw [holds.mem_iff unique member]
  exact start.mem_insertEvents unique given (delivers.complete (List.mem_map_of_mem member))

end Holds

end AgentFuel.Backend
