import AgentFuel.Backend.Dispatch
import AgentFuel.Backend.Isolation

/-!
# Rows that are stored once

A webhook is retried with the whole batch. The events are stored once and so are the scores, and
the mirror is rebuilt from what is stored.
-/
namespace AgentFuel.Backend

open Checked FirstFailure

/-! ### Events and mirror -/

section Mirror

variable {S : Type} [DecidableEq S] {rt : Runtime S} {zeroKey : S} {db : Database S}
  {rows batch : List (ParsedEvent S)}

omit [DecidableEq S] in
theorem insertEvents_known (known : ∀ event ∈ batch, event.key ∈ rows.map ParsedEvent.key) :
    insertEvents rows batch = rows := by
  induction batch with
  | nil => rfl
  | cons event batch ih =>
    rw [List.forall_mem_cons] at known
    have kept : insertEvent rows event = rows := if_pos known.1
    rw [insertEvents, List.foldl_cons, kept]
    exact ih known.2

omit [DecidableEq S] in
theorem insertEvents_again (rows batch : List (ParsedEvent S)) :
    insertEvents (insertEvents rows batch) batch = insertEvents rows batch :=
  insertEvents_known fun _ member => insertEvents_keys rows member

/-- The row that a statement has written is the row that it would write. -/
theorem refresh_settles (rt : Runtime S) (zeroKey : S) :
    Settles (Entity.refresh rt zeroKey) Entity.Alike := by
  intro entity db t t' done same
  cases entity with
  | agent key =>
    obtain ⟨events, held⟩ := same
    simp only [Entity.refresh, refreshAgent] at done ⊢
    obtain ⟨row, computed, done⟩ := (bind_eq_ok _ _ _).mp done
    cases row with
    | none =>
      obtain rfl := Except.ok.inj done
      -- The events are the same, so the statement computes what it has computed before.
      rw [events] at computed
      rw [computed]
      rfl
    | some row =>
      obtain rfl := Except.ok.inj done
      dsimp only at events held
      rw [Function.update_self] at held
      rw [events] at computed
      -- The columns that an update keeps are those that it has kept.
      rw [computed, ← held]
      refine congrArg Except.ok (congrArg (fun agents => { t' with agents }) ?_)
      rw [Function.update_eq_self_iff, ← held]
      cases db.agents key <;> rfl
  | service key =>
    obtain ⟨events, held⟩ := same
    simp only [Entity.refresh, refreshService] at done ⊢
    obtain ⟨row, computed, done⟩ := (bind_eq_ok _ _ _).mp done
    cases row with
    | none =>
      obtain rfl := Except.ok.inj done
      rw [events] at computed
      rw [computed]
      rfl
    | some row =>
      obtain rfl := Except.ok.inj done
      dsimp only at events held
      rw [Function.update_self] at held
      rw [events] at computed
      rw [computed, ← held]
      refine congrArg Except.ok (congrArg (fun services => { t' with services }) ?_)
      rw [Function.update_eq_self_iff, ← held]
      cases db.services key <;> rfl
  | vault key =>
    obtain ⟨events, held⟩ := same
    simp only [Entity.refresh, refreshVault] at done ⊢
    obtain ⟨row, computed, done⟩ := (bind_eq_ok _ _ _).mp done
    cases row with
    | none =>
      obtain rfl := Except.ok.inj done
      rw [events] at computed
      rw [computed]
      rfl
    | some row =>
      obtain rfl := Except.ok.inj done
      dsimp only at events held
      rw [Function.update_self] at held
      rw [events] at computed
      rw [computed, ← held]
      refine congrArg Except.ok (congrArg (fun vaults => { t' with vaults }) ?_)
      rw [Function.update_eq_self_iff, ← held]
      cases db.vaults key <;> rfl

/-- The database and the standard library as before, with the sets in another order. -/
def Runtime.inOrderOf (rt again : Runtime S) : Runtime S :=
  { rt with iterate := again.iterate, iterate_perm := again.iterate_perm }

/-- The keys in the order of iteration. -/
def Runtime.order (rt : Runtime S) (keys : Affected S) : Affected S :=
  ⟨rt.iterate keys.agents, rt.iterate keys.services, rt.iterate keys.vaults⟩

theorem order_nodup (rt : Runtime S) (batch : List (ParsedEvent S)) :
    (rt.order (affected batch)).entities.Nodup := by
  have reorders : (rt.order (affected batch)).Reorders (affected batch) :=
    ⟨rt.iterate_perm _, rt.iterate_perm _, rt.iterate_perm _⟩
  exact reorders.entities.nodup_iff.mpr (affected_nodup batch)

theorem ingest_eq (rt : Runtime S) (zeroKey : S) (db : Database S) (batch : List (ParsedEvent S)) :
    (ingest rt zeroKey db batch).1 = runUntil (Entity.refresh rt zeroKey)
      { db with events := insertEvents db.events batch } (rt.order (affected batch)).entities := by
  rw [ingest, refresh_eq]
  exact refreshInOrder_eq _ _

/-- What a second refresh rebuilds, the first one has rebuilt or found as it should be. -/
def Rebuilt (rt again : Runtime S) (zeroKey : S) (db : Database S) (batch : List (ParsedEvent S)) :
    Prop :=
  ∀ entity t, Reached (Entity.refresh rt zeroKey) { db with events := insertEvents db.events batch }
      (again.order (affected batch)).entities entity →
    entity.refresh rt zeroKey { db with events := insertEvents db.events batch } = .ok t →
      Reached (Entity.refresh rt zeroKey) { db with events := insertEvents db.events batch }
        (rt.order (affected batch)).entities entity ∨
      entity.Alike { db with events := insertEvents db.events batch } t

theorem ingest_again_iff (rt again : Runtime S) (zeroKey : S) (db : Database S)
    (batch : List (ParsedEvent S)) :
    (ingest (rt.inOrderOf again) zeroKey (ingest rt zeroKey db batch).1 batch).1 =
      (ingest rt zeroKey db batch).1 ↔ Rebuilt rt again zeroKey db batch := by
  have stored : insertEvents (ingest rt zeroKey db batch).1.events batch =
      (ingest rt zeroKey db batch).1.events := by
    rw [ingest_events]
    exact insertEvents_again _ _
  rw [ingest_eq (rt.inOrderOf again), stored, ingest_eq rt zeroKey db]
  exact (separate rt zeroKey).again_iff (refresh_settles rt zeroKey) (order_nodup rt batch)
    (order_nodup again batch)

/-- Where no statement is refused, all of them are executed in any order. -/
theorem rebuilt_of_accepted {again : Runtime S}
    (accepted : ∀ entity ∈ (affected batch).entities, ∃ t,
      entity.refresh rt zeroKey { db with events := insertEvents db.events batch } = .ok t) :
    Rebuilt rt again zeroKey db batch := by
  have reorders : ∀ rt : Runtime S, (rt.order (affected batch)).Reorders (affected batch) :=
    fun rt => ⟨rt.iterate_perm _, rt.iterate_perm _, rt.iterate_perm _⟩
  rintro entity t ⟨before, after, split, -⟩ -
  left
  have member : entity ∈ (rt.order (affected batch)).entities := by
    rw [(reorders rt).entities.mem_iff, ← (reorders again).entities.mem_iff, split]
    simp
  obtain ⟨before, after, split⟩ := List.append_of_mem member
  refine ⟨before, after, split, fun k inside => accepted k ?_⟩
  rw [← (reorders rt).entities.mem_iff, split]
  simp only [List.mem_append, List.mem_cons] at inside ⊢
  tauto

end Mirror

/-! ### Scores -/

section Scores

variable {history rows : List ScoreRow} {old row : ScoreRow}

/-- The rows conflict in the unique constraint. -/
def ScoreRow.SameSlot (old row : ScoreRow) : Prop := old.agent = row.agent ∧ old.slot = row.slot

theorem insertScore_kept (held : old ∈ history) (same : old.SameSlot row) :
    (insertScore history row).1 = history := by
  have conflict : (history.any fun old => decide (old.agent = row.agent ∧ old.slot = row.slot)) = true :=
    List.any_eq_true.mpr ⟨old, held, decide_eq_true same⟩
  rw [insertScore, if_pos conflict]

theorem mem_insertScore (held : old ∈ history) (row : ScoreRow) : old ∈ (insertScore history row).1 := by
  rcases insertScore_cases history row with kept | ⟨added, -⟩
  · rwa [kept]
  · rw [added]
    exact List.mem_append_left _ held

theorem insertScore_held (history : List ScoreRow) (row : ScoreRow) :
    ∃ old ∈ (insertScore history row).1, old.SameSlot row := by
  unfold insertScore
  split
  next conflict =>
    obtain ⟨old, member, same⟩ := List.any_eq_true.mp conflict
    have same : old.agent = row.agent ∧ old.slot = row.slot := of_decide_eq_true same
    exact ⟨old, member, same⟩
  next => exact ⟨row, by simp, rfl, rfl⟩

theorem mem_insertScores (held : old ∈ history) (rows : List ScoreRow) :
    old ∈ rows.foldl (fun history row => (insertScore history row).1) history := by
  induction rows generalizing history with
  | nil => exact held
  | cons row rows ih => exact ih (mem_insertScore held row)

theorem insertScores_held (history : List ScoreRow) (member : row ∈ rows) :
    ∃ old ∈ rows.foldl (fun history row => (insertScore history row).1) history, old.SameSlot row := by
  induction rows generalizing history with
  | nil => cases member
  | cons first rows ih =>
    rcases List.mem_cons.mp member with rfl | later
    · obtain ⟨old, held, same⟩ := insertScore_held history row
      exact ⟨old, mem_insertScores held rows, same⟩
    · exact ih _ later

theorem insertScores_known (known : ∀ row ∈ rows, ∃ old ∈ history, old.SameSlot row) :
    rows.foldl (fun history row => (insertScore history row).1) history = history := by
  induction rows with
  | nil => rfl
  | cons first rows ih =>
    rw [List.forall_mem_cons] at known
    obtain ⟨old, held, same⟩ := known.1
    rw [List.foldl_cons, insertScore_kept held same]
    exact ih known.2

theorem recordScores_again (history : List ScoreRow) (batch : List (ParsedEvent String)) :
    recordScores (recordScores history batch) batch = recordScores history batch :=
  insertScores_known fun _ member => insertScores_held history member

end Scores

end AgentFuel.Backend
