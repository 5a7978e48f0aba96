import AgentFuel.Backend.Columns
import AgentFuel.Backend.Isolation

/-!
# The row a delivery leaves

Every batch refreshes the keys its events touch. As long as no statement is refused, the row of an
entity is the one its statement made when an event last touched it: of a table that holds all
events that touch the entity, and perhaps not all that only name it.
-/
namespace AgentFuel.Backend

open Checked FirstFailure Solana

variable {K S : Type} [DecidableEq S]

/-- The event makes a refresh of the entity necessary. -/
def Entity.Touched (row : ParsedEvent S) : Entity S → Prop
  | agent key => row.decoded.eventName ∈ [.agentInitialized, .feedbackGiven, .responseAppended,
      .feedbackRevoked, .scoreComputed, .paymentRecorded] ∧ row.text "agent" = some key
  | service key => row.decoded.eventName ∈ [.serviceRegistered, .serviceActiveSet, .paymentRecorded] ∧
      row.text "service" = some key
  | vault key => row.decoded.eventName ∈ [.vaultCreated, .deposited, .spent, .claimed, .vaultFrozen,
      .vaultUnfrozen, .policyUpdated, .withdrawn] ∧ row.text "vault" = some key

theorem mem_keysOf {events : List (ParsedEvent S)} {names : List EventName} {field : String} {key : S} :
    key ∈ keysOf events names field ↔
      ∃ row ∈ events, row.decoded.eventName ∈ names ∧ row.text field = some key := by
  simp only [keysOf, List.mem_dedup, List.mem_filterMap, List.mem_filter, decide_eq_true_eq, and_assoc]

theorem mem_affected {batch : List (ParsedEvent S)} {entity : Entity S} :
    entity ∈ (affected batch).entities ↔ ∃ row ∈ batch, entity.Touched row := by
  cases entity with
  | agent key => simp [Affected.entities, affected, mem_keysOf, Entity.Touched]
  | service key => simp [Affected.entities, affected, mem_keysOf, Entity.Touched]
  | vault key => simp [Affected.entities, affected, mem_keysOf, Entity.Touched]

/-- The databases have the same row of the entity. -/
def Entity.SameRow : Entity S → Database S → Database S → Prop
  | agent key, db, db' => db.agents key = db'.agents key
  | service key, db, db' => db.services key = db'.services key
  | vault key, db, db' => db.vaults key = db'.vaults key

variable {rt : Runtime S} {zeroKey : S} {db db' : Database S} {entity : Entity S}
  {source batch : List (ParsedEvent S)} {batches : List (List (ParsedEvent S))}

omit [DecidableEq S] in
theorem Entity.Alike.sameRow (same : entity.Alike db db') : entity.SameRow db db' := by
  cases entity <;> exact same.2

omit [DecidableEq S] in
theorem Entity.SameRow.trans {db'' : Database S} (first : entity.SameRow db db')
    (second : entity.SameRow db' db'') : entity.SameRow db db'' := by
  cases entity <;> exact Eq.trans first second

/-- The event that makes the row. -/
def Entity.inits (events : List (ParsedEvent S)) : Entity S → List (ParsedEvent S)
  | agent key => about [.agentInitialized] "agent" key events
  | service key => about [.serviceRegistered] "service" key events
  | vault key => about [.vaultCreated] "vault" key events

/-- Without the event that makes the row a statement does nothing. -/
theorem Entity.refresh_absent (absent : entity.inits db.events = []) :
    entity.refresh rt zeroKey db = .ok db := by
  cases entity with
  | agent key =>
    simp only [Entity.inits] at absent
    simp only [Entity.refresh, refreshAgent, absent, limitOne_nil]
    rfl
  | service key =>
    simp only [Entity.inits] at absent
    simp only [Entity.refresh, refreshService, absent, limitOne_nil]
    rfl
  | vault key =>
    simp only [Entity.inits] at absent
    simp only [Entity.refresh, refreshVault, absent, limitOne_nil]
    rfl

/-- No statement is refused on a table of these rows. -/
def Accepts (rt : Runtime S) (zeroKey : S) (source : List (ParsedEvent S)) : Prop :=
  ∀ db : Database S, Drawn source db.events → ∀ entity : Entity S,
    ∃ t, entity.refresh rt zeroKey db = .ok t

/-- The row is the one that the statement made of a table with every event that touched the entity. -/
structure Shown (rt : Runtime S) (zeroKey : S) (source : List (ParsedEvent S))
    (batches : List (List (ParsedEvent S))) (db : Database S) (entity : Entity S)
    (table made : Database S) : Prop where
  drawn : Drawn source table.events
  touched : ∀ row ∈ batches.flatten, entity.Touched row → row ∈ table.events
  statement : entity.refresh rt zeroKey table = .ok made
  row : entity.SameRow made db

omit [DecidableEq S] in
theorem reorders_iterate (rt : Runtime S) (keys : Affected S) :
    Affected.Reorders ⟨rt.iterate keys.agents, rt.iterate keys.services, rt.iterate keys.vaults⟩ keys :=
  ⟨rt.iterate_perm _, rt.iterate_perm _, rt.iterate_perm _⟩

/-- A batch leaves the row of an entity that it does not touch. -/
theorem ingest_elsewhere (quiet : ∀ row ∈ batch, ¬entity.Touched row) :
    entity.SameRow db (ingest rt zeroKey db batch).1 := by
  have outside : entity ∉ (affected batch).entities := by
    intro member
    obtain ⟨row, held, touched⟩ := mem_affected.mp member
    exact quiet row held touched
  rw [← (reorders_iterate rt (affected batch)).entities.mem_iff] at outside
  have kept := ((separate rt zeroKey).elsewhere outside
    { db with events := insertEvents db.events batch }).sameRow
  rw [ingest, refresh_eq, refreshInOrder_eq]
  cases entity <;> exact kept

/-- A batch refreshes the row of every entity it touches if none of its statements is refused. -/
theorem ingest_row (accepts : ∀ other ∈ (affected batch).entities, ∃ made,
      other.refresh rt zeroKey { db with events := insertEvents db.events batch } = .ok made)
    (entity : Entity S) :
    entity.SameRow db (ingest rt zeroKey db batch).1 ∧ (∀ row ∈ batch, ¬entity.Touched row) ∨
      ∃ made, entity.refresh rt zeroKey { db with events := insertEvents db.events batch } = .ok made ∧
        entity.SameRow made (ingest rt zeroKey db batch).1 := by
  have refreshed : (ingest rt zeroKey db batch).1 = (refreshInOrder rt zeroKey
      { db with events := insertEvents db.events batch } ⟨rt.iterate (affected batch).agents,
        rt.iterate (affected batch).services, rt.iterate (affected batch).vaults⟩).1 := rfl
  have reorders := reorders_iterate rt (affected batch)
  by_cases member : entity ∈ (affected batch).entities
  · rw [refreshed, refreshInOrder_eq]
    obtain ⟨made, done⟩ := accepts entity member
    refine .inr ⟨made, done, ?_⟩
    -- The statements before the one of the entity are accepted and touch other rows.
    obtain ⟨before, after, split⟩ := List.append_of_mem (reorders.entities.mem_iff.mpr member)
    have once := reorders.entities.nodup_iff.mpr (affected_nodup batch)
    have clear : ∀ other ∈ before, ∃ made,
        other.refresh rt zeroKey { db with events := insertEvents db.events batch } = .ok made := by
      intro other earlier
      refine accepts other (reorders.entities.mem_iff.mp ?_)
      rw [split]
      exact List.mem_append_left _ earlier
    rw [split] at once ⊢
    exact ((separate rt zeroKey).reaches once clear done).sameRow
  · have quiet : ∀ row ∈ batch, ¬entity.Touched row :=
      fun row held touched => member (mem_affected.mpr ⟨row, held, touched⟩)
    exact .inl ⟨ingest_elsewhere quiet, quiet⟩

/-- One more batch refreshes the row, or has nothing to do with it. -/
theorem Shown.ingest {table made : Database S} (accepts : Accepts rt zeroKey source)
    (unique : (source.map ParsedEvent.key).Nodup) (drawn : Drawn source db.events)
    (held : ∀ row ∈ batches.flatten, row ∈ db.events) (given : batch ⊆ source)
    (shown : Shown rt zeroKey source batches db entity table made) :
    ∃ table made, Shown rt zeroKey source (batches ++ [batch]) (Backend.ingest rt zeroKey db batch).1
      entity table made := by
  rcases ingest_row (fun other _ => accepts _ (drawn.insertEvents given) other) entity with
    ⟨kept, quiet⟩ | ⟨made', done, row⟩
  · refine ⟨table, made, shown.drawn, ?_, shown.statement, shown.row.trans kept⟩
    intro row member touched
    rw [List.flatten_append, List.flatten_singleton, List.mem_append] at member
    rcases member with earlier | here
    · exact shown.touched row earlier touched
    · exact absurd touched (quiet row here)
  · refine ⟨_, made', drawn.insertEvents given, ?_, done, row⟩
    intro row member _
    rw [List.flatten_append, List.flatten_singleton, List.mem_append] at member
    rcases member with earlier | here
    · exact mem_insertEvents (held row earlier) batch
    · exact drawn.mem_insertEvents unique given here

theorem deliver_shown (accepts : Accepts rt zeroKey source)
    (unique : (source.map ParsedEvent.key).Nodup) (given : ∀ batch ∈ batches, batch ⊆ source)
    (entity : Entity S) : ∃ table made,
      Shown rt zeroKey source batches (deliver rt zeroKey .empty batches) entity table made := by
  have start : Drawn source (Database.empty (S := S)).events := ⟨List.nil_subset _, List.nodup_nil⟩
  suffices holds : Drawn source (deliver rt zeroKey .empty batches).events ∧
      (∀ row ∈ batches.flatten, row ∈ (deliver rt zeroKey .empty batches).events) ∧ ∃ table made,
        Shown rt zeroKey source batches (deliver rt zeroKey .empty batches) entity table made from
    holds.2.2
  induction batches using List.reverseRecOn with
  | nil =>
    have nothing : entity.inits (Database.empty (S := S)).events = [] := by cases entity <;> rfl
    refine ⟨start, by simp, .empty, .empty, start, by simp, Entity.refresh_absent nothing, ?_⟩
    cases entity <;> rfl
  | append_singleton batches batch ih =>
    rw [List.forall_mem_append, List.forall_mem_singleton] at given
    obtain ⟨drawn, held, table, made, shown⟩ := ih given.1
    rw [deliver_concat, ingest_events]
    refine ⟨drawn.insertEvents given.2, ?_, shown.ingest accepts unique drawn held given.2⟩
    intro row member
    rw [List.flatten_append, List.flatten_singleton, List.mem_append] at member
    rcases member with earlier | here
    · exact mem_insertEvents (held row earlier) batch
    · exact drawn.mem_insertEvents unique given.2 here

end AgentFuel.Backend
