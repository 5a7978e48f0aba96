import AgentFuel.Backend.MirrorRows
import Mathlib.Data.List.DropRight

/-!
# Deliveries one by one and all at once

A statement rebuilds a row from the whole table, so that it makes no difference how the events came
into it, as far as the statement is executed at all: after the last delivery that touches an entity
its row is not looked at any more. One delivery of everything looks at all rows once, at the end.
-/
namespace AgentFuel.Backend

open Checked

variable {S : Type} [DecidableEq S] {rt : Runtime S} {zeroKey : S} {db made : Database S}
  {entity : Entity S} {events extra : List (ParsedEvent S)} {init : ParsedEvent S} {row : MirrorRow S}

/-! ### Events that do not touch the entity -/

/-- No event of a list touches the entity. -/
def Entity.Untouched (entity : Entity S) (rows : List (ParsedEvent S)) : Prop :=
  ∀ row ∈ rows, ¬entity.Touched row

theorem about_append (names : List EventName) (field : String) (key : S) :
    about names field key (events ++ extra) = about names field key events ++ about names field key extra :=
  List.filter_append ..

theorem about_foreign {names others : List EventName} {field : String} {key : S}
    (untouched : ∀ row ∈ extra, ¬(row.decoded.eventName ∈ others ∧ row.text field = some key))
    (fewer : names ⊆ others) :
    about names field key (events ++ extra) = about names field key events := by
  have nothing : about names field key extra = [] := by
    rw [about, List.filter_eq_nil_iff]
    intro row member about
    rw [decide_eq_true_eq] at about
    exact untouched row member ⟨fewer about.1, about.2⟩
  rw [about_append, nothing, List.append_nil]

theorem Entity.inits_append (untouched : entity.Untouched extra) :
    entity.inits (events ++ extra) = entity.inits events := by
  cases entity with
  | agent key => exact about_foreign untouched (by simp)
  | service key => exact about_foreign untouched (by simp)
  | vault key => exact about_foreign untouched (by simp)

theorem Entity.inits_of_untouched (untouched : entity.Untouched extra) : entity.inits extra = [] := by
  have nothing : entity.inits ([] : List (ParsedEvent S)) = [] := by cases entity <;> rfl
  rw [← nothing, ← List.nil_append extra]
  exact inits_append untouched

/-- A feedback is revoked by an event of its own agent. -/
def RevokedByOwn (source : List (ParsedEvent S)) : Prop :=
  ∀ given ∈ source, ∀ revoked ∈ source, given.decoded.eventName = .feedbackGiven →
    revoked.decoded.eventName = .feedbackRevoked → (given.text "feedback").isSome →
      revoked.text "feedback" = given.text "feedback" → revoked.text "agent" = given.text "agent"

/-- No statement that the deliveries run is refused. -/
def Accepted (rt : Runtime S) (zeroKey : S) (batches : List (List (ParsedEvent S))) : Prop :=
  ∀ parts ∈ batches.inits, ∀ batch ∈ parts.getLast?, ∀ entity ∈ (affected batch).entities,
    (entity.statement rt zeroKey parts.flatten).isOk

instance Accepted.decidable (rt : Runtime S) (zeroKey : S) (batches : List (List (ParsedEvent S))) :
    Decidable (Accepted rt zeroKey batches) :=
  inferInstanceAs (Decidable (∀ parts ∈ _, ∀ batch ∈ _, ∀ entity ∈ _, _))

/-- No statement is refused on the way, be it delivery by delivery or all at once, no entity is made
twice, and every feedback is revoked by its own agent. -/
structure Regular (rt : Runtime S) (zeroKey : S) (batches : List (List (ParsedEvent S))) : Prop where
  accepted : Accepted rt zeroKey batches
  once : Accepted rt zeroKey [batches.flatten]
  made : ∀ entity : Entity S, (entity.inits batches.flatten).length ≤ 1
  revoked : RevokedByOwn batches.flatten

instance RevokedByOwn.decidable (source : List (ParsedEvent S)) : Decidable (RevokedByOwn source) :=
  inferInstanceAs (Decidable (∀ given ∈ source, ∀ revoked ∈ source, _))

/-- What makes an entity touches it. -/
theorem Entity.mem_affected_of_inits (made : entity.inits events ≠ []) :
    entity ∈ (affected events).entities := by
  by_contra out
  refine made (Entity.inits_of_untouched fun row member touched => ?_)
  exact out (mem_affected.mpr ⟨row, member, touched⟩)

instance Regular.decidable (rt : Runtime S) (zeroKey : S) (batches : List (List (ParsedEvent S))) :
    Decidable (Regular rt zeroKey batches) :=
  decidable_of_iff (Accepted rt zeroKey batches ∧ Accepted rt zeroKey [batches.flatten] ∧
      (∀ entity ∈ (affected batches.flatten).entities, (entity.inits batches.flatten).length ≤ 1) ∧
      RevokedByOwn batches.flatten) <| by
    constructor
    · rintro ⟨accepted, once, made, revoked⟩
      refine ⟨accepted, once, fun entity => ?_, revoked⟩
      by_cases none : entity.inits batches.flatten = []
      · rw [none]
        exact Nat.zero_le 1
      · exact made entity (Entity.mem_affected_of_inits none)
    · exact fun regular => ⟨regular.accepted, regular.once, fun entity _ => regular.made entity,
        regular.revoked⟩

theorem Regular.whole {batches : List (List (ParsedEvent S))} (regular : Regular rt zeroKey batches) :
    Regular rt zeroKey [batches.flatten] := by
  have same : [batches.flatten].flatten = batches.flatten := List.flatten_singleton
  exact ⟨regular.once, same.symm ▸ regular.once, same.symm ▸ regular.made, same.symm ▸ regular.revoked⟩

/-- The row of the entity is the one that its statement computes from a table. -/
inductive Represents (rt : Runtime S) (zeroKey : S) (events : List (ParsedEvent S)) (db : Database S)
    (entity : Entity S) : Prop
  | absent : entity.inits events = [] → entity.rowIn db = none → Represents rt zeroKey events db entity
  | computed (init : ParsedEvent S) (row : MirrorRow S) : entity.inits events = [init] →
      entity.compute rt zeroKey events init = .ok row → entity.rowIn db = some row →
      Represents rt zeroKey events db entity

theorem Entity.inits_sublist {events events' : List (ParsedEvent S)} (sub : events.Sublist events')
    (entity : Entity S) : (entity.inits events).Sublist (entity.inits events') := by
  cases entity <;> exact sub.filter _

/-- A statement on a longer table computes the row afresh, whatever row it finds. -/
theorem Represents.refresh {earlier : List (ParsedEvent S)}
    (represents : Represents rt zeroKey earlier db entity) (longer : earlier.Sublist events)
    (one : (entity.inits events).length ≤ 1)
    (done : entity.refresh rt zeroKey { db with events } = .ok made) :
    Represents rt zeroKey events made entity := by
  have rows : entity.rowIn { db with events } = entity.rowIn db := by cases entity <;> rfl
  cases inits : entity.inits events with
  | nil =>
    have none : entity.inits earlier = [] := by
      have fewer := Entity.inits_sublist longer entity
      rw [inits] at fewer
      exact List.sublist_nil.mp fewer
    rw [Entity.refresh_absent inits] at done
    obtain rfl := Except.ok.inj done
    cases represents with
    | absent _ row => exact .absent inits (rows.trans row)
    | computed init row one _ _ =>
      rw [none] at one
      cases one
  | cons init rest =>
    have only : entity.inits events = [init] := by
      rw [inits] at one ⊢
      rw [List.length_cons] at one
      rw [List.length_eq_zero_iff.mp (Nat.le_zero.mp (Nat.le_of_succ_le_succ one))]
    obtain ⟨found, accepted, shown⟩ := Entity.refresh_statement done
    rw [Entity.statement_single only, map_eq_ok] at accepted
    obtain ⟨row, computed, rfl⟩ := accepted
    refine .computed init row only computed ?_
    rw [Option.elim_some] at shown
    rw [shown, rows]
    cases represents with
    | absent _ none =>
      rw [none]
      cases row <;> rfl
    | computed init' old one' before held =>
      -- There is only one event that can have made the old row.
      have fewer := Entity.inits_sublist longer entity
      rw [one', only] at fewer
      obtain rfl := List.mem_singleton.mp (fewer.subset (List.mem_singleton_self _))
      rw [held, MirrorRow.onto_eq (Entity.compute_ok before).1 (Entity.compute_ok computed).1]

instance (entity : Entity S) (row : ParsedEvent S) : Decidable (entity.Touched row) := by
  cases entity <;> exact inferInstanceAs (Decidable (_ ∧ _))

/-- No event of a delivery touches the entity. -/
def Entity.passes (entity : Entity S) (batch : List (ParsedEvent S)) : Bool :=
  batch.all fun row => decide ¬entity.Touched row

/-- No delivery after the last one that touches an entity names it in a later slot than those before. -/
def Entity.Current (entity : Entity S) (batches : List (List (ParsedEvent S))) : Prop :=
  ∀ row ∈ entity.ownEvents (batches.rtakeWhile entity.passes).flatten,
    ∃ old ∈ entity.ownEvents (batches.rdropWhile entity.passes).flatten, row.slot ≤ old.slot

instance Entity.decidableCurrent (entity : Entity S) (batches : List (List (ParsedEvent S))) :
    Decidable (entity.Current batches) :=
  inferInstanceAs (Decidable (∀ row ∈ entity.ownEvents _, ∃ old ∈ entity.ownEvents _, row.slot ≤ old.slot))

theorem Entity.lastActive_eq (events : List (ParsedEvent S)) (n : Int) (entity : Entity S) :
    entity.lastActive events n = (((entity.ownEvents events).map ParsedEvent.slot).max?).getD n := by
  cases entity <;> rfl

/-- The refresh of everything and those of the deliveries reach the entity or miss it alike. Where they
reach it, the row that the last of them computes, with the columns of the first one that an update
keeps, is the row that is computed from everything. -/
inductive Entity.Settled (rt : Runtime S) (zeroKey : S) (batches : List (List (ParsedEvent S)))
    (entity : Entity S) : Prop
  | missed : entity.refreshed rt zeroKey batches.flatten batches.flatten = none →
      entity.refreshes rt zeroKey [] batches = [] → Settled rt zeroKey batches entity
  | reached (first last row : MirrorRow S) :
      entity.refreshed rt zeroKey batches.flatten batches.flatten = some row →
      (entity.refreshes rt zeroKey [] batches).head? = some first →
      (entity.refreshes rt zeroKey [] batches).getLast? = some last →
      last.onto (some first) = row → Settled rt zeroKey batches entity

end AgentFuel.Backend
