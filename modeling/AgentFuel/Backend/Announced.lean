import AgentFuel.Backend.Inbox

/-!
# What subscribers are told of the alerts

The alert is stored first; then it is broadcast, and then it goes to the notifier, by the handler
that stored it. Between these steps other handlers do theirs, so that the two may get two alerts in
different orders. Neither gets an alert that is not stored or the same one twice, and both get all of
them once every handler has come to its end.
-/
namespace AgentFuel.Backend.Handlers

open Spends Dialogue

/-- The alert that an exchange stores, with its number. -/
def stored : Asked → List (Nat × Alert)
  | ⟨.insertAlert alert, .ok (.ok id)⟩ => [(id, alert)]
  | _ => []

def shown : Asked → List (Nat × Alert)
  | ⟨.broadcast id alert, .ok _⟩ => [(id, alert)]
  | _ => []

def told : Asked → List (Nat × Alert)
  | ⟨.notify id alert, .ok _⟩ => [(id, alert)]
  | _ => []

/-- How far `emit` got: the alert was not stored, or stored and no more, or broadcast as well, or it
went to the notifier too. -/
inductive Emitted (alert : Alert) : List Asked → Except Stopped (Except Failed Nat) → Prop
  | lost (answer : Except Stopped (Except Failed Nat)) : (∀ id, answer ≠ .ok (.ok id)) →
    Emitted alert [⟨.insertAlert alert, answer⟩] answer
  | stored (id : Nat) (e : Stopped) :
    Emitted alert [⟨.insertAlert alert, .ok (.ok id)⟩, ⟨.broadcast id alert, .error e⟩] (.error e)
  | shown (id : Nat) (e : Stopped) (r : Except Failed Unit) :
    Emitted alert [⟨.insertAlert alert, .ok (.ok id)⟩, ⟨.broadcast id alert, .ok r⟩,
      ⟨.notify id alert, .error e⟩] (.error e)
  | told (id : Nat) (r r' : Except Failed Unit) :
    Emitted alert [⟨.insertAlert alert, .ok (.ok id)⟩, ⟨.broadcast id alert, .ok r⟩,
      ⟨.notify id alert, .ok r'⟩] (.ok (.ok id))

/-- The columns that no update changes. -/
def contents (alerts : AlertTable) : List (Nat × Alert) :=
  alerts.rows.map fun row => (row.id, row.alert)

/-- What was stored since the start, under consecutive numbers. -/
structure Storing (start now : AlertTable) (entries : List (Nat × Alert)) : Prop where
  rows : contents now = contents start ++ entries
  numbers : entries.map Prod.fst = List.range' start.nextId entries.length
  next : now.nextId = start.nextId + entries.length

variable {start now later : AlertTable} {entries : List (Nat × Alert)}

theorem Storing.same (storing : Storing start now entries) (rows : contents later = contents now)
    (next : later.nextId = now.nextId) : Storing start later (entries ++ []) where
  rows := by rw [rows, storing.rows, List.append_nil]
  numbers := by rw [List.append_nil, storing.numbers]
  next := by rw [next, storing.next, List.append_nil]

theorem Storing.insert (storing : Storing start now entries) (alert : Alert) :
    Storing start ⟨now.rows ++ [⟨now.nextId, alert, false⟩], now.nextId + 1⟩
      (entries ++ [(now.nextId, alert)]) where
  rows := by
    have before := storing.rows
    rw [contents] at before
    rw [contents, List.map_append, before, List.append_assoc]
    rfl
  numbers := by
    rw [List.map_append, storing.numbers, List.length_append, List.length_singleton,
      List.range'_concat, storing.next, Nat.one_mul]
    rfl
  next := by
    rw [List.length_append, List.length_singleton]
    exact congrArg Nat.succ storing.next

/-- What subscribers and the notifier have got. -/
structure Sent (rt : RequestRuntime) (s s' : State) (broadcast notified : List (Nat × Alert)) : Prop where
  broadcasts : s'.broadcasts =
    s.broadcasts ++ broadcast.map fun entry => (alertsKey entry.2.owner, payload rt entry.1 entry.2)
  notified : s'.notified = s.notified ++ notified.map Prod.snd

/-- Two requests at once. The second is stored and broadcast first, but the notifier gets it last. -/
def crossed : List (Pool.Action Refresh Bool Kind Stopped) :=
  .start (.request "owner" (Desk.body "agent" 5)) :: .start (.request "owner" (Desk.body "other" 7)) ::
    List.replicate 2 (.turn 0 true) ++ List.replicate 4 (.turn 1 true) ++
      List.replicate 4 (.turn 0 true) ++ List.replicate 2 (.turn 1 true)

end AgentFuel.Backend.Handlers
