import Mathlib.Data.List.MinMax
import Mathlib.Tactic.Common

/-!
# The first row of an order

A query that orders its rows by a key and takes one of them answers with a row whose key is
least. Between several such rows it may choose.
-/
structure FirstBy {α β : Type} [LinearOrder β] (key : α → β) where
  pick : List α → Option α
  pick_mem : ∀ {rows a}, pick rows = some a → a ∈ rows
  pick_le : ∀ {rows a}, pick rows = some a → ∀ b ∈ rows, key a ≤ key b
  pick_none : ∀ {rows}, pick rows = none → rows = []

namespace FirstBy

variable {α β γ : Type} [LinearOrder β] {key : α → β} {rows : List α} {a : α}

/-- The leftmost of the least rows. -/
def leftmost (key : α → β) : FirstBy key where
  pick := List.argmin key
  pick_mem := List.argmin_mem
  pick_le found _ member := List.le_of_mem_argmin member found
  pick_none := List.argmin_eq_none.mp

theorem exists_pick (first : FirstBy key) (member : a ∈ rows) : ∃ b, first.pick rows = some b := by
  cases found : first.pick rows with
  | some b => exact ⟨b, rfl⟩
  | none =>
    rw [first.pick_none found] at member
    cases member

end FirstBy
