import Mathlib.Data.List.Infix
import Mathlib.Tactic.Common

/-!
# What waits at the end of a history

Arrivals wait until a departure takes one of them away, and a departure that finds nobody is lost.
Nobody waits at the end when no end of the history has more arrivals than departures: every arrival
is followed by a departure of its own.
-/
namespace Backlog

variable {σ α : Type} {step : σ → α → σ} {waiting : σ → Nat} {arrives departs : α → Bool}
  {history rest : List α} {a : α}

/-- No end of the history has more arrivals than departures. -/
def Served (arrives departs : α → Bool) (history : List α) : Prop :=
  ∀ rest, rest <:+ history → rest.countP arrives ≤ rest.countP departs

theorem Served.whole (served : Served arrives departs history) :
    history.countP arrives ≤ history.countP departs :=
  served history (List.suffix_refl history)

theorem Served.tail (served : Served arrives departs (a :: history)) :
    Served arrives departs history :=
  fun rest part => served rest (part.trans (List.suffix_cons a history))

theorem Served.of_map {β : Type} {f : β → α} {list : List β}
    (served : Served (arrives ∘ f) (departs ∘ f) list) : Served arrives departs (list.map f) := by
  rintro rest ⟨front, whole⟩
  obtain ⟨before, inner, rfl, -, rfl⟩ := List.map_eq_append_iff.mp whole.symm
  rw [List.countP_map, List.countP_map]
  exact served inner (List.suffix_append before inner)

/-- A step that lets at most the arrival in, and one of the waiting out at a departure. -/
theorem Served.drained (bound : ∀ s a, waiting (step s a) ≤
      waiting s + (arrives a).toNat - (departs a).toNat) (served : Served arrives departs history)
    (s : σ) (enough : waiting s + history.countP arrives ≤ history.countP departs) :
    waiting (history.foldl step s) = 0 := by
  -- Either the departures make up for those who wait already, or nobody waits and the rest of the
  -- history serves its own arrivals.
  induction history generalizing s with
  | nil =>
    simp only [List.countP_nil] at enough
    exact Nat.le_zero.mp enough
  | cons a history ih =>
    have later := served.tail.whole
    have here := bound s a
    rw [List.foldl_cons]
    apply ih served.tail
    simp only [List.countP_cons] at enough
    cases came : arrives a <;> cases left : departs a <;> simp [came, left] at enough here <;> omega

end Backlog
