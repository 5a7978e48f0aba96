import Mathlib.Algebra.Order.Ring.Nat
import Mathlib.Data.List.Induction
import Mathlib.Tactic.Common

/-!
# Registers and the events that write them

Some events of a sequence write a value. A register holds the last one written; one that only
grows holds the greatest as well, so that it can be read off the events in any order.
-/
namespace Register

variable {ε β : Type} {write : ε → Option β} {events before after : List ε} {e : ε} {b : β}

def last (write : ε → Option β) (events : List ε) : Option β := (events.filterMap write).getLast?

theorem last_snoc (events : List ε) (e : ε) :
    last write (events ++ [e]) = (write e).or (last write events) := by
  unfold last
  rw [List.filterMap_append, List.getLast?_append]
  cases written : write e <;> simp [written]

theorem last_append (events later : List ε) :
    last write (events ++ later) = (last write later).or (last write events) := by
  unfold last
  rw [List.filterMap_append, List.getLast?_append]

theorem last_eq_none : last write events = none ↔ ∀ e ∈ events, write e = none := by
  rw [last, List.getLast?_eq_none_iff, List.filterMap_eq_nil_iff]

theorem last_filterMap {ι : Type} (f : ι → Option ε) (items : List ι) :
    last write (items.filterMap f) = last (fun i => (f i).bind write) items := by
  rw [last, last, List.filterMap_filterMap]

/-- The last write and what comes after it. -/
theorem last_eq_some (wrote : last write events = some b) :
    ∃ before e after, events = before ++ e :: after ∧ write e = some b ∧
      ∀ later ∈ after, write later = none := by
  induction events using List.reverseRecOn with
  | nil => cases wrote
  | append_singleton events e ih =>
    rw [last_snoc] at wrote
    cases written : write e with
    | some c =>
      rw [written, Option.some_or, Option.some.injEq] at wrote
      exact ⟨events, e, [], rfl, wrote ▸ written, by simp⟩
    | none =>
      rw [written, Option.none_or] at wrote
      obtain ⟨before, w, after, rfl, wrote, unwritten⟩ := ih wrote
      refine ⟨before, w, after ++ [e], by simp, wrote, ?_⟩
      intro later member
      rcases List.mem_append.mp member with earlier | here
      · exact unwritten later earlier
      · rw [List.mem_singleton.mp here]
        exact written

/-! ### Registers that grow -/

/-- A register that starts at zero, holds the last value written and has never held more. -/
structure Counter (write : ε → Option Nat) (value : Nat) (events : List ε) : Prop where
  holds : value = (last write events).getD 0
  grows : ∀ e ∈ events, ∀ n, write e = some n → n ≤ value

namespace Counter

variable {write : ε → Option Nat} {value value' : Nat}

/-- A register without a write is at zero. -/
theorem fresh (unwritten : ∀ e ∈ events, write e = none) : Counter write 0 events := by
  refine ⟨?_, ?_⟩
  · rw [last_eq_none.mpr unwritten, Option.getD_none]
  · intro e member n wrote
    rw [unwritten e member] at wrote
    cases wrote

theorem snoc (counter : Counter write value events) (moved : value' = (write e).getD value)
    (grown : value ≤ value') : Counter write value' (events ++ [e]) := by
  refine ⟨?_, ?_⟩
  · rw [last_snoc, moved]
    cases write e with
    | some n => rfl
    | none => exact counter.holds
  · intro w member n wrote
    rcases List.mem_append.mp member with earlier | here
    · exact (counter.grows w earlier n wrote).trans grown
    · rw [List.mem_singleton.mp here] at wrote
      rw [moved, wrote, Option.getD_some]

/-- The events may come with others in between. -/
theorem of_filterMap {ι : Type} {f : ι → Option ε} {items : List ι}
    (counter : Counter write value (items.filterMap f)) :
    Counter (fun i => (f i).bind write) value items := by
  refine ⟨?_, ?_⟩
  · rw [counter.holds, last_filterMap]
  · intro i member n wrote
    obtain ⟨e, event, written⟩ := Option.bind_eq_some_iff.mp wrote
    exact counter.grows e (List.mem_filterMap.mpr ⟨i, member, event⟩) n written

/-- The greatest value written is the last one, in whatever order the events are looked at. -/
theorem max {others : List ε} (counter : Counter write value events) (subset : others ⊆ events)
    (covers : ∀ e ∈ events, (write e).isSome = true → e ∈ others) :
    (others.filterMap write).max?.getD 0 = value := by
  cases wrote : last write events with
  | none =>
    have unwritten : ∀ e ∈ others, write e = none :=
      fun e member => last_eq_none.mp wrote e (subset member)
    rw [counter.holds, wrote, List.filterMap_eq_nil_iff.mpr unwritten]
    rfl
  | some n =>
    obtain ⟨before, e, after, rfl, written, -⟩ := last_eq_some wrote
    have held : e ∈ others := covers e (by simp) (by simp [written])
    have greatest : (others.filterMap write).max? = some n := by
      rw [List.max?_eq_some_iff]
      refine ⟨List.mem_filterMap.mpr ⟨e, held, written⟩, ?_⟩
      intro m member
      obtain ⟨w, inside, wrote'⟩ := List.mem_filterMap.mp member
      have bound := counter.grows w (subset inside) m wrote'
      rwa [counter.holds, wrote, Option.getD_some] at bound
    rw [greatest, counter.holds, wrote]

end Counter
end Register
