import AgentFuel.Library.Checked

/-!
# Ladders of checks

Checks that are made one after the other, each with an error of its own; the first that does not
hold decides. Programs that only check are such ladders, and two of them that differ in one check
are told apart exactly by what reaches it.
-/
namespace Ladder

open Checked

variable {ε ε' α : Type} {e : ε} {before rest : List (Bool × ε)}

/-- The first check that does not hold. -/
def climb : List (Bool × ε) → Except ε Unit
  | [] => .ok ()
  | (held, e) :: rest => if held then climb rest else .error e

theorem climb_error (stopped : climb rest = .error e) : e ∈ rest.map Prod.snd := by
  induction rest with
  | nil => cases stopped
  | cons rung rest ih =>
    obtain ⟨held, own⟩ := rung
    rw [climb] at stopped
    split at stopped
    · exact List.mem_cons_of_mem _ (ih stopped)
    · rw [Except.error.inj stopped]
      exact List.mem_cons_self

/-- Two ladders that differ in one check come to the same result exactly if an earlier check stops
them or the check has the same outcome. -/
theorem climb_eq_iff {held held' : Bool} (own : e ∉ rest.map Prod.snd) :
    climb (before ++ (held, e) :: rest) = climb (before ++ (held', e) :: rest) ↔
      (∃ rung ∈ before, rung.1 = false) ∨ held = held' := by
  induction before with
  | nil =>
    have differ : climb rest ≠ .error e := fun stopped => own (climb_error stopped)
    cases held <;> cases held' <;> simp [climb, differ, Ne.symm differ]
  | cons rung before ih =>
    obtain ⟨first, error⟩ := rung
    cases first with
    | false => simp [climb]
    | true => simpa [climb] using ih

/-- An error that does not show might as well not be checked for. -/
theorem climb_filter [DecidableEq ε] (silent : climb rest ≠ .error e) :
    climb (rest.filter fun rung => decide (rung.2 ≠ e)) = climb rest := by
  induction rest with
  | nil => rfl
  | cons rung rest ih =>
    obtain ⟨held, own⟩ := rung
    rw [climb] at silent ⊢
    cases held with
    | false =>
      have other : own ≠ e := fun same => silent (congrArg Except.error same)
      rw [List.filter_cons_of_pos (by simpa using other), climb]
      rfl
    | true =>
      by_cases same : own = e
      · rw [List.filter_cons_of_neg (by simpa using same)]
        exact ih silent
      · rw [List.filter_cons_of_pos (by simpa using same), climb]
        exact ih silent

/-! ### Programs -/

theorem require_bind (c : Prop) [Decidable c] (f : Unit → Except ε α) :
    (require c e >>= f) = if c then f () else .error e := by
  unfold require
  split <;> rfl

theorem requireWhen_eq (switch c : Prop) [Decidable switch] [Decidable c] [Decidable (switch → c)] :
    requireWhen switch c e = require (switch → c) e := by
  unfold requireWhen require
  by_cases on : switch
  · by_cases held : c <;> simp [on, held]
  · simp [on]

theorem okOr_bind (o : Option α) (f : α → Except ε ε') :
    (okOr o e >>= f) = o.elim (.error e) f := by
  cases o <;> rfl

theorem climb_cons (c : Prop) [Decidable c] :
    climb ((decide c, e) :: rest) = if c then climb rest else .error e := by
  rw [climb]
  simp only [decide_eq_true_eq]

end Ladder
