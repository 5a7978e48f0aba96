import Mathlib.Algebra.Order.Ring.Nat
import Mathlib.Tactic.Common

/-! Fallible straight-line programs: guards, absent values and bounded counters. -/
namespace Checked

variable {ε α β : Type}

/-- Continue when the condition holds and stop with the error otherwise. -/
def require (c : Prop) [Decidable c] (e : ε) : Except ε Unit :=
  if c then .ok () else .error e

/-- A guard that only applies under a switch. -/
def requireWhen (switch c : Prop) [Decidable switch] [Decidable c] (e : ε) : Except ε Unit :=
  if switch then require c e else .ok ()

/-- An absent value stops the program with the error. -/
def okOr (o : Option α) (e : ε) : Except ε α :=
  match o with
  | some a => .ok a
  | none => .error e

/-- Addition of two unsigned integers of the given width, absent on overflow. -/
def checkedAdd (bits a b : Nat) : Option Nat :=
  if a + b < 2 ^ bits then some (a + b) else none

/-- Subtraction of unsigned integers, absent on underflow. -/
def checkedSub (a b : Nat) : Option Nat :=
  if b ≤ a then some (a - b) else none

@[simp] theorem bind_eq_ok (x : Except ε α) (f : α → Except ε β) (b : β) :
    (x >>= f) = .ok b ↔ ∃ a, x = .ok a ∧ f a = .ok b := by
  cases x <;> simp [bind, Except.bind]

@[simp] theorem map_eq_ok (f : α → β) (x : Except ε α) (b : β) :
    f <$> x = .ok b ↔ ∃ a, x = .ok a ∧ f a = b := by
  cases x <;> simp [Functor.map, Except.map]

@[simp] theorem pure_eq_ok (a b : α) : (pure a : Except ε α) = .ok b ↔ a = b := by
  simp [pure, Except.pure]

@[simp] theorem require_eq_ok (c : Prop) [Decidable c] (e : ε) (u : Unit) :
    require c e = .ok u ↔ c := by
  unfold require
  split <;> simp_all

@[simp] theorem requireWhen_eq_ok (switch c : Prop) [Decidable switch] [Decidable c] (e : ε)
    (u : Unit) : requireWhen switch c e = .ok u ↔ (switch → c) := by
  unfold requireWhen
  split <;> simp_all

@[simp] theorem okOr_eq_ok (o : Option α) (e : ε) (a : α) : okOr o e = .ok a ↔ o = some a := by
  cases o <;> simp [okOr]

theorem bind_eq_error (x : Except ε α) (f : α → Except ε β) (e : ε) :
    (x >>= f) = .error e ↔ x = .error e ∨ ∃ a, x = .ok a ∧ f a = .error e := by
  cases x <;> simp [bind, Except.bind]

theorem map_eq_error (f : α → β) (x : Except ε α) (e : ε) : f <$> x = .error e ↔ x = .error e := by
  cases x <;> simp [Functor.map, Except.map]

theorem pure_ne_error (a : α) (e : ε) : (pure a : Except ε α) ≠ .error e := by
  simp [pure, Except.pure]

theorem require_eq_error (c : Prop) [Decidable c] (e e' : ε) :
    require c e = .error e' ↔ ¬c ∧ e = e' := by
  unfold require
  split <;> simp_all

theorem okOr_eq_error (o : Option α) (e e' : ε) : okOr o e = .error e' ↔ o = none ∧ e = e' := by
  cases o <;> simp [okOr]

@[simp] theorem mapError_eq_ok {ε' : Type} (f : ε → ε') (x : Except ε α) (a : α) :
    x.mapError f = .ok a ↔ x = .ok a := by
  cases x <;> simp [Except.mapError]

@[simp] theorem checkedAdd_eq_some (bits a b c : Nat) :
    checkedAdd bits a b = some c ↔ a + b < 2 ^ bits ∧ a + b = c := by
  simp [checkedAdd]

@[simp] theorem checkedSub_eq_some (a b c : Nat) :
    checkedSub a b = some c ↔ b ≤ a ∧ a - b = c := by
  simp [checkedSub]

/-! ### Steps for the items of a list -/

section Items

variable {items : List α} {f : α → Except ε β}

/-- Where every result is known, so is the list of them. -/
theorem mapM_values {g : α → β} {values : List β} (done : items.mapM f = .ok values)
    (each : ∀ a ∈ items, ∀ b, f a = .ok b → b = g a) : values = items.map g := by
  induction items generalizing values with
  | nil => exact (Except.ok.inj done).symm
  | cons a items ih =>
    rw [List.mapM_cons] at done
    simp only [bind_eq_ok, pure_eq_ok] at done
    obtain ⟨first, here, others, later, rfl⟩ := done
    rw [List.forall_mem_cons] at each
    rw [List.map_cons, each.1 first here, ih later each.2]

theorem mapM_total (each : ∀ a ∈ items, ∃ b, f a = .ok b) : ∃ values, items.mapM f = .ok values := by
  induction items with
  | nil => exact ⟨[], rfl⟩
  | cons a items ih =>
    rw [List.forall_mem_cons] at each
    obtain ⟨first, here⟩ := each.1
    obtain ⟨others, later⟩ := ih each.2
    refine ⟨first :: others, ?_⟩
    rw [List.mapM_cons, here, later]
    rfl

theorem forM_total {f : α → Except ε Unit} (each : ∀ a ∈ items, ∃ u, f a = .ok u) :
    items.forM f = .ok () := by
  induction items with
  | nil => rfl
  | cons a items ih =>
    rw [List.forall_mem_cons] at each
    obtain ⟨u, here⟩ := each.1
    rw [List.forM, here]
    exact ih each.2

theorem filterAuxM_ok {γ : Type} {g : α → γ} {p : γ → Except ε Bool} {q : α → Bool}
    (each : ∀ a ∈ items, p (g a) = .ok (q a)) (acc : List γ) :
    (items.map g).filterAuxM p acc = .ok (((items.filter q).map g).reverse ++ acc) := by
  induction items generalizing acc with
  | nil => rfl
  | cons a items ih =>
    rw [List.forall_mem_cons] at each
    rw [List.map_cons, List.filterAuxM, each.1]
    cases kept : q a with
    | true =>
      rw [List.filter_cons_of_pos kept, List.map_cons, List.reverse_cons, List.append_assoc]
      exact ih each.2 (g a :: acc)
    | false =>
      rw [List.filter_cons_of_neg (by simp [kept])]
      exact ih each.2 acc

/-- Where every test has an answer, the items that pass are kept. -/
theorem filterM_ok {γ : Type} {g : α → γ} {p : γ → Except ε Bool} {q : α → Bool}
    (each : ∀ a ∈ items, p (g a) = .ok (q a)) :
    (items.map g).filterM p = .ok ((items.filter q).map g) := by
  rw [List.filterM, filterAuxM_ok each, List.append_nil]
  exact congrArg Except.ok (List.reverse_reverse _)

end Items

end Checked
