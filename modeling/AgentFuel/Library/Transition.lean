import Mathlib.Data.List.Induction
import Mathlib.Tactic.Common

/-!
# Runs of a fallible step function

A failing step leaves no trace: only successful steps enter a run. The log keeps the
state before each step, its action and the state after it, oldest first.
-/
namespace Transition

variable {σ α ε : Type}

/-- One executed step. -/
structure Fired (σ α : Type) where
  pre : σ
  act : α
  post : σ

inductive Run (step : σ → α → Except ε σ) (s : σ) : List (Fired σ α) → σ → Prop
  | nil : Run step s [] s
  | snoc {log t a u} : Run step s log t → step t a = .ok u → Run step s (log ++ [⟨t, a, u⟩]) u

variable {step : σ → α → Except ε σ} {s t u : σ} {log before after : List (Fired σ α)}

theorem Run.append (first : Run step s before t) (second : Run step t after u) :
    Run step s (before ++ after) u := by
  induction second with
  | nil => simpa using first
  | snoc _ fired ih => rw [← List.append_assoc]; exact ih.snoc fired

theorem Run.cons {a : α} (fired : step s a = .ok t) (rest : Run step t log u) :
    Run step s (⟨s, a, t⟩ :: log) u :=
  Run.append (.snoc .nil fired) rest

theorem Run.nil_inv (run : Run step s [] u) : s = u := by
  -- The log has to be a variable before the run can be taken apart.
  generalize empty : [] = log at run
  cases run with
  | nil => rfl
  | snoc _ _ => simp at empty

theorem Run.snoc_inv {e : Fired σ α} (run : Run step s (log ++ [e]) u) :
    Run step s log e.pre ∧ step e.pre e.act = .ok e.post ∧ e.post = u := by
  generalize whole : log ++ [e] = longer at run
  cases run with
  | nil => simp at whole
  | snoc shorter fired =>
    -- Both lists end in one step, so the shorter logs agree as well.
    obtain ⟨same, last⟩ := List.append_inj' whole rfl
    obtain rfl := List.singleton_inj.mp last
    exact ⟨same ▸ shorter, fired, rfl⟩

/-- A run stops at every point of its log. -/
theorem Run.split (run : Run step s (before ++ after) u) :
    ∃ t, Run step s before t ∧ Run step t after u := by
  -- Steps are peeled off the end, where `Run` adds them.
  induction after using List.reverseRecOn generalizing u with
  | nil => exact ⟨u, by simpa using run, .nil⟩
  | append_singleton after e ih =>
    rw [← List.append_assoc] at run
    obtain ⟨shorter, fired, rfl⟩ := run.snoc_inv
    obtain ⟨t, first, second⟩ := ih shorter
    exact ⟨t, first, second.snoc fired⟩

theorem Run.uncons {e : Fired σ α} (run : Run step s (e :: log) u) :
    s = e.pre ∧ step e.pre e.act = .ok e.post ∧ Run step e.post log u := by
  have whole : Run step s ([e] ++ log) u := run
  obtain ⟨t, first, rest⟩ := whole.split
  have single : Run step s ([] ++ [e]) t := first
  obtain ⟨start, fired, rfl⟩ := single.snoc_inv
  exact ⟨start.nil_inv, fired, rest⟩

/-- Every logged step ran between the two parts of the run around it. -/
theorem Run.around {e : Fired σ α} (run : Run step s (before ++ e :: after) u) :
    Run step s before e.pre ∧ step e.pre e.act = .ok e.post ∧ Run step e.post after u := by
  obtain ⟨t, first, rest⟩ := run.split
  obtain ⟨rfl, fired, rest⟩ := rest.uncons
  exact ⟨first, fired, rest⟩

theorem Run.fired (run : Run step s log u) {e : Fired σ α} (member : e ∈ log) :
    step e.pre e.act = .ok e.post := by
  obtain ⟨before, after, rfl⟩ := List.append_of_mem member
  exact run.around.2.1

/-- The part of a run that ends with one of its steps. -/
theorem Run.upTo (run : Run step s log u) {e : Fired σ α} (member : e ∈ log) :
    ∃ before, before ++ [e] ⊆ log ∧ Run step s (before ++ [e]) e.post := by
  obtain ⟨before, after, rfl⟩ := List.append_of_mem member
  obtain ⟨first, fired, -⟩ := run.around
  refine ⟨before, ?_, first.snoc fired⟩
  rw [List.append_cons before e after]
  exact List.subset_append_left _ _

/-- What every step under a condition preserves, a run of such steps preserves. -/
theorem Run.preserves {I : σ → Prop} {A : Fired σ α → Prop}
    (keep : ∀ e, A e → step e.pre e.act = .ok e.post → I e.pre → I e.post)
    (run : Run step s log u) (all : ∀ e ∈ log, A e) (init : I s) : I u := by
  induction run with
  | nil => exact init
  | snoc _ fired ih =>
    rw [List.forall_mem_append, List.forall_mem_singleton] at all
    exact keep _ all.2 fired (ih all.1)

theorem Run.invariant {I : σ → Prop}
    (keep : ∀ s a t, step s a = .ok t → I s → I t)
    (run : Run step s log u) (init : I s) : I u :=
  run.preserves (A := fun _ => True) (fun _ _ => keep _ _ _) (fun _ _ => trivial) init

/-- Steps that lower a rank are at most as many as the rank allows. -/
theorem Run.length_le {I : σ → Prop} {A : Fired σ α → Prop} {rank : σ → Nat}
    (lower : ∀ e, A e → step e.pre e.act = .ok e.post → I e.pre → I e.post ∧ rank e.post < rank e.pre)
    (run : Run step s log u) (all : ∀ e ∈ log, A e) (init : I s) :
    I u ∧ log.length + rank u ≤ rank s := by
  induction run with
  | nil => exact ⟨init, by simp⟩
  | snoc _ fired ih =>
    rw [List.forall_mem_append, List.forall_mem_singleton] at all
    obtain ⟨holds, bound⟩ := ih all.1
    obtain ⟨holds', less⟩ := lower _ all.2 fired holds
    refine ⟨holds', ?_⟩
    dsimp only at less
    rw [List.length_append, List.length_singleton]
    omega

/-! ### Execution -/

/-- The state after an action; a failed action changes nothing. -/
def settle (step : σ → α → Except ε σ) (s : σ) (a : α) : σ :=
  match step s a with
  | .ok t => t
  | .error _ => s

/-- The steps a list of actions executes; failed actions are skipped. -/
def trace (step : σ → α → Except ε σ) : σ → List α → List (Fired σ α)
  | _, [] => []
  | s, a :: rest =>
    match step s a with
    | .ok t => ⟨s, a, t⟩ :: trace step t rest
    | .error _ => trace step s rest

theorem settle_eq_ok {a : α} (succeeds : (step s a).isOk = true) :
    step s a = .ok (settle step s a) := by
  unfold settle
  cases outcome : step s a with
  | ok t => rfl
  | error _ => rw [outcome] at succeeds; cases succeeds

theorem Run.of_trace (step : σ → α → Except ε σ) (s : σ) (acts : List α) :
    Run step s (trace step s acts) (acts.foldl (settle step) s) := by
  induction acts generalizing s with
  | nil => exact .nil
  | cons a rest ih =>
    rw [List.foldl_cons]
    unfold trace settle
    cases fired : step s a with
    | ok t => exact .cons fired (ih t)
    -- A failed action is skipped by both sides.
    | error _ => exact ih s

theorem act_mem_of_trace {step : σ → α → Except ε σ} {s : σ} {acts : List α} {e : Fired σ α}
    (member : e ∈ trace step s acts) : e.act ∈ acts := by
  induction acts generalizing s with
  | nil => cases member
  | cons a rest ih =>
    unfold trace at member
    cases fired : step s a with
    | ok t =>
      rw [fired] at member
      rcases List.mem_cons.mp member with rfl | later
      · exact List.mem_cons_self
      · exact List.mem_cons_of_mem a (ih later)
    | error _ =>
      rw [fired] at member
      exact List.mem_cons_of_mem a (ih member)

end Transition
