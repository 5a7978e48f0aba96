import Mathlib.Logic.Function.Basic
import Mathlib.Tactic.Common

/-!
# Maps that keep what they hold

`Keeps name m m'` says that no key of `m` is lost in `m'` and that `name` of its value stays.
-/
namespace PartialMap

variable {κ A B : Type}

def Keeps (name : A → B) (m m' : κ → Option A) : Prop :=
  ∀ key a, m key = some a → ∃ a', m' key = some a' ∧ name a' = name a

variable {name : A → B} {m m' m'' : κ → Option A} {k : κ} {a b : A}

theorem Keeps.refl (m : κ → Option A) : Keeps name m m := fun _ a held => ⟨a, held, rfl⟩

theorem Keeps.trans (first : Keeps name m m') (second : Keeps name m' m'') : Keeps name m m'' := by
  intro key a held
  obtain ⟨b, later, same⟩ := first key a held
  obtain ⟨c, last, again⟩ := second key b later
  exact ⟨c, last, again.trans same⟩

variable [DecidableEq κ]

theorem Keeps.replace (held : m k = some b) (same : name a = name b) :
    Keeps name m (Function.update m k (some a)) := by
  intro key old present
  by_cases written : key = k
  · rw [written, held] at present
    obtain rfl := Option.some.inj present
    exact ⟨a, by rw [written, Function.update_self], same⟩
  · exact ⟨old, by rw [Function.update_of_ne written, present], rfl⟩

theorem Keeps.add (absent : m k = none) : Keeps name m (Function.update m k (some a)) := by
  intro key old present
  have apart : key ≠ k := by
    rintro rfl
    rw [absent] at present
    cases present
  exact ⟨old, by rw [Function.update_of_ne apart, present], rfl⟩

/-- What a map holds after one of its values was replaced comes from what it held before. -/
theorem exists_of_update {R : A → A → Prop} {key : κ} {c : A} (present : m k = some a)
    (changes : key = k → R a b) (keeps : ∀ other, m key = some other → key ≠ k → R other other)
    (held : Function.update m k (some b) key = some c) : ∃ old, m key = some old ∧ R old c := by
  by_cases here : key = k
  · rw [here, Function.update_self, Option.some.injEq] at held
    subst held
    exact ⟨a, by rw [here, present], changes here⟩
  · rw [Function.update_of_ne here] at held
    exact ⟨c, held, keeps c held here⟩

end PartialMap
