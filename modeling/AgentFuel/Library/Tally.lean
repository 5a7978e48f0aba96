import Mathlib.Algebra.BigOperators.Finprod
import Mathlib.Algebra.Order.BigOperators.Group.Finset
import Mathlib.Data.Set.Card

/-!
# Sums over partial maps

`tally m g` adds up `g` over the values of a partial map with finitely many entries. One
update law covers new and replaced entries alike.
-/
namespace Tally

variable {κ A : Type}

/-- Only finitely many keys hold a value. -/
def Sparse (m : κ → Option A) : Prop := {k | m k ≠ none}.Finite

/-- What the value at a key counts. -/
def weight (m : κ → Option A) (g : A → ℕ) (k : κ) : ℕ := ((m k).map g).getD 0

/-- The sum of `g` over all values of the map. -/
noncomputable def tally (m : κ → Option A) (g : A → ℕ) : ℕ := ∑ᶠ k, weight m g k

/-- The number of values with a property. -/
noncomputable def count (m : κ → Option A) (p : A → Prop) : ℕ := {k | ∃ a, m k = some a ∧ p a}.ncard

variable {m : κ → Option A} {g : A → ℕ} {k : κ} {a : A}

@[simp] theorem weight_of_some (held : m k = some a) : weight m g k = g a := by
  simp [weight, held]

@[simp] theorem weight_of_none (absent : m k = none) : weight m g k = 0 := by
  simp [weight, absent]

/-- A write that counts what was there changes no count. -/
theorem weight_update_same [DecidableEq κ] (same : weight m g k = g a) :
    weight (Function.update m k (some a)) g = weight m g := by
  funext other
  by_cases written : other = k
  · rw [written, same, weight_of_some (Function.update_self ..)]
  · rw [weight, weight, Function.update_of_ne written]

theorem weight_replace [DecidableEq κ] {b : A} (held : m k = some b) (same : g b = g a) :
    weight (Function.update m k (some a)) g = weight m g :=
  weight_update_same ((weight_of_some held).trans same)

theorem weight_update [DecidableEq κ] (m : κ → Option A) (g : A → ℕ) (k other : κ) (a : A) :
    weight (Function.update m k (some a)) g other = if k = other then g a else weight m g other := by
  by_cases written : k = other
  · rw [← written, weight_of_some (Function.update_self ..), if_pos rfl]
  · rw [weight, Function.update_of_ne (Ne.symm written), if_neg written, weight]

theorem weight_grow [DecidableEq κ] {b : A} {n : ℕ} (held : m k = some b) (grown : g a = g b + n)
    (other : κ) :
    weight (Function.update m k (some a)) g other =
      weight m g other + if k = other then n else 0 := by
  rw [weight_update]
  by_cases written : k = other
  · rw [if_pos written, if_pos written, ← written, weight_of_some held, grown]
  · rw [if_neg written, if_neg written, Nat.add_zero]

theorem weight_shrink [DecidableEq κ] {b : A} {n : ℕ} (held : m k = some b) (shrunk : g b = g a + n)
    (other : κ) :
    weight (Function.update m k (some a)) g other + (if k = other then n else 0) =
      weight m g other := by
  rw [weight_update]
  by_cases written : k = other
  · rw [if_pos written, if_pos written, ← written, weight_of_some held, shrunk]
  · rw [if_neg written, if_neg written, Nat.add_zero]

theorem tally_update_same [DecidableEq κ] (same : weight m g k = g a) :
    tally (Function.update m k (some a)) g = tally m g := by
  rw [tally, weight_update_same same, tally]

theorem Sparse.mem_keys (sparse : Sparse m) : k ∈ Set.Finite.toFinset sparse ↔ m k ≠ none :=
  Set.Finite.mem_toFinset sparse

theorem Sparse.update [DecidableEq κ] (sparse : Sparse m) (k : κ) (a : A) :
    Sparse (Function.update m k (some a)) := by
  apply (sparse.insert k).subset
  intro other held
  by_cases same : other = k
  · exact .inl same
  · right
    simpa [same] using held

theorem tally_eq_sum {s : Finset κ} (covers : ∀ k, m k ≠ none → k ∈ s) :
    tally m g = ∑ k ∈ s, weight m g k := by
  apply finsum_eq_sum_of_support_subset
  intro k counted
  apply covers
  intro absent
  exact counted (weight_of_none absent)

/-- Writing one value changes the sum by what this value and the old one count. -/
theorem tally_update [DecidableEq κ] (sparse : Sparse m) (k : κ) (a : A) :
    tally (Function.update m k (some a)) g + weight m g k = tally m g + g a := by
  have inside : k ∈ (sparse.insert k).toFinset := by simp
  have before : tally m g = ∑ j ∈ (sparse.insert k).toFinset, weight m g j :=
    tally_eq_sum fun j held => by simp [held]
  have after : tally (Function.update m k (some a)) g =
      ∑ j ∈ (sparse.insert k).toFinset, weight (Function.update m k (some a)) g j := by
    apply tally_eq_sum
    intro j held
    by_cases same : j = k
    · simp [same]
    · simpa [same] using held
  -- Away from `k` the two sums agree term by term.
  have rest : ∑ j ∈ (sparse.insert k).toFinset.erase k, weight (Function.update m k (some a)) g j =
      ∑ j ∈ (sparse.insert k).toFinset.erase k, weight m g j := by
    apply Finset.sum_congr rfl
    intro j member
    rw [weight, weight, Function.update_of_ne (Finset.ne_of_mem_erase member)]
  rw [before, after, ← Finset.add_sum_erase _ _ inside, ← Finset.add_sum_erase _ _ inside, rest]
  simp only [weight_of_some (Function.update_self ..)]
  omega

section Sides

variable {B : Type} [DecidableEq B]

/-- What counts only on one side of a value. -/
def onSide (side : A → B) (b : B) (f : A → ℕ) (a : A) : ℕ := if side a = b then f a else 0

variable [DecidableEq κ] {side : A → B} {f : A → ℕ} {n : ℕ}

/-- A write that keeps the side of a value moves the sum of this side only. -/
theorem tally_onSide_update (sparse : Sparse m) (kept : ∀ old, m k = some old → side old = side a)
    (b : B) :
    tally (Function.update m k (some a)) (onSide side b f) +
        (if side a = b then weight m f k else 0) =
      tally m (onSide side b f) + if side a = b then f a else 0 := by
  have updated := tally_update (g := onSide side b f) sparse k a
  have old : weight m (onSide side b f) k = if side a = b then weight m f k else 0 := by
    cases held : m k with
    | none => simp [weight_of_none held]
    | some old => simp [weight_of_some held, onSide, kept old held]
  rw [old] at updated
  exact updated

theorem tally_onSide_grow (sparse : Sparse m) (kept : ∀ old, m k = some old → side old = side a)
    (grown : f a = weight m f k + n) (b : B) :
    tally (Function.update m k (some a)) (onSide side b f) =
      tally m (onSide side b f) + if side a = b then n else 0 := by
  have updated := tally_onSide_update (f := f) sparse kept b
  by_cases mine : side a = b
  · rw [if_pos mine, if_pos mine] at updated
    rw [if_pos mine]
    omega
  · rw [if_neg mine, if_neg mine] at updated
    rw [if_neg mine]
    exact updated

theorem tally_onSide_shrink (sparse : Sparse m) (kept : ∀ old, m k = some old → side old = side a)
    (shrunk : weight m f k = f a + n) (b : B) :
    tally (Function.update m k (some a)) (onSide side b f) + (if side a = b then n else 0) =
      tally m (onSide side b f) := by
  have updated := tally_onSide_update (f := f) sparse kept b
  by_cases mine : side a = b
  · rw [if_pos mine, if_pos mine] at updated
    rw [if_pos mine]
    omega
  · rw [if_neg mine, if_neg mine] at updated
    rw [if_neg mine]
    exact updated

end Sides

theorem tally_eq_zero (none : ∀ k a, m k = some a → g a = 0) : tally m g = 0 := by
  apply finsum_eq_zero_of_forall_eq_zero
  intro k
  cases held : m k with
  | none => exact weight_of_none held
  | some a => rw [weight_of_some held, none k a held]

/-- Values that count one each are counted. -/
theorem tally_indicator (sparse : Sparse m) (p : A → Prop) [DecidablePred p] :
    tally m (fun a => if p a then 1 else 0) = count m p := by
  classical
  have finite : {k | ∃ a, m k = some a ∧ p a}.Finite := by
    apply sparse.subset
    rintro k ⟨a, held, -⟩
    simp [held]
  -- Both sides are sums over the finite support, one of them of ones.
  have covers : ∀ k, m k ≠ none → k ∈ Set.Finite.toFinset sparse := fun k => sparse.mem_keys.mpr
  rw [tally_eq_sum covers, count, Set.ncard_eq_toFinset_card _ finite, Finset.card_eq_sum_ones,
    eq_comm]
  apply Finset.sum_subset_zero_on_sdiff
  · intro k member
    obtain ⟨a, held, -⟩ := finite.mem_toFinset.mp member
    exact covers k (by simp [held])
  · intro k member
    have outside : k ∉ finite.toFinset := (Finset.mem_sdiff.mp member).2
    cases held : m k with
    | none => exact weight_of_none held
    | some a =>
      rw [weight_of_some held, if_neg]
      intro good
      exact outside (finite.mem_toFinset.mpr ⟨a, held, good⟩)
  · intro k member
    obtain ⟨a, held, good⟩ := finite.mem_toFinset.mp member
    rw [weight_of_some held, if_pos good]

/-- Where the key follows from a name, counting values is counting names. -/
theorem count_eq_ncard {B : Type} {p : A → Prop} {name : A → B} (address : B → κ)
    (injective : Function.Injective address)
    (own : ∀ k a, m k = some a → p a → k = address (name a)) :
    count m p = {b | ∃ k a, m k = some a ∧ p a ∧ name a = b}.ncard := by
  have keys : {k | ∃ a, m k = some a ∧ p a} =
      address '' {b | ∃ k a, m k = some a ∧ p a ∧ name a = b} := by
    ext k
    constructor
    · rintro ⟨a, held, good⟩
      exact ⟨name a, ⟨k, a, held, good, rfl⟩, (own k a held good).symm⟩
    · rintro ⟨_, ⟨other, a, held, good, rfl⟩, rfl⟩
      refine ⟨a, ?_, good⟩
      rw [← own other a held good, held]
  rw [count, keys]
  exact Set.ncard_image_of_injective _ injective

/-- A value that is held counts at most the whole sum. -/
theorem le_tally (sparse : Sparse m) (held : m k = some a) : g a ≤ tally m g := by
  have covers : ∀ k, m k ≠ none → k ∈ Set.Finite.toFinset sparse := fun k => sparse.mem_keys.mpr
  rw [tally_eq_sum covers, ← weight_of_some held (g := g)]
  exact Finset.single_le_sum (fun _ _ => Nat.zero_le _) (covers k (by simp [held]))

theorem tally_mono (sparse : Sparse m) {f : A → ℕ} (le : ∀ a, f a ≤ g a) : tally m f ≤ tally m g := by
  have covers : ∀ k, m k ≠ none → k ∈ Set.Finite.toFinset sparse := fun k => sparse.mem_keys.mpr
  rw [tally_eq_sum covers, tally_eq_sum covers]
  apply Finset.sum_le_sum
  intro k _
  cases held : m k with
  | none => simp [weight_of_none held]
  | some a => rw [weight_of_some held, weight_of_some held]; exact le a

end Tally
