import AgentFuel.Library.Checked

/-!
# Steps that a later one absorbs

A closing step writes what no other step reads, and writes it afresh each time. Then it need not
run after every step: once, at the end, comes to the same.
-/
namespace Absorb

open Checked

variable {σ α ε : Type}

/-- The steps for a list of items, in order. -/
def each (f : α → σ → Except ε σ) : List α → σ → Except ε σ
  | [], s => .ok s
  | a :: rest, s => do
    let t ← f a s
    each f rest t

theorem each_congr {f g : α → σ → Except ε σ} {items : List α} {s u : σ}
    (same : ∀ a s t, f a s = .ok t ↔ g a s = .ok t) : each f items s = .ok u ↔ each g items s = .ok u := by
  induction items generalizing s with
  | nil => rfl
  | cons a rest ih =>
    rw [each, each, bind_eq_ok, bind_eq_ok]
    exact exists_congr fun t => and_congr (same a s t) ih

/-- `Same` relates states that differ only in what the closing step writes. -/
structure Absorbs (f : α → σ → Except ε σ) (close : σ → Except ε σ) (Same : σ → σ → Prop) : Prop where
  symm : ∀ {s t}, Same s t → Same t s
  writes : ∀ {s t}, close s = .ok t → Same s t
  rewrites : ∀ {s t}, Same s t → close s = close t
  unread : ∀ {a s s' t}, Same s t → f a s = .ok s' → ∃ t', f a t = .ok t' ∧ Same s' t'
  closes : ∀ {a s t}, f a s = .ok t → ∃ u, close t = .ok u

variable {f : α → σ → Except ε σ} {close : σ → Except ε σ} {Same : σ → σ → Prop} {items : List α}
  {s s' t u : σ}

theorem Absorbs.each (absorbs : Absorbs f close Same) (same : Same s t)
    (done : each f items s = .ok s') : ∃ t', Absorb.each f items t = .ok t' ∧ Same s' t' := by
  induction items generalizing s t with
  | nil =>
    cases done
    exact ⟨t, rfl, same⟩
  | cons a rest ih =>
    obtain ⟨middle, first, others⟩ := (bind_eq_ok _ _ _).mp done
    obtain ⟨middle', first', same'⟩ := absorbs.unread same first
    obtain ⟨t', others', last⟩ := ih same' others
    exact ⟨t', (bind_eq_ok _ _ _).mpr ⟨middle', first', others'⟩, last⟩

/-- What was written before does not matter at the end. -/
theorem Absorbs.close_each (absorbs : Absorbs f close Same) (same : Same s t)
    (done : Absorb.each f items s >>= close = .ok u) : Absorb.each f items t >>= close = .ok u := by
  obtain ⟨s', whole, closed⟩ := (bind_eq_ok _ _ _).mp done
  obtain ⟨t', whole', last⟩ := absorbs.each same whole
  exact (bind_eq_ok _ _ _).mpr ⟨t', whole', by rw [← absorbs.rewrites last, closed]⟩

/-- Closing after every item is closing once. -/
theorem Absorbs.each_eq_ok (absorbs : Absorbs f close Same) (nonempty : items ≠ []) :
    Absorb.each (fun a s => f a s >>= close) items s = .ok u ↔
      Absorb.each f items s >>= close = .ok u := by
  induction items generalizing s with
  | nil => exact absurd rfl nonempty
  | cons a rest ih =>
    have unfolded : Absorb.each f (a :: rest) s >>= close =
        f a s >>= fun t => Absorb.each f rest t >>= close := bind_assoc _ _ _
    rw [unfolded, Absorb.each, bind_assoc, bind_eq_ok, bind_eq_ok]
    refine exists_congr fun t => and_congr_right fun first => ?_
    cases rest with
    | nil =>
      simp [Absorb.each]
    | cons b more =>
      constructor
      · intro done
        obtain ⟨closed, here, others⟩ := (bind_eq_ok _ _ _).mp done
        -- The items that are left run from a state that was closed already.
        apply absorbs.close_each (absorbs.symm (absorbs.writes here))
        exact (ih (List.cons_ne_nil _ _)).mp others
      · intro done
        obtain ⟨closed, here⟩ := absorbs.closes first
        refine (bind_eq_ok _ _ _).mpr ⟨closed, here, ?_⟩
        apply (ih (List.cons_ne_nil _ _)).mpr
        exact absorbs.close_each (absorbs.writes here) done

end Absorb
