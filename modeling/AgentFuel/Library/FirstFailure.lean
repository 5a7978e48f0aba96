import Mathlib.Data.List.TakeWhile
import Mathlib.Tactic.Common

/-!
# Statements up to the first that fails

Each statement writes a place of its own. Statements run one after the other, and the first
failure ends the run: a place is rewritten if every statement up to its own succeeds, and left
alone if one before it fails.
-/
namespace FirstFailure

variable {σ ι ε : Type}

/-- The state after the statements before the first failure. -/
def runUntil (run : ι → σ → Except ε σ) (s : σ) : List ι → σ
  | [] => s
  | i :: rest =>
    match run i s with
    | .ok t => runUntil run t rest
    | .error _ => s

def Fails (run : ι → σ → Except ε σ) (i : ι) (s : σ) : Prop := ∀ t, run i s ≠ .ok t

/-- A statement depends on nothing but the view of its own place, and keeps the view of every
other place. -/
structure Separate (run : ι → σ → Except ε σ) (Alike : ι → σ → σ → Prop) : Prop where
  alike : ∀ i, Equivalence (Alike i)
  frame : ∀ {i j s t}, run i s = .ok t → j ≠ i → Alike j s t
  own : ∀ {i s s' t}, Alike i s s' → run i s = .ok t → ∃ t', run i s' = .ok t' ∧ Alike i t t'

variable {run : ι → σ → Except ε σ} {Alike : ι → σ → σ → Prop} {i j : ι} {s s' t : σ}
  {before after items : List ι}

theorem runUntil_ok (done : run i s = .ok t) : runUntil run s (i :: after) = runUntil run t after := by
  rw [runUntil, done]

theorem runUntil_fails (fails : Fails run i s) : runUntil run s (i :: after) = s := by
  rw [runUntil]
  cases outcome : run i s with
  | ok t => exact absurd outcome (fails t)
  | error e => rfl

theorem Separate.fails (separate : Separate run Alike) (same : Alike i s s') (fails : Fails run i s) :
    Fails run i s' := by
  intro t' done
  obtain ⟨t, earlier, -⟩ := separate.own ((separate.alike i).symm same) done
  exact fails t earlier

/-- A place whose statement is not among them keeps its view. -/
theorem Separate.elsewhere (separate : Separate run Alike) (outside : j ∉ items) (s : σ) :
    Alike j s (runUntil run s items) := by
  induction items generalizing s with
  | nil => exact (separate.alike j).refl s
  | cons i rest ih =>
    rw [List.mem_cons, not_or] at outside
    by_cases done : ∃ t, run i s = .ok t
    · obtain ⟨t, done⟩ := done
      rw [runUntil_ok done]
      exact (separate.alike j).trans (separate.frame done outside.1) (ih outside.2 t)
    · rw [runUntil_fails fun t ok => done ⟨t, ok⟩]
      exact (separate.alike j).refl s

/-- If all statements before it succeed, a place is as its own statement leaves it. -/
theorem Separate.reaches (separate : Separate run Alike) (once : (before ++ i :: after).Nodup)
    (clear : ∀ k ∈ before, ∃ t, run k s = .ok t) (done : run i s = .ok t) :
    Alike i t (runUntil run s (before ++ i :: after)) := by
  induction before generalizing s t with
  | nil =>
    rw [List.nil_append, runUntil_ok done]
    exact separate.elsewhere (List.nodup_cons.mp once).1 t
  | cons k before ih =>
    rw [List.forall_mem_cons] at clear
    obtain ⟨⟨u, first⟩, clear⟩ := clear
    rw [List.cons_append, List.nodup_cons] at once
    have apart : ∀ j ∈ before ++ i :: after, j ≠ k := fun j member same => once.1 (same ▸ member)
    -- The later statements do what they would have done at the start.
    have later : ∀ j ∈ before, ∃ t, run j u = .ok t := by
      intro j member
      obtain ⟨t, earlier⟩ := clear j member
      have kept := separate.frame first (apart j (List.mem_append_left _ member))
      obtain ⟨t', now, -⟩ := separate.own kept earlier
      exact ⟨t', now⟩
    have kept : Alike i s u := separate.frame first (apart i (by simp))
    obtain ⟨t', now, same⟩ := separate.own kept done
    rw [List.cons_append, runUntil_ok first]
    exact (separate.alike i).trans same (ih once.2 later now)

/-- If a statement before it fails, a place stays as it was. -/
theorem Separate.skips (separate : Separate run Alike) (once : (before ++ i :: after).Nodup)
    (earlier : j ∈ before) (fails : Fails run j s) :
    Alike i s (runUntil run s (before ++ i :: after)) := by
  induction before generalizing s with
  | nil => cases earlier
  | cons k before ih =>
    rw [List.cons_append, List.nodup_cons] at once
    by_cases first : ∃ u, run k s = .ok u
    · obtain ⟨u, first⟩ := first
      have apart : ∀ j ∈ before ++ i :: after, j ≠ k := fun j member same => once.1 (same ▸ member)
      have kept : Alike i s u := separate.frame first (apart i (by simp))
      rw [List.cons_append, runUntil_ok first]
      rcases List.mem_cons.mp earlier with rfl | behind
      · exact absurd first (fails u)
      · have later := separate.fails
          (separate.frame first (apart j (List.mem_append_left _ behind))) fails
        exact (separate.alike i).trans kept (ih once.2 behind later)
    · rw [List.cons_append, runUntil_fails fun t ok => first ⟨t, ok⟩]
      exact (separate.alike i).refl s

/-! ### A second run -/

/-- The statement of the place is executed, and succeeds. -/
def Reached (run : ι → σ → Except ε σ) (s : σ) (items : List ι) (i : ι) : Prop :=
  ∃ before after, items = before ++ i :: after ∧ ∀ k ∈ before ++ [i], ∃ t, run k s = .ok t

theorem Reached.ok (reached : Reached run s items i) : ∃ t, run i s = .ok t := by
  obtain ⟨before, after, -, clear⟩ := reached
  exact clear i (by simp)

theorem Separate.unreached (separate : Separate run Alike) (once : items.Nodup)
    (out : ¬Reached run s items i) : Alike i s (runUntil run s items) := by
  induction items generalizing s with
  | nil => exact (separate.alike i).refl s
  | cons k rest ih =>
    by_cases first : ∃ u, run k s = .ok u
    · obtain ⟨u, first⟩ := first
      rw [List.nodup_cons] at once
      rw [runUntil_ok first]
      have other : i ≠ k := by
        rintro rfl
        exact out ⟨[], rest, rfl, by simpa using ⟨u, first⟩⟩
      refine (separate.alike i).trans (separate.frame first other) (ih once.2 ?_)
      -- What the rest reaches from here, the whole reaches from the start.
      rintro ⟨before, after, rfl, clear⟩
      refine out ⟨k :: before, after, rfl, ?_⟩
      rw [List.cons_append, List.forall_mem_cons]
      refine ⟨⟨u, first⟩, fun j member => ?_⟩
      obtain ⟨t, now⟩ := clear j member
      have apart : j ≠ k := by
        rintro rfl
        apply once.1
        simp only [List.mem_append, List.mem_cons] at member ⊢
        tauto
      obtain ⟨t', earlier, -⟩ := separate.own ((separate.alike j).symm (separate.frame first apart)) now
      exact ⟨t', earlier⟩
    · rw [runUntil_fails fun t ok => first ⟨t, ok⟩]
      exact (separate.alike i).refl s

theorem Separate.reached (separate : Separate run Alike) (once : items.Nodup)
    (reached : Reached run s items i) (done : run i s = .ok t) : Alike i t (runUntil run s items) := by
  obtain ⟨before, after, rfl, clear⟩ := reached
  exact separate.reaches once (fun k member => clear k (List.mem_append_left _ member)) done

/-- A statement changes nothing where it has been executed. -/
def Settles (run : ι → σ → Except ε σ) (Alike : ι → σ → σ → Prop) : Prop :=
  ∀ {i s t t'}, run i s = .ok t → Alike i t t' → run i t' = .ok t'

/-- A second run, in any order, changes nothing exactly if every place that it reaches was reached
by the first one or is already as its statement leaves it. -/
theorem Separate.again_iff {items' : List ι} (separate : Separate run Alike)
    (settles : Settles run Alike) (once : items.Nodup) (once' : items'.Nodup) :
    runUntil run (runUntil run s items) items' = runUntil run s items ↔
      ∀ i t, Reached run s items' i → run i s = .ok t → Reached run s items i ∨ Alike i s t := by
  constructor
  · intro same i t reached done
    by_cases before : Reached run s items i
    · exact .inl before
    right
    have kept : Alike i s (runUntil run s items) := separate.unreached once before
    obtain ⟨t', now, alike⟩ := separate.own kept done
    obtain ⟨front, back, split, clear⟩ := reached
    have later : ∀ k ∈ front, ∃ t, run k (runUntil run s items) = .ok t := by
      intro k member
      obtain ⟨u, earlier⟩ := clear k (List.mem_append_left _ member)
      by_cases first : Reached run s items k
      · exact ⟨_, settles earlier (separate.reached once first earlier)⟩
      · obtain ⟨u', here, -⟩ := separate.own (separate.unreached once first) earlier
        exact ⟨u', here⟩
    rw [split] at once' same
    have there : Alike i t' (runUntil run s items) := by
      have there := separate.reaches once' later now
      rwa [same] at there
    exact (separate.alike i).trans kept
      ((separate.alike i).symm ((separate.alike i).trans alike there))
  · intro covered
    -- From any point of the second list on, as long as no statement has been refused.
    have rest : ∀ front back, items' = front ++ back → (∀ k ∈ front, ∃ t, run k s = .ok t) →
        runUntil run (runUntil run s items) back = runUntil run s items := by
      intro front back
      induction back generalizing front with
      | nil => exact fun _ _ => rfl
      | cons i back ih =>
        intro split clear
        by_cases now : ∃ t, run i (runUntil run s items) = .ok t
        · have accepted : ∃ t, run i s = .ok t := by
            by_cases before : Reached run s items i
            · exact before.ok
            · obtain ⟨t', now⟩ := now
              obtain ⟨t, earlier, -⟩ := separate.own
                ((separate.alike i).symm (separate.unreached once before)) now
              exact ⟨t, earlier⟩
          have clear' : ∀ k ∈ front ++ [i], ∃ t, run k s = .ok t := by
            rw [List.forall_mem_append, List.forall_mem_singleton]
            exact ⟨clear, accepted⟩
          obtain ⟨t, done⟩ := accepted
          have fixed : Alike i t (runUntil run s items) := by
            by_cases before : Reached run s items i
            · exact separate.reached once before done
            · have same := (covered i t ⟨front, back, split, clear'⟩ done).resolve_left before
              exact (separate.alike i).trans ((separate.alike i).symm same)
                (separate.unreached once before)
          rw [runUntil_ok (settles done fixed)]
          exact ih (front ++ [i]) (by rw [split, List.append_assoc, List.singleton_append]) clear'
        · exact runUntil_fails fun t ok => now ⟨t, ok⟩
    exact rest [] items' rfl (by simp)

end FirstFailure
