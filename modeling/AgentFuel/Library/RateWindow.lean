import Mathlib.Algebra.Order.BigOperators.Group.List
import Mathlib.Algebra.Order.Monoid.Canonical.Defs
import Mathlib.Data.List.Induction
import Mathlib.Tactic.Common

/-!
# Counting windows

A limiter that keeps one window start and one running total, and starts a new window
when a charge arrives `len` slots or more after the start. `replay` recomputes window
and counted charges from the charges alone. The window bounds every interval of `len`
slots exactly when no new window forgets a charge that is still younger than `len`.
-/
namespace RateWindow

/-! ### Lists whose elements are judged against what came before -/

/-- Every element satisfies `P` with respect to the elements before it. -/
def Each {α : Type} (P : List α → α → Prop) (l : List α) : Prop :=
  ∀ before a after, l = before ++ a :: after → P before a

theorem each_nil {α : Type} (P : List α → α → Prop) : Each P [] := by
  intro before a after whole
  simp at whole

theorem each_snoc {α : Type} (P : List α → α → Prop) (l : List α) (x : α) :
    Each P (l ++ [x]) ↔ Each P l ∧ P l x := by
  constructor
  · intro each
    refine ⟨fun before a after whole => ?_, each l x [] rfl⟩
    exact each before a (after ++ [x]) (by simp [whole])
  · rintro ⟨each, last⟩ before a after whole
    -- Nothing follows `a` when it is the new element; otherwise the new element ends the rest.
    rcases List.eq_nil_or_concat after with rfl | ⟨rest, y, rfl⟩
    · obtain ⟨same, single⟩ := List.append_inj' whole rfl
      obtain rfl := List.singleton_inj.mp single
      exact same ▸ last
    · have shorter : l = before ++ a :: rest := by
        have cut : l ++ [x] = (before ++ a :: rest) ++ [y] := by simpa using whole
        exact (List.append_inj' cut rfl).1
      exact each before a rest shorter

/-- The elements of a second list are judged against the whole first one as well. -/
theorem each_append {α : Type} (P : List α → α → Prop) (l m : List α) :
    Each P (l ++ m) ↔ Each P l ∧ Each (fun before a => P (l ++ before) a) m := by
  induction m using List.reverseRecOn with
  | nil => simp [each_nil]
  | append_singleton m x ih => rw [← List.append_assoc, each_snoc, ih, each_snoc, and_assoc]

theorem each_iff_take {α : Type} (P : List α → α → Prop) (l : List α) :
    Each P l ↔ ∀ i, ∀ bound : i < l.length, P (l.take i) l[i] := by
  constructor
  · intro each i bound
    exact each _ _ (l.drop (i + 1)) (by simp)
  · rintro each before a after rfl
    simpa using each before.length (by simp)

instance {α : Type} (P : List α → α → Prop) [∀ l a, Decidable (P l a)] (l : List α) :
    Decidable (Each P l) :=
  decidable_of_iff' _ (each_iff_take P l)

/-! ### The limiter -/

structure Charge (A : Type) where
  slot : ℕ
  amount : A
  deriving DecidableEq

structure Window (A : Type) where
  start : ℕ
  total : A
  deriving DecidableEq

variable {A : Type}

/-- A window is over once `len` slots have passed since its start. -/
def Window.Expired (len : ℕ) (w : Window A) (slot : ℕ) : Prop :=
  len ≤ slot - w.start

instance (len : ℕ) (w : Window A) (slot : ℕ) : Decidable (w.Expired len slot) :=
  inferInstanceAs (Decidable (len ≤ slot - w.start))

/-- The window after a charge. -/
def Window.advance [Add A] (len : ℕ) (w : Window A) (c : Charge A) : Window A :=
  if w.Expired len c.slot then ⟨c.slot, c.amount⟩ else ⟨w.start, w.total + c.amount⟩

/-- A window that has counted a charge is not over at the same slot. -/
theorem advance_advance [AddSemigroup A] {len : ℕ} (positive : 0 < len) (w : Window A) (slot : ℕ)
    (a b : A) :
    (w.advance len ⟨slot, a⟩).advance len ⟨slot, b⟩ = w.advance len ⟨slot, a + b⟩ := by
  unfold Window.advance
  dsimp only
  by_cases elapsed : w.Expired len slot
  · have running : ¬(Window.mk slot a).Expired len slot := by
      simp [Window.Expired, Nat.ne_of_gt positive]
    rw [if_pos elapsed, if_neg running, if_pos elapsed]
  · have running : ¬(Window.mk w.start (w.total + a)).Expired len slot := elapsed
    rw [if_neg elapsed, if_neg running, if_neg elapsed, add_assoc]

/-- The window after a charge, and the charges it counts. -/
def charge [Add A] (len : ℕ) (state : Window A × List (Charge A)) (c : Charge A) :
    Window A × List (Charge A) :=
  (state.1.advance len c, if state.1.Expired len c.slot then [c] else state.2 ++ [c])

/-- Window and counted charges after a list of charges, oldest first. -/
def replay [Add A] (len : ℕ) (init : Window A) (cs : List (Charge A)) :
    Window A × List (Charge A) :=
  cs.foldl (charge len) (init, [])

/-- The window a list of charges ends in. -/
def window [Add A] (len : ℕ) (init : Window A) (cs : List (Charge A)) : Window A :=
  (replay len init cs).1

/-- The charges not earlier than the one that opened the window. -/
def live [Add A] (len : ℕ) (init : Window A) (cs : List (Charge A)) : List (Charge A) :=
  (replay len init cs).2

theorem replay_snoc [Add A] (len : ℕ) (init : Window A) (cs : List (Charge A)) (c : Charge A) :
    replay len init (cs ++ [c]) = charge len (replay len init cs) c := by
  simp [replay]

@[simp] theorem window_snoc [Add A] (len : ℕ) (init : Window A) (cs : List (Charge A))
    (c : Charge A) : window len init (cs ++ [c]) = (window len init cs).advance len c := by
  simp [window, replay_snoc, charge]

theorem window_reset [Add A] {len : ℕ} {init : Window A} {cs : List (Charge A)} {c : Charge A}
    (elapsed : (window len init cs).Expired len c.slot) :
    window len init (cs ++ [c]) = ⟨c.slot, c.amount⟩ ∧ live len init (cs ++ [c]) = [c] := by
  refine ⟨by simp [Window.advance, elapsed], ?_⟩
  simp only [window, live, replay_snoc, charge] at elapsed ⊢
  simp [elapsed]

theorem window_keep [Add A] {len : ℕ} {init : Window A} {cs : List (Charge A)} {c : Charge A}
    (running : ¬(window len init cs).Expired len c.slot) :
    window len init (cs ++ [c]) =
        ⟨(window len init cs).start, (window len init cs).total + c.amount⟩ ∧
      live len init (cs ++ [c]) = live len init cs ++ [c] := by
  refine ⟨by simp [Window.advance, running], ?_⟩
  simp only [window, live, replay_snoc, charge] at running ⊢
  simp [running]

theorem live_ne_nil [Add A] (len : ℕ) (init : Window A) (cs : List (Charge A)) (nonempty : cs ≠ []) :
    live len init cs ≠ [] := by
  rcases List.eq_nil_or_concat cs with rfl | ⟨cs, c, rfl⟩
  · exact absurd rfl nonempty
  · rw [List.concat_eq_append]
    by_cases elapsed : (window len init cs).Expired len c.slot
    · simp [(window_reset elapsed).2]
    · simp [(window_keep elapsed).2]

section Totals

variable [AddCommMonoid A]

/-- The amounts of a list of charges, added up. -/
def total (cs : List (Charge A)) : A := (cs.map Charge.amount).sum

@[simp] theorem total_nil : total ([] : List (Charge A)) = 0 := rfl

@[simp] theorem total_append (cs ds : List (Charge A)) : total (cs ++ ds) = total cs + total ds := by
  simp [total]

@[simp] theorem total_singleton (c : Charge A) : total [c] = c.amount := by simp [total]

/-- From an empty window the running total is the sum of the counted charges. -/
theorem window_total (len : ℕ) (init : Window A) (empty : init.total = 0) (cs : List (Charge A)) :
    (window len init cs).total = total (live len init cs) := by
  induction cs using List.reverseRecOn with
  | nil => exact empty
  | append_singleton cs c ih =>
    by_cases elapsed : (window len init cs).Expired len c.slot
    · simp [window_reset elapsed]
    · simp [window_keep elapsed, ih]

end Totals

/-- Charges in slot order. -/
def InOrder (cs : List (Charge A)) : Prop :=
  Each (fun before c => ∀ p ∈ before, p.slot ≤ c.slot) cs

/-- The counted charges lie in the `len` slots from the window's start. -/
theorem live_within [Add A] (len : ℕ) (positive : 0 < len) (init : Window A) (cs : List (Charge A))
    (late : ∀ c ∈ cs, init.start ≤ c.slot) (ordered : InOrder cs) :
    (∀ c ∈ live len init cs,
      (window len init cs).start ≤ c.slot ∧ c.slot < (window len init cs).start + len) ∧
    ∀ t, (∀ c ∈ cs, c.slot ≤ t) → init.start ≤ t → (window len init cs).start ≤ t := by
  -- The second half says that no window starts after a later charge. Without it the natural
  -- subtraction in `Expired` could hide a charge that lies before its window.
  induction cs using List.reverseRecOn with
  | nil => exact ⟨by simp [live, replay], fun t _ later => later⟩
  | append_singleton cs c ih =>
    rw [List.forall_mem_append, List.forall_mem_singleton] at late
    rw [InOrder, each_snoc] at ordered
    obtain ⟨inside, started⟩ := ih late.1 ordered.1
    have before := started c.slot ordered.2 late.2
    by_cases elapsed : (window len init cs).Expired len c.slot
    · rw [(window_reset elapsed).1, (window_reset elapsed).2]
      refine ⟨by simp [positive], fun t later _ => later c (by simp)⟩
    · rw [(window_keep elapsed).1, (window_keep elapsed).2]
      refine ⟨?_, fun t later => started t (fun p hp => later p (by simp [hp]))⟩
      rw [List.forall_mem_append, List.forall_mem_singleton]
      refine ⟨inside, before, ?_⟩
      unfold Window.Expired at elapsed
      dsimp only
      omega

/-- The charges in the `len` slots from `x` on. -/
def within (x len : ℕ) (cs : List (Charge A)) : List (Charge A) :=
  cs.filter fun c => decide (x ≤ c.slot ∧ c.slot < x + len)

theorem within_append (x len : ℕ) (cs ds : List (Charge A)) :
    within x len (cs ++ ds) = within x len cs ++ within x len ds := by
  simp [within]

/-- No new window forgets a charge younger than `len` slots. -/
def Spaced [Add A] (len : ℕ) (init : Window A) (cs : List (Charge A)) : Prop :=
  Each (fun before c => (window len init before).Expired len c.slot →
    ∀ p ∈ before, p.slot + len ≤ c.slot) cs

/-- Every charge leaves a total within the limit. -/
def Limited [Add A] [LE A] (len : ℕ) (init : Window A) (limit : A) (cs : List (Charge A)) : Prop :=
  Each (fun before c => (window len init (before ++ [c])).total ≤ limit) cs

/-- Forgotten charges are `len` slots older than the counted ones. -/
theorem forgotten_old [Add A] (len : ℕ) (init : Window A) (cs : List (Charge A))
    (ordered : InOrder cs) (spaced : Spaced len init cs) :
    ∃ old, cs = old ++ live len init cs ∧
      ∀ p ∈ old, ∀ q ∈ live len init cs, p.slot + len ≤ q.slot := by
  induction cs using List.reverseRecOn with
  | nil => exact ⟨[], rfl, by simp⟩
  | append_singleton cs c ih =>
    rw [InOrder, each_snoc] at ordered
    rw [Spaced, each_snoc] at spaced
    -- `spaced` speaks about the charge that opens a window; a charge that joins a running window
    -- inherits the distance from one already counted there.
    by_cases elapsed : (window len init cs).Expired len c.slot
    · rw [(window_reset elapsed).2]
      refine ⟨cs, rfl, fun p hp q hq => ?_⟩
      obtain rfl := List.mem_singleton.mp hq
      exact spaced.2 elapsed p hp
    · obtain ⟨old, split, apart⟩ := ih ordered.1 spaced.1
      rw [(window_keep elapsed).2]
      refine ⟨old, by rw [← List.append_assoc, ← split], fun p hp q hq => ?_⟩
      rcases List.mem_append.mp hq with counted | last
      · exact apart p hp q counted
      · obtain rfl := List.mem_singleton.mp last
        have nonempty : live len init cs ≠ [] := by
          apply live_ne_nil
          have present : p ∈ cs := by rw [split]; simp [hp]
          exact List.ne_nil_of_mem present
        obtain ⟨r, hr⟩ := List.exists_mem_of_ne_nil _ nonempty
        have later : r.slot ≤ q.slot := ordered.2 r (by rw [split]; simp [hr])
        have older := apart p hp r hr
        omega

section Bound

variable [AddCommMonoid A] [PartialOrder A] [IsOrderedAddMonoid A] [CanonicallyOrderedAdd A]

theorem within_le_total (x len : ℕ) (cs : List (Charge A)) :
    total (within x len cs) ≤ total cs :=
  List.Sublist.sum_le_sum (List.filter_sublist.map _) (fun _ _ => zero_le)

theorem live_le_window (len : ℕ) (init : Window A) (cs : List (Charge A)) :
    total (live len init cs) ≤ (window len init cs).total := by
  induction cs using List.reverseRecOn with
  | nil => exact zero_le
  | append_singleton cs c ih =>
    by_cases elapsed : (window len init cs).Expired len c.slot
    · simp [window_reset elapsed]
    · simp only [window_keep elapsed, total_append, total_singleton]
      exact add_le_add_left ih _

/-- Spaced windows bound every interval of `len` slots by the limit of one window. -/
theorem spaced_bound (len : ℕ) (init : Window A) (limit : A) (cs : List (Charge A))
    (ordered : InOrder cs) (spaced : Spaced len init cs) (limited : Limited len init limit cs)
    (x : ℕ) : total (within x len cs) ≤ limit := by
  induction cs using List.reverseRecOn with
  | nil => exact zero_le
  | append_singleton cs c ih =>
    have whole := forgotten_old len init (cs ++ [c]) ordered spaced
    rw [InOrder, each_snoc] at ordered
    rw [Spaced, each_snoc] at spaced
    rw [Limited, each_snoc] at limited
    have earlier := ih ordered.1 spaced.1 limited.1
    -- Only a last charge inside the interval can raise the sum, and then whatever the window has
    -- forgotten lies outside.
    by_cases inside : x ≤ c.slot ∧ c.slot < x + len
    · obtain ⟨old, split, apart⟩ := whole
      have last : c ∈ live len init (cs ++ [c]) := by
        by_cases elapsed : (window len init cs).Expired len c.slot
        · simp [window_reset elapsed]
        · simp [window_keep elapsed]
      have gone : within x len old = [] := by
        refine List.filter_eq_nil_iff.mpr fun p hp => ?_
        have older := apart p hp c last
        simp only [decide_eq_true_eq, not_and, not_lt]
        omega
      calc total (within x len (cs ++ [c]))
          = total (within x len (live len init (cs ++ [c]))) := by
            rw [split, within_append, gone, List.nil_append, ← split]
        _ ≤ total (live len init (cs ++ [c])) := within_le_total ..
        _ ≤ (window len init (cs ++ [c])).total := live_le_window ..
        _ ≤ limit := limited.2
    · have outside : within x len [c] = [] := by simp [within, inside]
      simpa [within_append, outside] using earlier

end Bound

end RateWindow
