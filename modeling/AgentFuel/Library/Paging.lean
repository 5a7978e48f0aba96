import Mathlib.Data.List.Sort
import Mathlib.Order.Lattice
import Mathlib.Tactic.Common

/-!
# Paging with a cursor that is coarser than the rows

Rows are listed in descending order of a key, a page at a time. The cursor of the next page is the
key of the last row of a page, so the next page continues below that key. Everything is listed
exactly if no page ends between two rows of one key.
-/
namespace Paging

variable {α κ : Type} [LinearOrder κ]

/-- `ORDER BY key DESC`. Rows of one key may come in any order. -/
structure Descending (key : α → κ) where
  sort : List α → List α
  perm : ∀ rows, (sort rows).Perm rows
  sorted : ∀ rows, (sort rows).Pairwise fun a b => key b ≤ key a

def Descending.stable (key : α → κ) : Descending key where
  sort := List.insertionSort fun a b => key b ≤ key a
  perm := List.perm_insertionSort _
  sorted rows := by
    have total : Std.Total fun a b : α => key b ≤ key a := ⟨fun a b => le_total (key b) (key a)⟩
    have trans : IsTrans α fun a b => key b ≤ key a := ⟨fun _ _ _ first second => second.trans first⟩
    exact List.pairwise_insertionSort _ rows

/-- An order by a key is an order by everything that grows with the key. -/
def Descending.along {κ' : Type} [LinearOrder κ'] {key : α → κ} (order : Descending key) {f : κ → κ'}
    (mono : Monotone f) : Descending fun a => f (key a) where
  sort := order.sort
  perm := order.perm
  sorted rows := (order.sorted rows).imp fun less => mono less

/-- The keys the next page may show. -/
def Below (before : Option κ) (k : κ) : Prop := ∀ c ∈ before, k < c

instance (before : Option κ) : DecidablePred (Below before) := fun k =>
  inferInstanceAs (Decidable (∀ c ∈ before, k < c))

variable {key : α → κ}

def remaining (key : α → κ) (before : Option κ) (rows : List α) : List α :=
  rows.filter fun a => decide (Below before (key a))

/-- A lower cursor leaves a part of what a higher one leaves. -/
theorem remaining_lower (key : α → κ) {before : Option κ} {c : κ} (lower : Below before c) (rows : List α) :
    remaining key (some c) rows = (remaining key before rows).filter fun a => decide (key a < c) := by
  rw [remaining, remaining, List.filter_filter]
  apply List.filter_congr
  intro a _
  rw [← Bool.decide_and, decide_eq_decide]
  constructor
  · intro below
    have less : key a < c := below c rfl
    exact ⟨less, fun d cursor => less.trans (lower d cursor)⟩
  · rintro ⟨less, -⟩ d cursor
    obtain rfl := Option.some.inj cursor
    exact less

def Descending.page (order : Descending key) (limit : ℕ) (before : Option κ) (rows : List α) : List α :=
  (order.sort (remaining key before rows)).take limit

/-! ### Where pages end -/

/-- The rows ahead of those of a key. -/
def ahead (key : α → κ) (rows : List α) (k : κ) : ℕ := rows.countP fun a => decide (k < key a)

/-- The rows ahead of those of a key and its own. -/
def upTo (key : α → κ) (rows : List α) (k : κ) : ℕ := rows.countP fun a => decide (k ≤ key a)

/-- With the rows numbered in descending order and cut after every `limit` of them, those of a key
are all on one page. -/
def OnePage (key : α → κ) (limit : ℕ) (rows : List α) (k : κ) : Prop :=
  ahead key rows k / limit = (upTo key rows k - 1) / limit

theorem ahead_le_upTo (key : α → κ) (rows : List α) (k : κ) : ahead key rows k ≤ upTo key rows k := by
  apply List.countP_mono_left
  intro a _ higher
  exact decide_eq_true (of_decide_eq_true higher).le

theorem ahead_lt_upTo {key : α → κ} {rows : List α} {a : α} (member : a ∈ rows) :
    ahead key rows (key a) < upTo key rows (key a) := by
  obtain ⟨before, after, rfl⟩ := List.append_of_mem member
  have left := ahead_le_upTo key before (key a)
  have right := ahead_le_upTo key after (key a)
  simp only [ahead, upTo, List.countP_append, List.countP_cons, lt_irrefl, le_refl, decide_true,
    decide_false] at left right ⊢
  simp only [Bool.false_eq_true, if_false, if_true]
  omega

def Uncut (key : α → κ) (limit : ℕ) (rows : List α) : Prop := ∀ a ∈ rows, OnePage key limit rows (key a)

instance (limit : ℕ) (rows : List α) : Decidable (Uncut key limit rows) :=
  inferInstanceAs (Decidable (∀ a ∈ rows, _ = _))

/-! ### One page -/

/-- A page, the remaining rows behind it and its last row. -/
structure Turn (key : α → κ) (limit : ℕ) (rows : List α) (before : Option κ) (page rest : List α)
    (last : α) : Prop where
  perm : (remaining key before rows).Perm (page ++ rest)
  sorted : (page ++ rest).Pairwise fun a b => key b ≤ key a
  size : page.length ≤ limit
  full : rest ≠ [] → page.length = limit
  ends : page.getLast? = some last

theorem Descending.turn (order : Descending key) {limit : ℕ} {rows : List α} {before : Option κ} {last : α}
    (ends : (order.page limit before rows).getLast? = some last) :
    ∃ rest, Turn key limit rows before (order.page limit before rows) rest last := by
  refine ⟨(order.sort (remaining key before rows)).drop limit, ?_, ?_, ?_, ?_, ends⟩
  · rw [page, List.take_append_drop]
    exact (order.perm _).symm
  · rw [page, List.take_append_drop]
    exact order.sorted _
  · exact List.length_take_le _ _
  · intro more
    have longer : limit < (order.sort (remaining key before rows)).length := by
      by_contra short
      exact more (List.drop_eq_nil_of_le (Nat.le_of_not_lt short))
    rw [page, List.length_take, min_eq_left longer.le]

/-- A page is empty only when nothing remains. -/
theorem Descending.page_eq_nil (order : Descending key) {limit : ℕ} {rows : List α} {before : Option κ}
    (positive : 0 < limit) (empty : order.page limit before rows = []) :
    remaining key before rows = [] := by
  rw [page, List.take_eq_nil_iff] at empty
  rcases empty with zero | nothing
  · omega
  · have perm := order.perm (remaining key before rows)
    rw [nothing] at perm
    exact perm.symm.eq_nil

section Turn

variable {limit : ℕ} {rows page rest seen : List α} {before : Option κ} {last : α}
  (turn : Turn key limit rows before page rest last)
include turn

theorem Turn.last_mem : last ∈ page := List.mem_of_getLast? turn.ends

theorem Turn.last_le {a : α} (member : a ∈ page) : key last ≤ key a := by
  obtain ⟨init, rfl⟩ := List.getLast?_eq_some_iff.mp turn.ends
  rcases List.mem_append.mp member with earlier | here
  · have sorted := (List.pairwise_append.mp turn.sorted).1
    exact (List.pairwise_append.mp sorted).2.2 a earlier last (List.mem_singleton_self last)
  · rw [List.mem_singleton.mp here]

theorem Turn.rest_le {a : α} (member : a ∈ rest) : key a ≤ key last :=
  (List.pairwise_append.mp turn.sorted).2.2 last turn.last_mem a member

theorem Turn.below {a : α} (member : a ∈ page ++ rest) : Below before (key a) := by
  have held := turn.perm.mem_iff.mpr member
  exact of_decide_eq_true (List.mem_filter.mp held).2

/-- The cursor goes down. -/
theorem Turn.below_of_below {k : κ} (less : Below (some (key last)) k) : Below before k := by
  intro c cursor
  exact (less _ rfl).trans (turn.below (List.mem_append_left _ turn.last_mem) c cursor)

/-- The cursor is past the pages so far. -/
theorem Turn.past (before_past : ∀ a ∈ seen, ¬Below before (key a)) :
    ∀ a ∈ seen ++ page, ¬Below (some (key last)) (key a) := by
  intro a member below
  have less : key a < key last := below _ rfl
  rcases List.mem_append.mp member with earlier | here
  · exact before_past a earlier (turn.below_of_below below)
  · exact absurd less (turn.last_le here).not_gt

/-- What remains behind the page is what of the rest lies below its last key. -/
theorem Turn.remaining_perm :
    (remaining key (some (key last)) rows).Perm (rest.filter fun a => decide (key a < key last)) := by
  have nested := remaining_lower key (turn.below (List.mem_append_left _ turn.last_mem)) rows
  have shown : page.filter (fun a => decide (key a < key last)) = [] := by
    rw [List.filter_eq_nil_iff]
    intro a member less
    exact absurd (of_decide_eq_true less) (turn.last_le member).not_gt
  have filtered := turn.perm.filter fun a => decide (key a < key last)
  rw [List.filter_append, shown, List.nil_append] at filtered
  rw [nested]
  exact filtered

theorem Turn.length_remaining : (remaining key (some (key last)) rows).length ≤ rest.length := by
  rw [turn.remaining_perm.length_eq]
  exact List.length_filter_le _ _

end Turn

/-! ### All pages so far -/

variable (key) in
/-- The pages so far show everything that the cursor is past, and cut no key. -/
structure Covered (limit : ℕ) (rows : List α) (before : Option κ) (seen : List α) : Prop where
  perm : rows.Perm (seen ++ remaining key before rows)
  past : ∀ a ∈ seen, ¬Below before (key a)
  whole : limit ∣ seen.length ∨ remaining key before rows = []
  uncut : ∀ a ∈ rows, ¬Below before (key a) → OnePage key limit rows (key a)

variable (key) in
/-- Some row has been passed over, because a page ended between rows of one key. -/
structure Missed (limit : ℕ) (rows : List α) (before : Option κ) (seen : List α) : Prop where
  short : seen.length + (remaining key before rows).length < rows.length
  cut : ¬Uncut key limit rows

theorem Covered.start (limit : ℕ) (rows : List α) : Covered key limit rows none [] := by
  have all : remaining key none rows = rows := by simp [remaining, Below]
  constructor
  · rw [all, List.nil_append]
  · simp
  · exact .inl (Nat.dvd_zero limit)
  · intro a _ past
    exact absurd (by simp [Below]) past

section Step

variable {limit : ℕ} {rows page rest seen : List α} {before : Option κ} {last : α}

/-- A key whose rows are numbered from `n` on and end within one page. -/
theorem onePage_of_bounds {k : κ} {n : ℕ} (aligned : limit ∣ n) (first : n ≤ ahead key rows k)
    (some : ahead key rows k < upTo key rows k) (fits : upTo key rows k ≤ n + limit) :
    OnePage key limit rows k := by
  obtain ⟨m, rfl⟩ := aligned
  have positive : 0 < limit := by omega
  have low : ahead key rows k / limit = m := by
    apply Nat.div_eq_of_lt_le
    · rw [Nat.mul_comm]
      exact first
    · rw [Nat.succ_mul, Nat.mul_comm]
      omega
  have high : (upTo key rows k - 1) / limit = m := by
    apply Nat.div_eq_of_lt_le
    · rw [Nat.mul_comm]
      omega
    · rw [Nat.succ_mul, Nat.mul_comm]
      omega
  rw [OnePage, low, high]

theorem not_onePage_of_bounds {k : κ} {n : ℕ} (aligned : limit ∣ n) (positive : 0 < limit)
    (first : ahead key rows k < n + limit) (later : n + limit < upTo key rows k) :
    ¬OnePage key limit rows k := by
  obtain ⟨m, rfl⟩ := aligned
  intro same
  have low : ahead key rows k / limit < m + 1 := by
    rw [Nat.div_lt_iff_lt_mul positive, Nat.succ_mul, Nat.mul_comm]
    exact first
  have high : m + 1 ≤ (upTo key rows k - 1) / limit := by
    rw [Nat.le_div_iff_mul_le positive, Nat.succ_mul, Nat.mul_comm]
    omega
  rw [OnePage] at same
  omega

variable (covered : Covered key limit rows before seen)
  (turn : Turn key limit rows before page rest last)
include covered turn

theorem Covered.all : rows.Perm (seen ++ (page ++ rest)) :=
  covered.perm.trans (turn.perm.append_left seen)

theorem Covered.aligned : limit ∣ seen.length := by
  rcases covered.whole with aligned | nothing
  · exact aligned
  · have empty := turn.perm
    rw [nothing] at empty
    have last_mem := turn.last_mem
    rw [(List.append_eq_nil_iff.mp empty.symm.eq_nil).1] at last_mem
    cases last_mem

omit turn in
/-- Rows of earlier pages lie above everything that still remained. -/
theorem Covered.ahead_of_seen {k : κ} (below : Below before k) {a : α} (member : a ∈ seen) : k < key a := by
  by_contra high
  apply covered.past a member
  intro c cursor
  exact (not_lt.mp high).trans_lt (below c cursor)

/-- A page that ends with the last row of a key. -/
theorem Covered.next (apart : ∀ a ∈ rest, key a < key last) :
    Covered key limit rows (some (key last)) (seen ++ page) := by
  have all := covered.all turn
  have behind : (remaining key (some (key last)) rows).Perm rest := by
    have kept : rest.filter (fun a => decide (key a < key last)) = rest :=
      List.filter_eq_self.mpr fun a member => decide_eq_true (apart a member)
    rw [← kept]
    exact turn.remaining_perm
  have aligned := covered.aligned turn
  constructor
  · rw [List.append_assoc]
    exact all.trans ((behind.symm.append_left page).append_left seen)
  · exact turn.past covered.past
  · by_cases more : rest = []
    · subst more
      exact .inr behind.eq_nil
    · rw [List.length_append, turn.full more]
      exact .inl (Nat.dvd_add aligned (Nat.dvd_refl limit))
  · intro a member past
    by_cases old : Below before (key a)
    · have low : key last ≤ key a := by
        by_contra high
        apply past
        intro c cursor
        obtain rfl := Option.some.inj cursor
        exact not_le.mp high
      -- The rows of earlier pages come first, and the rest behind the page lies below the key.
      have first : seen.countP (fun b => decide (key a < key b)) = seen.length :=
        List.countP_eq_length.mpr fun b earlier => decide_eq_true (covered.ahead_of_seen old earlier)
      have within : seen.countP (fun b => decide (key a ≤ key b)) ≤ seen.length := List.countP_le_length
      have shown : page.countP (fun b => decide (key a ≤ key b)) ≤ page.length := List.countP_le_length
      have none : rest.countP (fun b => decide (key a ≤ key b)) = 0 := by
        rw [List.countP_eq_zero]
        intro b later higher
        exact absurd (of_decide_eq_true higher) ((apart b later).trans_le low).not_ge
      have size := turn.size
      have some : ahead key rows (key a) < upTo key rows (key a) := ahead_lt_upTo member
      refine onePage_of_bounds aligned ?_ some ?_
      · rw [ahead, all.countP_eq, List.countP_append, first]
        exact Nat.le_add_right _ _
      · rw [upTo, all.countP_eq, List.countP_append, List.countP_append, none]
        omega
    · exact covered.uncut a member old

/-- A page that ends between two rows of a key. -/
theorem Covered.miss {b : α} (left : b ∈ rest) (same : key b = key last) :
    Missed key limit rows (some (key last)) (seen ++ page) := by
  have all := covered.all turn
  have fewer : (remaining key (some (key last)) rows).length < rest.length := by
    rw [turn.remaining_perm.length_eq, List.length_filter_lt_length_iff_exists]
    exact ⟨b, left, by simp [same]⟩
  have total := all.length_eq
  rw [List.length_append, List.length_append] at total
  have more : rest ≠ [] := List.ne_nil_of_mem left
  have size := turn.full more
  constructor
  · rw [List.length_append]
    omega
  · intro uncut
    have aligned := covered.aligned turn
    have old : Below before (key last) := turn.below (List.mem_append_left _ turn.last_mem)
    have positive : 0 < limit := by
      rw [← size]
      exact List.length_pos_of_mem turn.last_mem
    -- Ahead of the key are earlier pages and the page without its last row; up to it all of these,
    -- the last row and one row more.
    have above : page.countP (fun a => decide (key last < key a)) < page.length := by
      apply lt_of_le_of_ne List.countP_le_length
      intro every
      exact absurd (of_decide_eq_true (List.countP_eq_length.mp every last turn.last_mem)) (lt_irrefl _)
    have behind : rest.countP (fun a => decide (key last < key a)) = 0 := by
      rw [List.countP_eq_zero]
      intro a member higher
      exact absurd (of_decide_eq_true higher) (turn.rest_le member).not_gt
    have within : seen.countP (fun a => decide (key last < key a)) ≤ seen.length := List.countP_le_length
    have first : seen.countP (fun a => decide (key last ≤ key a)) = seen.length :=
      List.countP_eq_length.mpr fun a member => decide_eq_true (covered.ahead_of_seen old member).le
    have shown : page.countP (fun a => decide (key last ≤ key a)) = page.length :=
      List.countP_eq_length.mpr fun a member => decide_eq_true (turn.last_le member)
    have another : 0 < rest.countP (fun a => decide (key last ≤ key a)) :=
      List.countP_pos_iff.mpr ⟨b, left, by simp [same]⟩
    have held : last ∈ rows := all.mem_iff.mpr (by simp [turn.last_mem])
    refine not_onePage_of_bounds aligned positive ?_ ?_ (uncut last held)
    · rw [ahead, all.countP_eq, List.countP_append, List.countP_append]
      omega
    · rw [upTo, all.countP_eq, List.countP_append, List.countP_append, first, shown]
      omega

end Step

section Step

variable {limit : ℕ} {rows page rest seen : List α} {before : Option κ} {last : α}

theorem Missed.turn (missed : Missed key limit rows before seen)
    (turn : Turn key limit rows before page rest last) :
    Missed key limit rows (some (key last)) (seen ++ page) := by
  have fewer := turn.length_remaining
  have size := turn.perm.length_eq
  have short := missed.short
  rw [List.length_append] at size
  refine ⟨?_, missed.cut⟩
  rw [List.length_append]
  omega

theorem Covered.step (covered : Covered key limit rows before seen)
    (turn : Turn key limit rows before page rest last) :
    Covered key limit rows (some (key last)) (seen ++ page) ∨
      Missed key limit rows (some (key last)) (seen ++ page) := by
  by_cases apart : ∀ a ∈ rest, key a < key last
  · exact .inl (covered.next turn apart)
  · obtain ⟨b, left, level⟩ : ∃ b ∈ rest, ¬key b < key last := by simpa using apart
    exact .inr (covered.miss turn left ((turn.rest_le left).antisymm (not_lt.mp level)))

theorem Covered.ends (covered : Covered key limit rows before seen)
    (nothing : remaining key before rows = []) : seen.Perm rows ∧ Uncut key limit rows := by
  have perm := covered.perm
  rw [nothing, List.append_nil] at perm
  refine ⟨perm.symm, fun a member => covered.uncut a member ?_⟩
  intro below
  have held : a ∈ remaining key before rows := List.mem_filter.mpr ⟨member, decide_eq_true below⟩
  rw [nothing] at held
  cases held

theorem Missed.ends (missed : Missed key limit rows before seen) :
    ¬seen.Perm rows ∧ ¬Uncut key limit rows := by
  refine ⟨fun perm => ?_, missed.cut⟩
  have short := missed.short
  rw [perm.length_eq] at short
  omega

/-- When nothing remains, everything has been shown exactly if no key was cut. -/
theorem shown_iff (reached : Covered key limit rows before seen ∨ Missed key limit rows before seen)
    (nothing : remaining key before rows = []) : seen.Perm rows ↔ Uncut key limit rows := by
  rcases reached with covered | missed
  · obtain ⟨perm, uncut⟩ := covered.ends nothing
    exact iff_of_true perm uncut
  · obtain ⟨other, cut⟩ := missed.ends
    exact iff_of_false other cut

/-- The pages so far in descending order, all of them past the cursor. -/
structure Listed (key : α → κ) (before : Option κ) (seen : List α) : Prop where
  sorted : seen.Pairwise fun a b => key b ≤ key a
  past : ∀ a ∈ seen, ¬Below before (key a)

theorem Listed.turn (listed : Listed key before seen) (turn : Turn key limit rows before page rest last) :
    Listed key (some (key last)) (seen ++ page) where
  sorted := by
    rw [List.pairwise_append]
    refine ⟨listed.sorted, (List.pairwise_append.mp turn.sorted).1, ?_⟩
    intro a earlier b here
    by_contra high
    apply listed.past a earlier
    intro c cursor
    exact (not_le.mp high).trans (turn.below (List.mem_append_left _ here) c cursor)
  past := turn.past listed.past

end Step

end Paging
