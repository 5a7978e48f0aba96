import Mathlib.Data.List.Basic
import Mathlib.Tactic.Common

/-!
# Bracketed sequences

Some tokens open a bracket with a name, some close the innermost open one, the others do
neither. A reader that keeps a stack of names is compared with what the sequence says:
the innermost open bracket is the last opening token followed by a balanced stretch.
-/
namespace Brackets

variable {α β γ : Type}

section Reader

variable (opens : α → Option β) (closes : α → Bool)

/-- The stack after one more token. A token that opens a bracket is not looked at further. -/
def push (stack : List β) (a : α) : List β :=
  match opens a with
  | some name => name :: stack
  | none => if closes a then stack.tail else stack

/-- The stack after a sequence of tokens. -/
def run (stack : List β) (tokens : List α) : List β := tokens.foldl (push opens closes) stack

/-- Every bracket that is opened is closed, and no other. -/
inductive Balanced : List α → Prop
  | nil : Balanced []
  | other {a : α} {rest : List α} : opens a = none → closes a = false → Balanced rest →
      Balanced (a :: rest)
  | bracket {o c : α} {name : β} {inner rest : List α} : opens o = some name → Balanced inner →
      opens c = none → closes c = true → Balanced rest → Balanced (o :: inner ++ c :: rest)

/-- The innermost bracket that is open after the tokens has this name. -/
def Encloses (tokens : List α) (name : β) : Prop :=
  ∃ outer o inner, tokens = outer ++ o :: inner ∧ opens o = some name ∧
    Balanced opens closes inner

variable {opens closes}

theorem run_append (stack : List β) (tokens more : List α) :
    run opens closes stack (tokens ++ more) =
      run opens closes (run opens closes stack tokens) more := by
  rw [run, List.foldl_append]
  rfl

theorem run_cons (stack : List β) (a : α) (tokens : List α) :
    run opens closes stack (a :: tokens) =
      run opens closes (push opens closes stack a) tokens := rfl

theorem Balanced.append {tokens more : List α} (first : Balanced opens closes tokens)
    (second : Balanced opens closes more) : Balanced opens closes (tokens ++ more) := by
  induction first with
  | nil => exact second
  | other plain open' _ ih => exact .other plain open' ih
  | bracket opened inner plain closed _ _ ih =>
    rw [List.append_assoc, List.cons_append]
    exact .bracket opened inner plain closed ih

/-- A balanced stretch leaves the stack as it is. -/
theorem Balanced.run {tokens : List α} (balanced : Balanced opens closes tokens)
    (stack : List β) : run opens closes stack tokens = stack := by
  induction balanced generalizing stack with
  | nil => rfl
  | other plain open' _ ih =>
    rw [run_cons, push, plain]
    simp only [open', Bool.false_eq_true, if_false]
    exact ih stack
  | bracket opened inner plain closed _ ihInner ihRest =>
    rw [List.cons_append, run_cons, run_append, push, opened, ihInner, run_cons, push, plain]
    simp only [closed, if_true, List.tail_cons]
    exact ihRest stack

/-- What is on the stack was opened, and everything since is balanced. -/
theorem run_eq_cons {tokens : List α} {name : β} {stack : List β}
    (reads : run opens closes [] tokens = name :: stack) :
    ∃ outer o inner, tokens = outer ++ o :: inner ∧ opens o = some name ∧
      Balanced opens closes inner ∧ run opens closes [] outer = stack := by
  -- A closing token leaves a shorter sequence with one name more, which has to be opened first.
  induction length : tokens.length using Nat.strongRecOn generalizing tokens name stack with
  | ind n ih =>
    rcases tokens.eq_nil_or_concat with rfl | ⟨earlier, a, rfl⟩
    · cases reads
    rw [List.concat_eq_append] at reads length ⊢
    have shorter : earlier.length < n := by
      rw [← length, List.length_append]
      exact Nat.lt_succ_self _
    rw [run_append, run_cons] at reads
    change push opens closes (run opens closes [] earlier) a = name :: stack at reads
    unfold push at reads
    split at reads
    next opened =>
      obtain ⟨rfl, rfl⟩ := List.cons.inj reads
      exact ⟨earlier, a, [], rfl, opened, .nil, rfl⟩
    next plain =>
      split at reads
      next closed =>
        obtain ⟨top, top_reads⟩ : ∃ top, run opens closes [] earlier = top :: name :: stack := by
          cases kept : run opens closes [] earlier with
          | nil =>
            rw [kept] at reads
            cases reads
          | cons top below =>
            rw [kept, List.tail_cons] at reads
            exact ⟨top, by rw [reads]⟩
        obtain ⟨before, o, closing, rfl, opened, balanced, below⟩ := ih _ shorter top_reads rfl
        have before_shorter : before.length < n := by
          rw [List.length_append] at shorter
          omega
        obtain ⟨outer, o', inner, rfl, opened', balanced', rest⟩ := ih _ before_shorter below rfl
        refine ⟨outer, o', inner ++ (o :: closing ++ [a]), by simp, opened', ?_, rest⟩
        exact balanced'.append (.bracket opened balanced plain closed .nil)
      next open' =>
        obtain ⟨outer, o, inner, rfl, opened, balanced, rest⟩ := ih _ shorter reads rfl
        refine ⟨outer, o, inner ++ [a], by simp, opened, balanced.append ?_, rest⟩
        exact .other plain (by simpa using open') .nil

/-- The reader's innermost name is the name of the innermost open bracket. -/
theorem head_run_eq_some {tokens : List α} {name : β} :
    (run opens closes [] tokens).head? = some name ↔ Encloses opens closes tokens name := by
  constructor
  · intro top
    obtain ⟨stack, reads⟩ := List.head?_eq_some_iff.mp top
    obtain ⟨outer, o, inner, split, opened, balanced, -⟩ := run_eq_cons reads
    exact ⟨outer, o, inner, split, opened, balanced⟩
  · rintro ⟨outer, o, inner, rfl, opened, balanced⟩
    rw [run_append, run_cons, balanced.run, push, opened]
    rfl

end Reader

/-! ### Marks and the brackets they stand in -/

section Marks

variable (opens : α → Option β) (closes : α → Bool) (mark : α → Option γ)

/-- The marks that stand in a bracket, each with the name of the innermost one. -/
def attributed (stack : List β) : List α → List (β × γ)
  | [] => []
  | a :: rest =>
    match stack, mark a with
    | name :: _, some m => (name, m) :: attributed (push opens closes stack a) rest
    | _, _ => attributed (push opens closes stack a) rest

/-- All marks, each with its owner. -/
def owned (owner : α → β) (tokens : List α) : List (β × γ) :=
  tokens.filterMap fun a => (mark a).map fun m => (owner a, m)

variable {opens closes mark}

theorem attributed_outside (a : α) (rest : List α) :
    attributed opens closes mark [] (a :: rest) =
      attributed opens closes mark (push opens closes [] a) rest := rfl

theorem attributed_unmarked {a : α} (unmarked : mark a = none) (stack : List β) (rest : List α) :
    attributed opens closes mark stack (a :: rest) =
      attributed opens closes mark (push opens closes stack a) rest := by
  cases stack with
  | nil => rfl
  | cons => simp only [attributed, unmarked]

theorem attributed_marked {a : α} {m : γ} (marked : mark a = some m) (name : β) (stack : List β)
    (rest : List α) :
    attributed opens closes mark (name :: stack) (a :: rest) =
      (name, m) :: attributed opens closes mark (push opens closes (name :: stack) a) rest := by
  simp only [attributed, marked]

theorem attributed_append (stack : List β) (tokens more : List α) :
    attributed opens closes mark stack (tokens ++ more) =
      attributed opens closes mark stack tokens ++
        attributed opens closes mark (run opens closes stack tokens) more := by
  induction tokens generalizing stack with
  | nil => rfl
  | cons a rest ih =>
    have later := ih (push opens closes stack a)
    rw [List.cons_append, run_cons]
    cases stack with
    | nil => exact later
    | cons name stack =>
      cases marked : mark a with
      | none => rw [attributed_unmarked marked, attributed_unmarked marked, later]
      | some m => rw [attributed_marked marked, attributed_marked marked, later, List.cons_append]

theorem attributed_map {δ : Type} (f : δ → α) (stack : List β) (tokens : List δ) :
    attributed opens closes mark stack (tokens.map f) =
      attributed (opens ∘ f) (closes ∘ f) (mark ∘ f) stack tokens := by
  induction tokens generalizing stack with
  | nil => rfl
  | cons a rest ih =>
    have later := ih (push opens closes stack (f a))
    rw [List.map_cons]
    cases stack with
    | nil => exact later
    | cons name stack =>
      cases marked : mark (f a) with
      | none =>
        have unmarked : (mark ∘ f) a = none := marked
        rw [attributed_unmarked marked, attributed_unmarked unmarked]
        exact later
      | some m =>
        have here : (mark ∘ f) a = some m := marked
        rw [attributed_marked marked, attributed_marked here]
        exact congrArg ((name, m) :: ·) later

theorem attributed_congr {mark' : α → Option γ} {tokens : List α}
    (same : ∀ a ∈ tokens, mark a = mark' a) (stack : List β) :
    attributed opens closes mark stack tokens = attributed opens closes mark' stack tokens := by
  induction tokens generalizing stack with
  | nil => rfl
  | cons a rest ih =>
    rw [List.forall_mem_cons] at same
    simp only [attributed, same.1, ih same.2]

theorem owned_cons (owner : α → β) (a : α) (rest : List α) :
    owned mark owner (a :: rest) =
      ((mark a).map fun m => (owner a, m)).toList ++ owned mark owner rest := by
  cases marked : mark a with
  | none => simp [owned, marked]
  | some m => simp [owned, marked]

theorem owned_append (owner : α → β) (tokens more : List α) :
    owned mark owner (tokens ++ more) = owned mark owner tokens ++ owned mark owner more :=
  List.filterMap_append

theorem attributed_source {name : β} {m : γ} {stack : List β} {tokens : List α}
    (found : (name, m) ∈ attributed opens closes mark stack tokens) : ∃ a ∈ tokens, mark a = some m := by
  induction tokens generalizing stack with
  | nil => cases found
  | cons a rest ih =>
    have later (below : List β) (found : (name, m) ∈ attributed opens closes mark below rest) :
        ∃ b ∈ a :: rest, mark b = some m := by
      obtain ⟨b, member, marked⟩ := ih found
      exact ⟨b, List.mem_cons_of_mem a member, marked⟩
    cases stack with
    | nil => exact later _ found
    | cons top stack =>
      cases marked : mark a with
      | none =>
        rw [attributed_unmarked marked] at found
        exact later _ found
      | some m' =>
        rw [attributed_marked marked] at found
        rcases List.mem_cons.mp found with here | found
        · obtain ⟨-, rfl⟩ := Prod.mk.inj here
          exact ⟨a, List.mem_cons_self, marked⟩
        · exact later _ found

theorem attributed_length_le (owner : α → β) (stack : List β) (tokens : List α) :
    (attributed opens closes mark stack tokens).length ≤ (owned mark owner tokens).length := by
  induction tokens generalizing stack with
  | nil => exact Nat.le_refl 0
  | cons a rest ih =>
    have later := ih (push opens closes stack a)
    rw [owned_cons, List.length_append]
    cases marked : mark a with
    | none =>
      rw [attributed_unmarked marked]
      exact Nat.le_add_left_of_le later
    | some m =>
      cases stack with
      | nil => exact Nat.le_add_left_of_le later
      | cons name stack =>
        rw [attributed_marked marked, List.length_cons, Option.map_some, Option.toList_some,
          List.length_singleton]
        omega

/-- A property of every token and what stands before it, by the first token and the others. -/
theorem forall_split {a : α} {rest : List α} {P : List α → α → Prop} :
    (∀ before b after, a :: rest = before ++ b :: after → P before b) ↔
      P [] a ∧ ∀ before b after, rest = before ++ b :: after → P (a :: before) b := by
  constructor
  · intro every
    refine ⟨every [] a rest rfl, ?_⟩
    intro before b after same
    exact every (a :: before) b after (congrArg (a :: ·) same)
  · rintro ⟨first, others⟩ before b after same
    cases before with
    | nil =>
      obtain ⟨rfl, -⟩ := List.cons.inj same
      exact first
    | cons c before =>
      obtain ⟨rfl, tail⟩ := List.cons.inj same
      exact others before b after tail

/-- The reader gives every mark to its owner exactly if the owner's name is on top of the stack
wherever there is a mark. -/
theorem attributed_eq_owned (owner : α → β) (stack : List β) (tokens : List α) :
    attributed opens closes mark stack tokens = owned mark owner tokens ↔
      ∀ before a after, tokens = before ++ a :: after → (mark a).isSome →
        (run opens closes stack before).head? = some (owner a) := by
  induction tokens generalizing stack with
  | nil => simp [attributed, owned]
  | cons a rest ih =>
    have later := ih (push opens closes stack a)
    rw [forall_split]
    simp only [run_cons]
    rw [← later, owned_cons]
    cases marked : mark a with
    | none =>
      rw [attributed_unmarked marked]
      simp [run]
    | some m =>
      cases stack with
      | nil =>
        -- A mark outside all brackets is lost, and no other takes its place.
        have lost : (attributed opens closes mark (push opens closes [] a) rest).length ≤
            (owned mark owner rest).length := attributed_length_le owner _ rest
        rw [attributed_outside]
        constructor
        · intro same
          rw [same, List.length_append] at lost
          exact absurd lost (by simp)
        · rintro ⟨inside, -⟩
          cases inside rfl
      | cons name stack =>
        rw [attributed_marked marked]
        simp [run]

/-! ### Dropped tokens -/

variable (mark) in
/-- The marks of the tokens that are kept. -/
def kept (keep : α → Bool) (a : α) : Option γ := if keep a then mark a else none

/-- Tokens that are no brackets can be dropped where their marks are. -/
theorem attributed_filter {keep : α → Bool} {tokens : List α}
    (plain : ∀ a ∈ tokens, keep a = false → opens a = none ∧ closes a = false) (stack : List β) :
    attributed opens closes mark stack (tokens.filter keep) =
      attributed opens closes (kept mark keep) stack tokens := by
  induction tokens generalizing stack with
  | nil => rfl
  | cons a rest ih =>
    rw [List.forall_mem_cons] at plain
    have later := ih plain.2
    cases stays : keep a with
    | false =>
      obtain ⟨unopened, unclosed⟩ := plain.1 stays
      have dropped : kept mark keep a = none := by simp [kept, stays]
      have unmoved : push opens closes stack a = stack := by simp [push, unopened, unclosed]
      rw [List.filter_cons_of_neg (by simp [stays]), attributed_unmarked dropped, unmoved, later]
    | true =>
      have same : kept mark keep a = mark a := by simp [kept, stays]
      rw [List.filter_cons_of_pos stays]
      cases marked : mark a with
      | none => rw [attributed_unmarked marked, attributed_unmarked (same.trans marked), later]
      | some m =>
        cases stack with
        | nil => rw [attributed_outside, attributed_outside, later]
        | cons => rw [attributed_marked marked, attributed_marked (same.trans marked), later]

theorem attributed_kept_length_le (keep : α → Bool) (stack : List β) (tokens : List α) :
    (attributed opens closes (kept mark keep) stack tokens).length ≤
      (attributed opens closes mark stack tokens).length := by
  induction tokens generalizing stack with
  | nil => exact Nat.le_refl 0
  | cons a rest ih =>
    have later := ih (push opens closes stack a)
    cases stack with
    | nil => exact later
    | cons name stack =>
      cases marked : mark a with
      | none =>
        have dropped : kept mark keep a = none := by simp [kept, marked]
        rw [attributed_unmarked marked, attributed_unmarked dropped]
        exact later
      | some m =>
        rw [attributed_marked marked, List.length_cons]
        cases stays : keep a with
        | false =>
          have dropped : kept mark keep a = none := by simp [kept, stays]
          rw [attributed_unmarked dropped]
          exact Nat.le_succ_of_le later
        | true =>
          have same : kept mark keep a = some m := by simp [kept, stays, marked]
          rw [attributed_marked same, List.length_cons]
          exact Nat.succ_le_succ later

/-- Dropping marks changes nothing exactly if no dropped mark stands in a bracket. -/
theorem attributed_kept_iff (keep : α → Bool) (stack : List β) (tokens : List α) :
    attributed opens closes (kept mark keep) stack tokens =
        attributed opens closes mark stack tokens ↔
      ∀ before a after, tokens = before ++ a :: after → keep a = false → (mark a).isSome →
        run opens closes stack before = [] := by
  induction tokens generalizing stack with
  | nil => simp [attributed]
  | cons a rest ih =>
    have later := ih (push opens closes stack a)
    rw [forall_split]
    simp only [run_cons]
    rw [← later]
    cases marked : mark a with
    | none =>
      have dropped : kept mark keep a = none := by simp [kept, marked]
      rw [attributed_unmarked marked, attributed_unmarked dropped]
      simp
    | some m =>
      cases stack with
      | nil => simp [attributed_outside, run]
      | cons name stack =>
        rw [attributed_marked marked]
        cases stays : keep a with
        | false =>
          -- The mark counts on one side only.
          have dropped : kept mark keep a = none := by simp [kept, stays]
          have fewer : (attributed opens closes (kept mark keep)
              (push opens closes (name :: stack) a) rest).length ≤
              (attributed opens closes mark (push opens closes (name :: stack) a) rest).length :=
            attributed_kept_length_le keep _ rest
          rw [attributed_unmarked dropped]
          constructor
          · intro same
            rw [same, List.length_cons] at fewer
            exact absurd fewer (Nat.not_succ_le_self _)
          · rintro ⟨outside, -⟩
            cases outside rfl rfl
        | true =>
          have same : kept mark keep a = some m := by simp [kept, stays, marked]
          rw [attributed_marked same]
          simp

end Marks

/-- Outside all brackets the reader's stack is empty. -/
theorem run_eq_nil {opens : α → Option β} {closes : α → Bool} {tokens : List α} :
    run opens closes [] tokens = [] ↔ ∀ name, ¬Encloses opens closes tokens name := by
  constructor
  · intro empty name encloses
    rw [← head_run_eq_some, empty] at encloses
    cases encloses
  · intro outside
    cases top : run opens closes [] tokens with
    | nil => rfl
    | cons name stack =>
      have head : (run opens closes [] tokens).head? = some name := by rw [top, List.head?_cons]
      exact absurd (head_run_eq_some.mp head) (outside name)

end Brackets
