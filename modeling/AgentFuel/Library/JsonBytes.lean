import Mathlib.Data.List.TakeWhile
import Mathlib.Tactic.Common

/-!
# JSON arrays of bytes

Which JSON texts, in UTF-8, are arrays of integers of eight bits, and a reader that takes just
these.
-/
namespace JsonBytes

/-- Insignificant whitespace. -/
def isBlank (c : UInt8) : Bool := c = 32 || c = 9 || c = 10 || c = 13

def isDigit (c : UInt8) : Bool := 48 ≤ c && c ≤ 57

def value (digits : List UInt8) : ℕ := digits.foldl (fun n d => 10 * n + (d.toNat - 48)) 0

/-! ### The grammar -/

def Blank (text : List UInt8) : Prop := ∀ c ∈ text, isBlank c = true

/-- Neither sign nor fraction nor exponent, and no leading zeros. -/
structure Numeral (digits : List UInt8) (b : UInt8) : Prop where
  nonempty : digits ≠ []
  digit : ∀ d ∈ digits, isDigit d = true
  plain : digits.head? = some 48 → digits = [48]
  worth : value digits = b.toNat

/-- The items of an array that has some, with the bracket behind them. -/
inductive Items : List UInt8 → List UInt8 → Prop
  | last {before digits after : List UInt8} {b : UInt8} (blank : Blank before)
      (numeral : Numeral digits b) (blank' : Blank after) :
      Items (before ++ (digits ++ (after ++ [93]))) [b]
  | cons {before digits after text bytes : List UInt8} {b : UInt8} (blank : Blank before)
      (numeral : Numeral digits b) (blank' : Blank after) (items : Items text bytes) :
      Items (before ++ (digits ++ (after ++ 44 :: text))) (b :: bytes)

/-- The text is an array of these bytes. -/
inductive Writes : List UInt8 → List UInt8 → Prop
  | empty {before inside after : List UInt8} (blank : Blank before) (blank' : Blank inside)
      (blank'' : Blank after) : Writes (before ++ 91 :: (inside ++ 93 :: after)) []
  | items {before text after bytes : List UInt8} (blank : Blank before) (items : Items text bytes)
      (blank' : Blank after) : Writes (before ++ 91 :: (text ++ after)) bytes

theorem Items.length_le {text bytes : List UInt8} (items : Items text bytes) :
    2 * bytes.length ≤ text.length := by
  -- Every item has a digit and something behind it.
  induction items with
  | last _ numeral _ =>
    have := List.length_pos_iff.mpr numeral.nonempty
    simp only [List.length_append, List.length_singleton]
    omega
  | cons _ numeral _ _ ih =>
    have := List.length_pos_iff.mpr numeral.nonempty
    simp only [List.length_append, List.length_cons]
    omega

theorem Writes.length_lt {text bytes : List UInt8} (writes : Writes text bytes) :
    2 * bytes.length < text.length := by
  induction writes with
  | empty =>
    simp only [List.length_append, List.length_cons, List.length_nil]
    omega
  | items _ items _ =>
    have := items.length_le
    simp only [List.length_append, List.length_cons]
    omega

/-! ### The reader -/

def number (text : List UInt8) : Option (UInt8 × List UInt8) :=
  let digits := text.takeWhile isDigit
  if digits = [] ∨ (digits.head? = some 48 ∧ digits ≠ [48]) ∨ 256 ≤ value digits then none
  else some (UInt8.ofNat (value digits), text.dropWhile isDigit)

/-- At most `fuel` items are read. -/
def readItems : ℕ → List UInt8 → Option (List UInt8 × List UInt8)
  | 0, _ => none
  | fuel + 1, text => do
    let (b, text) ← number (text.dropWhile isBlank)
    match text.dropWhile isBlank with
    | [] => none
    | c :: text =>
      if c = 93 then some ([b], text)
      else if c = 44 then do
        let (bytes, text) ← readItems fuel text
        some (b :: bytes, text)
      else none

def ended (bytes text : List UInt8) : Option (List UInt8) :=
  if text.all isBlank then some bytes else none

def read (text : List UInt8) : Option (List UInt8) :=
  match text.dropWhile isBlank with
  | [] => none
  | c :: text =>
    if c ≠ 91 then none
    else
      match text.dropWhile isBlank with
      | [] => none
      | d :: rest =>
        if d = 93 then ended [] rest
        else do
          let (bytes, rest) ← readItems text.length text
          ended bytes rest

theorem blank_nil : Blank [] := fun _ member => absurd member List.not_mem_nil

theorem blank_takeWhile (text : List UInt8) : Blank (text.takeWhile isBlank) :=
  fun _ => List.mem_takeWhile_imp

theorem dropWhile_stop {p : UInt8 → Bool} {left : List UInt8} {c : UInt8} {rest : List UInt8}
    (all : ∀ d ∈ left, p d = true) (stop : p c = false) :
    (left ++ c :: rest).dropWhile p = c :: rest := by
  rw [List.dropWhile_append_of_pos all, List.dropWhile_cons_of_neg]
  rw [stop]
  exact Bool.false_ne_true

theorem takeWhile_stop {p : UInt8 → Bool} {left : List UInt8} {c : UInt8} {rest : List UInt8}
    (all : ∀ d ∈ left, p d = true) (stop : p c = false) :
    (left ++ c :: rest).takeWhile p = left := by
  rw [List.takeWhile_append_of_pos all, List.takeWhile_cons_of_neg, List.append_nil]
  rw [stop]
  exact Bool.false_ne_true

/-- A numeral is read where no digit follows. -/
theorem number_append {digits rest : List UInt8} {b c : UInt8} (numeral : Numeral digits b)
    (stop : isDigit c = false) : number (digits ++ c :: rest) = some (b, c :: rest) := by
  have small : value digits < 256 := numeral.worth ▸ b.toNat_lt
  have refused :
      ¬(digits = [] ∨ (digits.head? = some 48 ∧ digits ≠ [48]) ∨ 256 ≤ value digits) := by
    rintro (empty | ⟨zero, more⟩ | large)
    · exact numeral.nonempty empty
    · exact more (numeral.plain zero)
    · omega
  unfold number
  rw [takeWhile_stop numeral.digit stop, dropWhile_stop numeral.digit stop]
  dsimp only
  rw [if_neg refused, numeral.worth, UInt8.ofNat_toNat]

theorem numeral_of_number {text rest : List UInt8} {b : UInt8}
    (found : number text = some (b, rest)) :
    ∃ digits, Numeral digits b ∧ text = digits ++ rest := by
  unfold number at found
  dsimp only at found
  split at found
  · cases found
  next taken =>
    simp only [not_or, not_and, not_not, Nat.not_le] at taken
    obtain ⟨nonempty, plain, small⟩ := taken
    simp only [Option.some.injEq, Prod.mk.injEq] at found
    obtain ⟨rfl, rfl⟩ := found
    refine ⟨text.takeWhile isDigit, ⟨nonempty, fun d => List.mem_takeWhile_imp, plain, ?_⟩,
      List.takeWhile_append_dropWhile.symm⟩
    rw [UInt8.toNat_ofNat', Nat.mod_eq_of_lt small]

theorem isDigit_of_isBlank {c : UInt8} (white : isBlank c = true) : isDigit c = false := by
  simp only [isBlank, Bool.or_eq_true, decide_eq_true_eq] at white
  rcases white with ((rfl | rfl) | rfl) | rfl <;> rfl

/-- What follows a numeral within an array is no digit. -/
theorem after_numeral {after : List UInt8} (blank : Blank after) {c : UInt8}
    (stop : isDigit c = false) (rest : List UInt8) :
    ∃ d more, after ++ c :: rest = d :: more ∧ isDigit d = false := by
  cases after with
  | nil => exact ⟨c, rest, rfl, stop⟩
  | cons d after =>
    exact ⟨d, after ++ c :: rest, rfl, isDigit_of_isBlank (blank d List.mem_cons_self)⟩

/-- Digits are no blanks. -/
theorem dropWhile_blank {before digits rest : List UInt8} {b : UInt8} (blank : Blank before)
    (numeral : Numeral digits b) :
    (before ++ (digits ++ rest)).dropWhile isBlank = digits ++ rest := by
  cases digits with
  | nil => exact absurd rfl numeral.nonempty
  | cons d digits =>
    have digit := numeral.digit d List.mem_cons_self
    have dark : isBlank d = false := by
      by_contra white
      rw [isDigit_of_isBlank (Bool.of_not_eq_false white)] at digit
      cases digit
    exact dropWhile_stop blank dark

/-- An item and what ends it. -/
theorem number_item {before digits after : List UInt8} {b : UInt8} (blank : Blank before)
    (numeral : Numeral digits b) (blank' : Blank after) (c : UInt8) (rest : List UInt8)
    (stop : isDigit c = false) (dark : isBlank c = false) :
    ∃ text, number ((before ++ (digits ++ (after ++ c :: rest))).dropWhile isBlank) =
      some (b, text) ∧ text.dropWhile isBlank = c :: rest := by
  obtain ⟨d, more, follows, noDigit⟩ := after_numeral blank' stop rest
  refine ⟨after ++ c :: rest, ?_, dropWhile_stop blank' dark⟩
  rw [dropWhile_blank blank numeral, follows]
  exact number_append numeral noDigit

/-- An item starts with a digit, and not with the bracket that ends an array. -/
theorem item_start {before digits : List UInt8} {b : UInt8} (blank : Blank before)
    (numeral : Numeral digits b) (rest : List UInt8) :
    ∃ d more, (before ++ (digits ++ rest)).dropWhile isBlank = d :: more ∧ d ≠ 93 := by
  rw [dropWhile_blank blank numeral]
  cases digits with
  | nil => exact absurd rfl numeral.nonempty
  | cons d digits =>
    refine ⟨d, digits ++ rest, rfl, ?_⟩
    rintro rfl
    cases numeral.digit 93 List.mem_cons_self

theorem Items.start {text bytes : List UInt8} (items : Items text bytes) (rest : List UInt8) :
    ∃ d more, (text ++ rest).dropWhile isBlank = d :: more ∧ d ≠ 93 := by
  cases items with
  | last blank numeral _ =>
    simp only [List.append_assoc]
    exact item_start blank numeral _
  | cons blank numeral _ _ =>
    simp only [List.append_assoc]
    exact item_start blank numeral _

theorem readItems_of_items {text bytes : List UInt8} (items : Items text bytes) (fuel : ℕ)
    (enough : bytes.length ≤ fuel) (rest : List UInt8) :
    readItems fuel (text ++ rest) = some (bytes, rest) := by
  -- By induction on the items; each of them takes one unit of fuel.
  induction items generalizing fuel with
  | last blank numeral blank' =>
    cases fuel with
    | zero => simp at enough
    | succ fuel =>
      obtain ⟨tail, item, bracket⟩ :=
        number_item blank numeral blank' 93 rest rfl rfl
      simp [readItems, item, bracket]
  | @cons _ _ _ text _ _ blank numeral blank' items ih =>
    cases fuel with
    | zero => simp at enough
    | succ fuel =>
      obtain ⟨tail, item, comma⟩ :=
        number_item blank numeral blank' 44 (text ++ rest) rfl rfl
      have later := ih fuel (Nat.le_of_succ_le_succ enough)
      simp [readItems, item, comma, later]

theorem items_of_readItems {fuel : ℕ} {text bytes rest : List UInt8}
    (found : readItems fuel text = some (bytes, rest)) :
    ∃ read, text = read ++ rest ∧ Items read bytes := by
  induction fuel generalizing text bytes rest with
  | zero => cases found
  | succ fuel ih =>
    simp only [readItems, Option.bind_eq_bind, Option.bind_eq_some_iff, Prod.exists] at found
    obtain ⟨b, tail, item, found⟩ := found
    obtain ⟨digits, numeral, start⟩ := numeral_of_number item
    -- The text is what was skipped, the numeral, what was skipped again and what ends the item.
    have before := blank_takeWhile text
    have after := blank_takeWhile tail
    have whole : text = text.takeWhile isBlank ++
        (digits ++ (tail.takeWhile isBlank ++ tail.dropWhile isBlank)) := by
      rw [List.takeWhile_append_dropWhile, ← start, List.takeWhile_append_dropWhile]
    split at found
    · cases found
    next c more stop =>
      rw [stop] at whole
      split at found
      next bracket =>
        simp only [Option.some.injEq, Prod.mk.injEq] at found
        obtain ⟨rfl, rfl⟩ := found
        refine ⟨_, ?_, .last before numeral after⟩
        rw [bracket] at whole
        simpa using whole
      · split at found
        next comma =>
          simp only [Option.bind_eq_some_iff, Prod.exists, Option.some.injEq,
            Prod.mk.injEq] at found
          obtain ⟨others, left, later, rfl, rfl⟩ := found
          obtain ⟨read, split, items⟩ := ih later
          refine ⟨_, ?_, .cons before numeral after items⟩
          rw [comma, split] at whole
          simpa using whole
        · cases found

theorem ended_eq_some {bytes text read : List UInt8} :
    ended bytes text = some read ↔ Blank text ∧ bytes = read := by
  have all : text.all isBlank = true ↔ Blank text := List.all_eq_true
  simp only [ended, Option.ite_none_right_eq_some, all, Option.some.injEq]

/-- The reader takes the texts of the grammar, and nothing else. -/
theorem read_eq_some {text bytes : List UInt8} : read text = some bytes ↔ Writes text bytes := by
  constructor
  · intro found
    have before := blank_takeWhile text
    have whole := (List.takeWhile_append_dropWhile (p := isBlank) (l := text)).symm
    simp only [read] at found
    split at found
    · cases found
    next c body start =>
      split at found
      · cases found
      next bracket =>
        rw [start, not_not.mp bracket] at whole
        have inside := blank_takeWhile body
        have split := (List.takeWhile_append_dropWhile (p := isBlank) (l := body)).symm
        split at found
        · cases found
        next d rest next =>
          split at found
          -- An empty array, or items up to the closing bracket.
          next close =>
            obtain ⟨after, rfl⟩ := ended_eq_some.mp found
            rw [whole, split, next, close]
            exact .empty before inside after
          · simp only [Option.bind_eq_bind, Option.bind_eq_some_iff, Prod.exists] at found
            obtain ⟨others, left, items, found⟩ := found
            obtain ⟨after, rfl⟩ := ended_eq_some.mp found
            obtain ⟨read, rfl, grammar⟩ := items_of_readItems items
            rw [whole]
            exact .items before grammar after
  · intro writes
    cases writes with
    | @empty before inside after blank blank' blank'' =>
      simp [read, dropWhile_stop blank (c := 91) rfl, dropWhile_stop blank' (c := 93) rfl,
        ended_eq_some, blank'']
    | @items before text after bytes blank items blank' =>
      -- The first item starts with a character that is neither blank nor a bracket.
      obtain ⟨d, more, start, other⟩ := items.start after
      have all := readItems_of_items items (text ++ after).length (by
        have := items.length_le
        simp only [List.length_append]
        omega) after
      rw [List.length_append] at all
      simp [read, dropWhile_stop blank (c := 91) rfl, start, other, all, ended_eq_some, blank']

/-! ### The shortest text -/

def numeral (b : UInt8) : List UInt8 :=
  if b < 10 then [48 + b]
  else if b < 100 then [48 + b / 10, 48 + b % 10]
  else [48 + b / 100, 48 + b / 10 % 10, 48 + b % 10]

def renderItems : List UInt8 → List UInt8
  | [] => [93]
  | [b] => numeral b ++ [93]
  | b :: rest => numeral b ++ 44 :: renderItems rest

def render (bytes : List UInt8) : List UInt8 := 91 :: renderItems bytes

theorem numeral_numeral (b : UInt8) : Numeral (numeral b) b := by
  have all : ∀ n : Fin 256, numeral (.ofNat n) ≠ [] ∧
      (numeral (.ofNat n)).all isDigit = true ∧
      ((numeral (.ofNat n)).head? = some 48 → numeral (.ofNat n) = [48]) ∧
      value (numeral (.ofNat n)) = n := by
    decide +kernel
  obtain ⟨nonempty, digit, plain, worth⟩ := all ⟨b.toNat, b.toNat_lt⟩
  rw [UInt8.ofNat_toNat] at nonempty digit plain worth
  exact ⟨nonempty, List.all_eq_true.mp digit, plain, worth⟩

theorem items_render {bytes : List UInt8} (nonempty : bytes ≠ []) :
    Items (renderItems bytes) bytes := by
  induction bytes with
  | nil => exact absurd rfl nonempty
  | cons b bytes ih =>
    cases bytes with
    | nil => exact .last blank_nil (numeral_numeral b) blank_nil
    | cons c bytes =>
      have later := ih (List.cons_ne_nil c bytes)
      exact .cons blank_nil (numeral_numeral b) blank_nil later

theorem writes_render (bytes : List UInt8) : Writes (render bytes) bytes := by
  cases bytes with
  | nil => exact .empty blank_nil blank_nil blank_nil
  | cons b bytes =>
    have items := items_render (List.cons_ne_nil b bytes)
    simpa [render] using Writes.items blank_nil items blank_nil

end JsonBytes
