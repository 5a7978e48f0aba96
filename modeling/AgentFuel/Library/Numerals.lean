import Mathlib.Algebra.Order.Floor.Semiring
import Mathlib.Data.Int.Log
import Mathlib.Data.Rat.Floor
import Mathlib.Data.Sign.Basic
import AgentFuel.Library.Numbers
import AgentFuel.Library.Text

/-!
# Numerals

The texts that are read as numbers: the numerals of a JSON text, the strings that JavaScript's
`Number` takes and the strings that Python's `int` takes in base ten.
-/
namespace Numerals

/-- The nearest integer, and of two the even one. -/
def roundEven (q : ℚ) : ℤ :=
  let below := ⌊q⌋
  let rest := q - below
  if 1 / 2 < rest ∨ (rest = 1 / 2 ∧ below % 2 = 1) then below + 1 else below

/-- The distance of the numbers of the binary format of 64 bits next to `q`. -/
def spacing (q : ℚ) : ℚ := 2 ^ max (Int.log 2 |q| - 52) (-1074)

def rounded (q : ℚ) : ℚ := roundEven (|q| / spacing q) * spacing q

/-- The nearest number of the format. Too large ones have none. -/
def nearest (q : ℚ) : Option ℚ :=
  if rounded q < 2 ^ (Numbers.maxExponent + 1) then some (SignType.sign q * rounded q) else none

theorem roundEven_intCast (n : ℤ) : roundEven (n : ℚ) = n := by
  unfold roundEven
  dsimp only
  rw [Int.floor_intCast, sub_self]
  norm_num

theorem roundEven_nonneg {q : ℚ} (nonneg : 0 ≤ q) : 0 ≤ roundEven q := by
  have below : 0 ≤ ⌊q⌋ := Int.floor_nonneg.mpr nonneg
  unfold roundEven
  dsimp only
  split
  · omega
  · exact below

theorem spacing_pos (q : ℚ) : 0 < spacing q := zpow_pos two_pos _

theorem rounded_nonneg (q : ℚ) : 0 ≤ rounded q := by
  have whole : (0 : ℚ) ≤ roundEven (|q| / spacing q) :=
    Int.cast_nonneg (roundEven_nonneg (div_nonneg (abs_nonneg q) (spacing_pos q).le))
  exact mul_nonneg whole (spacing_pos q).le

/-- Rounding keeps the sign, or makes it zero. -/
theorem pos_of_nearest {q x : ℚ} (rounds : nearest q = some x) (pos : 0 < x) : 0 < q := by
  have size := rounded_nonneg q
  unfold nearest at rounds
  split at rounds
  · rw [Option.some.injEq] at rounds
    by_contra negative
    -- The sign of `q` is the sign of the result, whose size is not negative.
    rcases (not_lt.mp negative).lt_or_eq with below | zero
    · rw [sign_neg below] at rounds
      norm_num at rounds
      linarith
    · rw [zero, sign_zero] at rounds
      norm_num at rounds
      linarith
  · cases rounds

/-- Small integers are held as they are. -/
theorem nearest_intCast {n : ℤ} (small : |n| < 2 ^ 53) : nearest n = some (n : ℚ) := by
  have bits : Int.log 2 |(n : ℚ)| ≤ 52 := by
    by_cases zero : n = 0
    · rw [zero, Int.cast_zero, abs_zero, Int.log_zero_right]
      norm_num
    · have size : |(n : ℚ)| < (2 : ℕ) ^ (53 : ℤ) := by exact_mod_cast small
      have := (Int.lt_zpow_iff_log_lt one_lt_two (abs_pos.mpr (by exact_mod_cast zero))).mp size
      omega
  -- A spacing of at most one divides every integer.
  obtain ⟨k, power⟩ : ∃ k : ℕ, max (Int.log 2 |(n : ℚ)| - 52) (-1074) = -(k : ℤ) :=
    ⟨(-(max (Int.log 2 |(n : ℚ)| - 52) (-1074))).toNat, by omega⟩
  have fine : spacing (n : ℚ) = (2 ^ k)⁻¹ := by
    rw [spacing, power, zpow_neg, zpow_natCast]
  have kept : rounded (n : ℚ) = |(n : ℚ)| := by
    have whole : |(n : ℚ)| / (2 ^ k)⁻¹ = ((|n| * 2 ^ k : ℤ) : ℚ) := by
      rw [div_inv_eq_mul]
      push_cast
      rfl
    rw [rounded, fine, whole, roundEven_intCast]
    push_cast
    exact mul_inv_cancel_right₀ (pow_ne_zero k two_ne_zero) _
  have fits : |(n : ℚ)| < 2 ^ (Numbers.maxExponent + 1) := by
    have size : |(n : ℚ)| < 2 ^ 53 := by exact_mod_cast small
    exact size.trans_le (pow_le_pow_right₀ one_le_two (by decide))
  rw [nearest, kept, if_pos fits, sign_mul_abs]

/-- A positive number below the limit is read as it is, and no other number is read as it. -/
theorem nearest_eq_pos {n : ℤ} (small : n < 2 ^ 53) {a : ℚ} (pos : 0 < a) :
    nearest n = some a ↔ (n : ℚ) = a := by
  by_cases positive : 0 < n
  · rw [nearest_intCast (by rw [abs_of_pos positive]; exact small), Option.some.injEq]
  · constructor
    · intro rounds
      have := pos_of_nearest rounds pos
      exact absurd (by exact_mod_cast this) positive
    · intro same
      rw [← same] at pos
      exact absurd (by exact_mod_cast pos) positive

/-- A number as a JSON text writes it. -/
structure Numeral where
  negative : Bool
  whole : ℕ
  fraction : List (Fin 10)
  exponent : Option ℤ
  deriving DecidableEq, Repr

def signed {A : Type} [Neg A] (negative : Bool) (a : A) : A := if negative then -a else a

/-- Without fraction and exponent. -/
def Numeral.isInteger (n : Numeral) : Bool := n.fraction.isEmpty && n.exponent.isNone

def Numeral.integer (n : Numeral) : ℤ := signed n.negative (n.whole : ℤ)

def Numeral.value (n : Numeral) : ℚ :=
  let digits := n.fraction.foldl (fun read digit => 10 * read + (digit : ℕ)) n.whole
  signed n.negative ((digits : ℚ) * 10 ^ (n.exponent.getD 0 - n.fraction.length))

/-- Without fraction and exponent a numeral is worth its digits. -/
theorem Numeral.value_of_isInteger {n : Numeral} (plain : n.isInteger = true) :
    n.value = n.integer := by
  obtain ⟨fraction, exponent⟩ := Bool.and_eq_true_iff.mp plain
  rw [List.isEmpty_iff] at fraction
  rw [Option.isNone_iff_eq_none] at exponent
  unfold value integer signed
  rw [fraction, exponent]
  cases n.negative <;> simp

def hexDigit (c : Char) : Option ℕ :=
  if c.isDigit then some (c.toNat - '0'.toNat)
  else if 'a' ≤ c ∧ c ≤ 'f' then some (c.toNat - 'a'.toNat + 10)
  else if 'A' ≤ c ∧ c ≤ 'F' then some (c.toNat - 'A'.toNat + 10)
  else none

/-- The value of a digit of a base of up to sixteen. -/
def digit (base : ℕ) (c : Char) : Option ℕ := (hexDigit c).filter (· < base)

/-- The value of a text of digits. -/
def digits (base : ℕ) (text : Text) : Option ℕ :=
  text.foldlM (fun read c => (digit base c).map (base * read + ·)) 0

/-- A sign and what follows it. -/
def splitSign : Text → Bool × Text
  | '-' :: text => (true, text)
  | '+' :: text => (false, text)
  | text => (false, text)

/-! ## `Number` -/

/-- The blanks and line ends of JavaScript: not U+0085, but U+FEFF. -/
def isBlank (c : Char) : Bool := (Text.isWhitespace c && c.toNat ≠ 0x85) || c.toNat = 0xFEFF

def trimBlanks (text : Text) : Text := (text.dropWhile isBlank).rdropWhile isBlank

/-- A nonempty text of digits. -/
def someDigits (base : ℕ) (text : Text) : Option ℕ := if text = [] then none else digits base text

/-- What stands after the digits of a decimal literal. -/
def exponentPart : Text → Option ℤ
  | [] => some 0
  | c :: text =>
    if c = 'e' ∨ c = 'E' then
      (someDigits 10 (splitSign text).2).map fun n : ℕ => signed (splitSign text).1 (n : ℤ)
    else none

/-- A decimal literal without its sign. -/
def decimalLiteral (text : Text) : Option ℚ := do
  let whole := text.takeWhile Char.isDigit
  let (fraction, after) := match text.dropWhile Char.isDigit with
    | '.' :: rest => (rest.takeWhile Char.isDigit, rest.dropWhile Char.isDigit)
    | rest => ([], rest)
  let exponent ← exponentPart after
  let read ← someDigits 10 (whole ++ fraction)
  pure ((read : ℚ) * 10 ^ (exponent - fraction.length))

/-- The number that a string denotes before it is rounded. Infinities are none here. -/
def denoted (text : Text) : Option ℚ :=
  match trimBlanks text with
  | [] => some 0
  | '0' :: 'x' :: rest | '0' :: 'X' :: rest => (someDigits 16 rest).map Nat.cast
  | '0' :: 'o' :: rest | '0' :: 'O' :: rest => (someDigits 8 rest).map Nat.cast
  | '0' :: 'b' :: rest | '0' :: 'B' :: rest => (someDigits 2 rest).map Nat.cast
  | body => (decimalLiteral (splitSign body).2).map (signed (splitSign body).1)

/-- `Number(text)`, if it is finite. -/
def number (text : Text) : Option ℚ := (denoted text).bind nearest

/-! ## `int` -/

/-- Unicode's decimal digits: of ASCII the ten of it, and never the mark of a byte order. -/
structure DecimalDigits where
  value : Char → Option ℕ
  ascii : ∀ c, c.toNat < 128 → value c = digit 10 c
  mark : value '\uFEFF' = none

/-- The ten digits of ASCII, for texts without others. -/
def asciiDigits : DecimalDigits where
  value := digit 10
  ascii _ _ := rfl
  mark := rfl

/-- The most digits that a conversion takes. -/
def maxStrDigits : ℕ := 4300

/-- Digits with single underscores between them. -/
def underscored (decimal : DecimalDigits) : ℕ → Bool → Text → Option ℕ
  | read, afterDigit, [] => if afterDigit then some read else none
  | read, afterDigit, c :: text =>
    if c = '_' then
      if afterDigit then underscored decimal read false text else none
    else do
      let d ← decimal.value c
      underscored decimal (10 * read + d) true text

/-- `int(text, 10)`, unless it fails. -/
def int (decimal : DecimalDigits) (text : Text) : Option ℤ :=
  let (negative, body) := splitSign (Text.trim text)
  if maxStrDigits < (body.filter (· ≠ '_')).length then none
  else (underscored decimal 0 false body).map fun n : ℕ => signed negative (n : ℤ)

/-! ## Strings that both conversions take -/

variable {decimal : DecimalDigits} {text body : Text}

theorem splitSign_cases (text : Text) :
    (splitSign text).2 = text ∨ ∃ c, (c = '-' ∨ c = '+') ∧ text = c :: (splitSign text).2 := by
  unfold splitSign
  split
  · exact Or.inr ⟨'-', Or.inl rfl, rfl⟩
  · exact Or.inr ⟨'+', Or.inr rfl, rfl⟩
  · exact Or.inl rfl

/-- A decimal literal without a point and an exponent is a text of digits. -/
theorem decimalLiteral_plain {q : ℚ} (reads : decimalLiteral text = some q) (point : '.' ∉ text)
    (small : 'e' ∉ text) (capital : 'E' ∉ text) :
    (∀ c ∈ text, c.isDigit = true) ∧ ∃ n, someDigits 10 text = some n ∧ q = n := by
  have whole : text.dropWhile Char.isDigit = [] := by
    cases rest : text.dropWhile Char.isDigit with
    | nil => rfl
    | cons c after =>
      -- What stopped the digits is neither a point nor an exponent, so it ends the literal.
      have inside : c ∈ text := (List.dropWhile_sublist _).subset (rest ▸ List.mem_cons_self)
      unfold decimalLiteral at reads
      rw [rest] at reads
      have point : c ≠ '.' := fun same => point (same ▸ inside)
      have small : c ≠ 'e' := fun same => small (same ▸ inside)
      have capital : c ≠ 'E' := fun same => capital (same ▸ inside)
      simp [point, exponentPart, small, capital] at reads
  have digits : text.takeWhile Char.isDigit = text := by
    rw [List.takeWhile_eq_self_iff]
    exact List.dropWhile_eq_nil_iff.mp whole
  refine ⟨List.dropWhile_eq_nil_iff.mp whole, ?_⟩
  unfold decimalLiteral at reads
  rw [whole, digits] at reads
  simp only [exponentPart, List.append_nil, Option.bind_eq_bind, Option.bind_some,
    Option.bind_eq_some_iff, Option.pure_def, Option.some.injEq] at reads
  obtain ⟨n, value, same⟩ := reads
  refine ⟨n, value, ?_⟩
  rw [← same]
  simp

theorem decimal_digit {c : Char} (ascii : c.isDigit = true) : decimal.value c = digit 10 c := by
  apply decimal.ascii
  simp only [Char.isDigit, Bool.and_eq_true, decide_eq_true_eq, ge_iff_le, UInt32.le_iff_toNat_le] at ascii
  exact ascii.2.trans_lt (by decide)

/-- Digits of ASCII are read alike. -/
theorem underscored_digits (plain : ∀ c ∈ text, c.isDigit = true) (read : ℕ) :
    underscored decimal read true text =
      text.foldlM (fun read c => (digit 10 c).map (10 * read + ·)) read := by
  induction text generalizing read with
  | nil => rfl
  | cons c text ih =>
    have first := plain c List.mem_cons_self
    have bar : c ≠ '_' := by
      rintro rfl
      exact absurd first (by decide)
    rw [underscored, if_neg bar, decimal_digit first, List.foldlM_cons]
    cases digit 10 c with
    | none => rfl
    | some d => exact ih (fun c member => plain c (List.mem_cons_of_mem _ member)) _

theorem underscored_someDigits {n m : ℕ} (plain : ∀ c ∈ text, c.isDigit = true)
    (python : underscored decimal 0 false text = some n) (value : someDigits 10 text = some m) :
    n = m := by
  cases text with
  | nil => cases python
  | cons c text =>
    have first := plain c List.mem_cons_self
    have bar : c ≠ '_' := by
      rintro rfl
      exact absurd first (by decide)
    have same : underscored decimal 0 false (c :: text) = underscored decimal 0 true (c :: text) := by
      rw [underscored, underscored, if_neg bar, if_neg bar]
    rw [same, underscored_digits plain] at python
    rw [someDigits, if_neg (List.cons_ne_nil c text), digits, python, Option.some.injEq] at value
    exact value

/-- The characters of a string that `int` takes. -/
def Plain (decimal : DecimalDigits) (c : Char) : Prop :=
  Text.isWhitespace c = true ∨ c = '-' ∨ c = '+' ∨ c = '_' ∨ (decimal.value c).isSome = true

theorem plain_of_underscored {read n : ℕ} {afterDigit : Bool}
    (reads : underscored decimal read afterDigit text = some n) : ∀ c ∈ text, Plain decimal c := by
  induction text generalizing read afterDigit with
  | nil => exact nofun
  | cons d text ih =>
    intro c member
    rw [underscored] at reads
    split at reads
    case isTrue bar =>
      split at reads
      · rcases List.mem_cons.mp member with rfl | later
        · exact Or.inr (Or.inr (Or.inr (Or.inl bar)))
        · exact ih reads c later
      · cases reads
    case isFalse =>
      obtain ⟨value, digit, rest⟩ := Option.bind_eq_some_iff.mp reads
      rcases List.mem_cons.mp member with rfl | later
      · exact Or.inr (Or.inr (Or.inr (Or.inr (by rw [digit]; rfl))))
      · exact ih rest c later

theorem int_eq_some {n : ℤ} (reads : int decimal text = some n) :
    ∃ m : ℕ, underscored decimal 0 false (splitSign (Text.trim text)).2 = some m ∧
      n = signed (splitSign (Text.trim text)).1 (m : ℤ) := by
  unfold int at reads
  dsimp only at reads
  split at reads
  · cases reads
  · obtain ⟨m, value, same⟩ := Option.map_eq_some_iff.mp reads
    exact ⟨m, value, same.symm⟩

theorem plain_of_int {n : ℤ} (reads : int decimal text = some n) : ∀ c ∈ text, Plain decimal c := by
  obtain ⟨m, value, -⟩ := int_eq_some reads
  intro c member
  rw [← List.takeWhile_append_dropWhile (p := Text.isWhitespace) (l := text), List.mem_append] at member
  rcases member with before | member
  · exact Or.inl (List.mem_takeWhile_imp before)
  · rw [← List.rdropWhile_append_rtakeWhile (p := Text.isWhitespace)
      (l := text.dropWhile Text.isWhitespace), List.mem_append] at member
    rcases member with inside | after
    · rcases splitSign_cases (Text.trim text) with unsigned | ⟨sign, either, cut⟩
      · rw [unsigned] at value
        exact plain_of_underscored value c inside
      · rw [Text.trim] at cut
        rw [cut] at inside
        rcases List.mem_cons.mp inside with rfl | later
        · exact Or.inr (either.imp_right Or.inl)
        · exact plain_of_underscored value c later
    · exact Or.inl (List.mem_rtakeWhile_imp after)

/-- What only `Number` knows: the marks of the other bases, the point and the exponent. -/
def marks : Text := ['x', 'X', 'o', 'O', 'b', 'B', '.', 'e', 'E']

theorem marks_dark : ∀ c ∈ marks, c.toNat < 128 ∧ Text.isWhitespace c = false ∧
    c ≠ '-' ∧ c ≠ '+' ∧ c ≠ '_' ∧ digit 10 c = none := by
  intro c mark
  simp only [marks, List.mem_cons, List.not_mem_nil, or_false] at mark
  rcases mark with rfl | rfl | rfl | rfl | rfl | rfl | rfl | rfl | rfl <;> decide

/-- No mark is in a string that `int` takes. -/
theorem not_plain {c : Char} (mark : c ∈ marks) : ¬Plain decimal c := by
  obtain ⟨ascii, dark, minus, plus, bar, letter⟩ := marks_dark c mark
  rintro (white | same | same | same | read)
  · rw [dark] at white
    cases white
  · exact minus same
  · exact plus same
  · exact bar same
  · rw [decimal.ascii c ascii, letter] at read
    cases read

/-- A blank of JavaScript in a string that `int` takes is one of Python. -/
theorem isWhitespace_of_isBlank {c : Char} (blank : isBlank c = true) (plain : Plain decimal c) :
    Text.isWhitespace c = true := by
  rw [isBlank, Bool.or_eq_true, Bool.and_eq_true, decide_eq_true_eq] at blank
  rcases blank with ⟨white, -⟩ | mark
  · exact white
  · obtain rfl : c = '\uFEFF' := Char.toNat_inj.mp (of_decide_eq_true mark)
    rcases plain with white | same | same | same | read
    · exact white
    · exact absurd same (by decide)
    · exact absurd same (by decide)
    · exact absurd same (by decide)
    · rw [decimal.mark] at read
      cases read

theorem trimBlanks_around (text : Text) : ∃ left right, text = left ++ trimBlanks text ++ right ∧
    (∀ c ∈ left, isBlank c = true) ∧ ∀ c ∈ right, isBlank c = true := by
  refine ⟨text.takeWhile isBlank, (text.dropWhile isBlank).rtakeWhile isBlank, ?_,
    fun _ => List.mem_takeWhile_imp, fun _ => List.mem_rtakeWhile_imp⟩
  rw [trimBlanks, List.append_assoc, List.rdropWhile_append_rtakeWhile,
    List.takeWhile_append_dropWhile]

/-- What both trim alike is what stands between blanks of both. -/
theorem trim_eq_trimBlanks {n : ℤ} (python : int decimal text = some n)
    (dark : ∀ c ∈ trimBlanks text, Text.isWhitespace c = false) :
    Text.trim text = trimBlanks text := by
  have plain := plain_of_int python
  obtain ⟨left, right, cut, before, after⟩ := trimBlanks_around text
  have whole := @Text.trim_around left (trimBlanks text) right
  rw [← cut] at whole
  apply whole
  · intro c member
    exact isWhitespace_of_isBlank (before c member)
      (plain c (cut ▸ List.mem_append_left _ (List.mem_append_left _ member)))
  · intro c member
    exact isWhitespace_of_isBlank (after c member) (plain c (cut ▸ List.mem_append_right _ member))
  · exact dark

theorem mem_of_trimBlanks {c : Char} (member : c ∈ trimBlanks text) : c ∈ text := by
  obtain ⟨left, right, cut, -, -⟩ := trimBlanks_around text
  rw [cut]
  exact List.mem_append_left _ (List.mem_append_right _ member)

theorem isDigit_dark {c : Char} (ascii : c.isDigit = true) : Text.isWhitespace c = false := by
  rw [Char.isDigit, Bool.and_eq_true, decide_eq_true_eq, decide_eq_true_eq] at ascii
  have low : 48 ≤ c.toNat := ascii.1
  have high : c.toNat ≤ 57 := ascii.2
  rw [Text.isWhitespace]
  simp
  omega

/-- A string that both conversions take denotes one number. -/
theorem denoted_eq_int {n : ℤ} {q : ℚ} (python : int decimal text = some n)
    (javascript : denoted text = some q) : q = n := by
  have absent : ∀ c ∈ marks, c ∉ trimBlanks text := fun c mark member =>
    not_plain mark (plain_of_int python c (mem_of_trimBlanks member))
  unfold denoted at javascript
  split at javascript
  case h_1 empty =>
    -- Blanks alone are zero to `Number` and nothing to `int`.
    have none := trim_eq_trimBlanks python (by rw [empty]; exact nofun)
    obtain ⟨m, value, -⟩ := int_eq_some python
    rw [none, empty] at value
    cases value
  case h_8 =>
    obtain ⟨exact, reads, rfl⟩ := Option.map_eq_some_iff.mp javascript
    have inside : ∀ c ∈ (splitSign (trimBlanks text)).2, c ∈ trimBlanks text := by
      rcases splitSign_cases (trimBlanks text) with unsigned | ⟨sign, -, cut⟩
      · rw [unsigned]
        exact fun _ member => member
      · intro c member
        rw [cut]
        exact List.mem_cons_of_mem _ member
    -- Without point and exponent a decimal literal is a text of digits.
    obtain ⟨plain, m, value, rfl⟩ := decimalLiteral_plain reads
      (fun member => absent '.' (by decide) (inside _ member))
      (fun member => absent 'e' (by decide) (inside _ member))
      (fun member => absent 'E' (by decide) (inside _ member))
    -- Signs and digits are no blanks, so both conversions cut off the same.
    have same : Text.trim text = trimBlanks text := by
      apply trim_eq_trimBlanks python
      intro c member
      rcases splitSign_cases (trimBlanks text) with unsigned | ⟨sign, either, cut⟩
      · rw [unsigned] at plain
        exact isDigit_dark (plain c member)
      · rw [cut] at member
        rcases List.mem_cons.mp member with rfl | later
        · rcases either with rfl | rfl <;> rfl
        · exact isDigit_dark (plain c later)
    obtain ⟨m', read, rfl⟩ := int_eq_some python
    rw [same] at read ⊢
    obtain rfl := underscored_someDigits plain read value
    unfold signed
    split
    · push_cast
      rfl
    · rfl
  -- The other bases have a letter in the second place.
  all_goals
    rename_i rest cut
    exact (absent _ (by decide) (cut ▸ List.mem_cons_of_mem _ List.mem_cons_self)).elim

/-- Below the limit both conversions read the same positive number. -/
theorem number_eq_pos {n : ℤ} (python : int decimal text = some n) (small : n < 2 ^ 53)
    (javascript : (number text).isSome = true) {a : ℚ} (pos : 0 < a) :
    number text = some a ↔ (n : ℚ) = a := by
  obtain ⟨b, reads⟩ := Option.isSome_iff_exists.mp javascript
  obtain ⟨q, exact, -⟩ := Option.bind_eq_some_iff.mp reads
  obtain rfl := denoted_eq_int python exact
  rw [number, exact, Option.bind_some]
  exact nearest_eq_pos small pos

end Numerals
