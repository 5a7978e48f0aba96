import AgentFuel.Library.Text
import Mathlib.Data.List.GetD
import Mathlib.Data.List.Nodup
import Mathlib.Data.Nat.Digits.Defs
import Mathlib.Tactic.Common

/-!
# Bytes as text

Hexadecimal, base 58 and base 64, as lists of characters. Each is determined by its alphabet;
all that is used of an alphabet is that its characters are distinct.
-/
structure Alphabet where
  chars : Text
  nodup : chars.Nodup

namespace Alphabet

variable (alphabet : Alphabet) {i j : ℕ}

def digit (i : ℕ) : Char := alphabet.chars.getD i ' '

def value (c : Char) : Option ℕ :=
  if c ∈ alphabet.chars then some (alphabet.chars.idxOf c) else none

theorem digit_mem (small : i < alphabet.chars.length) : alphabet.digit i ∈ alphabet.chars := by
  rw [digit, List.getD_eq_getElem _ _ small]
  exact List.getElem_mem small

theorem value_digit (small : i < alphabet.chars.length) :
    alphabet.value (alphabet.digit i) = some i := by
  rw [value, if_pos (alphabet.digit_mem small), digit, List.getD_eq_getElem _ _ small,
    alphabet.nodup.idxOf_getElem]

theorem digit_inj (first : i < alphabet.chars.length) (second : j < alphabet.chars.length)
    (same : alphabet.digit i = alphabet.digit j) : i = j := by
  have left := alphabet.value_digit first
  rw [same, alphabet.value_digit second] at left
  exact (Option.some.inj left).symm

end Alphabet

namespace Encodings

/-! ### Hexadecimal -/

def hexAlphabet : Alphabet := ⟨"0123456789abcdef".toList, by decide⟩

/-- Two lower-case digits for each byte. -/
def hex (bytes : List UInt8) : Text :=
  bytes.flatMap fun b => [hexAlphabet.digit (b.toNat / 16), hexAlphabet.digit (b.toNat % 16)]

theorem hex_injective : Function.Injective hex := by
  intro bytes
  induction bytes with
  | nil =>
    intro others same
    cases others with
    | nil => rfl
    | cons b others => cases same
  | cons b bytes ih =>
    intro others same
    cases others with
    | nil => cases same
    | cons c others =>
      have length : hexAlphabet.chars.length = 16 := by decide
      have below := b.toNat_lt
      have below' := c.toNat_lt
      simp only [hex, List.flatMap_cons, List.cons_append, List.nil_append, List.cons.injEq] at same
      obtain ⟨high, low, rest⟩ := same
      have highs := hexAlphabet.digit_inj (by omega) (by omega) high
      have lows := hexAlphabet.digit_inj (by omega) (by omega) low
      have bytesEq : b = c := by
        apply UInt8.toNat_inj.mp
        omega
      rw [bytesEq, ih rest]

/-! ### Base 58 -/

def base58Alphabet : Alphabet :=
  ⟨"123456789ABCDEFGHJKLMNPQRSTUVWXYZabcdefghijkmnopqrstuvwxyz".toList, by decide +kernel⟩

/-- The bytes as one number, the first byte most significant. -/
def number (bytes : List UInt8) : ℕ := Nat.ofDigits 256 (bytes.reverse.map UInt8.toNat)

/-- The number in base 58, after one `1` for each leading zero byte. -/
def base58 (bytes : List UInt8) : Text :=
  List.replicate (bytes.takeWhile (· = 0)).length '1' ++
    (Nat.digits 58 (number bytes)).reverse.map base58Alphabet.digit

theorem number_inj {bytes others : List UInt8} (length : bytes.length = others.length)
    (same : number bytes = number others) : bytes = others := by
  have digits : bytes.reverse.map UInt8.toNat = others.reverse.map UInt8.toNat := by
    apply Nat.ofDigits_inj_of_len_eq (b := 256) (by decide) (by simp [length]) ?_ ?_ same
    all_goals
      intro n member
      obtain ⟨b, -, rfl⟩ := List.mem_map.mp member
      exact b.toNat_lt
  have reversed := (List.map_injective_iff.mpr fun _ _ => UInt8.toNat_inj.mp) digits
  exact List.reverse_injective reversed

/-- What a character counts in base 58. -/
def value58 (c : Char) : ℕ := (base58Alphabet.value c).getD 0

theorem value58_digit {d : ℕ} (small : d < 58) : value58 (base58Alphabet.digit d) = d := by
  have length : base58Alphabet.chars.length = 58 := by decide
  rw [value58, base58Alphabet.value_digit (by omega), Option.getD_some]

/-- The text read as digits, where `1` is zero, is the number. -/
theorem number_of_base58 (bytes : List UInt8) :
    Nat.ofDigits 58 ((base58 bytes).reverse.map value58) = number bytes := by
  have digits : ((Nat.digits 58 (number bytes)).map base58Alphabet.digit).map value58 =
      Nat.digits 58 (number bytes) := by
    rw [List.map_map]
    calc (Nat.digits 58 (number bytes)).map (value58 ∘ base58Alphabet.digit)
        = (Nat.digits 58 (number bytes)).map id := by
          apply List.map_congr_left
          intro d member
          exact value58_digit (Nat.digits_lt_base (by decide) member)
      _ = Nat.digits 58 (number bytes) := List.map_id _
  have ones : ∀ n, Nat.ofDigits 58 (List.replicate n (value58 '1')) = 0 := by
    have one : value58 '1' = 0 := by decide
    intro n
    rw [one]
    induction n with
    | zero => rfl
    | succ n ih => rw [List.replicate_succ, Nat.ofDigits_cons, ih]
  rw [base58, List.reverse_append, List.map_append, Nat.ofDigits_append, List.reverse_replicate,
    List.map_replicate, ones, Nat.mul_zero, Nat.add_zero, ← List.map_reverse, List.reverse_reverse,
    digits, Nat.ofDigits_digits]

theorem base58_inj {bytes others : List UInt8} (length : bytes.length = others.length)
    (same : base58 bytes = base58 others) : bytes = others := by
  apply number_inj length
  rw [← number_of_base58 bytes, same, number_of_base58 others]

/-- The bytes of a text in base 58, of whatever length. -/
def ofBase58 (text : Text) : Option (List UInt8) := do
  let values ← text.mapM base58Alphabet.value
  let n := Nat.ofDigits 58 values.reverse
  pure (List.replicate (text.takeWhile (· = '1')).length 0 ++
    (Nat.digits 256 n).reverse.map UInt8.ofNat)

/-! ### Base 64 -/

def base64Alphabet : Alphabet :=
  ⟨"ABCDEFGHIJKLMNOPQRSTUVWXYZabcdefghijklmnopqrstuvwxyz0123456789+/".toList, by decide +kernel⟩

/-- Three bytes are four characters; a shorter last group is filled up with `=`. -/
def base64 : List UInt8 → Text
  | [] => []
  | [x] =>
    [base64Alphabet.digit (x.toNat / 4), base64Alphabet.digit (x.toNat % 4 * 16), '=', '=']
  | [x, y] =>
    [base64Alphabet.digit (x.toNat / 4), base64Alphabet.digit (x.toNat % 4 * 16 + y.toNat / 16),
      base64Alphabet.digit (y.toNat % 16 * 4), '=']
  | x :: y :: z :: rest =>
    base64Alphabet.digit (x.toNat / 4) ::
      base64Alphabet.digit (x.toNat % 4 * 16 + y.toNat / 16) ::
      base64Alphabet.digit (y.toNat % 16 * 4 + z.toNat / 64) ::
      base64Alphabet.digit (z.toNat % 64) :: base64 rest

/-- Four characters that stand for three bytes. -/
def fullGroup (a b c d : Char) : Option (List UInt8) := do
  let a ← base64Alphabet.value a
  let b ← base64Alphabet.value b
  let c ← base64Alphabet.value c
  let d ← base64Alphabet.value d
  some [UInt8.ofNat (a * 4 + b / 16), UInt8.ofNat (b % 16 * 16 + c / 4),
    UInt8.ofNat (c % 4 * 64 + d)]

/-- The last group. The bits that padding leaves over have to be zero. -/
def lastGroup (a b c d : Char) : Option (List UInt8) :=
  if d ≠ '=' then fullGroup a b c d
  else do
    let a ← base64Alphabet.value a
    let b ← base64Alphabet.value b
    if c = '=' then if b % 16 = 0 then some [UInt8.ofNat (a * 4 + b / 16)] else none
    else do
      let c ← base64Alphabet.value c
      if c % 4 = 0 then some [UInt8.ofNat (a * 4 + b / 16), UInt8.ofNat (b % 16 * 16 + c / 4)]
      else none

/-- Canonical padding is required. -/
def ofBase64 : Text → Option (List UInt8)
  | [] => some []
  | [a, b, c, d] => lastGroup a b c d
  | a :: b :: c :: d :: rest => do
    let first ← fullGroup a b c d
    let others ← ofBase64 rest
    some (first ++ others)
  | _ => none

theorem value_sextet {i : ℕ} (small : i < 64) :
    base64Alphabet.value (base64Alphabet.digit i) = some i :=
  base64Alphabet.value_digit small

theorem sextet_ne_pad {i : ℕ} (small : i < 64) : base64Alphabet.digit i ≠ '=' := by
  have outside : '=' ∉ base64Alphabet.chars := by decide
  intro same
  exact outside (same ▸ base64Alphabet.digit_mem small)

theorem fullGroup_base64 (x y z : UInt8) :
    fullGroup (base64Alphabet.digit (x.toNat / 4))
      (base64Alphabet.digit (x.toNat % 4 * 16 + y.toNat / 16))
      (base64Alphabet.digit (y.toNat % 16 * 4 + z.toNat / 64))
      (base64Alphabet.digit (z.toNat % 64)) = some [x, y, z] := by
  have x256 := x.toNat_lt
  have y256 := y.toNat_lt
  have z256 := z.toNat_lt
  have first : x.toNat / 4 * 4 + (x.toNat % 4 * 16 + y.toNat / 16) / 16 = x.toNat := by omega
  have second : (x.toNat % 4 * 16 + y.toNat / 16) % 16 * 16 +
      (y.toNat % 16 * 4 + z.toNat / 64) / 4 = y.toNat := by omega
  have third : (y.toNat % 16 * 4 + z.toNat / 64) % 4 * 64 + z.toNat % 64 = z.toNat := by omega
  simp only [fullGroup, value_sextet (show x.toNat / 4 < 64 by omega),
    value_sextet (show x.toNat % 4 * 16 + y.toNat / 16 < 64 by omega),
    value_sextet (show y.toNat % 16 * 4 + z.toNat / 64 < 64 by omega),
    value_sextet (show z.toNat % 64 < 64 by omega), Option.bind_eq_bind, Option.bind_some, first,
    second, third, UInt8.ofNat_toNat]

theorem ofBase64_base64 (bytes : List UInt8) : ofBase64 (base64 bytes) = some bytes := by
  fun_induction base64 bytes with
  | case1 => rfl
  | case2 x =>
    have x256 := x.toNat_lt
    have first : x.toNat / 4 * 4 + x.toNat % 4 * 16 / 16 = x.toNat := by omega
    have left : x.toNat % 4 * 16 % 16 = 0 := by omega
    simp only [ofBase64, lastGroup, ne_eq, not_true_eq_false, if_false, if_true,
      value_sextet (show x.toNat / 4 < 64 by omega),
      value_sextet (show x.toNat % 4 * 16 < 64 by omega), Option.bind_eq_bind, Option.bind_some,
      left, first, UInt8.ofNat_toNat]
  | case3 x y =>
    have x256 := x.toNat_lt
    have y256 := y.toNat_lt
    have first : x.toNat / 4 * 4 + (x.toNat % 4 * 16 + y.toNat / 16) / 16 = x.toNat := by omega
    have second : (x.toNat % 4 * 16 + y.toNat / 16) % 16 * 16 + y.toNat % 16 * 4 / 4 =
        y.toNat := by omega
    have left : y.toNat % 16 * 4 % 4 = 0 := by omega
    simp only [ofBase64, lastGroup, ne_eq, not_true_eq_false, if_false, if_true,
      value_sextet (show x.toNat / 4 < 64 by omega),
      value_sextet (show x.toNat % 4 * 16 + y.toNat / 16 < 64 by omega),
      value_sextet (show y.toNat % 16 * 4 < 64 by omega),
      sextet_ne_pad (show y.toNat % 16 * 4 < 64 by omega), Option.bind_eq_bind, Option.bind_some,
      left, first, second, UInt8.ofNat_toNat]
  | case4 x y z rest ih =>
    -- A group that ends the text is read as the last one, and a full one all the same.
    have group := fullGroup_base64 x y z
    have unpadded := sextet_ne_pad (show z.toNat % 64 < 64 by omega)
    cases more : base64 rest with
    | nil =>
      rw [more] at ih
      obtain rfl : [] = rest := Option.some.inj ih
      rw [ofBase64, lastGroup, if_pos unpadded, group]
    | cons c text =>
      rw [more] at ih
      rw [ofBase64, group, ih]
      · rfl
      · simp

/-- The characters of a base 64 text. -/
theorem base64_chars (bytes : List UInt8) : ∀ c ∈ base64 bytes, c ∈ base64Alphabet.chars ∨ c = '=' := by
  have sextet : ∀ i, i < 64 → base64Alphabet.digit i ∈ base64Alphabet.chars := fun i small =>
    base64Alphabet.digit_mem small
  fun_induction base64 bytes with
  | case1 => simp
  | case2 x =>
    have x256 := x.toNat_lt
    simp [sextet (x.toNat / 4) (by omega), sextet (x.toNat % 4 * 16) (by omega)]
  | case3 x y =>
    have x256 := x.toNat_lt
    have y256 := y.toNat_lt
    simp [sextet (x.toNat / 4) (by omega), sextet (x.toNat % 4 * 16 + y.toNat / 16) (by omega),
      sextet (y.toNat % 16 * 4) (by omega)]
  | case4 x y z rest ih =>
    have x256 := x.toNat_lt
    have y256 := y.toNat_lt
    have z256 := z.toNat_lt
    simp only [List.forall_mem_cons]
    exact ⟨.inl (sextet _ (by omega)), .inl (sextet _ (by omega)), .inl (sextet _ (by omega)),
      .inl (sextet _ (by omega)), ih⟩

/-- No blanks, so that nothing is trimmed. -/
theorem trim_base64 (bytes : List UInt8) : Text.trim (base64 bytes) = base64 bytes := by
  have dark : base64Alphabet.chars.all (fun c => !Text.isWhitespace c) = true := by decide +kernel
  have letters : ∀ c ∈ base64Alphabet.chars, Text.isWhitespace c = false := by
    intro c member
    simpa using List.all_eq_true.mp dark c member
  apply Text.trim_eq_self
  intro c member
  rcases base64_chars bytes c member with letter | rfl
  · exact letters c letter
  · rfl

theorem base64_length (bytes : List UInt8) : (base64 bytes).length % 4 = 0 := by
  fun_induction base64 bytes with
  | case1 => rfl
  | case2 => simp
  | case3 => simp
  | case4 x y z rest ih =>
    simp only [List.length_cons]
    omega

end Encodings
