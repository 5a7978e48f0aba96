import Mathlib.Data.List.TakeWhile
import Mathlib.Tactic.Common

/-!
# Encodings of Unicode

UTF-8 with a reader that marks what is no character, and UTF-16 with its surrogates. Characters are
those of Lean, the scalar values.
-/
namespace Unicode

/-! ### UTF-8 -/

def utf8 (text : List Char) : List UInt8 := text.flatMap String.utf8EncodeChar

/-- Within a character: how many bytes are to come, the bounds of the next one, and the value of
those before. -/
structure Pending where
  needed : ℕ
  lower : ℕ
  upper : ℕ
  point : ℕ

/-- The first byte of a character. The bounds of the second one leave out what is too long, the
surrogates and what is too large. -/
def start (b : UInt8) : List (Option Char) × Option Pending :=
  let n := b.toNat
  if n ≤ 0x7F then ([some (Char.ofNat n)], none)
  else if 0xC2 ≤ n ∧ n ≤ 0xDF then ([], some ⟨1, 0x80, 0xBF, n - 0xC0⟩)
  else if 0xE0 ≤ n ∧ n ≤ 0xEF then
    ([], some ⟨2, if n = 0xE0 then 0xA0 else 0x80, if n = 0xED then 0x9F else 0xBF, n - 0xE0⟩)
  else if 0xF0 ≤ n ∧ n ≤ 0xF4 then
    ([], some ⟨3, if n = 0xF0 then 0x90 else 0x80, if n = 0xF4 then 0x8F else 0xBF, n - 0xF0⟩)
  else ([none], none)

/-- A byte that does not continue a character ends it and is a first byte. -/
def next : Option Pending → UInt8 → List (Option Char) × Option Pending
  | none, b => start b
  | some p, b =>
    if p.lower ≤ b.toNat ∧ b.toNat ≤ p.upper then
      let point := p.point * 64 + (b.toNat - 0x80)
      if p.needed = 1 then ([some (Char.ofNat point)], none)
      else ([], some ⟨p.needed - 1, 0x80, 0xBF, point⟩)
    else (none :: (start b).1, (start b).2)

/-- The characters, with one `none` for each longest beginning of a character that is cut off and
for each other byte. -/
def scan : Option Pending → List UInt8 → List (Option Char)
  | p, [] => if p.isSome then [none] else []
  | p, b :: rest => (next p b).1 ++ scan (next p b).2 rest

/-- `U+FFFD` -/
def replacement : Char := Char.ofNat 0xFFFD

/-- What a decoder reads that replaces what is no character. -/
def lossy (bytes : List UInt8) : List Char := (scan none bytes).map fun c => c.getD replacement

theorem toNat_byte {k : ℕ} (small : k < 256) : (UInt8.ofNat k).toNat = k := by
  rw [UInt8.toNat_ofNat', Nat.mod_eq_of_lt small]

theorem start_two {k : ℕ} (low : 2 ≤ k) (high : k < 32) :
    start (UInt8.ofNat (k + 0xC0)) = ([], some ⟨1, 0x80, 0xBF, k⟩) := by
  have size : (UInt8.ofNat (k + 0xC0)).toNat = k + 0xC0 := toNat_byte (by omega)
  simp only [start, size]
  rw [if_neg (by omega), if_pos (by omega), Nat.add_sub_cancel]

theorem start_three {k : ℕ} (high : k < 16) :
    start (UInt8.ofNat (k + 0xE0)) =
      ([], some ⟨2, if k = 0 then 0xA0 else 0x80, if k = 13 then 0x9F else 0xBF, k⟩) := by
  have size : (UInt8.ofNat (k + 0xE0)).toNat = k + 0xE0 := toNat_byte (by omega)
  have first : k + 0xE0 = 0xE0 ↔ k = 0 := by omega
  have surrogates : k + 0xE0 = 0xED ↔ k = 13 := by omega
  simp only [start, size, first, surrogates]
  rw [if_neg (by omega), if_neg (by omega), if_pos (by omega), Nat.add_sub_cancel]

theorem start_four {k : ℕ} (high : k < 5) :
    start (UInt8.ofNat (k + 0xF0)) =
      ([], some ⟨3, if k = 0 then 0x90 else 0x80, if k = 4 then 0x8F else 0xBF, k⟩) := by
  have size : (UInt8.ofNat (k + 0xF0)).toNat = k + 0xF0 := toNat_byte (by omega)
  have first : k + 0xF0 = 0xF0 ↔ k = 0 := by omega
  have last : k + 0xF0 = 0xF4 ↔ k = 4 := by omega
  simp only [start, size, first, last]
  rw [if_neg (by omega), if_neg (by omega), if_neg (by omega), if_pos (by omega),
    Nat.add_sub_cancel]

section Continue

variable {needed lower upper point k : ℕ} (small : k < 64) (low : lower ≤ k + 0x80)
  (high : k + 0x80 ≤ upper) (rest : List UInt8)

include small low high

theorem scan_more : scan (some ⟨needed + 2, lower, upper, point⟩) (UInt8.ofNat (k + 0x80) :: rest) =
    scan (some ⟨needed + 1, 0x80, 0xBF, point * 64 + k⟩) rest := by
  have size : (UInt8.ofNat (k + 0x80)).toNat = k + 0x80 := toNat_byte (by omega)
  simp only [scan, next, size]
  rw [if_pos ⟨low, high⟩, if_neg (by omega), Nat.add_sub_cancel, List.nil_append]
  rfl

theorem scan_last : scan (some ⟨1, lower, upper, point⟩) (UInt8.ofNat (k + 0x80) :: rest) =
    some (Char.ofNat (point * 64 + k)) :: scan none rest := by
  have size : (UInt8.ofNat (k + 0x80)).toNat = k + 0x80 := toNat_byte (by omega)
  simp only [scan, next, size]
  rw [if_pos ⟨low, high⟩, if_pos trivial, Nat.add_sub_cancel, List.singleton_append]

end Continue

/-- One character is read back, whatever follows. -/
theorem scan_utf8EncodeChar (c : Char) (rest : List UInt8) :
    scan none (String.utf8EncodeChar c ++ rest) = some c :: scan none rest := by
  have scalar : c.val.toNat < 0xD800 ∨ (0xDFFF < c.val.toNat ∧ c.val.toNat < 0x110000) := c.valid
  have back : Char.ofNat c.val.toNat = c := Char.ofNat_toNat c
  unfold String.utf8EncodeChar
  dsimp only
  generalize c.val.toNat = v at scalar back
  -- By the number of bytes; the value is put together again from its digits in base 64.
  split
  next one => simp [scan, next, start, toNat_byte (show v < 256 by omega), one, back]
  next more =>
  split
  next two =>
    have lead : v / 64 % 0x20 = v / 64 := by omega
    have whole : v / 64 * 64 + v % 0x40 = v := by omega
    rw [lead, List.cons_append, scan, next, start_two (by omega) (by omega), List.nil_append,
      List.cons_append, scan_last (by omega) (by omega) (by omega), whole, back, List.nil_append]
  next more =>
  split
  next three =>
    have lead : v / 4096 % 0x10 = v / 4096 := by omega
    have whole : (v / 4096 * 64 + v / 64 % 0x40) * 64 + v % 0x40 = v := by omega
    rw [lead, List.cons_append, scan, next, start_three (by omega), List.nil_append,
      List.cons_append, scan_more (by omega) (by split <;> omega) (by split <;> omega),
      List.cons_append, scan_last (by omega) (by omega) (by omega), whole, back, List.nil_append]
  next four =>
    have lead : v / 262144 % 0x08 = v / 262144 := by omega
    have whole :
        ((v / 262144 * 64 + v / 4096 % 0x40) * 64 + v / 64 % 0x40) * 64 + v % 0x40 = v := by
      omega
    rw [lead, List.cons_append, scan, next, start_four (by omega), List.nil_append,
      List.cons_append, scan_more (by omega) (by split <;> omega) (by split <;> omega),
      List.cons_append, scan_more (by omega) (by omega) (by omega),
      List.cons_append, scan_last (by omega) (by omega) (by omega), whole, back, List.nil_append]

theorem scan_utf8 (text : List Char) : scan none (utf8 text) = text.map some := by
  induction text with
  | nil => simp [utf8, scan]
  | cons c text ih =>
    rw [utf8, List.flatMap_cons, scan_utf8EncodeChar, ← utf8, ih, List.map_cons]

theorem lossy_utf8 (text : List Char) : lossy (utf8 text) = text := by
  rw [lossy, scan_utf8, List.map_map]
  exact List.map_id text

/-- The decoder that refuses what is no text reads every text. -/
theorem fromUTF8?_utf8 (text : List Char) :
    String.fromUTF8? ⟨(utf8 text).toArray⟩ = some (String.ofList text) := by
  have bytes : (⟨(utf8 text).toArray⟩ : ByteArray) = text.utf8Encode := by
    apply ByteArray.ext
    rw [List.utf8Encode, List.data_toByteArray, utf8]
  have valid : ByteArray.IsValidUTF8 ⟨(utf8 text).toArray⟩ := .intro text bytes
  rw [String.fromUTF8?, dif_pos valid, Option.some.injEq]
  apply String.toByteArray_inj.mp
  rw [String.toByteArray_ofList]
  exact bytes

theorem zero_ne_byte {k : ℕ} (positive : 0 < k) (small : k < 256) : 0 ≠ UInt8.ofNat k := by
  intro same
  have value := congrArg UInt8.toNat same
  rw [toNat_byte small, UInt8.toNat_zero] at value
  omega

/-- Only `U+0000` has a byte that is zero. -/
theorem zero_mem_utf8EncodeChar {c : Char} (zero : 0 ∈ String.utf8EncodeChar c) :
    c = Char.ofNat 0 := by
  have back : Char.ofNat c.val.toNat = c := Char.ofNat_toNat c
  have scalar : c.val.toNat < 0xD800 ∨ (0xDFFF < c.val.toNat ∧ c.val.toNat < 0x110000) := c.valid
  rw [← back]
  congr 1
  unfold String.utf8EncodeChar at zero
  dsimp only at zero
  generalize c.val.toNat = v at scalar zero
  split at zero
  next one =>
    by_contra other
    exact zero_ne_byte (Nat.pos_of_ne_zero other) (by omega) (List.mem_singleton.mp zero)
  next more =>
  -- Every other byte has a bit that marks it.
  exfalso
  split at zero
  next two =>
    simp only [List.mem_cons, List.not_mem_nil, or_false] at zero
    rcases zero with same | same <;> exact zero_ne_byte (by omega) (by omega) same
  next more =>
  split at zero
  next three =>
    simp only [List.mem_cons, List.not_mem_nil, or_false] at zero
    rcases zero with same | same | same <;> exact zero_ne_byte (by omega) (by omega) same
  next four =>
    simp only [List.mem_cons, List.not_mem_nil, or_false] at zero
    rcases zero with same | same | same | same <;> exact zero_ne_byte (by omega) (by omega) same

/-- `U+0000` -/
def null : Char := Char.ofNat 0

/-- What stands before the first zero byte, of a text filled up with zeros. -/
theorem takeWhile_utf8 (text : List Char) (n : ℕ) :
    (utf8 text ++ List.replicate n 0).takeWhile (fun b => decide (b ≠ 0)) =
      utf8 (text.takeWhile fun c => decide (c ≠ null)) := by
  induction text with
  | nil => cases n <;> simp [utf8, List.replicate_succ]
  | cons c text ih =>
    by_cases zero : c = null
    · have byte : String.utf8EncodeChar null = [0] := by decide
      simp [utf8, zero, byte]
    · have dark : ∀ b ∈ String.utf8EncodeChar c, decide (b ≠ 0) = true := by
        intro b member
        apply decide_eq_true
        rintro rfl
        exact zero (zero_mem_utf8EncodeChar member)
      have kept : decide (c ≠ null) = true := decide_eq_true zero
      rw [List.takeWhile_cons, if_pos kept, utf8, List.flatMap_cons, List.append_assoc,
        List.takeWhile_append_of_pos dark, ← utf8, ih, utf8, utf8, List.flatMap_cons]

/-! ### Offsets in bytes -/

def byteSize (text : List Char) : ℕ := (utf8 text).length

/-- The text before an offset and the text from there on, where that cuts no character. -/
def cut : ℕ → List Char → Option (List Char × List Char)
  | n, [] => if n = 0 then some ([], []) else none
  | n, c :: text =>
    if n = 0 then some ([], c :: text)
    else if c.utf8Size ≤ n then
      (cut (n - c.utf8Size) text).map fun (before, after) => (c :: before, after)
    else none

/-- An offset is at a boundary if it is the size of an initial part of the text. -/
def IsBoundary (n : ℕ) (text : List Char) : Prop :=
  ∃ before after, text = before ++ after ∧ byteSize before = n

@[simp] theorem byteSize_nil : byteSize [] = 0 := by simp [byteSize, utf8]

@[simp] theorem byteSize_cons (c : Char) (text : List Char) :
    byteSize (c :: text) = c.utf8Size + byteSize text := by simp [byteSize, utf8]

theorem cut_eq_some {n : ℕ} {text before after : List Char} :
    cut n text = some (before, after) ↔ text = before ++ after ∧ byteSize before = n := by
  induction text generalizing n before with
  | nil => cases before <;> simp [cut, and_comm, eq_comm]
  | cons c text ih =>
    have positive := c.utf8Size_pos
    rw [cut]
    split
    next zero =>
      -- Only the empty text has size zero.
      cases before with
      | nil => simp [zero, eq_comm]
      | cons d before =>
        have := d.utf8Size_pos
        simp only [Option.some.injEq, Prod.mk.injEq, byteSize_cons]
        constructor
        · rintro ⟨empty, -⟩
          cases empty
        · rintro ⟨-, size⟩
          omega
    next more =>
      cases before with
      | nil =>
        have other : ¬0 = n := fun same => more same.symm
        split <;> simp [other]
      | cons d before =>
        simp only [List.cons_append, List.cons.injEq, byteSize_cons]
        split
        next fits =>
          simp only [Option.map_eq_some_iff, Prod.exists, Prod.mk.injEq, List.cons.injEq]
          constructor
          · rintro ⟨before', after', found, ⟨rfl, rfl⟩, rfl⟩
            obtain ⟨rfl, size⟩ := ih.mp found
            exact ⟨⟨rfl, rfl⟩, by omega⟩
          · rintro ⟨⟨rfl, rfl⟩, size⟩
            exact ⟨before, after, ih.mpr ⟨rfl, by omega⟩, ⟨rfl, rfl⟩, rfl⟩
        next inside =>
          constructor
          · intro nothing
            cases nothing
          · rintro ⟨⟨rfl, -⟩, size⟩
            omega

theorem cut_isSome {n : ℕ} {text : List Char} : (cut n text).isSome = true ↔ IsBoundary n text := by
  simp only [Option.isSome_iff_exists, Prod.exists, cut_eq_some, IsBoundary]

instance (n : ℕ) (text : List Char) : Decidable (IsBoundary n text) :=
  decidable_of_iff _ cut_isSome

/-! ### UTF-16 -/

/-- The units of a code point, surrogates included. -/
def units (point : ℕ) : List UInt16 :=
  if point < 0x10000 then [UInt16.ofNat point]
  else [UInt16.ofNat (0xD800 + (point - 0x10000) / 0x400),
    UInt16.ofNat (0xDC00 + (point - 0x10000) % 0x400)]

def utf16 (text : List Char) : List UInt16 := text.flatMap fun c => units c.toNat

def isHigh (u : UInt16) : Bool := 0xD800 ≤ u.toNat && u.toNat ≤ 0xDBFF

def isLow (u : UInt16) : Bool := 0xDC00 ≤ u.toNat && u.toNat ≤ 0xDFFF

/-- The character of a unit that is no part of a pair. -/
def scalar (u : UInt16) : Char := if isHigh u || isLow u then replacement else Char.ofNat u.toNat

/-- The characters of a string of units, with the replacement for each lone surrogate. -/
def scalars : List UInt16 → List Char
  | [] => []
  | [u] => [scalar u]
  | u :: v :: rest =>
    if isHigh u && isLow v then
      Char.ofNat (0x10000 + (u.toNat - 0xD800) * 0x400 + (v.toNat - 0xDC00)) :: scalars rest
    else scalar u :: scalars (v :: rest)

/-- No surrogate stands alone. -/
def isWellFormed : List UInt16 → Bool
  | [] => true
  | [u] => !(isHigh u || isLow u)
  | u :: v :: rest =>
    if isHigh u && isLow v then isWellFormed rest
    else !(isHigh u || isLow u) && isWellFormed (v :: rest)

theorem toNat_unit {k : ℕ} (small : k < 65536) : (UInt16.ofNat k).toNat = k := by
  rw [UInt16.toNat_ofNat', Nat.mod_eq_of_lt small]

/-- A character is read back from its units, whatever follows. -/
theorem scalars_units (c : Char) (rest : List UInt16) :
    scalars (units c.toNat ++ rest) = c :: scalars rest := by
  have valid : c.toNat < 0xD800 ∨ (0xDFFF < c.toNat ∧ c.toNat < 0x110000) := c.valid
  have back : Char.ofNat c.toNat = c := Char.ofNat_toNat c
  unfold units
  generalize c.toNat = v at valid back
  split
  next small =>
    -- Up to 0xFFFF a character is one unit, and none that belongs to a pair.
    have size : (UInt16.ofNat v).toNat = v := toNat_unit small
    have notHigh : isHigh (UInt16.ofNat v) = false := by
      simp only [isHigh, size, Bool.and_eq_false_iff, decide_eq_false_iff_not]
      omega
    have notLow : isLow (UInt16.ofNat v) = false := by
      simp only [isLow, size, Bool.and_eq_false_iff, decide_eq_false_iff_not]
      omega
    have single : scalar (UInt16.ofNat v) = c := by simp [scalar, notHigh, notLow, size, back]
    cases rest with
    | nil => simp [scalars, single]
    | cons u rest => simp [scalars, notHigh, single]
  next large =>
    -- Above it is a pair, whose halves say the rest.
    have high : (UInt16.ofNat (0xD800 + (v - 0x10000) / 0x400)).toNat =
        0xD800 + (v - 0x10000) / 0x400 := toNat_unit (by omega)
    have low : (UInt16.ofNat (0xDC00 + (v - 0x10000) % 0x400)).toNat =
        0xDC00 + (v - 0x10000) % 0x400 := toNat_unit (by omega)
    have pair : (isHigh (UInt16.ofNat (0xD800 + (v - 0x10000) / 0x400)) &&
        isLow (UInt16.ofNat (0xDC00 + (v - 0x10000) % 0x400))) = true := by
      simp only [isHigh, isLow, high, low, Bool.and_eq_true, decide_eq_true_eq]
      omega
    have whole : 0x10000 + (0xD800 + (v - 0x10000) / 0x400 - 0xD800) * 0x400 +
        (0xDC00 + (v - 0x10000) % 0x400 - 0xDC00) = v := by omega
    rw [List.cons_append, List.cons_append, List.nil_append, scalars, if_pos pair, high, low, whole,
      back]

theorem scalars_utf16 (text : List Char) : scalars (utf16 text) = text := by
  induction text with
  | nil => simp [utf16, scalars]
  | cons c text ih => rw [utf16, List.flatMap_cons, scalars_units, ← utf16, ih]

theorem toNat_ofNat {n : ℕ} (valid : n.isValidChar) : (Char.ofNat n).toNat = n := by
  have scalar : Char.ofNat n = Char.ofNatAux n valid := dif_pos valid
  rw [scalar]
  rfl

/-- The units of what a single unit is read as. -/
theorem units_scalar (u : UInt16) :
    units (scalar u).toNat = if isHigh u || isLow u then [0xFFFD] else [u] := by
  have small := u.toNat_lt
  unfold scalar
  split
  next => decide
  next alone =>
    simp only [Bool.or_eq_true, isHigh, isLow, Bool.and_eq_true, decide_eq_true_eq, not_or,
      not_and_or, not_le] at alone
    have valid : u.toNat.isValidChar := by
      unfold Nat.isValidChar
      omega
    rw [toNat_ofNat valid, units, if_pos small, UInt16.ofNat_toNat]

theorem units_pair {u v : UInt16} (pair : (isHigh u && isLow v) = true) :
    units (Char.ofNat (0x10000 + (u.toNat - 0xD800) * 0x400 + (v.toNat - 0xDC00))).toNat =
      [u, v] := by
  simp only [isHigh, isLow, Bool.and_eq_true, decide_eq_true_eq] at pair
  have valid : (0x10000 + (u.toNat - 0xD800) * 0x400 + (v.toNat - 0xDC00)).isValidChar := by
    unfold Nat.isValidChar
    omega
  have high : 0xD800 + (0x10000 + (u.toNat - 0xD800) * 0x400 + (v.toNat - 0xDC00) - 0x10000) /
      0x400 = u.toNat := by omega
  have low : 0xDC00 + (0x10000 + (u.toNat - 0xD800) * 0x400 + (v.toNat - 0xDC00) - 0x10000) %
      0x400 = v.toNat := by omega
  rw [toNat_ofNat valid, units, if_neg (by omega), high, low, UInt16.ofNat_toNat,
    UInt16.ofNat_toNat]

theorem utf16_cons (c : Char) (text : List Char) :
    utf16 (c :: text) = units c.toNat ++ utf16 text :=
  List.flatMap_cons

/-- A single unit is written as it is read when it is no surrogate. -/
theorem utf16_scalar_cons {u : UInt16} {s : List UInt16} {wellFormed : Bool}
    (ih : utf16 (scalars s) = s ↔ wellFormed = true) :
    utf16 (scalar u :: scalars s) = u :: s ↔ (!(isHigh u || isLow u) && wellFormed) = true := by
  rw [utf16_cons, units_scalar]
  cases surrogate : isHigh u || isLow u with
  | false => simpa using ih
  | true =>
    have other : u ≠ 0xFFFD := by
      rintro rfl
      exact absurd surrogate (by decide)
    simp [other.symm]

/-- Only a lone surrogate is not written as it is read. -/
theorem utf16_scalars (s : List UInt16) : utf16 (scalars s) = s ↔ isWellFormed s = true := by
  fun_induction scalars s with
  | case1 => simp [utf16, isWellFormed]
  | case2 u =>
    have nothing : utf16 (scalars []) = [] ↔ true = true := by simp [utf16, scalars]
    simpa [scalars, isWellFormed] using utf16_scalar_cons (u := u) nothing
  | case3 u v rest pair ih =>
    rw [utf16_cons, units_pair pair, isWellFormed, if_pos pair]
    simpa using ih
  | case4 u v rest single ih =>
    rw [isWellFormed, if_neg single]
    exact utf16_scalar_cons ih

theorem scalar_eq_null {u : UInt16} : scalar u = null ↔ u = 0 := by
  constructor
  · intro same
    have written := units_scalar u
    rw [same] at written
    split at written
    next => exact absurd written (by decide)
    next => exact (List.singleton_inj.mp written).symm
  · rintro rfl
    decide

theorem null_mem_scalars (s : List UInt16) : null ∈ scalars s ↔ 0 ∈ s := by
  fun_induction scalars s with
  | case1 => simp
  | case2 u => simp [scalar_eq_null, eq_comm (a := null), eq_comm (a := (0 : UInt16))]
  | case3 u v rest pair ih =>
    have written := units_pair pair
    -- Neither the character nor a surrogate is null.
    have other : null ≠ Char.ofNat (0x10000 + (u.toNat - 0xD800) * 0x400 + (v.toNat - 0xDC00)) := by
      intro same
      rw [← same] at written
      have one : (units null.toNat).length = 1 := by decide
      rw [written] at one
      cases one
    have high : (0 : UInt16) ≠ u := by
      rintro rfl
      simp [isHigh] at pair
    have low : (0 : UInt16) ≠ v := by
      rintro rfl
      simp [isLow] at pair
    simp [other, high, low, ih]
  | case4 u v rest single ih =>
    rw [List.mem_cons, ih, List.mem_cons (b := u), eq_comm (a := null), scalar_eq_null,
      eq_comm (a := (0 : UInt16))]

end Unicode
