import Mathlib.Algebra.Order.Ring.Nat
import Mathlib.Data.Vector.Basic
import Mathlib.Tactic.Common
import Mathlib.Tactic.Ring

/-!
# Binary formats

A format writes valid values and reads one value off the front of a byte list. What it reads
is valid and is written as the bytes that were read, so no value has two spellings.
-/
abbrev Binary := List UInt8

structure Format (α : Type) where
  Valid : α → Prop
  write : α → Binary
  read : Binary → Option (α × Binary)
  read_write : ∀ a rest, Valid a → read (write a ++ rest) = some (a, rest)
  write_read : ∀ {bytes a rest}, read bytes = some (a, rest) → Valid a ∧ bytes = write a ++ rest

namespace Format

variable {α β : Type}

/-- A value that takes up all of the bytes. -/
def readAll (format : Format α) (bytes : Binary) : Option α :=
  match format.read bytes with
  | some (a, []) => some a
  | _ => none

theorem readAll_eq_some (format : Format α) (bytes : Binary) (a : α) :
    format.readAll bytes = some a ↔ format.Valid a ∧ bytes = format.write a := by
  unfold readAll
  constructor
  · intro accepted
    split at accepted
    next b whole =>
      obtain rfl := Option.some.inj accepted
      simpa using format.write_read whole
    · cases accepted
  · rintro ⟨valid, rfl⟩
    have whole := format.read_write a [] valid
    rw [List.append_nil] at whole
    rw [whole]

theorem write_inj (format : Format α) {a b : α} (first : format.Valid a) (second : format.Valid b)
    (same : format.write a = format.write b) : a = b := by
  have left := (format.readAll_eq_some (format.write a) a).mpr ⟨first, rfl⟩
  have right := (format.readAll_eq_some (format.write a) b).mpr ⟨second, same⟩
  exact Option.some.inj (left.symm.trans right)

/-! ### Products -/

def unit : Format Unit where
  Valid _ := True
  write _ := []
  read bytes := some ((), bytes)
  read_write _ _ _ := rfl
  write_read := by
    intro bytes a rest taken
    simp only [Option.some.injEq, Prod.mk.injEq] at taken
    exact ⟨trivial, taken.2⟩

def pair (left : Format α) (right : Format β) : Format (α × β) where
  Valid ab := left.Valid ab.1 ∧ right.Valid ab.2
  write ab := left.write ab.1 ++ right.write ab.2
  read bytes := do
    let (a, bytes) ← left.read bytes
    let (b, bytes) ← right.read bytes
    some ((a, b), bytes)
  read_write := by
    rintro ⟨a, b⟩ rest ⟨first, second⟩
    simp only [List.append_assoc, left.read_write a _ first, Option.bind_eq_bind, Option.bind_some,
      right.read_write b _ second]
  write_read := by
    rintro bytes ⟨a, b⟩ rest taken
    simp only [Option.bind_eq_bind, Option.bind_eq_some_iff, Prod.exists, Option.some.injEq,
      Prod.mk.injEq] at taken
    obtain ⟨_, middle, first, _, _, second, ⟨rfl, rfl⟩, rfl⟩ := taken
    obtain ⟨valid, rfl⟩ := left.write_read first
    obtain ⟨also, rfl⟩ := right.write_read second
    exact ⟨⟨valid, also⟩, (List.append_assoc ..).symm⟩

/-! ### Numbers -/

def byte : Format UInt8 where
  Valid _ := True
  write b := [b]
  read
    | [] => none
    | b :: rest => some (b, rest)
  read_write _ _ _ := rfl
  write_read := by
    intro bytes a rest taken
    cases bytes with
    | nil => cases taken
    | cons b bytes =>
      simp only [Option.some.injEq, Prod.mk.injEq] at taken
      obtain ⟨rfl, rfl⟩ := taken
      exact ⟨trivial, rfl⟩

/-- Zero or one; other bytes are no truth values. -/
def bool : Format Bool where
  Valid _ := True
  write b := [if b then 1 else 0]
  read
    | 0 :: rest => some (false, rest)
    | 1 :: rest => some (true, rest)
    | _ => none
  read_write b _ _ := by cases b <;> rfl
  write_read := by
    intro bytes a rest taken
    split at taken
    · simp only [Option.some.injEq, Prod.mk.injEq] at taken
      obtain ⟨rfl, rfl⟩ := taken
      exact ⟨trivial, rfl⟩
    · simp only [Option.some.injEq, Prod.mk.injEq] at taken
      obtain ⟨rfl, rfl⟩ := taken
      exact ⟨trivial, rfl⟩
    · cases taken

def writeNat : ℕ → ℕ → Binary
  | 0, _ => []
  | width + 1, n => UInt8.ofNat (n % 256) :: writeNat width (n / 256)

def readNat : ℕ → Binary → Option (ℕ × Binary)
  | 0, bytes => some (0, bytes)
  | _ + 1, [] => none
  | width + 1, b :: bytes => do
    let (n, bytes) ← readNat width bytes
    some (b.toNat + 256 * n, bytes)

theorem readNat_writeNat (width n : ℕ) (rest : Binary) (fits : n < 256 ^ width) :
    readNat width (writeNat width n ++ rest) = some (n, rest) := by
  induction width generalizing n with
  | zero =>
    have zero : n = 0 := by simpa using fits
    rw [zero]
    rfl
  | succ width ih =>
    have higher : n / 256 < 256 ^ width := by
      apply Nat.div_lt_of_lt_mul
      rw [Nat.pow_succ] at fits
      omega
    have low : (UInt8.ofNat (n % 256)).toNat = n % 256 := by
      rw [UInt8.toNat_ofNat']
      omega
    simp only [writeNat, List.cons_append, readNat, ih (n / 256) higher, Option.bind_eq_bind,
      Option.bind_some, low, Nat.mod_add_div]

theorem writeNat_readNat {width n : ℕ} {bytes rest : Binary}
    (taken : readNat width bytes = some (n, rest)) :
    n < 256 ^ width ∧ bytes = writeNat width n ++ rest := by
  induction width generalizing n bytes with
  | zero =>
    simp only [readNat, Option.some.injEq, Prod.mk.injEq] at taken
    obtain ⟨rfl, rfl⟩ := taken
    exact ⟨Nat.one_pos, rfl⟩
  | succ width ih =>
    cases bytes with
    | nil => cases taken
    | cons b bytes =>
      simp only [readNat, Option.bind_eq_bind, Option.bind_eq_some_iff, Prod.exists,
        Option.some.injEq, Prod.mk.injEq] at taken
      obtain ⟨higher, _, tail, rfl, rfl⟩ := taken
      obtain ⟨fits, rfl⟩ := ih tail
      have low : b.toNat < 256 := b.toNat_lt
      have first : (b.toNat + 256 * higher) % 256 = b.toNat := by omega
      have second : (b.toNat + 256 * higher) / 256 = higher := by omega
      refine ⟨?_, ?_⟩
      · rw [Nat.pow_succ]
        omega
      · rw [writeNat, first, second, UInt8.ofNat_toNat, List.cons_append]

/-- Unsigned integers of `width` bytes, least significant byte first. -/
def nat (width : ℕ) : Format ℕ where
  Valid n := n < 256 ^ width
  write := writeNat width
  read := readNat width
  read_write := readNat_writeNat width
  write_read := writeNat_readNat

/-- Two's complement in one byte. -/
def int8 : Format ℤ where
  Valid v := -128 ≤ v ∧ v ≤ 127
  write v := [UInt8.ofNat (v % 256).toNat]
  read
    | [] => none
    | b :: rest => some (if b.toNat < 128 then b.toNat else b.toNat - 256, rest)
  read_write := by
    rintro v rest ⟨low, high⟩
    have stored : (UInt8.ofNat (v % 256).toNat).toNat = (v % 256).toNat := by
      rw [UInt8.toNat_ofNat']
      omega
    simp only [List.cons_append, List.nil_append, stored, Option.some.injEq, Prod.mk.injEq,
      and_true]
    split <;> omega
  write_read := by
    intro bytes v rest taken
    cases bytes with
    | nil => cases taken
    | cons b bytes =>
      simp only [Option.some.injEq, Prod.mk.injEq] at taken
      obtain ⟨rfl, rfl⟩ := taken
      have low : b.toNat < 256 := b.toNat_lt
      split
      next small =>
        refine ⟨by omega, ?_⟩
        have same : ((b.toNat : ℤ) % 256).toNat = b.toNat := by omega
        rw [same, UInt8.ofNat_toNat]
        rfl
      next large =>
        refine ⟨by omega, ?_⟩
        have same : (((b.toNat : ℤ) - 256) % 256).toNat = b.toNat := by omega
        rw [same, UInt8.ofNat_toNat]
        rfl

/-! ### Arrays -/

def readList (format : Format α) : ℕ → Binary → Option (List α × Binary)
  | 0, bytes => some ([], bytes)
  | n + 1, bytes => do
    let (a, bytes) ← format.read bytes
    let (as, bytes) ← readList format n bytes
    some (a :: as, bytes)

theorem readList_write (format : Format α) (as : List α) (rest : Binary)
    (valid : ∀ a ∈ as, format.Valid a) :
    readList format as.length (as.flatMap format.write ++ rest) = some (as, rest) := by
  induction as with
  | nil => rfl
  | cons a as ih =>
    rw [List.forall_mem_cons] at valid
    simp only [List.flatMap_cons, List.append_assoc, List.length_cons, readList,
      format.read_write a _ valid.1, Option.bind_eq_bind, Option.bind_some, ih valid.2]

theorem write_readList (format : Format α) {n : ℕ} {bytes rest : Binary} {as : List α}
    (taken : readList format n bytes = some (as, rest)) :
    as.length = n ∧ (∀ a ∈ as, format.Valid a) ∧ bytes = as.flatMap format.write ++ rest := by
  induction n generalizing bytes as with
  | zero =>
    simp only [readList, Option.some.injEq, Prod.mk.injEq] at taken
    obtain ⟨rfl, rfl⟩ := taken
    simp
  | succ n ih =>
    simp only [readList, Option.bind_eq_bind, Option.bind_eq_some_iff, Prod.exists,
      Option.some.injEq, Prod.mk.injEq] at taken
    obtain ⟨a, middle, first, tail, _, others, rfl, rfl⟩ := taken
    obtain ⟨valid, rfl⟩ := format.write_read first
    obtain ⟨length, all, rfl⟩ := ih others
    refine ⟨by rw [List.length_cons, length], List.forall_mem_cons.mpr ⟨valid, all⟩, ?_⟩
    rw [List.flatMap_cons, List.append_assoc]

/-- `n` values one after the other. -/
def array (n : ℕ) (format : Format α) : Format (Vector α n) where
  Valid v := ∀ a ∈ v.toList, format.Valid a
  write v := v.toList.flatMap format.write
  read bytes :=
    (readList format n bytes).bind fun (as, rest) =>
      if length : as.length = n then some (⟨as.toArray, by simpa using length⟩, rest) else none
  read_write := by
    intro v rest valid
    have taken := readList_write format v.toList rest valid
    rw [Vector.length_toList] at taken
    simp only [taken, Option.bind_some, dif_pos v.length_toList]
    rfl
  write_read := by
    intro bytes v rest taken
    simp only [Option.bind_eq_some_iff, Prod.exists] at taken
    obtain ⟨as, tail, listed, taken⟩ := taken
    obtain ⟨length, valid, rfl⟩ := write_readList format listed
    rw [dif_pos length] at taken
    simp only [Option.some.injEq, Prod.mk.injEq] at taken
    obtain ⟨rfl, rfl⟩ := taken
    exact ⟨valid, rfl⟩

end Format
