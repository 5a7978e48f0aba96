import Mathlib.Data.Int.Log
import Mathlib.Tactic.Common
import Mathlib.Tactic.Linarith
import Mathlib.Tactic.Ring

/-!
# Integers as other languages have them

Words of 64 bits that wrap around, and whole numbers held in a binary floating-point format with
a significand of 53 bits, rounded to the nearest one and in the middle to the even one.
-/
namespace Numbers

variable {n low high : ℤ}

/-- A signed word of 64 bits. -/
def int64 (n : ℤ) : ℤ := Int.bmod n (2 ^ 64)

theorem int64_eq (above : -2 ^ 63 ≤ n) (below : n < 2 ^ 63) : int64 n = n := by
  unfold int64
  apply Int.bmod_eq_of_le <;> omega

/-- The nearest value between two bounds. -/
def clamp (low high n : ℤ) : ℤ := if n < low then low else if high < n then high else n

theorem clamp_eq (ordered : low ≤ high) : clamp low high n = max low (min high n) := by
  unfold clamp
  split
  · omega
  · split <;> omega

/-- The largest whole number below which all of them are representable. -/
def maxSafe : ℤ := 2 ^ 53 - 1

/-- The nearest number with a significand of 53 bits. -/
def double (n : ℤ) : ℤ :=
  let shift := n.natAbs.log2 - 52
  let quotient := n.natAbs / 2 ^ shift
  let remainder := n.natAbs % 2 ^ shift
  let rounded :=
    if 2 ^ shift < 2 * remainder ∨ (2 ^ shift = 2 * remainder ∧ quotient % 2 = 1) then quotient + 1
    else quotient
  n.sign * (rounded * 2 ^ shift : ℕ)

/-- Small numbers are held as they are. -/
theorem double_eq (above : -2 ^ 53 < n) (below : n < 2 ^ 53) : double n = n := by
  have small : n.natAbs < 2 ^ 53 := by omega
  have shift : n.natAbs.log2 - 52 = 0 := by
    by_cases zero : n.natAbs = 0
    · rw [zero]
      rfl
    · have bits := (Nat.log2_lt zero).mpr small
      omega
  unfold double
  rw [shift]
  simp only [pow_zero, Nat.div_one, Nat.mod_one, mul_zero, mul_one]
  rw [if_neg (by omega)]
  exact Int.sign_mul_natAbs n

/-- A large number stays large. -/
theorem le_double (large : 2 ^ 53 ≤ n) : 2 ^ 53 ≤ double n := by
  have size : 2 ^ 53 ≤ n.natAbs := by omega
  have nonzero : n.natAbs ≠ 0 := by omega
  have top : 2 ^ n.natAbs.log2 ≤ n.natAbs := Nat.log2_self_le nonzero
  have bits : 53 ≤ n.natAbs.log2 := (Nat.le_log2 nonzero).mpr size
  have split : 2 ^ n.natAbs.log2 = 2 ^ 52 * 2 ^ (n.natAbs.log2 - 52) := by
    rw [← pow_add]
    congr 1
    omega
  have quotient : 2 ^ 52 ≤ n.natAbs / 2 ^ (n.natAbs.log2 - 52) := by
    rw [Nat.le_div_iff_mul_le (by positivity), ← split]
    exact top
  have unit : 2 ^ 1 ≤ 2 ^ (n.natAbs.log2 - 52) := Nat.pow_le_pow_right (by omega) (by omega)
  have product : ∀ rounded : ℕ, 2 ^ 52 ≤ rounded → 2 ^ 53 ≤ rounded * 2 ^ (n.natAbs.log2 - 52) := by
    intro rounded above
    calc 2 ^ 53 = 2 ^ 52 * 2 ^ 1 := by norm_num
      _ ≤ rounded * 2 ^ (n.natAbs.log2 - 52) := Nat.mul_le_mul above unit
  have positive : n.sign = 1 := Int.sign_eq_one_of_pos (by omega)
  unfold double
  dsimp only
  rw [positive, one_mul]
  split
  · exact_mod_cast product _ (by omega)
  · exact_mod_cast product _ quotient

/-- Rounding does not carry a sum over a bound that is held exactly. -/
theorem double_le_iff {bound : ℤ} (above : -2 ^ 53 < n) (safe : bound ≤ maxSafe) :
    double n ≤ bound ↔ n ≤ bound := by
  unfold maxSafe at safe
  by_cases below : n < 2 ^ 53
  · rw [double_eq above below]
  · have large := le_double (not_lt.mp below)
    constructor <;> omega

theorem le_double_iff {bound : ℤ} (above : -2 ^ 53 < n) (safe : bound ≤ 2 ^ 53) :
    bound ≤ double n ↔ bound ≤ n := by
  by_cases below : n < 2 ^ 53
  · rw [double_eq above below]
  · have large := le_double (not_lt.mp below)
    constructor <;> omega

theorem double_nonneg (nonneg : 0 ≤ n) : 0 ≤ double n := by
  unfold double
  exact mul_nonneg (Int.sign_nonneg_iff.mpr nonneg) (Int.natCast_nonneg _)

/-- The exponent of the greatest numbers of the format. -/
def maxExponent : ℕ := 1023

/-- A number that is too large for the format is refused: from the middle between the greatest one
and the next power of two on. -/
def toDouble (n : ℤ) : Option ℤ :=
  if n.natAbs < 2 ^ (maxExponent + 1) - 2 ^ (maxExponent - 53) then some (double n) else none

/-- The powers of two below the limit are under it by more than its gap. -/
theorem pow_lt_middle {low high : ℕ} (apart : low < high) : 2 ^ high < 2 ^ (high + 1) - 2 ^ low := by
  have gap : 2 ^ low < 2 ^ high := Nat.pow_lt_pow_right Nat.one_lt_two apart
  rw [pow_succ]
  omega

theorem toDouble_pow_isSome {k : ℕ} : (toDouble (2 ^ k)).isSome ↔ k ≤ maxExponent := by
  have size : ((2 : ℤ) ^ k).natAbs = 2 ^ k := by rw [Int.natAbs_pow]; rfl
  unfold toDouble
  rw [size]
  constructor
  · intro fits
    by_contra large
    have above : 2 ^ (maxExponent + 1) ≤ 2 ^ k := Nat.pow_le_pow_right Nat.two_pos (not_le.mp large)
    rw [if_neg (not_lt.mpr ((Nat.sub_le _ _).trans above))] at fits
    cases fits
  · intro small
    have below : 2 ^ k ≤ 2 ^ maxExponent := Nat.pow_le_pow_right Nat.two_pos small
    have room := @pow_lt_middle (maxExponent - 53) maxExponent (by decide)
    rw [if_pos (below.trans_lt room)]
    rfl

end Numbers
